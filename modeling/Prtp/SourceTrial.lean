import Prtp.RtpSource

set_option autoImplicit false

/-! # The trial of a new source

A source is on probation until `RTP_CONFIG_MIN_SEQUENTIAL` packets with sequential sequence numbers have
been received from it. `Trial` says what the fields `rtp_update_seq` works on tell about the sequence
numbers received so far; `rtp_update_seq` keeps it and accepts a packet only once the run is there. -/

namespace Prtp

/-- `n` consecutive sequence numbers, from `k` on. -/
def seqRun (k : UInt16) (n : ℕ) : List UInt16 := (List.range n).map fun i => k + UInt16.ofNat i

theorem seqRun_succ (k : UInt16) (n : ℕ) : seqRun k (n + 1) = seqRun k n ++ [k + UInt16.ofNat n] := by
  simp [seqRun, List.range_succ]

/-- Somewhere in the log, `n` consecutive sequence numbers have been received one after the other. -/
def Consecutive (n : ℕ) (log : List UInt16) : Prop := ∃ k, seqRun k n <:+: log

theorem Consecutive.append {n : ℕ} {log : List UInt16} (h : Consecutive n log) (log' : List UInt16) :
    Consecutive n (log ++ log') := by
  obtain ⟨k, hk⟩ := h
  exact ⟨k, hk.trans (List.prefix_append log log').isInfix⟩

/-- The log ends in `n` consecutive sequence numbers, the next of which would be `next`. -/
def EndsIn (n : ℕ) (next : UInt16) (log : List UInt16) : Prop :=
  ∃ k, seqRun k n <:+ log ∧ (n ≠ 0 → next = k + UInt16.ofNat n)

theorem EndsIn.consecutive {n : ℕ} {next : UInt16} {log : List UInt16} (h : EndsIn n next log) :
    Consecutive n log := by
  obtain ⟨k, hk, -⟩ := h
  exact ⟨k, hk.isInfix⟩

/-- Any packet is a run of its own. -/
theorem endsIn_one (seq : UInt16) (log : List UInt16) : EndsIn 1 (seq + 1) (log ++ [seq]) := by
  refine ⟨seq, ?_, fun _ => rfl⟩
  simp [seqRun]

/-- The next packet makes the run longer. -/
theorem EndsIn.succ {n : ℕ} {seq : UInt16} {log : List UInt16} (h : EndsIn n seq log) :
    EndsIn (n + 1) (seq + 1) (log ++ [seq]) := by
  obtain ⟨k, ⟨before, hlog⟩, hnext⟩ := h
  by_cases hn : n = 0
  · subst hn
    exact endsIn_one seq log
  · refine ⟨k, ⟨before, ?_⟩, fun _ => ?_⟩
    · rw [seqRun_succ, ← hnext hn, ← List.append_assoc, hlog]
    · rw [hnext hn, UInt16.ofNat_add, ← UInt16.add_assoc]
      rfl

/-- Where the trial of a source stands, by the sequence numbers received from it: it has been passed,
    or the run that is left to be completed is the end of the log. -/
inductive Trial (log : List UInt16) (src : RtpSource) : Prop
  | passed (h : Consecutive rtpConfigMinSequential.toNat log)
  | running (n : ℕ) (hprobation : src.probation ≠ 0)
      (hleft : src.probation.toNat + n = rtpConfigMinSequential.toNat)
      (hrun : EndsIn n (src.maxSeq + 1) log)

/-- Only two fields of the source matter. -/
theorem Trial.congr {log : List UInt16} {src src' : RtpSource} (h : Trial log src)
    (hprobation : src'.probation = src.probation) (hmaxSeq : src'.maxSeq = src.maxSeq) :
    Trial log src' := by
  cases h with
  | passed h => exact .passed h
  | running n hpos hleft hrun =>
      rw [← hprobation] at hpos hleft
      rw [← hmaxSeq] at hrun
      exact .running n hpos hleft hrun

/-- On first contact the whole run is to be completed. -/
theorem trial_rtpInitSeq (src : RtpSource) (seq : UInt16) (log : List UInt16) :
    Trial log (src.rtpInitSeq seq true) :=
  .running 0 (by decide : rtpConfigMinSequential ≠ 0) rfl
    ⟨0, List.nil_suffix, fun h => absurd rfl h⟩

/-- `seq == max_seq + 1`, without wrapping. -/
theorem eq_succ_of_toNat {seq maxSeq : UInt16} (h : seq.toNat = maxSeq.toNat + 1) :
    seq = maxSeq + 1 := by
  apply UInt16.toNat.inj
  have hlt := seq.toNat_lt
  rw [UInt16.toNat_add, h]
  exact (Nat.mod_eq_of_lt (by omega)).symm

/-- `rtp_update_seq` keeps the trial, and accepts a packet only once the run is complete. -/
theorem Trial.update {log : List UInt16} {src : RtpSource} (h : Trial log src) (seq : UInt16) :
    Trial (log ++ [seq]) (src.rtpUpdateSeq seq).2 ∧
      ((src.rtpUpdateSeq seq).1 = true →
        Consecutive rtpConfigMinSequential.toNat (log ++ [seq])) := by
  cases h with
  | passed h => exact ⟨.passed (h.append _), fun _ => h.append _⟩
  | running n hpos hleft hrun =>
      simp only [RtpSource.rtpUpdateSeq, if_pos hpos]
      split
      · rename_i hnext
        rw [← eq_succ_of_toNat hnext] at hrun
        have hlonger := hrun.succ
        have hpred : (src.probation - 1).toNat + (n + 1) = rtpConfigMinSequential.toNat := by
          have hone : 1 ≤ src.probation.toNat :=
            Nat.one_le_iff_ne_zero.2 fun h0 => hpos (UInt32.toNat.inj h0)
          have hle : (1 : UInt32) ≤ src.probation := UInt32.le_iff_toNat_le.2 hone
          rw [UInt32.toNat_sub_of_le _ _ hle, ← hleft,
            show (1 : UInt32).toNat = 1 from rfl]
          omega
        split
        · rename_i hzero
          -- the last packet of the run
          have hn : n + 1 = rtpConfigMinSequential.toNat := by
            rw [← hpred, hzero]
            exact (Nat.zero_add _).symm
          have hdone : Consecutive rtpConfigMinSequential.toNat (log ++ [seq]) :=
            hn ▸ hlonger.consecutive
          exact ⟨.passed hdone, fun _ => hdone⟩
        · rename_i hmore
          exact ⟨.running (n + 1) hmore hpred hlonger, fun h => (Bool.false_ne_true h).elim⟩
      · exact ⟨.running 1 (by decide : rtpConfigMinSequential - 1 ≠ 0) rfl (endsIn_one seq log),
          fun h => (Bool.false_ne_true h).elim⟩

end Prtp
