import Prtp.SequenceNumbers

set_option autoImplicit false

/-! # The packet that ends a trial

`rtp_update_seq` after `rtp_init_seq` on first contact. As long as every packet has been refused, the
source waits for the successor of the last one (`Waiting`). The successor is computed in `int`: after
65535 it is 65536, which no packet has, so a run over the wrap is not taken for one. -/

namespace Prtp

theorem seqRun_two (k : UInt16) : seqRun k 2 = [k, k + 1] := by
  simp [seqRun, List.range_succ]

theorem not_consecutive_two_nil : ¬ Consecutive 2 [] := by
  rintro ⟨k, hk⟩
  rw [seqRun_two] at hk
  exact List.cons_ne_nil _ _ (List.infix_nil.1 hk)

/-- A run of two is there after one more number if it was there before, or the number is next. -/
theorem consecutive_two_concat (log : List UInt16) (seq : UInt16) :
    Consecutive 2 (log ++ [seq]) ↔
      Consecutive 2 log ∨ ∃ before last, log = before ++ [last] ∧ seq = last + 1 := by
  constructor
  · rintro ⟨k, hk⟩
    rcases List.infix_concat_iff.1 hk with hend | hin
    · rw [seqRun_two] at hend
      obtain ⟨before, hlog⟩ := hend
      have hsplit : (before ++ [k]) ++ [k + 1] = log ++ [seq] := by
        rw [← hlog, List.append_assoc]
        rfl
      obtain ⟨hbefore, hseq⟩ := List.append_inj' hsplit rfl
      exact .inr ⟨before, k, hbefore.symm, (List.head_eq_of_cons_eq hseq).symm⟩
    · exact .inl ⟨k, hin⟩
  · rintro (h | ⟨before, last, rfl, rfl⟩)
    · exact h.append _
    · refine ⟨last, before, [], ?_⟩
      rw [seqRun_two, List.append_nil, List.append_assoc]
      rfl

theorem not_consecutive_two_singleton (seq : UInt16) : ¬ Consecutive 2 [seq] := by
  intro hdone
  rcases (consecutive_two_concat [] seq).1 hdone with hnil | ⟨before, last, hlog, -⟩
  · exact not_consecutive_two_nil hnil
  · exact List.append_ne_nil_of_right_ne_nil before (List.cons_ne_nil last []) hlog.symm

/-- Only after 65535 do the two successors differ. -/
theorem toNat_eq_succ_iff (seq last : UInt16) :
    seq.toNat = last.toNat + 1 ↔ seq = last + 1 ∧ last ≠ 65535 := by
  constructor
  · intro h
    refine ⟨eq_succ_of_toNat h, ?_⟩
    rintro rfl
    exact absurd seq.toNat_lt (by rw [h]; decide)
  · rintro ⟨rfl, hlast⟩
    have hlt : last.toNat < 65535 := by
      have hle := last.toNat_lt
      have hne : last.toNat ≠ 65535 := fun h => hlast (UInt16.toNat.inj h)
      omega
    rw [UInt16.toNat_add, show (1 : UInt16).toNat = 1 from rfl]
    omega

namespace RtpSource

/-- `rtp_update_seq` refuses every packet of the stream. -/
def AllRefused (s : RtpSource) (seqs : List UInt16) : Prop :=
  Runs.Guarded (fun s seq => (s.rtpUpdateSeq seq).2) (fun s seq => (s.rtpUpdateSeq seq).1 = false) s seqs

/-- The source waits for the second number of a run, `log` being the numbers it was fed. -/
inductive Waiting (s : RtpSource) : List UInt16 → Prop
  | first (hprobation : s.probation = 2) : Waiting s []
  | next (before : List UInt16) (last : UInt16) (hprobation : s.probation = 1)
      (hmaxSeq : s.maxSeq = last) : Waiting s (before ++ [last])

theorem waiting_rtpInitSeq (s : RtpSource) (start : UInt16) : (s.rtpInitSeq start true).Waiting [] :=
  .first rfl

namespace Waiting

variable {s : RtpSource} {log : List UInt16}

theorem probation_ne_zero (h : s.Waiting log) : s.probation ≠ 0 := by
  cases h with
  | first hprobation => rw [hprobation]; decide
  | next before last hprobation hmaxSeq => rw [hprobation]; decide

/-- A packet is accepted if it is the successor, in `int`, of the one before it. -/
theorem accepts_iff (h : s.Waiting log) (seq : UInt16) :
    (s.rtpUpdateSeq seq).1 = true ↔
      ∃ before last, log = before ++ [last] ∧ seq.toNat = last.toNat + 1 := by
  have htrial := h.probation_ne_zero
  cases h with
  | first hprobation =>
      have hrefused : (s.rtpUpdateSeq seq).1 = false := by
        by_cases hnext : seq.toNat = s.maxSeq.toNat + 1
        · rw [rtpUpdateSeq_counted htrial hnext (by rw [hprobation]; decide)]
        · rw [rtpUpdateSeq_restart htrial hnext]
      rw [hrefused]
      refine iff_of_false Bool.false_ne_true ?_
      rintro ⟨before, last, hlog, -⟩
      exact absurd hlog.symm (List.append_ne_nil_of_right_ne_nil before (List.cons_ne_nil last []))
  | next before last hprobation hmaxSeq =>
      by_cases hnext : seq.toNat = s.maxSeq.toNat + 1
      · rw [rtpUpdateSeq_passed htrial hnext (by rw [hprobation]; decide)]
        exact iff_of_true rfl ⟨before, last, rfl, hmaxSeq ▸ hnext⟩
      · rw [rtpUpdateSeq_restart htrial hnext]
        refine iff_of_false Bool.false_ne_true ?_
        rintro ⟨before', last', hlog, hsucc⟩
        obtain ⟨-, hlast⟩ := List.append_inj' hlog rfl
        rw [← List.head_eq_of_cons_eq hlast, ← hmaxSeq] at hsucc
        exact hnext hsucc

/-- A refused packet is the one whose successor is waited for. -/
theorem update (h : s.Waiting log) {seq : UInt16} (hrefused : (s.rtpUpdateSeq seq).1 = false) :
    (s.rtpUpdateSeq seq).2.Waiting (log ++ [seq]) := by
  have htrial := h.probation_ne_zero
  by_cases hnext : seq.toNat = s.maxSeq.toNat + 1
  · by_cases hlast : s.probation - 1 = 0
    · rw [rtpUpdateSeq_passed htrial hnext hlast] at hrefused
      exact absurd hrefused.symm Bool.false_ne_true
    · rw [rtpUpdateSeq_counted htrial hnext hlast]
      cases h with
      | first hprobation => exact .next [] seq (by simp only [hprobation]; rfl) rfl
      | next before last hprobation hmaxSeq => exact absurd (by rw [hprobation]; rfl) hlast
  · rw [rtpUpdateSeq_restart htrial hnext]
    exact .next log seq rfl rfl

/-- A refused stream leaves the source waiting. -/
theorem run (h : s.Waiting log) {seqs : List UInt16} (hrefused : s.AllRefused seqs) :
    (s.updateSeqs seqs).Waiting (log ++ seqs) := by
  induction seqs generalizing s log with
  | nil => rwa [List.append_nil]
  | cons seq seqs ih =>
      obtain ⟨hseq, hrest⟩ := hrefused
      have hend := ih (h.update hseq) hrest
      rwa [List.append_assoc] at hend

end Waiting

/-! ## The first packet that is accepted -/

/-- `seq`, fed after `pre`, is the first number for which `rtp_update_seq` returns TRUE. -/
def FirstAccepted (s : RtpSource) (pre : List UInt16) (seq : UInt16) : Prop :=
  s.AllRefused pre ∧ ((s.updateSeqs pre).rtpUpdateSeq seq).1 = true

/-- `seq`, fed after `pre`, is the first number that completes `RTP_CONFIG_MIN_SEQUENTIAL` numbers
    consecutive modulo `2^16`. -/
def FirstCompletes (pre : List UInt16) (seq : UInt16) : Prop :=
  ¬ Consecutive rtpConfigMinSequential.toNat pre ∧
    Consecutive rtpConfigMinSequential.toNat (pre ++ [seq])

/-- The first number of the stream that is accepted is the first that completes a run, and starts the
    counters. -/
def ValidatesOnTime (s : RtpSource) (seqs : List UInt16) : Prop :=
  ∀ pre seq, pre ++ [seq] <+: seqs →
    (s.FirstAccepted pre seq ↔ FirstCompletes pre seq) ∧
      (s.FirstAccepted pre seq →
        (s.updateSeqs (pre ++ [seq])).probation = 0 ∧
          (s.updateSeqs (pre ++ [seq])).baseSeq = seq.toUInt32 ∧
          (s.updateSeqs (pre ++ [seq])).maxSeq = seq ∧
          (s.updateSeqs (pre ++ [seq])).cycles = 0 ∧
          (s.updateSeqs (pre ++ [seq])).received = 1)

theorem updateSeqs_concat (s : RtpSource) (pre : List UInt16) (seq : UInt16) :
    s.updateSeqs (pre ++ [seq]) = ((s.updateSeqs pre).rtpUpdateSeq seq).2 :=
  Runs.run_append _ s pre [seq]

theorem allRefused_concat (s : RtpSource) (pre : List UInt16) (seq : UInt16) :
    s.AllRefused (pre ++ [seq]) ↔
      s.AllRefused pre ∧ ((s.updateSeqs pre).rtpUpdateSeq seq).1 = false := by
  unfold AllRefused
  rw [Runs.guarded_append]
  exact and_congr_right fun _ => and_iff_left trivial

section
variable {s : RtpSource} (hs : s.Waiting []) {seqs : List UInt16}
include hs

/-- Where the first run does not lie over the wrap, a number is accepted if it completes a run. -/
theorem accepts_iff_consecutive
    (hwrap : ∀ pre, pre ++ [65535, 0] <+: seqs → Consecutive 2 (pre ++ [65535]))
    {pre : List UInt16} {seq : UInt16} (hpre : pre ++ [seq] <+: seqs) (hrefused : s.AllRefused pre)
    (hnone : ¬ Consecutive 2 pre) :
    ((s.updateSeqs pre).rtpUpdateSeq seq).1 = true ↔ Consecutive 2 (pre ++ [seq]) := by
  rw [(hs.run hrefused).accepts_iff, List.nil_append, consecutive_two_concat, or_iff_right hnone]
  constructor
  · rintro ⟨before, last, hlog, hsucc⟩
    exact ⟨before, last, hlog, ((toNat_eq_succ_iff seq last).1 hsucc).1⟩
  · rintro ⟨before, last, rfl, rfl⟩
    refine ⟨before, last, rfl, (toNat_eq_succ_iff _ _).2 ⟨rfl, ?_⟩⟩
    rintro rfl
    rw [List.append_assoc] at hpre
    exact hnone (hwrap before hpre)

/-- There, everything has been refused as long as no run has been completed. -/
theorem allRefused_iff
    (hwrap : ∀ pre, pre ++ [65535, 0] <+: seqs → Consecutive 2 (pre ++ [65535]))
    {pre : List UInt16} (hpre : pre <+: seqs) : s.AllRefused pre ↔ ¬ Consecutive 2 pre := by
  -- from the end: what the last number does depends on all that were refused before it
  induction pre using List.reverseRecOn with
  | nil => exact iff_of_true trivial not_consecutive_two_nil
  | append_singleton pre seq ih =>
      have hearlier := ih ((List.prefix_append pre [seq]).trans hpre)
      rw [allRefused_concat]
      constructor
      · rintro ⟨hrefused, hseq⟩ hdone
        have haccepted :=
          (accepts_iff_consecutive hs hwrap hpre hrefused (hearlier.1 hrefused)).2 hdone
        rw [hseq] at haccepted
        exact Bool.false_ne_true haccepted
      · intro hnone
        have hbefore : ¬ Consecutive 2 pre := fun h => hnone (h.append [seq])
        have hrefused := hearlier.2 hbefore
        refine ⟨hrefused, Bool.eq_false_iff.2 fun haccepted => hnone ?_⟩
        exact (accepts_iff_consecutive hs hwrap hpre hrefused hbefore).1 haccepted

theorem firstAccepted_iff
    (hwrap : ∀ pre, pre ++ [65535, 0] <+: seqs → Consecutive 2 (pre ++ [65535]))
    {pre : List UInt16} {seq : UInt16} (hpre : pre ++ [seq] <+: seqs) :
    s.FirstAccepted pre seq ↔ FirstCompletes pre seq := by
  have hearlier := allRefused_iff hs hwrap ((List.prefix_append pre [seq]).trans hpre)
  unfold FirstAccepted
  constructor
  · rintro ⟨hrefused, haccepted⟩
    have hnone := hearlier.1 hrefused
    exact ⟨hnone, (accepts_iff_consecutive hs hwrap hpre hrefused hnone).1 haccepted⟩
  · rintro ⟨hnone, hdone⟩
    have hrefused := hearlier.2 hnone
    exact ⟨hrefused, (accepts_iff_consecutive hs hwrap hpre hrefused hnone).2 hdone⟩

/-- The packet that is accepted first starts the counters. -/
theorem FirstAccepted.justValidated {pre : List UInt16} {seq : UInt16}
    (h : s.FirstAccepted pre seq) : (s.updateSeqs (pre ++ [seq])).JustValidated seq := by
  obtain ⟨hrefused, haccepted⟩ := h
  refine ⟨s.updateSeqs pre, (hs.run hrefused).probation_ne_zero, ?_⟩
  rw [updateSeqs_concat, ← haccepted]

/-- A run over the wrap is missed. -/
theorem not_firstAccepted_wrap (pre : List UInt16) : ¬ s.FirstAccepted (pre ++ [65535]) 0 := by
  rintro ⟨hrefused, haccepted⟩
  obtain ⟨before, last, hlog, hsucc⟩ := ((hs.run hrefused).accepts_iff 0).1 haccepted
  exact Nat.succ_ne_zero _ hsucc.symm

end

/-- After `rtp_init_seq` on first contact, a stream is validated on time if and only if its first run
    does not lie over the wrap: where 0 follows 65535, a run has been completed before. -/
theorem validatesOnTime_iff (s : RtpSource) (start : UInt16) (seqs : List UInt16) :
    (s.rtpInitSeq start true).ValidatesOnTime seqs ↔
      ∀ pre, pre ++ [65535, 0] <+: seqs →
        Consecutive rtpConfigMinSequential.toNat (pre ++ [65535]) := by
  have hs := waiting_rtpInitSeq s start
  constructor
  · intro h pre hpre
    by_contra hnone
    have hwrap : (pre ++ [65535]) ++ [0] <+: seqs := by rwa [List.append_assoc]
    have hdone : Consecutive 2 ((pre ++ [65535]) ++ [0]) :=
      (consecutive_two_concat _ _).2 (.inr ⟨pre, 65535, rfl, rfl⟩)
    exact not_firstAccepted_wrap hs pre ((h _ 0 hwrap).1.2 ⟨hnone, hdone⟩)
  · intro hwrap pre seq hpre
    refine ⟨firstAccepted_iff hs hwrap hpre, fun h => ?_⟩
    obtain ⟨hprobation, hbase, hmax, hcycles, hreceived, -⟩ :=
      (FirstAccepted.justValidated hs h).eq
    exact ⟨hprobation, hbase, hmax, hcycles, hreceived⟩

/-- A number and its successor are a first run. -/
theorem firstCompletes_pair (seq : UInt16) : FirstCompletes [seq] (seq + 1) := by
  refine ⟨not_consecutive_two_singleton seq, ?_⟩
  exact (consecutive_two_concat [seq] _).2 (.inr ⟨[], seq, rfl, rfl⟩)

/-- 65535 and 0 are the first two consecutive numbers, and 0 is refused. -/
theorem wrap_missed : ¬ (nearWrap.rtpInitSeq 65535 true).ValidatesOnTime [65535, 0] := by
  intro h
  have haccepted := (h [65535] 0 List.prefix_rfl).1.2 (firstCompletes_pair 65535)
  exact not_firstAccepted_wrap (waiting_rtpInitSeq nearWrap 65535) [] haccepted

end RtpSource

end Prtp
