import Prtp.Library.SerialNumbers
import Prtp.RtcpReport
import Prtp.SourceTrial

set_option autoImplicit false

/-! # The sequence numbers of a valid source

`rtp_update_seq` on the packets of a source it has validated. The fields `cycles` and `max_seq` are the
low 32 bits of the highest true sequence number received (`Follows`): one lemma for each of the ways
a packet can be taken, by its distance `udelta` to `max_seq`, and from them what a whole stream does to
the counters of the source. -/

namespace Prtp

/-! ## Sixteen bits of a number -/

theorem ofInt16_toNat (seq : UInt16) : UInt16.ofInt seq.toNat = seq := by
  apply UInt16.toNat.inj
  have h := toNat_ofInt16 seq.toNat
  have hlt := seq.toNat_lt
  omega

theorem ofInt32_sub (t u : ℤ) : UInt32.ofInt (t - u) = UInt32.ofInt t - UInt32.ofInt u := by
  rw [Int.sub_eq_add_neg, UInt32.ofInt_add, UInt32.ofInt_neg, UInt32.sub_eq_add_neg]

theorem ofInt32_toNat (seq : UInt16) : UInt32.ofInt seq.toNat = seq.toUInt32 := by
  apply UInt32.toNat.inj
  have hlt := seq.toNat_lt
  have h := toNat_ofInt32 seq.toNat
  rw [UInt16.toNat_toUInt32]
  omega

/-- `udelta` is the distance from one residue up to the other. -/
theorem toNat_sub_eq_ahead (seq maxSeq : UInt16) :
    ((seq - maxSeq).toNat : ℤ) = Serial.ahead 65536 seq.toNat maxSeq.toNat := by
  have hseq := seq.toNat_lt
  have hmax := maxSeq.toNat_lt
  rw [UInt16.toNat_sub, Serial.ahead]
  omega

/-- Counting another cycle makes up for the wrap of the sequence number. -/
theorem carry_toUInt32 (seq maxSeq : UInt16) :
    (if seq < maxSeq then 65536 else 0) + seq.toUInt32 =
      maxSeq.toUInt32 + (seq - maxSeq).toUInt32 := by
  have hseq := seq.toNat_lt
  have hmax := maxSeq.toNat_lt
  have hcarry : (if (seq.toNat : ℤ) < maxSeq.toNat then 65536 else 0) + (seq.toNat : ℤ) =
      maxSeq.toNat + (seq - maxSeq).toNat := by
    rw [toNat_sub_eq_ahead]
    exact Serial.carry_add (by omega) (by omega) (by omega) (by omega)
  apply UInt32.toNat.inj
  simp only [UInt32.toNat_add, UInt16.toNat_toUInt32]
  by_cases hlt : seq < maxSeq
  · rw [if_pos (by exact_mod_cast UInt16.lt_iff_toNat_lt.1 hlt)] at hcarry
    rw [if_pos hlt, show (65536 : UInt32).toNat = 65536 from rfl]
    omega
  · rw [if_neg (by exact_mod_cast fun h => hlt (UInt16.lt_iff_toNat_lt.2 h))] at hcarry
    rw [if_neg hlt, show (0 : UInt32).toNat = 0 from rfl]
    omega

namespace RtpSource

/-- `udelta` -/
def udelta (s : RtpSource) (seq : UInt16) : ℕ := (seq - s.maxSeq).toNat

/-! ## The ways a packet is taken -/

section
variable {s : RtpSource} {seq : UInt16} (htrial : s.probation ≠ 0)
include htrial

/-- On probation: not the successor of the packet before it. -/
theorem rtpUpdateSeq_restart (hgap : seq.toNat ≠ s.maxSeq.toNat + 1) :
    s.rtpUpdateSeq seq =
      (false, { s with probation := rtpConfigMinSequential - 1, maxSeq := seq }) := by
  unfold rtpUpdateSeq
  rw [if_pos htrial, if_neg hgap]

/-- On probation: the successor, with more to come. -/
theorem rtpUpdateSeq_counted (hnext : seq.toNat = s.maxSeq.toNat + 1)
    (hmore : s.probation - 1 ≠ 0) :
    s.rtpUpdateSeq seq = (false, { s with probation := s.probation - 1, maxSeq := seq }) := by
  unfold rtpUpdateSeq
  rw [if_pos htrial, if_pos hnext]
  exact if_neg hmore

/-- On probation: the successor that ends the trial. -/
theorem rtpUpdateSeq_passed (hnext : seq.toNat = s.maxSeq.toNat + 1) (hlast : s.probation - 1 = 0) :
    s.rtpUpdateSeq seq =
      (true, { s.rtpInitSeq seq false with
        probation := s.probation - 1
        received := (s.rtpInitSeq seq false).received + 1 }) := by
  unfold rtpUpdateSeq
  rw [if_pos htrial, if_pos hnext]
  exact if_pos hlast

end

section
variable {s : RtpSource} {seq : UInt16} (hvalid : s.probation = 0)
include hvalid

/-- In order, with permissible gap. -/
theorem rtpUpdateSeq_ahead (hnear : s.udelta seq < rtpConfigMaxDropout) :
    s.rtpUpdateSeq seq =
      (true, { s with
        cycles := if seq < s.maxSeq then s.cycles + 65536 else s.cycles
        maxSeq := seq
        received := s.received + 1 }) := by
  unfold rtpUpdateSeq
  rw [udelta] at hnear
  rw [if_neg (not_not.2 hvalid), if_pos hnear]
  split <;> rfl

/-- Duplicate or reordered. -/
theorem rtpUpdateSeq_late (hlate : rtpSeqMod - rtpConfigMaxMisorder < s.udelta seq) :
    s.rtpUpdateSeq seq = (true, { s with received := s.received + 1 }) := by
  unfold rtpUpdateSeq
  rw [udelta] at hlate
  have hwindow : rtpConfigMaxDropout ≤ rtpSeqMod - rtpConfigMaxMisorder := by decide
  rw [if_neg (not_not.2 hvalid), if_neg (by omega), if_neg (by omega)]

/-- A very large jump, which no packet before it has announced. -/
theorem rtpUpdateSeq_jump (hfar : rtpConfigMaxDropout ≤ s.udelta seq)
    (hearly : s.udelta seq ≤ rtpSeqMod - rtpConfigMaxMisorder) (hbad : seq.toUInt32 ≠ s.badSeq) :
    s.rtpUpdateSeq seq =
      (false, { s with badSeq := UInt32.ofNat ((seq.toNat + 1) % rtpSeqMod) }) := by
  unfold rtpUpdateSeq
  rw [udelta] at hfar hearly
  rw [if_neg (not_not.2 hvalid), if_neg (by omega), if_pos hearly, if_neg hbad]

/-- The second of two sequential packets after a very large jump: re-sync. -/
theorem rtpUpdateSeq_resync (hfar : rtpConfigMaxDropout ≤ s.udelta seq)
    (hearly : s.udelta seq ≤ rtpSeqMod - rtpConfigMaxMisorder) (hbad : seq.toUInt32 = s.badSeq) :
    s.rtpUpdateSeq seq =
      (true, { s.rtpInitSeq seq true with received := (s.rtpInitSeq seq true).received + 1 }) := by
  unfold rtpUpdateSeq
  rw [udelta] at hfar hearly
  rw [if_neg (not_not.2 hvalid), if_neg (by omega), if_pos hearly, if_pos hbad]

end

/-! ## Streams -/

/-- `rtp_update_seq` on one packet after the other. -/
def updateSeqs (s : RtpSource) (seqs : List UInt16) : RtpSource :=
  Runs.run (fun s seq => (s.rtpUpdateSeq seq).2) s seqs

/-- `rtp_update_seq` accepts every packet of the stream. -/
def AllAccepted (s : RtpSource) (seqs : List UInt16) : Prop :=
  Runs.Guarded (fun s seq => (s.rtpUpdateSeq seq).2) (fun s seq => (s.rtpUpdateSeq seq).1 = true) s seqs

/-- The source has just been validated, by the packet `b`. -/
def JustValidated (s : RtpSource) (b : UInt16) : Prop :=
  ∃ before : RtpSource, before.probation ≠ 0 ∧ before.rtpUpdateSeq b = (true, s)

/-- The packet that ends the trial starts the counters. -/
theorem JustValidated.eq {s : RtpSource} {b : UInt16} (h : s.JustValidated b) :
    s.probation = 0 ∧ s.baseSeq = b.toUInt32 ∧ s.maxSeq = b ∧ s.cycles = 0 ∧ s.received = 1 ∧
      s.receivedPrior = 0 ∧ s.expectedPrior = 0 := by
  obtain ⟨before, hprobation, hupdate⟩ := h
  -- on probation, only the last successor returns TRUE
  by_cases hnext : b.toNat = before.maxSeq.toNat + 1
  · by_cases hlast : before.probation - 1 = 0
    · rw [rtpUpdateSeq_passed hprobation hnext hlast] at hupdate
      obtain ⟨-, rfl⟩ := Prod.mk.inj hupdate
      exact ⟨hlast, rfl, rfl, rfl, rfl, rfl, rfl⟩
    · rw [rtpUpdateSeq_counted hprobation hnext hlast] at hupdate
      cases hupdate
  · rw [rtpUpdateSeq_restart hprobation hnext] at hupdate
    cases hupdate

/-- The source is valid, was validated by the packet with the true number `b`, and `M` is the highest
    true number received from it since. -/
structure Follows (s : RtpSource) (b M : ℤ) : Prop where
  probation : s.probation = 0
  baseSeq : s.baseSeq = UInt32.ofInt b
  maxSeq : s.maxSeq = UInt16.ofInt M
  extendedMax : s.extendedMax = UInt32.ofInt M
  le : b ≤ M

theorem JustValidated.follows {s : RtpSource} {b : UInt16} (h : s.JustValidated b) :
    s.Follows b.toNat b.toNat := by
  obtain ⟨hprobation, hbase, hmax, hcycles, -⟩ := h.eq
  refine ⟨hprobation, hbase.trans (ofInt32_toNat b).symm, hmax.trans (ofInt16_toNat b).symm, ?_, le_rfl⟩
  rw [RtpSource.extendedMax, hcycles, hmax, UInt32.zero_add, ofInt32_toNat]

namespace Follows

variable {s : RtpSource} {b M : ℤ}

/-- `expected` -/
theorem expected (h : s.Follows b M) : s.expected = UInt32.ofInt (M - b + 1) := by
  rw [RtpSource.expected, h.extendedMax, h.baseSeq, UInt32.ofInt_add, ofInt32_sub, UInt32.ofInt_one]

/-- `udelta` tells where a true number lies. -/
theorem udelta_eq (h : s.Follows b M) (t : ℤ) :
    (s.udelta (UInt16.ofInt t) : ℤ) = Serial.ahead 65536 t M := by
  rw [udelta, toNat_sub_eq_ahead, h.maxSeq, toNat_ofInt16, toNat_ofInt16, Serial.ahead_emod]

/-- A packet in order moves the highest number on by its distance. -/
theorem update_ahead (h : s.Follows b M) {seq : UInt16} (hnear : s.udelta seq < rtpConfigMaxDropout) :
    (s.rtpUpdateSeq seq).2.Follows b (M + s.udelta seq) := by
  rw [rtpUpdateSeq_ahead h.probation hnear]
  refine ⟨h.probation, h.baseSeq, ?_, ?_, ?_⟩
  · show seq = _
    rw [UInt16.ofInt_add, ← h.maxSeq, udelta, ofInt16_toNat, UInt16.add_comm, UInt16.sub_add_cancel]
  · -- `cycles` and `max_seq` together grow by `udelta`, over a wrap or not
    have hcycles : (if seq < s.maxSeq then s.cycles + 65536 else s.cycles) =
        s.cycles + if seq < s.maxSeq then 65536 else 0 := by
      split
      · rfl
      · rw [UInt32.add_zero]
    show (if seq < s.maxSeq then s.cycles + 65536 else s.cycles) + seq.toUInt32 = _
    rw [hcycles, UInt32.add_assoc, carry_toUInt32, ← UInt32.add_assoc, UInt32.ofInt_add,
      ← h.extendedMax, udelta, ofInt32_toNat, RtpSource.extendedMax]
  · have hle := h.le
    omega

/-- A duplicate or reordered packet is only counted. -/
theorem update_late (h : s.Follows b M) {seq : UInt16}
    (hlate : rtpSeqMod - rtpConfigMaxMisorder < s.udelta seq) :
    (s.rtpUpdateSeq seq).2.Follows b M := by
  rw [rtpUpdateSeq_late h.probation hlate]
  exact ⟨h.probation, h.baseSeq, h.maxSeq, h.extendedMax, h.le⟩

/-- So is none of a jump. -/
theorem update_jump (h : s.Follows b M) {seq : UInt16} (hfar : rtpConfigMaxDropout ≤ s.udelta seq)
    (hearly : s.udelta seq ≤ rtpSeqMod - rtpConfigMaxMisorder) (hbad : seq.toUInt32 ≠ s.badSeq) :
    (s.rtpUpdateSeq seq).2.Follows b M := by
  rw [rtpUpdateSeq_jump h.probation hfar hearly hbad]
  exact ⟨h.probation, h.baseSeq, h.maxSeq, h.extendedMax, h.le⟩

/-! ## Streams inside the window -/

/-- A packet of the window is accepted and counted, and the highest number is followed. -/
theorem update_window (h : s.Follows b M) {t : ℤ} (hlo : M - rtpConfigMaxMisorder < t)
    (hhi : t < M + rtpConfigMaxDropout) :
    (s.rtpUpdateSeq (UInt16.ofInt t)).1 = true ∧
      (s.rtpUpdateSeq (UInt16.ofInt t)).2.received = s.received + 1 ∧
      (s.rtpUpdateSeq (UInt16.ofInt t)).2.Follows b (max M t) := by
  have hdelta := h.udelta_eq t
  -- the window is narrower than the numbers on the wire
  have hdropout : rtpConfigMaxDropout = 3000 := rfl
  have hmisorder : rtpConfigMaxMisorder = 100 := rfl
  have hmod : rtpSeqMod - rtpConfigMaxMisorder = 65436 := rfl
  rcases le_or_gt M t with hle | hlt
  · rw [Serial.ahead_of_le hle (by omega)] at hdelta
    have hnear : s.udelta (UInt16.ofInt t) < rtpConfigMaxDropout := by omega
    have hM : M + s.udelta (UInt16.ofInt t) = max M t := by
      rw [hdelta, max_eq_right hle]
      omega
    refine ⟨?_, ?_, hM ▸ h.update_ahead hnear⟩
    · rw [rtpUpdateSeq_ahead h.probation hnear]
    · rw [rtpUpdateSeq_ahead h.probation hnear]
  · rw [Serial.ahead_of_lt hlt (by omega)] at hdelta
    have hlate : rtpSeqMod - rtpConfigMaxMisorder < s.udelta (UInt16.ofInt t) := by omega
    refine ⟨?_, ?_, (max_eq_left hlt.le).symm ▸ h.update_late hlate⟩
    · rw [rtpUpdateSeq_late h.probation hlate]
    · rw [rtpUpdateSeq_late h.probation hlate]

/-- A stream in the window is accepted and counted, and its highest number is followed. -/
theorem run_window (h : s.Follows b M) {ts : List ℤ}
    (hts : Serial.InWindow rtpConfigMaxMisorder rtpConfigMaxDropout M ts) :
    s.AllAccepted (ts.map UInt16.ofInt) ∧
      (s.updateSeqs (ts.map UInt16.ofInt)).received = s.received + UInt32.ofNat ts.length ∧
      (s.updateSeqs (ts.map UInt16.ofInt)).Follows b (Serial.highest M ts) := by
  induction ts generalizing s M with
  | nil => exact ⟨trivial, (UInt32.add_zero _).symm, h⟩
  | cons t ts ih =>
      obtain ⟨⟨hlo, hhi⟩, hrest⟩ := hts
      obtain ⟨haccepted, hreceived, hfollows⟩ := h.update_window hlo hhi
      obtain ⟨hall, hcount, hend⟩ := ih hfollows hrest
      refine ⟨⟨haccepted, hall⟩, ?_, hend⟩
      rw [List.length_cons, Nat.add_comm, UInt32.ofNat_add, ← UInt32.add_assoc]
      exact hcount.trans (by rw [hreceived]; rfl)

end Follows

/-- A just validated source, fed a stream whose true numbers stay in the window around the highest
    one: every packet is accepted, `cycles` and `max_seq` are the highest number, `expected` is how far
    that is from the base, and `received` counts the packets, all as far as 32 bits go. -/
theorem window_counted {s : RtpSource} {b : UInt16} (h : s.JustValidated b) {ts : List ℤ}
    (hts : Serial.InWindow rtpConfigMaxMisorder rtpConfigMaxDropout b.toNat ts) :
    s.AllAccepted (ts.map UInt16.ofInt) ∧
      (s.updateSeqs (ts.map UInt16.ofInt)).extendedMax = UInt32.ofInt (Serial.highest b.toNat ts) ∧
      (s.updateSeqs (ts.map UInt16.ofInt)).expected =
        UInt32.ofInt (Serial.highest b.toNat ts - b.toNat + 1) ∧
      (s.updateSeqs (ts.map UInt16.ofInt)).received = UInt32.ofNat (1 + ts.length) := by
  obtain ⟨hall, hcount, hend⟩ := h.follows.run_window hts
  obtain ⟨-, -, -, -, hreceived, -⟩ := h.eq
  refine ⟨hall, hend.extendedMax, hend.expected, ?_⟩
  rw [hcount, hreceived, UInt32.ofNat_add]
  rfl

/-- A source that has been validated shortly before its numbers wrap. -/
def nearWrap : RtpSource :=
  { maxSeq := 65534, cycles := 0, baseSeq := 65534, badSeq := 65537, probation := 0, received := 1
    expectedPrior := 0, receivedPrior := 0, transit := 0, jitter := 0 }

theorem justValidated_nearWrap : nearWrap.JustValidated 65534 :=
  ⟨{ nearWrap with maxSeq := 65533, probation := 1 }, by decide, by decide⟩

/-- Over the wrap: 65536 is lost, 65537 comes twice and 65535 late. -/
theorem window_counted_nearWrap :
    nearWrap.AllAccepted ([65537, 65535, 65537].map UInt16.ofInt) ∧
      (nearWrap.updateSeqs ([65537, 65535, 65537].map UInt16.ofInt)).extendedMax = UInt32.ofInt 65537 ∧
      (nearWrap.updateSeqs ([65537, 65535, 65537].map UInt16.ofInt)).expected = UInt32.ofInt 4 ∧
      (nearWrap.updateSeqs ([65537, 65535, 65537].map UInt16.ofInt)).received = UInt32.ofNat 4 := by
  have hwindow : Serial.InWindow rtpConfigMaxMisorder rtpConfigMaxDropout 65534
      [65537, 65535, 65537] := by
    refine ⟨?_, ?_, ?_, trivial⟩ <;> decide
  exact window_counted justValidated_nearWrap hwindow

/-- The counter itself wraps: after `2^32 - 1` duplicates it is back at 0. -/
theorem received_wraps :
    nearWrap.JustValidated 65534 ∧
      Serial.InWindow rtpConfigMaxMisorder rtpConfigMaxDropout 65534
        (List.replicate 4294967295 65534) ∧
      (nearWrap.updateSeqs ((List.replicate 4294967295 65534).map UInt16.ofInt)).received.toNat ≠
        1 + (List.replicate 4294967295 (65534 : ℤ)).length := by
  have hwindow : Serial.InWindow rtpConfigMaxMisorder rtpConfigMaxDropout 65534
      (List.replicate 4294967295 65534) :=
    Serial.inWindow_replicate (by decide) (by decide) 65534 4294967295
  obtain ⟨-, hcount, -⟩ := justValidated_nearWrap.follows.run_window hwindow
  refine ⟨justValidated_nearWrap, hwindow, ?_⟩
  rw [hcount, List.length_replicate]
  decide

/-! ## Any stream -/

/-- The packet makes `rtp_update_seq` re-sync. -/
def Resyncs (s : RtpSource) (seq : UInt16) : Prop :=
  s.probation = 0 ∧ rtpConfigMaxDropout ≤ s.udelta seq ∧
    s.udelta seq ≤ rtpSeqMod - rtpConfigMaxMisorder ∧ seq.toUInt32 = s.badSeq

instance (s : RtpSource) (seq : UInt16) : Decidable (s.Resyncs seq) :=
  inferInstanceAs (Decidable (_ ∧ _ ∧ _ ∧ _))

/-- The highest true number, moved on by every packet that is taken in order. -/
def moveHighest (M : ℤ) (s : RtpSource) (seq : UInt16) : ℤ :=
  if s.probation = 0 ∧ s.udelta seq < rtpConfigMaxDropout then M + s.udelta seq else M

/-- The highest true number after a stream, counted without wrap-around from `M` on. -/
def highestAfter (M : ℤ) (s : RtpSource) (seqs : List UInt16) : ℤ :=
  Runs.history (fun s seq => (s.rtpUpdateSeq seq).2) moveHighest M s seqs

/-- A packet of a valid source that is no re-sync: in order, late or a jump. -/
theorem place_of_not_resyncs {s : RtpSource} {seq : UInt16} (hvalid : s.probation = 0)
    (hno : ¬ s.Resyncs seq) :
    s.udelta seq < rtpConfigMaxDropout ∨
      rtpSeqMod - rtpConfigMaxMisorder < s.udelta seq ∨
      rtpConfigMaxDropout ≤ s.udelta seq ∧ s.udelta seq ≤ rtpSeqMod - rtpConfigMaxMisorder ∧
        seq.toUInt32 ≠ s.badSeq := by
  by_cases hnear : s.udelta seq < rtpConfigMaxDropout
  · exact .inl hnear
  · by_cases hearly : s.udelta seq ≤ rtpSeqMod - rtpConfigMaxMisorder
    · have hbad : seq.toUInt32 ≠ s.badSeq := fun hbad =>
        hno ⟨hvalid, not_lt.mp hnear, hearly, hbad⟩
      exact .inr (.inr ⟨not_lt.mp hnear, hearly, hbad⟩)
    · exact .inr (.inl (not_le.mp hearly))

theorem moveHighest_ahead {s : RtpSource} {seq : UInt16} (hvalid : s.probation = 0)
    (hnear : s.udelta seq < rtpConfigMaxDropout) (M : ℤ) :
    moveHighest M s seq = M + s.udelta seq :=
  if_pos ⟨hvalid, hnear⟩

theorem moveHighest_far {s : RtpSource} {seq : UInt16} (hfar : rtpConfigMaxDropout ≤ s.udelta seq)
    (M : ℤ) : moveHighest M s seq = M :=
  if_neg fun h => not_lt.mpr hfar h.2

theorem le_of_late {s : RtpSource} {seq : UInt16}
    (hlate : rtpSeqMod - rtpConfigMaxMisorder < s.udelta seq) :
    rtpConfigMaxDropout ≤ s.udelta seq := by
  have hwindow : rtpConfigMaxDropout ≤ rtpSeqMod - rtpConfigMaxMisorder := by decide
  omega

/-- A valid source follows any packet that is no re-sync. -/
theorem Follows.update {s : RtpSource} {b M : ℤ} (h : s.Follows b M) {seq : UInt16}
    (hno : ¬ s.Resyncs seq) : (s.rtpUpdateSeq seq).2.Follows b (moveHighest M s seq) := by
  rcases place_of_not_resyncs h.probation hno with hnear | hlate | ⟨hfar, hearly, hbad⟩
  · rw [moveHighest_ahead h.probation hnear]
    exact h.update_ahead hnear
  · rw [moveHighest_far (le_of_late hlate)]
    exact h.update_late hlate
  · rw [moveHighest_far hfar]
    exact h.update_jump hfar hearly hbad

/-- A source that stays valid, with the base `b` and the highest true number `M`: it expects at least
    one packet, and accepts what is less than `RTP_CONFIG_MAX_DROPOUT` in front of `max_seq`. -/
structure StaysValid (s : RtpSource) (b M : ℤ) : Prop where
  probation : s.probation = 0
  expected : s.expected = UInt32.ofInt (M - b + 1)
  expects : 1 ≤ M - b + 1
  accepts : ∀ seq, s.udelta seq < rtpConfigMaxDropout → (s.rtpUpdateSeq seq).1 = true

theorem Follows.staysValid {s : RtpSource} {b M : ℤ} (h : s.Follows b M) : s.StaysValid b M := by
  refine ⟨h.probation, h.expected, ?_, ?_⟩
  · have hle := h.le
    omega
  · intro seq hnear
    rw [rtpUpdateSeq_ahead h.probation hnear]

/-- A re-sync puts a valid source back on probation. -/
theorem Resyncs.probation {s : RtpSource} {seq : UInt16} (h : s.Resyncs seq) :
    (s.rtpUpdateSeq seq).2.probation = rtpConfigMinSequential := by
  obtain ⟨hvalid, hfar, hearly, hbad⟩ := h
  rw [rtpUpdateSeq_resync hvalid hfar hearly hbad]
  rfl

theorem Follows.staysValid_iff {s : RtpSource} {b M : ℤ} (h : s.Follows b M) (seqs : List UInt16) :
    (∀ pre, pre <+: seqs → (s.updateSeqs pre).StaysValid b (highestAfter M s pre)) ↔
      Runs.Guarded (fun s seq => (s.rtpUpdateSeq seq).2) (fun s seq => ¬ s.Resyncs seq) s seqs := by
  induction seqs generalizing s M with
  | nil =>
      refine ⟨fun _ => trivial, ?_⟩
      rintro - pre hpre
      rw [List.prefix_nil.1 hpre]
      exact h.staysValid
  | cons seq seqs ih =>
      constructor
      · intro hall
        have hno : ¬ s.Resyncs seq := by
          intro hresync
          have hvalid := (hall [seq] ⟨seqs, rfl⟩).probation
          exact absurd (hresync.probation.symm.trans hvalid) (by decide)
        refine ⟨hno, (ih (h.update hno)).1 ?_⟩
        rintro pre ⟨rest, rfl⟩
        exact hall (seq :: pre) ⟨rest, rfl⟩
      · rintro ⟨hno, hrest⟩ pre hpre
        rcases List.prefix_cons_iff.1 hpre with rfl | ⟨pre', rfl, hpre'⟩
        · exact h.staysValid
        · exact (ih (h.update hno)).2 hrest pre' hpre'

/-- A source that has just been validated stays valid along a stream if and only if none of its packets
    makes it re-sync. -/
theorem stays_valid_iff {s : RtpSource} {b : UInt16} (h : s.JustValidated b) (seqs : List UInt16) :
    (∀ pre, pre <+: seqs →
        (s.updateSeqs pre).StaysValid b.toNat (highestAfter b.toNat s pre)) ↔
      Runs.Guarded (fun s seq => (s.rtpUpdateSeq seq).2) (fun s seq => ¬ s.Resyncs seq) s seqs :=
  h.follows.staysValid_iff seqs

/-- No re-sync: a jump that is not followed by the next number. -/
theorem stays_valid_nearWrap :
    (nearWrap.updateSeqs [65535, 4998, 1, 65535]).StaysValid 65534
      (highestAfter 65534 nearWrap [65535, 4998, 1, 65535]) :=
  (stays_valid_iff justValidated_nearWrap [65535, 4998, 1, 65535]).2 (by decide) _ (List.prefix_refl _)

/-- The second of two sequential packets after a jump is accepted, and puts the source back on
    probation: the packet after it is less than `RTP_CONFIG_MAX_DROPOUT` in front, and is dropped. -/
theorem dropped_after_resync :
    nearWrap.JustValidated 65534 ∧
      ((nearWrap.updateSeqs [4998]).rtpUpdateSeq 4999).1 = true ∧
      (nearWrap.updateSeqs [4998, 4999]).probation ≠ 0 ∧
      (nearWrap.updateSeqs [4998, 4999]).udelta 5000 < rtpConfigMaxDropout ∧
      ((nearWrap.updateSeqs [4998, 4999]).rtpUpdateSeq 5000).1 = false := by
  refine ⟨justValidated_nearWrap, ?_, ?_, ?_, ?_⟩ <;> decide

end RtpSource

end Prtp
