import Prtp.SequenceNumbers

set_option autoImplicit false

/-! # The fraction lost in an interval

A source between two reports: how many packets were to be expected and how many were received, counted
without wrap-around, beside the 32-bit counters that `rtcp_send_report_gen_rr` computes the fraction
from. The shift and the division do what they are meant to as long as the loss is neither negative nor too
large for the shift; otherwise the octet is what the wrapped numbers happen to leave. -/

namespace Prtp

/-! ## Scaling by 256 -/

/-- The low digit of a scaled quotient comes from the remainder. -/
theorem mul_div_mod {k e : ℕ} (hk : 0 < k) (he : 0 < e) (l : ℕ) :
    k * l / e % k = k * (l % e) / e := by
  have hsplit : k * l = k * (l % e) + e * (k * (l / e)) := by
    calc
      k * l = k * (l % e + e * (l / e)) := by rw [Nat.mod_add_div]
      _ = k * (l % e) + e * (k * (l / e)) := by ring
  have hsmall : k * (l % e) / e < k := by
    rw [Nat.div_lt_iff_lt_mul he]
    exact Nat.mul_lt_mul_of_pos_left (Nat.mod_lt l he) hk
  rw [hsplit, Nat.add_mul_div_left _ _ he, Nat.add_mul_mod_self_left, Nat.mod_eq_of_lt hsmall]

/-- `(l << 8) / e`, truncated to an octet. -/
theorem toNat_scaled {e : UInt32} (he : e ≠ 0) (l : UInt32) :
    ((l <<< 8) / e).toUInt8.toNat = 256 * (l.toNat % 16777216 % e.toNat) / e.toNat := by
  have hpos : 0 < e.toNat := Nat.pos_of_ne_zero fun h => he (UInt32.toNat.inj h)
  have hshift : (l <<< 8).toNat = 256 * (l.toNat % 16777216) := by
    rw [UInt32.toNat_shiftLeft, show (8 : UInt32).toNat % 32 = 8 from rfl, Nat.shiftLeft_eq]
    omega
  rw [UInt32.toNat_toUInt8, UInt32.toNat_div, hshift]
  exact mul_div_mod (by decide) hpos _

/-! ## The fraction -/

/-- The fraction lost of `e` expected and `r` received packets, as a multiple of 1/256. -/
def trueFraction (e r : ℕ) : ℕ := if e = 0 ∨ e ≤ r then 0 else 256 * (e - r) / e

/-- The numbers of an interval that the shift and the division cope with: nothing was expected, as many
    were received, fewer and the loss can be shifted, or more and the wrapped difference happens to
    leave nothing. -/
def FractionFits (e r : ℕ) : Prop :=
  e = 0 ∨ r = e ∨ r < e ∧ e - r < 16777216 ∨
    e < r ∧ 256 * (((e : ℤ) - r) % 16777216 % e) < e

instance (e r : ℕ) : Decidable (FractionFits e r) := inferInstanceAs (Decidable (_ ∨ _ ∨ _ ∨ _))

/-- The octet is the true fraction for the numbers that fit, and only for them. -/
theorem scaled_eq_trueFraction_iff {e r : ℕ} (hpos : 0 < e) (he : e < 4294967296) (hr : 0 < r)
    (hr' : r < 4294967296) {l : ℕ} (hl : (l : ℤ) = ((e : ℤ) - r) % 4294967296) :
    256 * (l % 16777216 % e) / e = trueFraction e r ↔ FractionFits e r := by
  have hlow : ((l % 16777216 : ℕ) : ℤ) = ((e : ℤ) - r) % 16777216 := by omega
  unfold trueFraction FractionFits
  rcases lt_trichotomy r e with hlt | heq | hgt
  · -- a loss: the shift must not push any of its bits out
    have hloss : l = e - r := by omega
    rw [if_neg (by omega), hloss]
    by_cases hsmall : e - r < 16777216
    · rw [Nat.mod_eq_of_lt hsmall, Nat.mod_eq_of_lt (by omega)]
      exact iff_of_true rfl (.inr (.inr (.inl ⟨hlt, hsmall⟩)))
    · refine iff_of_false ?_ (by omega)
      have hle : (e - r) % 16777216 % e ≤ (e - r) % 16777216 := Nat.mod_le _ _
      have hroom : 256 * ((e - r) % 16777216 % e) + e ≤ 256 * (e - r) := by omega
      have hdiv := Nat.div_le_div_right (c := e) hroom
      rw [Nat.add_div_right _ hpos] at hdiv
      omega
  · have hnone : l = 0 := by
      rw [heq, sub_self] at hl
      omega
    rw [if_pos (.inr heq.ge), hnone, Nat.zero_mod, Nat.mul_zero, Nat.zero_div]
    exact iff_of_true rfl (.inr (.inl heq))
  · -- a gain: the wrapped difference must leave nothing
    rw [if_pos (.inr hgt.le), Nat.div_eq_zero_iff_lt hpos]
    have hwrapped : ((256 * (l % 16777216 % e) : ℕ) : ℤ) =
        256 * (((e : ℤ) - r) % 16777216 % e) := by
      rw [Nat.cast_mul, Int.natCast_mod, hlow]
      rfl
    rw [← hwrapped]
    omega

namespace RtpSource

/-- What happens to a source: a packet arrives from it, or a report is made about it. -/
inductive Event
  | packet (seq : UInt16)
  | report

/-- The source after it. -/
def eventStep (s : RtpSource) : Event → RtpSource
  | .packet seq => (s.rtpUpdateSeq seq).2
  | .report => s.closeInterval

/-- The packets of a run that do not make `rtp_update_seq` re-sync. -/
def NoResync (s : RtpSource) : Event → Prop
  | .packet seq => ¬ s.Resyncs seq
  | .report => True

instance (s : RtpSource) : (event : Event) → Decidable (s.NoResync event)
  | .packet seq => inferInstanceAs (Decidable (¬ s.Resyncs seq))
  | .report => isTrue trivial

/-- The true numbers of the interval that is open: the highest sequence number received, that when the
    last report was made, and how many packets have been received since. -/
structure Interval where
  highest : ℤ
  reported : ℤ
  received : ℕ

namespace Interval

/-- How many packets were to be expected. -/
def expected (i : Interval) : ℕ := (i.highest - i.reported).toNat

/-- When a source has been validated by the packet `b`, that packet was expected and received. -/
def first (b : UInt16) : Interval := ⟨b.toNat, b.toNat - 1, 1⟩

/-- A packet is counted if it is accepted, and a report closes the interval. -/
def note (i : Interval) (s : RtpSource) : Event → Interval
  | .packet seq =>
      { i with
        highest := moveHighest i.highest s seq
        received := if (s.rtpUpdateSeq seq).1 then i.received + 1 else i.received }
  | .report => { i with reported := i.highest, received := 0 }

end Interval

/-- The counters of a valid source are the true numbers, as far as 32 bits go. -/
structure Counted (b : ℤ) (i : Interval) (s : RtpSource) : Prop where
  follows : s.Follows b i.highest
  reported_le : i.reported ≤ i.highest
  expectedPrior : s.expectedPrior = UInt32.ofInt (i.reported - b + 1)
  received : s.received - s.receivedPrior = UInt32.ofNat i.received
  some_received : i.reported < i.highest → 0 < i.received

theorem JustValidated.counted {s : RtpSource} {b : UInt16} (h : s.JustValidated b) :
    s.Counted b.toNat (.first b) := by
  obtain ⟨-, -, -, -, hreceived, hreceivedPrior, hexpectedPrior⟩ := h.eq
  refine ⟨h.follows, ?_, ?_, ?_, fun _ => Nat.one_pos⟩
  · show (b.toNat : ℤ) - 1 ≤ b.toNat
    omega
  · rw [hexpectedPrior, Interval.first]
    ring_nf
    rfl
  · rw [hreceived, hreceivedPrior, UInt32.sub_zero]
    rfl

namespace Counted

variable {s : RtpSource} {b : ℤ} {i : Interval}

theorem received_succ (h : s.Counted b i) :
    s.received + 1 - s.receivedPrior = UInt32.ofNat (i.received + 1) := by
  rw [UInt32.ofNat_add, ← h.received, UInt32.sub_eq_add_neg, UInt32.sub_eq_add_neg,
    UInt32.add_assoc, UInt32.add_comm 1, ← UInt32.add_assoc]
  rfl

/-- An accepted packet. -/
theorem accepted (h : s.Counted b i) {s' : RtpSource} {seq : UInt16}
    (hfollows : s'.Follows b (moveHighest i.highest s seq))
    (hle : i.highest ≤ moveHighest i.highest s seq) (hseq : s.rtpUpdateSeq seq = (true, s'))
    (hreceived : s'.received = s.received + 1) (hreceivedPrior : s'.receivedPrior = s.receivedPrior)
    (hexpectedPrior : s'.expectedPrior = s.expectedPrior) :
    s'.Counted b (i.note s (.packet seq)) := by
  have hcount : (i.note s (.packet seq)).received = i.received + 1 := by
    rw [Interval.note, hseq]
    rfl
  refine ⟨hfollows, h.reported_le.trans hle, ?_, ?_, ?_⟩
  · rw [hexpectedPrior]
    exact h.expectedPrior
  · rw [hreceived, hreceivedPrior, hcount]
    exact h.received_succ
  · intro _
    rw [hcount]
    exact Nat.succ_pos _

/-- A packet that does not make the source re-sync. -/
theorem packet (h : s.Counted b i) {seq : UInt16} (hno : ¬ s.Resyncs seq) :
    (s.rtpUpdateSeq seq).2.Counted b (i.note s (.packet seq)) := by
  have hvalid := h.follows.probation
  have hfollows := h.follows.update hno
  rcases place_of_not_resyncs hvalid hno with hnear | hlate | ⟨hfar, hearly, hbad⟩
  · have hhighest := moveHighest_ahead hvalid hnear i.highest
    have hseq := rtpUpdateSeq_ahead hvalid hnear
    rw [hseq] at hfollows ⊢
    exact h.accepted hfollows (by omega) hseq rfl rfl rfl
  · have hhighest := moveHighest_far (le_of_late hlate) i.highest
    have hseq := rtpUpdateSeq_late hvalid hlate
    rw [hseq] at hfollows ⊢
    exact h.accepted hfollows (by omega) hseq rfl rfl rfl
  · -- a refused jump changes nothing that is counted
    have hhighest := moveHighest_far hfar i.highest
    have hseq := rtpUpdateSeq_jump hvalid hfar hearly hbad
    have hnote : i.note s (.packet seq) = i := by
      rw [Interval.note, hhighest, hseq]
      rfl
    rw [hseq] at hfollows ⊢
    rw [hhighest] at hfollows
    rw [hnote]
    exact ⟨hfollows, h.reported_le, h.expectedPrior, h.received, h.some_received⟩

/-- A report. -/
theorem report (h : s.Counted b i) : s.closeInterval.Counted b (i.note s .report) := by
  obtain ⟨hprobation, hbase, hmax, hext, hle⟩ := h.follows
  refine ⟨⟨hprobation, hbase, hmax, hext, hle⟩, le_rfl, h.follows.expected, ?_, ?_⟩
  · show s.received - s.received = 0
    exact UInt32.sub_self _
  · intro hlt
    exact absurd hlt (lt_irrefl _)

/-- `expected_interval` -/
theorem expectedInterval (h : s.Counted b i) :
    s.expected - s.expectedPrior = UInt32.ofInt (i.highest - i.reported) := by
  rw [h.follows.expected, h.expectedPrior, ← ofInt32_sub]
  congr 1
  ring

/-- `lost_interval` -/
theorem lostInterval (h : s.Counted b i) :
    s.expected - s.expectedPrior - (s.received - s.receivedPrior) =
      UInt32.ofInt (i.highest - i.reported - i.received) := by
  have hreceived : UInt32.ofNat i.received = UInt32.ofInt i.received := by
    apply UInt32.toNat.inj
    have hint := toNat_ofInt32 i.received
    rw [UInt32.toNat_ofNat']
    omega
  rw [h.expectedInterval, h.received, hreceived, ← ofInt32_sub]

/-- The fraction in a report is the true one exactly where the numbers of the interval fit, as long as
    they are less than `2^32`. -/
theorem fractionLost_iff (h : s.Counted b i) (he : i.expected < 4294967296)
    (hr : i.received < 4294967296) :
    s.fractionLost.toNat = trueFraction i.expected i.received ↔
      FractionFits i.expected i.received := by
  have hle := h.reported_le
  have hexpected : (i.expected : ℤ) = i.highest - i.reported := by
    rw [Interval.expected]
    omega
  have hinterval := toNat_ofInt32 (i.highest - i.reported)
  have hlost := toNat_ofInt32 (i.highest - i.reported - i.received)
  rw [← h.expectedInterval, ← hexpected] at hinterval
  rw [← h.lostInterval, ← hexpected] at hlost
  have hfraction : s.fractionLost =
      if s.expected - s.expectedPrior = 0 ∨
          s.expected - s.expectedPrior - (s.received - s.receivedPrior) = 0 then (0 : UInt8)
      else ((s.expected - s.expectedPrior - (s.received - s.receivedPrior)) <<< 8 /
        (s.expected - s.expectedPrior)).toUInt8 := rfl
  rw [hfraction]
  generalize s.expected - s.expectedPrior - (s.received - s.receivedPrior) = l at hlost ⊢
  generalize s.expected - s.expectedPrior = e at hinterval ⊢
  have hnat : e.toNat = i.expected := by omega
  split_ifs with hzero
  · -- the code's own cases: nothing was expected, or nothing is missing
    have hnone : i.expected = 0 ∨ i.received = i.expected := by
      rcases hzero with rfl | rfl
      · exact .inl hnat.symm
      · have hl : ((0 : UInt32).toNat : ℤ) = 0 := rfl
        omega
    rcases hnone with hnone | hnone
    · exact iff_of_true (by rw [trueFraction, if_pos (.inl hnone)]; rfl) (.inl hnone)
    · exact iff_of_true (by rw [trueFraction, if_pos (.inr hnone.ge)]; rfl) (.inr (.inl hnone))
  · rw [not_or] at hzero
    have hpos : 0 < i.expected := Nat.pos_of_ne_zero fun hnothing =>
      hzero.1 (UInt32.toNat.inj (hnat.trans hnothing))
    have hreceived : 0 < i.received := h.some_received (by omega)
    rw [toNat_scaled hzero.1, hnat]
    exact scaled_eq_trueFraction_iff hpos he hreceived hr hlost

end Counted

/-- A run of packets and reports, none of which makes the source re-sync. -/
theorem JustValidated.counted_run {s : RtpSource} {b : UInt16} (h : s.JustValidated b)
    {events : List Event} (hg : Runs.Guarded eventStep NoResync s events) :
    (Runs.run eventStep s events).Counted b.toNat
      (Runs.history eventStep Interval.note (.first b) s events) := by
  refine Runs.Guarded.history ?_ hg h.counted
  intro i s event hcounted hno
  cases event with
  | packet seq => exact hcounted.packet hno
  | report => exact hcounted.report

/-- In every run of packets and reports after a source has been validated, as long as no packet makes it
    re-sync, a report has the true fraction lost exactly if the numbers of its interval, less than
    `2^32` each, are such that the shift does not lose bits of a loss, nor the wrapped difference leave
    anything of a gain. -/
theorem fraction_reported_iff {s : RtpSource} {b : UInt16} (h : s.JustValidated b)
    {events : List Event} (hg : Runs.Guarded eventStep NoResync s events)
    (he : (Runs.history eventStep Interval.note (.first b) s events).expected < 4294967296)
    (hr : (Runs.history eventStep Interval.note (.first b) s events).received < 4294967296) :
    (Runs.run eventStep s events).fractionLost.toNat =
        trueFraction (Runs.history eventStep Interval.note (.first b) s events).expected
          (Runs.history eventStep Interval.note (.first b) s events).received ↔
      FractionFits (Runs.history eventStep Interval.note (.first b) s events).expected
        (Runs.history eventStep Interval.note (.first b) s events).received :=
  (h.counted_run hg).fractionLost_iff he hr

/-- A report, and three packets lost over the wrap in the interval after it. -/
theorem fraction_reported_nearWrap :
    (Runs.run eventStep nearWrap [.packet 65535, .report, .packet 3]).fractionLost.toNat =
        trueFraction 4 1 ↔ FractionFits 4 1 :=
  fraction_reported_iff justValidated_nearWrap (by decide) (by decide) (by decide)

/-- Two packets were expected, and with a duplicate three received: the octet says one half. -/
theorem gain_reported_as_loss :
    nearWrap.JustValidated 65534 ∧
      nearWrap.AllAccepted [65535, 65535] ∧
      trueFraction
        (Runs.history eventStep Interval.note (.first 65534) nearWrap
          [.packet 65535, .packet 65535]).expected
        (Runs.history eventStep Interval.note (.first 65534) nearWrap
          [.packet 65535, .packet 65535]).received = 0 ∧
      (Runs.run eventStep nearWrap [.packet 65535, .packet 65535]).fractionLost = 128 :=
  ⟨justValidated_nearWrap, ⟨by decide, by decide, trivial⟩, by decide, by decide⟩

end RtpSource

end Prtp
