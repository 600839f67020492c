import Prtp.JitterOffsets

set_option autoImplicit false

/-! # The range of the jitter

`rtcp_compute_jitter` moves the jitter by a sixteenth of what it is short of the absolute difference of two
successive transit times. The least `int` has no absolute value: where the difference is that one, the
negation overflows, and the average is taken with a negative number. For every other difference all of the
arithmetic stays within its types, whatever the sender writes into its timestamps. -/

namespace Prtp

/-- The timestamp of a packet, and when it arrived. -/
structure PktTimes where
  rtpTs : UInt32
  arrival : UInt32

/-! ## The absolute value -/

theorem absDelta_eq_natAbs {delta : UInt32} (h : delta.toInt32.toInt ≠ -2147483648) :
    absDelta delta = delta.toInt32.toInt.natAbs := by
  have hlow := delta.toInt32.le_toInt
  simp only [absDelta]
  split
  · rename_i hneg
    have hlt : delta.toInt32.toInt < 0 := Int32.lt_iff_toInt_lt.1 hneg
    rw [Int32.toInt_neg, Int.bmod_eq_of_le (by omega) (by omega)]
    omega
  · rename_i hpos
    have hle : ¬ delta.toInt32.toInt < 0 := fun hlt => hpos (Int32.lt_iff_toInt_lt.2 hlt)
    omega

/-- The difference that has no absolute value is half way round. -/
theorem toInt_toInt32_eq_iff (delta : UInt32) :
    delta.toInt32.toInt = -2147483648 ↔ delta = 2147483648 := by
  constructor
  · intro h
    have hleast : delta.toInt32 = (2147483648 : UInt32).toInt32 := Int32.toInt_inj.1 h
    exact congrArg Int32.toUInt32 hleast
  · rintro rfl
    decide

/-! ## One call -/

/-- An average of two numbers that are not negative lies between nothing and the larger one. -/
theorem average_le_max {j d : ℤ} (hj : 0 ≤ j) (hd : 0 ≤ d) :
    0 ≤ (15 * j + d) / 16 ∧ (15 * j + d) / 16 ≤ max j d := by
  have hjmax := le_max_left j d
  have hdmax := le_max_right j d
  omega

namespace RtpSource

/-- `rtcp_compute_jitter` for a packet. -/
def computeJitter (s : RtpSource) (p : PktTimes) : RtpSource := s.rtcpComputeJitter p.rtpTs p.arrival

/-- How much longer the packet took than the last one, modulo `2 ^ 32`. -/
def transitDelta (s : RtpSource) (p : PktTimes) : UInt32 := p.arrival - p.rtpTs - s.transit

/-- The same, as a signed number. -/
def signedDelta (s : RtpSource) (p : PktTimes) : ℤ := (s.transitDelta p).toInt32.toInt

/-- What the double arithmetic comes to, before it is converted back. -/
def jitterSum (s : RtpSource) (p : PktTimes) : ℚ :=
  s.jitter.toNat + 1 / 16 * ((absDelta (s.transitDelta p) : ℚ) - s.jitter.toNat)

/-- The arithmetic of a call stays within its types, and the jitter becomes the average, rounded down. -/
structure JitterKept (s : RtpSource) (p : PktTimes) : Prop where
  negation : s.signedDelta p < 0 → -s.signedDelta p ≤ 2147483647
  conversion : 0 ≤ s.jitterSum p ∧ s.jitterSum p < 4294967296
  average : ((s.computeJitter p).jitter.toNat : ℤ) =
    (15 * (s.jitter.toNat : ℤ) + (s.signedDelta p).natAbs) / 16
  le_max : (s.computeJitter p).jitter.toNat ≤ max s.jitter.toNat (s.signedDelta p).natAbs

theorem jitterSum_eq (s : RtpSource) (p : PktTimes) :
    s.jitterSum p = ((15 * (s.jitter.toNat : ℤ) + absDelta (s.transitDelta p) : ℤ) : ℚ) / 16 := by
  rw [jitterSum]
  push_cast
  ring

/-- A call keeps to its types if and only if the difference has an absolute value. -/
theorem jitterKept_iff (s : RtpSource) (p : PktTimes) :
    s.JitterKept p ↔ s.transitDelta p ≠ 2147483648 := by
  have hleast := toInt_toInt32_eq_iff (s.transitDelta p)
  constructor
  · intro h hfar
    have hneg := h.negation
    rw [signedDelta, hleast.2 hfar] at hneg
    exact absurd (hneg (by decide)) (by decide)
  · intro hne
    have hsigned : s.signedDelta p ≠ -2147483648 := mt hleast.1 hne
    have habs : absDelta (s.transitDelta p) = (s.signedDelta p).natAbs := absDelta_eq_natAbs hsigned
    have hbounds := absDelta_bounds (s.transitDelta p)
    have hjitter := s.jitter.toNat_lt
    have haverage : ((s.computeJitter p).jitter.toNat : ℤ) =
        (15 * (s.jitter.toNat : ℤ) + (s.signedDelta p).natAbs) / 16 := by
      rw [← habs]
      have hval := toNat_nextJitter s.jitter (s.transitDelta p)
      rw [tdiv_sixteen, if_pos (by omega), Int.emod_eq_of_lt (by omega) (by omega)] at hval
      rw [← hval, transitDelta, ← jitter_rtcpComputeJitter]
      rfl
    refine ⟨fun _ => by omega, ?_, haverage, ?_⟩
    · rw [jitterSum_eq]
      constructor
      · exact div_nonneg (Int.cast_nonneg (by omega)) (by norm_num)
      · rw [div_lt_iff₀ (by norm_num)]
        exact_mod_cast (by omega : 15 * (s.jitter.toNat : ℤ) + absDelta (s.transitDelta p) <
          4294967296 * 16)
    · have hmax := (average_le_max (Int.natCast_nonneg s.jitter.toNat)
        (Int.natCast_nonneg (s.signedDelta p).natAbs)).2
      rw [← haverage] at hmax
      exact_mod_cast hmax

/-! ## Any number of calls -/

/-- Whatever the packets say and whenever they arrive, every call keeps to its types and makes the jitter the
    average if and only if no two successive transit times are half way round from each other. -/
theorem jitter_kept_iff (s : RtpSource) (packets : List PktTimes) :
    Runs.Guarded computeJitter JitterKept s packets ↔
      Runs.Guarded computeJitter (fun s p => s.transitDelta p ≠ 2147483648) s packets := by
  constructor
  · exact Runs.Guarded.mono fun s p h => (s.jitterKept_iff p).1 h
  · exact Runs.Guarded.mono fun s p h => (s.jitterKept_iff p).2 h

/-- A source without jitter, whose packet claims to have been sent half a round before it arrived: the jitter
    is no average of 0 and `2 ^ 31`, but close to `2 ^ 32`. -/
theorem half_way_round_overflows :
    ((⟨0, 0, 0, 0, 0, 0, 0, 0, 0, 0⟩ : RtpSource).computeJitter ⟨2147483648, 0⟩).jitter = 4160749568 ∧
      (⟨0, 0, 0, 0, 0, 0, 0, 0, 0, 0⟩ : RtpSource).signedDelta ⟨2147483648, 0⟩ = -2147483648 ∧
      ¬ Runs.Guarded computeJitter JitterKept ⟨0, 0, 0, 0, 0, 0, 0, 0, 0, 0⟩ [⟨2147483648, 0⟩] := by
  refine ⟨by decide +kernel, by decide, fun h => ?_⟩
  exact absurd h.1.average (by decide +kernel)

end RtpSource

end Prtp
