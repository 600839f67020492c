import Prtp.RtcpInterval
import Mathlib.Tactic.Linarith
import Mathlib.Tactic.Ring

set_option autoImplicit false

/-! # The bandwidth that RTCP takes

One report goes out in each interval, so a group of `n` participants sends `n * avg_rtcp_size` octets in the
interval `t` that each of them computes. Whichever way `rtcp_interval_calc` shares the bandwidth between
senders and receivers, what they send together in a second stays below it. -/

namespace Prtp

/-- The interval over which `load` octets may be sent at `bw` octets a second, but not below `floor`. -/
def pacedInterval (load bw floor : ℚ) : ℚ := if load / bw < floor then floor else load / bw

theorem pacedInterval_pos (load bw : ℚ) {floor : ℚ} (hfloor : 0 < floor) :
    0 < pacedInterval load bw floor := by
  unfold pacedInterval
  split
  · exact hfloor
  · exact lt_of_lt_of_le hfloor (not_lt.1 ‹_›)

theorem le_pacedInterval (load bw floor : ℚ) : load / bw ≤ pacedInterval load bw floor := by
  unfold pacedInterval
  split
  · exact le_of_lt ‹_›
  · exact le_refl _

/-- Over its interval a load keeps to the bandwidth, also where the floor stretches the interval. -/
theorem load_div_pacedInterval_le (load : ℚ) {bw floor : ℚ} (hbw : 0 < bw) (hfloor : 0 < floor) :
    load / pacedInterval load bw floor ≤ bw := by
  have hpos := pacedInterval_pos load bw hfloor
  have hle := le_pacedInterval load bw floor
  rw [div_le_iff₀ hbw] at hle
  rw [div_le_iff₀ hpos, mul_comm]
  exact hle

namespace RtcpControlVar

/-- The least interval of `rtcp_interval_calc`. -/
def minTime (cvar : RtcpControlVar) : ℚ := if cvar.initial then 5 / 2 else 5

theorem minTime_pos (cvar : RtcpControlVar) : 0 < cvar.minTime := by
  unfold minTime
  split <;> norm_num

/-- Senders have a part of the bandwidth of their own. -/
def Shared (cvar : RtcpControlVar) : Prop :=
  (cvar.senders.toNat : ℚ) ≤ cvar.members.toNat * (1 / 4)

/-- The rule of a participant that has sent, or has not. -/
abbrev asSender (cvar : RtcpControlVar) (weSent : Bool) : RtcpControlVar :=
  { cvar with weSent := weSent }

end RtcpControlVar

/-! ## The interval before the random factor -/

section

variable {cvar : RtcpControlVar} (hbw : 0 < cvar.rtcpBw)
include hbw

/-- Without a part for the senders, all participants compute the same interval. -/
theorem intervalBase_unshared (hunshared : ¬ cvar.Shared) (hsmall : cvar.members.toNat < 2147483648)
    (weSent : Bool) :
    rtcpIntervalBase (cvar.asSender weSent) =
      some (pacedInterval (cvar.avgRtcpSize * cvar.members.toNat) cvar.rtcpBw cvar.minTime) := by
  rw [RtcpControlVar.Shared] at hunshared
  have hn := toInt_toInt32 cvar.members
  rw [if_pos hsmall] at hn
  rw [rtcpIntervalBase]
  simp only [decide_eq_true_eq, if_neg hunshared, hn,
    if_neg hbw.ne', Int.cast_natCast]
  rfl

/-- A sender's interval, where the senders have their part. -/
theorem intervalBase_sender (hshared : cvar.Shared) (hsmall : cvar.senders.toNat < 2147483648) :
    rtcpIntervalBase (cvar.asSender true) =
      some (pacedInterval (cvar.avgRtcpSize * cvar.senders.toNat) (cvar.rtcpBw * (1 / 4))
        cvar.minTime) := by
  rw [RtcpControlVar.Shared] at hshared
  have hn := toInt_toInt32 cvar.senders
  rw [if_pos hsmall] at hn
  have hpart : cvar.rtcpBw * (1 / 4) ≠ 0 := (mul_pos hbw (by norm_num)).ne'
  rw [rtcpIntervalBase]
  simp only [decide_eq_true_eq, if_pos hshared, if_true, hn,
    if_neg hpart, Int.cast_natCast]
  rfl

/-- A receiver's interval, where the senders have their part. -/
theorem intervalBase_receiver (hshared : cvar.Shared)
    (hsmall : (cvar.members - cvar.senders).toNat < 2147483648) :
    rtcpIntervalBase (cvar.asSender false) =
      some (pacedInterval (cvar.avgRtcpSize * (cvar.members - cvar.senders).toNat)
        (cvar.rtcpBw * (1 - 1 / 4)) cvar.minTime) := by
  rw [RtcpControlVar.Shared] at hshared
  have hn := toInt_toInt32 (cvar.members - cvar.senders)
  rw [if_pos hsmall] at hn
  have hpart : cvar.rtcpBw * (1 - 1 / 4) ≠ 0 := (mul_pos hbw (by norm_num)).ne'
  rw [rtcpIntervalBase]
  simp only [decide_eq_true_eq, if_pos hshared,
    Bool.false_eq_true, if_false, hn, if_neg hpart, Int.cast_natCast]
  rfl

end

/-! ## What all participants send -/

/-- Senders and receivers following the rule, each at its own interval before the random factor, do not
    send more than the RTCP bandwidth in all, whatever the average size of a report. -/
theorem rtcp_rate_le {cvar : RtcpControlVar} (hbw : 0 < cvar.rtcpBw)
    (hsmall : cvar.members.toNat < 2147483648) (hsenders : cvar.senders.toNat ≤ cvar.members.toNat) :
    ∃ ts tr, rtcpIntervalBase (cvar.asSender true) = some ts ∧
      rtcpIntervalBase (cvar.asSender false) = some tr ∧ 0 < ts ∧ 0 < tr ∧
      cvar.senders.toNat * cvar.avgRtcpSize / ts +
        (cvar.members.toNat - cvar.senders.toNat) * cvar.avgRtcpSize / tr ≤ cvar.rtcpBw := by
  have hfloor := cvar.minTime_pos
  by_cases hshared : cvar.Shared
  · have hreceivers : (cvar.members - cvar.senders).toNat =
        cvar.members.toNat - cvar.senders.toNat := UInt32.toNat_sub_of_le _ _ hsenders
    have hts := intervalBase_sender hbw hshared (by omega)
    have htr := intervalBase_receiver hbw hshared (by omega)
    refine ⟨_, _, hts, htr, pacedInterval_pos _ _ hfloor, pacedInterval_pos _ _ hfloor, ?_⟩
    have hs := load_div_pacedInterval_le (cvar.avgRtcpSize * cvar.senders.toNat)
      (mul_pos hbw (by norm_num : (0 : ℚ) < 1 / 4)) hfloor
    have hr := load_div_pacedInterval_le (cvar.avgRtcpSize * (cvar.members - cvar.senders).toNat)
      (mul_pos hbw (by norm_num : (0 : ℚ) < 1 - 1 / 4)) hfloor
    rw [hreceivers, Nat.cast_sub hsenders] at hr ⊢
    rw [mul_comm (cvar.senders.toNat : ℚ), mul_comm (_ - _ : ℚ) cvar.avgRtcpSize]
    linarith
  · have ht := intervalBase_unshared hbw hshared hsmall
    refine ⟨_, _, ht true, ht false, pacedInterval_pos _ _ hfloor, pacedInterval_pos _ _ hfloor, ?_⟩
    have hall := load_div_pacedInterval_le (cvar.avgRtcpSize * cvar.members.toNat) hbw hfloor
    rw [← add_div, ← add_mul, add_sub_cancel, mul_comm (cvar.members.toNat : ℚ)]
    exact hall

/-- Twenty members, some of them senders. -/
def sharing (senders : UInt32) : RtcpControlVar where
  tp := 0
  tn := none
  pmembers := 20
  members := 20
  senders := senders
  rtcpBw := 1000
  avgRtcpSize := 256
  weSent := false
  initial := true
  tnMembers := 20

theorem rtcp_rate_le_three :
    ∃ ts tr, rtcpIntervalBase ((sharing 3).asSender true) = some ts ∧
      rtcpIntervalBase ((sharing 3).asSender false) = some tr ∧ 0 < ts ∧ 0 < tr ∧
      (3 : UInt32).toNat * 256 / ts + ((20 : UInt32).toNat - (3 : UInt32).toNat) * 256 / tr ≤ 1000 :=
  @rtcp_rate_le (sharing 3) (by decide) (by decide) (by decide)

end Prtp
