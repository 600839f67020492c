import Prtp.RtcpReport
import Mathlib.Algebra.Order.Field.Basic
import Mathlib.Tactic.Linarith
import Mathlib.Tactic.Ring

set_option autoImplicit false

/-! # Times as NTP stamps

`ntp_ts_from_unix_time` rounds the microseconds of a time up by one before it scales them, and
`ntp_ts_to_unix_time` scales them back. In between, the last microsecond of a second is a whole second,
which the fraction of a stamp has no room for; and the seconds come back without their sign. -/

namespace Prtp

namespace Timeval

/-- A time of NTP era 0, with a proper microsecond count. -/
structure Valid (t : Timeval) : Prop where
  usec_nonneg : 0 ≤ t.tvUsec
  usec_lt : t.tvUsec < 1000000
  era_begin : -2208988800 ≤ t.tvSec
  era_end : t.tvSec < 2085978496

instance (t : Timeval) : Decidable t.Valid :=
  decidable_of_iff (0 ≤ t.tvUsec ∧ t.tvUsec < 1000000 ∧ -2208988800 ≤ t.tvSec ∧ t.tvSec < 2085978496)
    ⟨fun ⟨h₁, h₂, h₃, h₄⟩ => ⟨h₁, h₂, h₃, h₄⟩, fun h => ⟨h.usec_nonneg, h.usec_lt, h.era_begin, h.era_end⟩⟩

/-- The time in microseconds. -/
def micros (t : Timeval) : ℤ := t.tvSec * 1000000 + t.tvUsec

end Timeval

/-- Stamps compared by second, then by fraction. -/
def NtpTs.Le (a b : NtpTs) : Prop :=
  a.second < b.second ∨ a.second = b.second ∧ a.fraction ≤ b.fraction

instance (a b : NtpTs) : Decidable (a.Le b) := inferInstanceAs (Decidable (_ ∨ _ ∧ _))

/-! ## A stamp read back -/

theorem toNat_second {t : Timeval} (h : t.Valid) :
    ((ntpTsFromUnixTime t).second.toNat : ℤ) = t.tvSec + 2208988800 := by
  have hbegin := h.era_begin
  have hend := h.era_end
  have hoffset : (ntpUnixOffset.toNat : ℤ) = 2208988800 := rfl
  rw [ntpTsFromUnixTime, toNat_ofInt32, hoffset]
  omega

/-- The fraction counts from the next microsecond, and loses it at the end of a second. -/
theorem toNat_fraction {t : Timeval} (h : t.Valid) :
    ((ntpTsFromUnixTime t).fraction.toNat : ℤ) =
      if t.tvUsec = 999999 then 0 else (t.tvUsec + 1) * 4294967296 / 1000000 := by
  have hnonneg := h.usec_nonneg
  have hlt := h.usec_lt
  have hscaled : ((t.tvUsec : ℚ) + 1) * 4294967296 / 1000000 =
      (((t.tvUsec + 1) * 4294967296 : ℤ) : ℚ) / (1000000 : ℤ) := by push_cast; rfl
  rw [ntpTsFromUnixTime]
  simp only
  rw [hscaled, truncToUInt32_div _ (by decide), toNat_ofInt32, Int.tdiv_eq_ediv_of_nonneg (by omega)]
  split
  · omega
  · omega

/-- The seconds come back modulo `2^32`. -/
theorem tvSec_read {t : Timeval} (h : t.Valid) :
    (ntpTsToUnixTime (ntpTsFromUnixTime t)).tvSec =
      if t.tvSec < 0 then t.tvSec + 4294967296 else t.tvSec := by
  have hbegin := h.era_begin
  have hend := h.era_end
  have hsecond := toNat_second h
  have hoffset : ntpUnixOffset.toNat = 2208988800 := rfl
  have hlt := (ntpTsFromUnixTime t).second.toNat_lt
  rw [ntpTsToUnixTime]
  simp only
  rw [UInt32.toNat_sub, hoffset]
  split
  · omega
  · omega

/-- Scaling a count up and down again, rounding down both times, loses less than one. -/
theorem scaled_back {u : ℤ} (hnonneg : 0 ≤ u) (hlt : u < 999999) :
    u ≤ (u + 1) * 4294967296 / 1000000 * 1000000 / 4294967296 % 4294967296 ∧
      (u + 1) * 4294967296 / 1000000 * 1000000 / 4294967296 % 4294967296 ≤ u + 1 := by
  have hdown := Int.ediv_mul_le ((u + 1) * 4294967296) (show (1000000 : ℤ) ≠ 0 by decide)
  have hup := Int.lt_ediv_add_one_mul_self ((u + 1) * 4294967296) (show (0 : ℤ) < 1000000 by decide)
  generalize (u + 1) * 4294967296 / 1000000 = scaled at hdown hup ⊢
  have hlo : u ≤ scaled * 1000000 / 4294967296 :=
    (Int.le_ediv_iff_mul_le (by decide)).2 (by omega)
  have hhi : scaled * 1000000 / 4294967296 < u + 2 :=
    (Int.ediv_lt_iff_lt_mul (by decide)).2 (by omega)
  rw [Int.emod_eq_of_lt (by omega) (by omega)]
  exact ⟨hlo, by omega⟩

/-- The microseconds come back as they were or one more, but for the last of a second, which comes back
    as 0. -/
theorem tvUsec_read {t : Timeval} (h : t.Valid) :
    ∃ d : ℤ, 0 ≤ d ∧ d ≤ 1 ∧ (ntpTsToUnixTime (ntpTsFromUnixTime t)).tvUsec =
      if t.tvUsec = 999999 then 0 else t.tvUsec + d := by
  have hnonneg := h.usec_nonneg
  have hlt := h.usec_lt
  have hfraction := toNat_fraction h
  have hscaled : ((ntpTsFromUnixTime t).fraction.toNat : ℚ) * 1000000 / 4294967296 =
      ((((ntpTsFromUnixTime t).fraction.toNat : ℤ) * 1000000 : ℤ) : ℚ) / (4294967296 : ℤ) := by
    push_cast; rfl
  rw [ntpTsToUnixTime]
  simp only
  rw [hscaled, truncToUInt32_div _ (by decide), toNat_ofInt32, Int.tdiv_eq_ediv_of_nonneg (by omega),
    hfraction]
  by_cases hlast : t.tvUsec = 999999
  · simp only [if_pos hlast]
    exact ⟨0, by decide, by decide, by decide⟩
  · simp only [if_neg hlast]
    obtain ⟨hlo, hhi⟩ := scaled_back hnonneg (by omega)
    exact ⟨_ - t.tvUsec, by omega, by omega, (add_sub_cancel ..).symm⟩

/-- What a stamp is off by when it is read back. -/
def stampError (t : Timeval) : ℤ :=
  (ntpTsToUnixTime (ntpTsFromUnixTime t)).micros - t.micros

/-- Two errors apart by two microseconds at most are errors of the same kind. -/
theorem stampError_close {a b : Timeval} (ha : a.Valid) (hb : b.Valid) :
    |stampError b - stampError a| ≤ 2 ↔
      (a.tvUsec = 999999 ↔ b.tvUsec = 999999) ∧ (a.tvSec < 0 ↔ b.tvSec < 0) := by
  obtain ⟨da, hda, hda', husecA⟩ := tvUsec_read ha
  obtain ⟨db, hdb, hdb', husecB⟩ := tvUsec_read hb
  have hltA := ha.usec_lt
  have hltB := hb.usec_lt
  have herr : ∀ {t : Timeval} {d : ℤ}, t.Valid →
      (ntpTsToUnixTime (ntpTsFromUnixTime t)).tvUsec = (if t.tvUsec = 999999 then 0 else t.tvUsec + d) →
      stampError t = (if t.tvSec < 0 then 4294967296000000 else 0) +
        if t.tvUsec = 999999 then -999999 else d := by
    intro t d ht husec
    rw [stampError, Timeval.micros, Timeval.micros, tvSec_read ht, husec]
    split_ifs
    all_goals omega
  rw [herr ha husecA, herr hb husecB, abs_le]
  split_ifs
  all_goals
    constructor
    · rintro ⟨hlo, hhi⟩
      omega
    · intro hsame
      omega

/-- Differences are those of the times that are read back. -/
theorem ntpTsDiffInSec_stamps (a b : Timeval) :
    ntpTsDiffInSec (ntpTsFromUnixTime a) (ntpTsFromUnixTime b) =
      ((b.micros - a.micros + (stampError b - stampError a) : ℤ) : ℚ) / 1000000 := by
  simp only [ntpTsDiffInSec, stampError, Timeval.micros]
  push_cast
  ring

/-! ## Order and distance -/

/-- The difference of two times in seconds. -/
def secondsBetween (a b : Timeval) : ℚ := ((b.micros - a.micros : ℤ) : ℚ) / 1000000

/-- The `dlsr` of a SR received at `a` in a report at `b`. -/
def dlsrOf (a b : NtpTs) : UInt32 := truncToUInt32 (ntpTsDiffInSec a b * 65536)

/-- The stamps of `a` and `b` are ordered as these are, and as far apart, but for a microsecond on each; so is
    what the delay is computed from. -/
structure KeepsTime (a b : Timeval) : Prop where
  ordered : (ntpTsFromUnixTime a).Le (ntpTsFromUnixTime b)
  close : |ntpTsDiffInSec (ntpTsFromUnixTime a) (ntpTsFromUnixTime b) - secondsBetween a b| ≤ 2 / 1000000
  delay : ∃ e : ℚ, |e| ≤ 2 / 1000000 ∧
    dlsrOf (ntpTsFromUnixTime a) (ntpTsFromUnixTime b) = truncToUInt32 ((secondsBetween a b + e) * 65536)

theorem close_iff (a b : Timeval) :
    |ntpTsDiffInSec (ntpTsFromUnixTime a) (ntpTsFromUnixTime b) - secondsBetween a b| ≤ 2 / 1000000 ↔
      |stampError b - stampError a| ≤ 2 := by
  have hdiff : ntpTsDiffInSec (ntpTsFromUnixTime a) (ntpTsFromUnixTime b) - secondsBetween a b =
      ((stampError b - stampError a : ℤ) : ℚ) / 1000000 := by
    rw [ntpTsDiffInSec_stamps, secondsBetween]
    push_cast
    ring
  rw [hdiff, abs_div, abs_of_pos (by norm_num : (0 : ℚ) < 1000000),
    div_le_div_iff_of_pos_right (by norm_num), ← Int.cast_abs]
  exact_mod_cast Iff.rfl

/-- Stamps of times in order are in order, unless the later one ends its second. -/
theorem stamps_le {a b : Timeval} (ha : a.Valid) (hb : b.Valid) (hab : a.micros ≤ b.micros)
    (hlast : b.tvUsec = 999999 → a.tvUsec = 999999) :
    (ntpTsFromUnixTime a).Le (ntpTsFromUnixTime b) := by
  have hsecA := toNat_second ha
  have hsecB := toNat_second hb
  have hfracA := toNat_fraction ha
  have hfracB := toNat_fraction hb
  have hltA := ha.usec_lt
  have hltB := hb.usec_lt
  have hnonnegA := ha.usec_nonneg
  have hnonnegB := hb.usec_nonneg
  rw [Timeval.micros, Timeval.micros] at hab
  rw [NtpTs.Le, UInt32.lt_iff_toNat_lt, UInt32.le_iff_toNat_le, ← UInt32.toNat_inj]
  by_cases hsame : a.tvSec = b.tvSec
  · have hfrac : (ntpTsFromUnixTime a).fraction.toNat ≤ (ntpTsFromUnixTime b).fraction.toNat := by
      split_ifs at hfracA hfracB
      all_goals omega
    exact .inr ⟨by omega, hfrac⟩
  · exact .inl (by omega)

/-- The stamps keep order and distance of two times if and only if both times or neither end a second, and
    both or neither lie before 1970. -/
theorem keepsTime_iff {a b : Timeval} (ha : a.Valid) (hb : b.Valid) (hab : a.micros ≤ b.micros) :
    KeepsTime a b ↔ (a.tvUsec = 999999 ↔ b.tvUsec = 999999) ∧ (a.tvSec < 0 ↔ b.tvSec < 0) := by
  rw [← stampError_close ha hb, ← close_iff]
  constructor
  · exact KeepsTime.close
  · intro hclose
    have hkind := (stampError_close ha hb).1 ((close_iff a b).1 hclose)
    refine ⟨stamps_le ha hb hab hkind.1.2, hclose, _, hclose, ?_⟩
    rw [add_sub_cancel]
    rfl

/-- The first microsecond of 1970 and the last but one of that second. -/
theorem keepsTime_second : KeepsTime ⟨0, 0⟩ ⟨0, 999998⟩ :=
  (keepsTime_iff (by decide) (by decide) (by decide)).2 (by decide)

/-- The last microsecond of a second has the fraction 0. -/
theorem last_microsecond_goes_back :
    Timeval.Valid ⟨0, 0⟩ ∧ Timeval.Valid ⟨0, 999999⟩ ∧
      Timeval.micros ⟨0, 0⟩ ≤ Timeval.micros ⟨0, 999999⟩ ∧
      ¬ (ntpTsFromUnixTime ⟨0, 0⟩).Le (ntpTsFromUnixTime ⟨0, 999999⟩) ∧ ¬ KeepsTime ⟨0, 0⟩ ⟨0, 999999⟩ := by
  have hback : ¬ (ntpTsFromUnixTime ⟨0, 0⟩).Le (ntpTsFromUnixTime ⟨0, 999999⟩) := by decide +kernel
  exact ⟨by decide, by decide, by decide, hback, fun h => hback h.ordered⟩

namespace Session

/-- The `dlsr` of a report block is computed from the stamp of the last SR and the present time. -/
theorem dlsr_eq (s : Session) {x : RtpMember}
    (hsr : ¬ (x.lastSrLocalTime.second = 0 ∧ x.lastSrLocalTime.fraction = 0)) :
    (s.dlsr x).1 = dlsrOf x.lastSrLocalTime (ntpTsFromUnixTime (s.env.timeofday 0)) := by
  rw [dlsr, if_neg hsr]
  rfl

/-- The `dlsr` of a report block tells the time since the last SR came in, but for two microseconds, if the
    stamps of both times are kept. -/
theorem dlsr_of_keepsTime (s : Session) {x : RtpMember} {received : Timeval}
    (hstamp : x.lastSrLocalTime = ntpTsFromUnixTime received)
    (hsr : ¬ (x.lastSrLocalTime.second = 0 ∧ x.lastSrLocalTime.fraction = 0))
    (hkeeps : KeepsTime received (s.env.timeofday 0)) :
    ∃ e : ℚ, |e| ≤ 2 / 1000000 ∧
      (s.dlsr x).1 = truncToUInt32 ((secondsBetween received (s.env.timeofday 0) + e) * 65536) := by
  obtain ⟨e, hsmall, hdelay⟩ := hkeeps.delay
  refine ⟨e, hsmall, ?_⟩
  rw [dlsr_eq s hsr, hstamp]
  exact hdelay

end Session

end Prtp
