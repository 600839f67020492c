import Mathlib.Analysis.Complex.Norm
import Mathlib.Analysis.Complex.Trigonometric
import Mathlib.NumberTheory.Zsqrtd.GaussianInt
import Mathlib.Tactic.LinearCombination

set_option autoImplicit false

/-! # Sines of whole numbers in fixed point

The sine of a whole number `x` is a part of `e ^ i` to the power of `x`. A partial sum of the exponential series,
taken over one denominator, is a Gaussian integer, so its powers can be computed, and how far they are
from those of `e ^ i` is known. -/

namespace SineWords

open Complex

/-- `i ^ n`, and `n!` times the terms of the exponential series at `i` up to that power. -/
def expSum : ℕ → GaussianInt × GaussianInt
  | 0 => (⟨1, 0⟩, ⟨1, 0⟩)
  | n + 1 =>
      let (power, sum) := expSum n
      (⟨-power.im, power.re⟩, ⟨(n + 1) * sum.re - power.im, (n + 1) * sum.im + power.re⟩)

/-- The powers of a Gaussian integer. -/
def power (z : GaussianInt) : ℕ → GaussianInt
  | 0 => ⟨1, 0⟩
  | k + 1 =>
      let w := power z k
      ⟨w.re * z.re - w.im * z.im, w.re * z.im + w.im * z.re⟩

/-- With `n` terms of the series behind the first, `t` is found to be `scale * |sin x|`, rounded down. -/
def roundsTo (scale n x t : ℕ) : Bool :=
  let sum := (expSum n).2
  let unit := (n + 1).factorial
  let sine := (power ⟨(n + 1) * sum.re, (n + 1) * sum.im⟩ x).im.natAbs
  let error := (unit + 2) ^ x - unit ^ x
  t * unit ^ x + scale * error ≤ scale * sine && scale * sine + scale * error < (t + 1) * unit ^ x

theorem toComplex_power (z : GaussianInt) (k : ℕ) : (power z k : ℂ) = (z : ℂ) ^ k := by
  induction k with
  | zero => simp [power, GaussianInt.toComplex_def]
  | succ k ih =>
      rw [pow_succ, ← ih]
      simp only [power, GaussianInt.toComplex_def]
      push_cast
      linear_combination (-((power z k).im : ℂ) * z.im) * I_sq

theorem toComplex_expSum_fst (n : ℕ) : ((expSum n).1 : ℂ) = I ^ n := by
  induction n with
  | zero => simp [expSum, GaussianInt.toComplex_def]
  | succ n ih =>
      rw [pow_succ, ← ih]
      simp only [expSum, GaussianInt.toComplex_def]
      push_cast
      linear_combination (-((expSum n).1.im : ℂ)) * I_sq

theorem toComplex_expSum_snd (n : ℕ) :
    ((expSum n).2 : ℂ) = n.factorial * ∑ m ∈ Finset.range (n + 1), I ^ m / m.factorial := by
  induction n with
  | zero => simp [expSum, GaussianInt.toComplex_def]
  | succ n ih =>
      have hpower := toComplex_expSum_fst (n + 1)
      have hne : ((n + 1).factorial : ℂ) ≠ 0 := mod_cast (n + 1).factorial_ne_zero
      rw [Finset.sum_range_succ, mul_add, mul_div_cancel₀ _ hne, ← hpower, Nat.factorial_succ, Nat.cast_mul,
        mul_assoc, ← ih]
      simp only [expSum, GaussianInt.toComplex_def]
      push_cast
      ring

/-- The partial sum is as near to `e ^ i` as the first term it leaves out allows. -/
theorem norm_exp_sub_le (n : ℕ) :
    ‖(n + 1).factorial * exp I - (⟨(n + 1) * (expSum n).2.re, (n + 1) * (expSum n).2.im⟩ : GaussianInt)‖ ≤ 2 := by
  have hfac : (0 : ℝ) < (n + 1).factorial := mod_cast (n + 1).factorial_pos
  have hsum : ((⟨(n + 1) * (expSum n).2.re, (n + 1) * (expSum n).2.im⟩ : GaussianInt) : ℂ)
      = (n + 1).factorial * ∑ m ∈ Finset.range (n + 1), I ^ m / m.factorial := by
    rw [Nat.factorial_succ, Nat.cast_mul, mul_assoc, ← toComplex_expSum_snd]
    simp only [GaussianInt.toComplex_def]
    push_cast
    ring
  have hsmall : ‖I‖ / (n + 1).succ ≤ 1 / 2 := by
    rw [norm_I]
    exact one_div_le_one_div_of_le (by norm_num) (mod_cast Nat.le_add_left 2 n)
  have hnear := exp_bound' hsmall
  rw [norm_I, one_pow] at hnear
  calc
    _ = (n + 1).factorial * ‖exp I - ∑ m ∈ Finset.range (n + 1), I ^ m / m.factorial‖ := by
        rw [hsum, ← mul_sub, Complex.norm_mul, norm_natCast]
    _ ≤ (n + 1).factorial * (1 / (n + 1).factorial * 2) := by gcongr
    _ = 2 := by field_simp

/-- The powers of two numbers near to each other. -/
theorem norm_pow_sub_pow_le {z w : ℂ} {r d : ℝ} (hz : ‖z‖ ≤ r) (hd : ‖z - w‖ ≤ d) (k : ℕ) :
    ‖z ^ k - w ^ k‖ ≤ (r + d) ^ k - r ^ k := by
  have hr : 0 ≤ r := (norm_nonneg z).trans hz
  have hw : ‖w‖ ≤ r + d := by
    calc
      ‖w‖ = ‖z - (z - w)‖ := by rw [sub_sub_cancel]
      _ ≤ r + d := (norm_sub_le z (z - w)).trans (add_le_add hz hd)
  induction k with
  | zero => simp
  | succ k ih =>
      calc
        ‖z ^ (k + 1) - w ^ (k + 1)‖ = ‖z ^ k * (z - w) + (z ^ k - w ^ k) * w‖ := by ring_nf
        _ ≤ ‖z‖ ^ k * ‖z - w‖ + ‖z ^ k - w ^ k‖ * ‖w‖ := by
            refine (norm_add_le _ _).trans (le_of_eq ?_)
            rw [Complex.norm_mul, Complex.norm_mul, Complex.norm_pow]
        _ ≤ r ^ k * d + ((r + d) ^ k - r ^ k) * (r + d) := by
            have hgap := (norm_nonneg _).trans ih
            gcongr
        _ = (r + d) ^ (k + 1) - r ^ (k + 1) := by ring

theorem abs_sin_sub_le (n x : ℕ) :
    |(n + 1).factorial ^ x * Real.sin x
        - (power ⟨(n + 1) * (expSum n).2.re, (n + 1) * (expSum n).2.im⟩ x).im|
      ≤ ((n + 1).factorial + 2 : ℝ) ^ x - (n + 1).factorial ^ x := by
  set q : GaussianInt := ⟨(n + 1) * (expSum n).2.re, (n + 1) * (expSum n).2.im⟩
  have hunit : ‖((n + 1).factorial : ℂ) * exp I‖ ≤ (n + 1).factorial := by
    have hone := norm_exp_ofReal_mul_I 1
    rw [ofReal_one, one_mul] at hone
    rw [Complex.norm_mul, norm_natCast, hone, mul_one]
  have hpow : ((n + 1).factorial * exp I) ^ x = ((n + 1).factorial ^ x : ℝ) * exp (x * I) := by
    rw [mul_pow, ← exp_nat_mul]
    push_cast
    rfl
  have him : (((n + 1).factorial * exp I) ^ x).im = (n + 1).factorial ^ x * Real.sin x := by
    rw [hpow, im_ofReal_mul, ← ofReal_natCast, exp_ofReal_mul_I_im]
  calc
    _ = |(((n + 1).factorial * exp I) ^ x - (q : ℂ) ^ x).im| := by
        rw [← toComplex_power, sub_im, him, GaussianInt.intCast_im]
    _ ≤ _ := (abs_im_le_norm _).trans (norm_pow_sub_pow_le hunit (norm_exp_sub_le n) x)

/-- What the check finds is the sine in fixed point. -/
theorem floor_sin {scale n x t : ℕ} (h : roundsTo scale n x t = true) : ⌊scale * |Real.sin x|⌋₊ = t := by
  simp only [roundsTo, Bool.and_eq_true, decide_eq_true_eq] at h
  obtain ⟨hlow, hhigh⟩ := h
  have hnear := (abs_abs_sub_abs_le _ _).trans (abs_sin_sub_le n x)
  revert hlow hhigh hnear
  generalize (power ⟨(n + 1) * (expSum n).2.re, (n + 1) * (expSum n).2.im⟩ x).im = sine
  have hunit : 0 < (n + 1).factorial := (n + 1).factorial_pos
  generalize (n + 1).factorial = unit at hunit
  intro hlow hhigh hnear
  have hpos : (0 : ℝ) < unit ^ x := by positivity
  have hscale : (0 : ℝ) ≤ scale := scale.cast_nonneg
  have hsine : ((sine.natAbs : ℕ) : ℝ) = |(sine : ℝ)| := by rw [Nat.cast_natAbs, Int.cast_abs]
  have herror : (((unit + 2) ^ x - unit ^ x : ℕ) : ℝ) = (unit + 2) ^ x - unit ^ x := by
    rw [Nat.cast_sub (Nat.pow_le_pow_left (Nat.le_add_right unit 2) x)]
    push_cast
    rfl
  rw [abs_mul, abs_of_pos hpos, ← hsine, ← herror, abs_le] at hnear
  have hbelow := mul_le_mul_of_nonneg_left hnear.1 hscale
  have habove := mul_le_mul_of_nonneg_left hnear.2 hscale
  have hlow' : (t : ℝ) * unit ^ x + scale * ((unit + 2) ^ x - unit ^ x : ℕ) ≤ scale * sine.natAbs :=
    mod_cast hlow
  have hhigh' : (scale : ℝ) * sine.natAbs + scale * ((unit + 2) ^ x - unit ^ x : ℕ)
      < ((t : ℝ) + 1) * unit ^ x := mod_cast hhigh
  rw [Nat.floor_eq_iff (by positivity)]
  constructor
  · refine le_of_mul_le_mul_right ?_ hpos
    linarith
  · refine lt_of_mul_lt_mul_right ?_ hpos.le
    linarith

end SineWords
