import Prtp.Library.Runs
import Mathlib.Tactic.Linarith
import Mathlib.Tactic.Ring

set_option autoImplicit false

/-! # Serial numbers

A sender counts without end, and puts the residue of its count modulo `m` on the wire. A receiver that
keeps the residue of the highest count so far tells from `ahead`, the distance going up modulo `m`,
whether a number is in front of the highest or behind it, as long as the stream stays in a window
around its highest number (`InWindow`) that is no wider than `m`. -/

namespace Serial

/-- How far `r` is in front of `s`, going up modulo `m`. -/
def ahead (m r s : ℤ) : ℤ := (r - s) % m

/-- The residues are enough. -/
theorem ahead_emod (m t M : ℤ) : ahead m (t % m) (M % m) = ahead m t M := (Int.sub_emod t M m).symm

/-- A number in front of the highest is found at its distance. -/
theorem ahead_of_le {m t M : ℤ} (hle : M ≤ t) (hlt : t < M + m) : ahead m t M = t - M :=
  Int.emod_eq_of_lt (by linarith) (by linarith)

/-- A number behind the highest is found nearly a full turn in front of it. -/
theorem ahead_of_lt {m t M : ℤ} (hlt : t < M) (hle : M ≤ t + m) : ahead m t M = t - M + m := by
  rw [ahead, ← Int.add_emod_right]
  exact Int.emod_eq_of_lt (by linarith) (by linarith)

/-- Going up by the distance leads from one residue to the other, with a carry if that passes `m`. -/
theorem carry_add {m r s : ℤ} (hr : 0 ≤ r) (hrm : r < m) (hs : 0 ≤ s) (hsm : s < m) :
    (if r < s then m else 0) + r = s + ahead m r s := by
  split
  · rename_i hlt
    rw [ahead_of_lt hlt (by linarith)]
    ring
  · rename_i hge
    rw [ahead_of_le (not_lt.mp hge) (by linarith)]
    ring

/-! ## Streams of true numbers -/

/-- The highest of `M` and the numbers of a stream. -/
def highest (M : ℤ) (ts : List ℤ) : ℤ := Runs.run max M ts

/-- Every number of the stream is less than `behind` under the highest before it and less than
    `front` over it. -/
def InWindow (behind front : ℤ) (M : ℤ) (ts : List ℤ) : Prop :=
  Runs.Guarded max (fun M t => M - behind < t ∧ t < M + front) M ts

/-- A stream that repeats its highest number stays in any window. -/
theorem inWindow_replicate {behind front : ℤ} (hbehind : 0 < behind) (hfront : 0 < front) (M : ℤ)
    (n : ℕ) : InWindow behind front M (List.replicate n M) := by
  induction n with
  | zero => trivial
  | succ n ih => exact ⟨⟨by linarith, by linarith⟩, by rwa [max_self]⟩

end Serial
