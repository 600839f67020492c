import Mathlib.Data.Fintype.Card
import Mathlib.Data.Finset.Update
import Mathlib.Tactic.Common

set_option autoImplicit false

/-! # Counting the entries that pass a test

`tally p` is the number of entries of a finite type for which `p` is true. Changing the answer for
one entry moves the number by the difference of the two answers, which is what a counter that is
kept up to date by hand has to follow. -/

variable {ι : Type} [Fintype ι]

/-- The number of entries for which `p` is true. -/
def tally (p : ι → Bool) : Nat := (Finset.univ.filter fun i => p i = true).card

theorem tally_le_card (p : ι → Bool) : tally p ≤ Fintype.card ι :=
  (Finset.card_filter_le _ _).trans (Nat.le_of_eq Finset.card_univ)

/-- Counting along a list that holds every counted entry once. -/
theorem tally_eq_length_filter {p : ι → Bool} {l : List ι} (hnodup : l.Nodup)
    (hall : ∀ i, p i = true → i ∈ l) : tally p = (l.filter p).length := by
  classical
  rw [tally, ← List.toFinset_card_of_nodup (hnodup.filter _)]
  congr 1
  ext i
  simp only [Finset.mem_filter, Finset.mem_univ, true_and, List.mem_toFinset, List.mem_filter]
  exact ⟨fun hi => ⟨hall i hi, hi⟩, fun hi => hi.2⟩

variable [DecidableEq ι]

/-- Changing one answer moves the count by the difference. -/
theorem tally_update (p : ι → Bool) (i : ι) (b : Bool) :
    tally (Function.update p i b) + (p i).toNat = tally p + b.toNat := by
  -- the counted entries other than `i` are the same before and after
  have hsplit : ∀ q : ι → Bool,
      tally q = ((Finset.univ.erase i).filter fun j => q j = true).card + (q i).toNat := by
    intro q
    have hsplit := Finset.filter_insert (fun j => q j = true) i (Finset.univ.erase i)
    rw [Finset.insert_erase (Finset.mem_univ i)] at hsplit
    rw [tally, hsplit]
    split
    · rename_i hq
      rw [Finset.card_insert_of_notMem (by simp), hq]
      rfl
    · rename_i hq
      rw [Bool.not_eq_true] at hq
      rw [hq]
      rfl
  have hrest : ((Finset.univ.erase i).filter fun j => Function.update p i b j = true) =
      (Finset.univ.erase i).filter fun j => p j = true := by
    apply Finset.filter_congr
    intro j hj
    rw [Function.update_of_ne (Finset.ne_of_mem_erase hj)]
  rw [hsplit p, hsplit (Function.update p i b), hrest, Function.update_self]
  omega
