import Mathlib.Data.List.Range
import Mathlib.Tactic.Common

set_option autoImplicit false

/-! # Hashing in blocks

A hash goes over its input in blocks of `w` symbols and folds each into a chaining value. Here the input comes
symbol by symbol: what does not fill a block yet waits in a tail. In which pieces it came does not show in the
end, and a whole number of blocks comes to the fold over them. -/

variable {α σ : Type}

/-- A hash under way: the value of the blocks so far, and the symbols behind them. -/
@[ext] structure BlockHash (σ α : Type) where
  chain : σ
  tail : List α

namespace BlockHash

variable (compress : σ → List α → σ) (w : ℕ)

/-- One more symbol. -/
def push (h : BlockHash σ α) (x : α) : BlockHash σ α :=
  if h.tail.length + 1 = w then ⟨compress h.chain (h.tail ++ [x]), []⟩ else ⟨h.chain, h.tail ++ [x]⟩

/-- More symbols, one after the other. -/
def absorb (h : BlockHash σ α) (xs : List α) : BlockHash σ α := xs.foldl (push compress w) h

/-- The whole blocks of an input. -/
def blocks (xs : List α) : List (List α) :=
  (List.range (xs.length / w)).map fun i => (xs.drop (w * i)).take w

variable {compress w}

@[simp] theorem absorb_nil (h : BlockHash σ α) : h.absorb compress w [] = h := rfl

theorem absorb_append (h : BlockHash σ α) (xs ys : List α) :
    h.absorb compress w (xs ++ ys) = (h.absorb compress w xs).absorb compress w ys :=
  List.foldl_append

/-! ## Less than a block, and a block -/

theorem absorb_of_lt (h : BlockHash σ α) (xs : List α) (hlt : h.tail.length + xs.length < w) :
    h.absorb compress w xs = ⟨h.chain, h.tail ++ xs⟩ := by
  induction xs generalizing h with
  | nil => rw [absorb_nil, List.append_nil]
  | cons x xs ih =>
      rw [List.length_cons] at hlt
      have hpush : h.push compress w x = ⟨h.chain, h.tail ++ [x]⟩ := if_neg (by omega)
      show (h.push compress w x).absorb compress w xs = _
      rw [hpush, ih _ (by simp only [List.length_append, List.length_singleton]; omega),
        List.append_assoc, List.singleton_append]

theorem absorb_of_eq (h : BlockHash σ α) {xs : List α} (hlt : h.tail.length < w)
    (heq : h.tail.length + xs.length = w) :
    h.absorb compress w xs = ⟨compress h.chain (h.tail ++ xs), []⟩ := by
  rcases List.eq_nil_or_concat xs with rfl | ⟨ys, y, rfl⟩
  · simp only [List.length_nil] at heq
    omega
  · rw [List.concat_eq_append, List.length_append, List.length_singleton] at heq
    rw [List.concat_eq_append, absorb_append, absorb_of_lt h ys (by omega), ← List.append_assoc]
    exact if_pos (by simp only [List.length_append]; omega)

/-- A block is compressed as it is, when none is under way. -/
theorem absorb_block (s : σ) (xs : List α) (hw : 0 < w) (hlen : xs.length = w) :
    absorb compress w ⟨s, []⟩ xs = ⟨compress s xs, []⟩ :=
  absorb_of_eq ⟨s, []⟩ hw ((Nat.zero_add _).trans hlen)

/-! ## The tail -/

theorem tail_push_lt (h : BlockHash σ α) (x : α) (hlt : h.tail.length < w) :
    (h.push compress w x).tail.length < w := by
  unfold push
  split
  · exact Nat.zero_lt_of_lt hlt
  · next hne =>
      simp only [List.length_append, List.length_singleton]
      omega

theorem tail_absorb_lt (h : BlockHash σ α) (xs : List α) (hlt : h.tail.length < w) :
    (h.absorb compress w xs).tail.length < w := by
  induction xs generalizing h with
  | nil => exact hlt
  | cons x xs ih => exact ih _ (tail_push_lt h x hlt)

theorem length_tail_push (h : BlockHash σ α) (x : α) :
    (h.push compress w x).tail.length % w = (h.tail.length + 1) % w := by
  unfold push
  split
  · next heq => rw [heq, Nat.mod_self, List.length_nil, Nat.zero_mod]
  · rw [List.length_append, List.length_singleton]

variable (compress) in
/-- What waits is what is left over of all that came. -/
theorem length_tail_absorb (h : BlockHash σ α) (xs : List α) (hlt : h.tail.length < w) :
    (h.absorb compress w xs).tail.length = (h.tail.length + xs.length) % w := by
  rw [← Nat.mod_eq_of_lt (tail_absorb_lt h xs hlt)]
  clear hlt
  induction xs generalizing h with
  | nil => rfl
  | cons x xs ih =>
      show ((h.push compress w x).absorb compress w xs).tail.length % w = _
      rw [ih, Nat.add_mod, length_tail_push, ← Nat.add_mod, List.length_cons]
      congr 1
      omega

/-! ## A whole number of blocks -/

theorem blocks_of_lt {xs : List α} (hlt : xs.length < w) : blocks w xs = [] := by
  rw [blocks, Nat.div_eq_of_lt hlt]
  rfl

theorem blocks_append {xs ys : List α} (hw : 0 < w) (hlen : xs.length = w) :
    blocks w (xs ++ ys) = xs :: blocks w ys := by
  have hcount : (xs ++ ys).length / w = ys.length / w + 1 := by
    rw [List.length_append, hlen, Nat.add_div_left _ hw]
  rw [blocks, hcount, List.range_succ_eq_map, List.map_cons, List.map_map]
  congr 1
  · rw [Nat.mul_zero, List.drop_zero, ← hlen, List.take_left]
  · refine List.map_congr_left fun i _ => ?_
    rw [Function.comp_apply, Nat.mul_succ, Nat.add_comm, ← List.drop_drop, ← hlen, List.drop_left]

/-- The value of what came is the fold over its whole blocks. -/
theorem chain_absorb (s : σ) (xs : List α) (hw : 0 < w) :
    (absorb compress w ⟨s, []⟩ xs).chain = (blocks w xs).foldl compress s := by
  induction hn : xs.length / w generalizing s xs with
  | zero =>
      have hlt : xs.length < w := (Nat.div_eq_zero_iff_lt hw).1 hn
      rw [absorb_of_lt _ _ ((Nat.zero_add _).trans_lt hlt), blocks_of_lt hlt]
      rfl
  | succ n ih =>
      have hle : w ≤ xs.length := by
        by_contra hlt
        rw [Nat.div_eq_of_lt (Nat.not_le.1 hlt)] at hn
        cases hn
      have htake : (xs.take w).length = w := by rw [List.length_take, Nat.min_eq_left hle]
      have hrest : (xs.drop w).length / w = n := by
        rw [Nat.div_eq_sub_div hw hle] at hn
        rw [List.length_drop]
        exact Nat.succ.inj hn
      conv_lhs => rw [← List.take_append_drop w xs]
      conv_rhs => rw [← List.take_append_drop w xs]
      rw [absorb_append, absorb_block s _ hw htake, ih _ _ hrest, blocks_append hw htake, List.foldl_cons]

end BlockHash
