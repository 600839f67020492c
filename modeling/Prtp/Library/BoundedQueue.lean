import Mathlib.Data.List.Range
import Mathlib.Data.Nat.ModEq
import Mathlib.Tactic.Common

set_option autoImplicit false

/-! # Bounded queues and the ring they lie in

A queue of at most `cap` items takes a batch whole or not at all, and gives items out in the order it took
them. In a ring of `cap` places the items lie one after the other from some place on, past the last place to
the first. -/

variable {α : Type}

/-! ## Queues -/

/-- The items of a queue, oldest first. -/
structure BoundedQueue (α : Type) (cap : ℕ) where
  items : List α
  length_le : items.length ≤ cap

namespace BoundedQueue

variable {cap : ℕ}

@[ext] theorem ext {q q' : BoundedQueue α cap} (h : q.items = q'.items) : q = q' := by
  cases q
  cases q'
  cases h
  rfl

/-- The queue without items. -/
def empty (cap : ℕ) : BoundedQueue α cap := ⟨[], Nat.zero_le cap⟩

/-- Append a batch, if there is room for all of it. -/
def put (q : BoundedQueue α cap) (xs : List α) : Option (BoundedQueue α cap) :=
  if h : q.items.length + xs.length ≤ cap then some ⟨q.items ++ xs, by rwa [List.length_append]⟩
  else none

/-- The `n` oldest items, if there are as many. -/
def peek (q : BoundedQueue α cap) (n : ℕ) : Option (List α) :=
  if n ≤ q.items.length then some (q.items.take n) else none

/-- Drop the `n` oldest items, if there are as many. -/
def advance (q : BoundedQueue α cap) (n : ℕ) : Option (BoundedQueue α cap) :=
  if n ≤ q.items.length then
    some ⟨q.items.drop n, (q.items.length_drop.trans_le (Nat.sub_le _ n)).trans q.length_le⟩
  else none

/-- Take the `n` oldest items out, if there are as many. -/
def get (q : BoundedQueue α cap) (n : ℕ) : Option (List α × BoundedQueue α cap) :=
  (q.peek n).bind fun xs => (q.advance n).map fun q' => (xs, q')

@[simp] theorem items_empty : (empty cap : BoundedQueue α cap).items = [] := rfl

theorem put_of_fits {q : BoundedQueue α cap} {xs : List α} (h : q.items.length + xs.length ≤ cap) :
    ∃ q', q.put xs = some q' ∧ q'.items = q.items ++ xs :=
  ⟨_, dif_pos h, rfl⟩

theorem put_of_full {q : BoundedQueue α cap} {xs : List α} (h : cap < q.items.length + xs.length) :
    q.put xs = none :=
  dif_neg (Nat.not_le.2 h)

theorem peek_of_stored {q : BoundedQueue α cap} {n : ℕ} (h : n ≤ q.items.length) :
    q.peek n = some (q.items.take n) :=
  if_pos h

theorem peek_of_fewer {q : BoundedQueue α cap} {n : ℕ} (h : q.items.length < n) : q.peek n = none :=
  if_neg (Nat.not_le.2 h)

theorem advance_of_stored {q : BoundedQueue α cap} {n : ℕ} (h : n ≤ q.items.length) :
    ∃ q', q.advance n = some q' ∧ q'.items = q.items.drop n :=
  ⟨_, if_pos h, rfl⟩

theorem advance_of_fewer {q : BoundedQueue α cap} {n : ℕ} (h : q.items.length < n) :
    q.advance n = none :=
  if_neg (Nat.not_le.2 h)

theorem get_of_stored {q q' : BoundedQueue α cap} {n : ℕ} (h : n ≤ q.items.length)
    (hadvance : q.advance n = some q') : q.get n = some (q.items.take n, q') := by
  rw [get, peek_of_stored h, hadvance]
  rfl

theorem get_of_fewer {q : BoundedQueue α cap} {n : ℕ} (h : q.items.length < n) : q.get n = none := by
  rw [get, peek_of_fewer h]
  rfl

end BoundedQueue

/-! ## Rings -/

/-- The items in `n` places of a ring, from place `b` on. -/
def ringSlice (m : ℕ → α) (cap b n : ℕ) : List α := (List.range n).map fun i => m ((b + i) % cap)

section Ring

variable (m : ℕ → α) (cap b n k : ℕ)

@[simp] theorem ringSlice_length : (ringSlice m cap b n).length = n := by
  rw [ringSlice, List.length_map, List.length_range]

@[simp] theorem ringSlice_zero : ringSlice m cap b 0 = [] := rfl

/-- A stretch of the ring splits at any place. -/
theorem ringSlice_add :
    ringSlice m cap b (n + k) = ringSlice m cap b n ++ ringSlice m cap ((b + n) % cap) k := by
  rw [ringSlice, List.range_add, List.map_append, List.map_map]
  congr 1
  refine List.map_congr_left fun i _ => ?_
  rw [Function.comp_apply, Nat.mod_add_mod, Nat.add_assoc]

/-- A stretch that does not reach past the last place. -/
theorem ringSlice_straight (h : b + n ≤ cap) :
    ringSlice m cap b n = (List.range n).map fun i => m (b + i) := by
  refine List.map_congr_left fun i hi => ?_
  rw [Nat.mod_eq_of_lt (by have := List.mem_range.1 hi; omega)]

/-- A stretch that goes on at the first place. -/
theorem ringSlice_wrapped (hb : b ≤ cap) (hlt : cap < b + n) (hn : n ≤ cap) :
    ringSlice m cap b n =
      ((List.range (cap - b)).map fun i => m (b + i)) ++ (List.range (n - (cap - b))).map m := by
  have hsplit := ringSlice_add m cap b (cap - b) (n - (cap - b))
  have hlast : (b + (cap - b)) % cap = 0 := by rw [Nat.add_sub_cancel' hb, Nat.mod_self]
  rw [Nat.add_sub_cancel' (by omega), hlast, ringSlice_straight m cap b (cap - b) (by omega),
    ringSlice_straight m cap 0 (n - (cap - b)) (by omega)] at hsplit
  simpa only [Nat.zero_add] using hsplit

theorem ringSlice_take (h : k ≤ n) : (ringSlice m cap b n).take k = ringSlice m cap b k := by
  obtain ⟨j, rfl⟩ := Nat.exists_eq_add_of_le h
  rw [ringSlice_add, List.take_left' (ringSlice_length ..)]

theorem ringSlice_drop (h : k ≤ n) :
    (ringSlice m cap b n).drop k = ringSlice m cap ((b + k) % cap) (n - k) := by
  obtain ⟨j, rfl⟩ := Nat.exists_eq_add_of_le h
  rw [ringSlice_add, List.drop_left' (ringSlice_length ..), Nat.add_sub_cancel_left]

end Ring

/-- Two different places of a stretch that is not longer than the ring. -/
theorem ring_place_inj {cap b i j : ℕ} (hi : i < cap) (hj : j < cap)
    (h : (b + i) % cap = (b + j) % cap) : i = j := by
  have hmod : i % cap = j % cap := Nat.ModEq.add_left_cancel' b h
  rwa [Nat.mod_eq_of_lt hi, Nat.mod_eq_of_lt hj] at hmod

/-- Items that are written to free places behind those of a ring are then behind them. -/
theorem ringSlice_append {m m' : ℕ → α} {cap b n : ℕ} {xs : List α} (hfits : n + xs.length ≤ cap)
    (hkept : ∀ i < cap, (∀ j < xs.length, ((b + n) % cap + j) % cap ≠ i) → m' i = m i)
    (hnew : ringSlice m' cap ((b + n) % cap) xs.length = xs) :
    ringSlice m' cap b (n + xs.length) = ringSlice m cap b n ++ xs := by
  rw [ringSlice_add, hnew]
  congr 1
  refine List.map_congr_left fun i hi => ?_
  have hlt := List.mem_range.1 hi
  refine hkept _ (Nat.mod_lt _ (by omega)) fun j hj hsame => ?_
  rw [Nat.mod_add_mod, Nat.add_assoc] at hsame
  have hplace := ring_place_inj (by omega) (by omega) hsame
  omega
