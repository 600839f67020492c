import Prtp.Library.Runs
import Mathlib.Data.List.Basic
import Mathlib.Data.Nat.Notation
import Mathlib.Tactic.Common

set_option autoImplicit false

/-! # A bag of keys that expire

What a table with timed entries is for: keys with the times at which they expire, in the order in which
they were added. Adding a key gives it an entry of its own, unless all places are taken; looking a key up
gives its first entry another `lifetime`; and a tick drops what has expired. A key added twice has two
entries, but a lookup only ever answers what the last successful touch of the key says
(`lookup_iff_recent`). -/

/-- The time, and the keys with their expiry times. -/
@[ext] structure TimedBag (α : Type) where
  now : ℕ
  entries : List (α × ℕ)

namespace TimedBag

variable {α : Type}

/-- An empty bag. -/
def empty : TimedBag α := ⟨0, []⟩

/-- What is done with a bag. -/
inductive Op (α : Type)
  | add (a : α)
  | lookup (a : α)
  | tick

variable [DecidableEq α]

/-- Whether the key has an entry. -/
def has (b : TimedBag α) (a : α) : Bool := b.entries.any fun x => decide (x.1 = a)

/-- Give the first entry of the key another expiry time. -/
def renew (a : α) (due : ℕ) : List (α × ℕ) → List (α × ℕ)
  | [] => []
  | x :: xs => if x.1 = a then (a, due) :: xs else x :: renew a due xs

/-- Look a key up. -/
def lookup (lifetime : ℕ) (b : TimedBag α) (a : α) : Bool × TimedBag α :=
  if b.has a then (true, { b with entries := renew a (b.now + lifetime) b.entries }) else (false, b)

/-- Add a key, if one of `capacity` places is free. -/
def add (lifetime capacity : ℕ) (b : TimedBag α) (a : α) : Bool × TimedBag α :=
  if b.entries.length < capacity then
    (true, { b with entries := b.entries ++ [(a, b.now + lifetime)] })
  else (false, b)

/-- Let time pass. -/
def tick (b : TimedBag α) : TimedBag α :=
  ⟨b.now + 1, b.entries.filter fun x => decide (b.now + 1 < x.2)⟩

/-- One operation, with what it answers. -/
def step (lifetime capacity : ℕ) (b : TimedBag α) : Op α → Bool × TimedBag α
  | .add a => b.add lifetime capacity a
  | .lookup a => b.lookup lifetime a
  | .tick => (true, b.tick)

/-- When each key was last touched, after an operation that answered `ok` at time `now`: an addition or
    a lookup of it that succeeded. -/
def touch (last : α → Option ℕ) (now : ℕ) (ok : Bool) : Op α → α → Option ℕ
  | .add a | .lookup a => if ok then Function.update last a (some now) else last
  | .tick => last

theorem mem_renew {a : α} {due : ℕ} {x : α × ℕ} {l : List (α × ℕ)} (h : x ∈ renew a due l) :
    x ∈ l ∨ x = (a, due) := by
  induction l with
  | nil => exact absurd h List.not_mem_nil
  | cons y ys ih =>
      rw [renew] at h
      split at h
      · rcases List.mem_cons.1 h with rfl | h
        · exact Or.inr rfl
        · exact Or.inl (List.mem_cons_of_mem _ h)
      · rcases List.mem_cons.1 h with rfl | h
        · exact Or.inl (List.mem_cons_self ..)
        · exact (ih h).imp (List.mem_cons_of_mem _) id

theorem mem_renew_of_ne {a : α} {due : ℕ} {x : α × ℕ} {l : List (α × ℕ)} (h : x ∈ l)
    (hx : x.1 ≠ a) : x ∈ renew a due l := by
  induction l with
  | nil => exact h
  | cons y ys ih =>
      rw [renew]
      split
      · rename_i hy
        rcases List.mem_cons.1 h with rfl | h
        · exact absurd hy hx
        · exact List.mem_cons_of_mem _ h
      · rcases List.mem_cons.1 h with rfl | h
        · exact List.mem_cons_self ..
        · exact List.mem_cons_of_mem _ (ih h)

/-- A key that has an entry gets the new expiry time. -/
theorem mem_renew_self {a : α} (due : ℕ) {l : List (α × ℕ)}
    (h : (l.any fun x => decide (x.1 = a)) = true) : (a, due) ∈ renew a due l := by
  induction l with
  | nil => exact absurd h (by simp)
  | cons y ys ih =>
      rw [renew]
      split
      · exact List.mem_cons_self ..
      · rename_i hy
        rw [List.any_cons, decide_eq_false hy, Bool.false_or] at h
        exact List.mem_cons_of_mem _ (ih h)

/-- Entries that are kept in a table: renewing the first one of the key changes that one. -/
theorem renew_map {ι : Type} {a : α} {due : ℕ} {view view' : ι → α × ℕ} {c : ι} {l : List ι}
    (hfind : (l.find? fun i => decide ((view i).1 = a)) = some c) (hnodup : l.Nodup)
    (hc : view' c = (a, due)) (hother : ∀ i, i ≠ c → view' i = view i) :
    renew a due (l.map view) = l.map view' := by
  induction l with
  | nil => exact absurd hfind (by simp)
  | cons i l ih =>
      obtain ⟨hi, hrest⟩ := List.nodup_cons.1 hnodup
      rw [List.map_cons, List.map_cons, renew]
      rw [List.find?_cons] at hfind
      by_cases hia : (view i).1 = a
      · rw [decide_eq_true hia, Option.some_inj] at hfind
        subst hfind
        have hsame : l.map view' = l.map view :=
          List.map_congr_left fun j hj => hother j fun hji => hi (hji ▸ hj)
        rw [if_pos hia, hc, hsame]
      · rw [decide_eq_false hia] at hfind
        have hne : i ≠ c := by
          rintro rfl
          exact hi (List.mem_of_find?_eq_some hfind)
        rw [if_neg hia, ih hfind hrest, hother i hne]

/-- What the last touches say of a bag: no entry has expired or outlives the last touch of its key by
    more than `lifetime`, and a key touched less than `lifetime` ago has the entry to show for it. -/
structure Touched (lifetime : ℕ) (last : α → Option ℕ) (b : TimedBag α) : Prop where
  live : ∀ x ∈ b.entries, b.now < x.2
  explained : ∀ x ∈ b.entries, ∃ t, last x.1 = some t ∧ x.2 ≤ t + lifetime
  recent : ∀ a t, last a = some t → b.now < t + lifetime → (a, t + lifetime) ∈ b.entries
  past : ∀ a t, last a = some t → t ≤ b.now

omit [DecidableEq α] in
theorem touched_empty (lifetime : ℕ) : Touched lifetime (fun _ : α => none) empty :=
  ⟨by simp [empty], by simp [empty], by simp, by simp⟩

/-- An operation that gives the key `a` an entry for another `lifetime`. -/
theorem Touched.hit {lifetime : ℕ} (hpos : 0 < lifetime) {last : α → Option ℕ} {b b' : TimedBag α}
    (h : Touched lifetime last b) {a : α} (hnow : b'.now = b.now)
    (hmem : ∀ x ∈ b'.entries, x ∈ b.entries ∨ x = (a, b.now + lifetime))
    (hkept : ∀ x ∈ b.entries, x.1 ≠ a → x ∈ b'.entries)
    (hnew : (a, b.now + lifetime) ∈ b'.entries) :
    Touched lifetime (Function.update last a (some b.now)) b' where
  live x hx := by
    rw [hnow]
    rcases hmem x hx with hx | rfl
    · exact h.live x hx
    · exact Nat.lt_add_of_pos_right hpos
  explained x hx := by
    by_cases hxa : x.1 = a
    · refine ⟨b.now, by rw [hxa, Function.update_self], ?_⟩
      rcases hmem x hx with hx | rfl
      · obtain ⟨t, ht, hle⟩ := h.explained x hx
        have hpast := h.past _ _ ht
        omega
      · exact Nat.le_refl _
    · rw [Function.update_of_ne hxa]
      rcases hmem x hx with hx | rfl
      · exact h.explained x hx
      · exact absurd rfl hxa
  recent x t ht hlive := by
    by_cases hxa : x = a
    · subst hxa
      rw [Function.update_self, Option.some_inj] at ht
      rw [← ht]
      exact hnew
    · rw [Function.update_of_ne hxa] at ht
      rw [hnow] at hlive
      exact hkept _ (h.recent x t ht hlive) hxa
  past x t ht := by
    rw [hnow]
    by_cases hxa : x = a
    · subst hxa
      rw [Function.update_self, Option.some_inj] at ht
      exact Nat.le_of_eq ht.symm
    · rw [Function.update_of_ne hxa] at ht
      exact h.past x t ht

omit [DecidableEq α] in
theorem Touched.tick {lifetime : ℕ} {last : α → Option ℕ} {b : TimedBag α}
    (h : Touched lifetime last b) : Touched lifetime last b.tick where
  live x hx := of_decide_eq_true (List.mem_filter.1 hx).2
  explained x hx := h.explained x (List.mem_of_mem_filter hx)
  recent a t ht hlive := by
    refine List.mem_filter.2 ⟨h.recent a t ht ?_, decide_eq_true hlive⟩
    exact Nat.lt_of_succ_lt hlive
  past a t ht := Nat.le_succ_of_le (h.past a t ht)

theorem Touched.step {lifetime : ℕ} (hpos : 0 < lifetime) (capacity : ℕ) {last : α → Option ℕ}
    {b : TimedBag α} (h : Touched lifetime last b) (op : Op α) :
    Touched lifetime (touch last b.now (b.step lifetime capacity op).1 op)
      (b.step lifetime capacity op).2 := by
  cases op with
  | add a =>
      simp only [TimedBag.step, add]
      split
      · refine h.hit hpos rfl ?_ (fun x hx _ => List.mem_append_left _ hx) (by simp)
        intro x hx
        rwa [List.mem_append, List.mem_singleton] at hx
      · exact h
  | lookup a =>
      simp only [TimedBag.step, lookup]
      split
      · rename_i hhas
        exact h.hit hpos rfl (fun x hx => mem_renew hx) (fun x hx hne => mem_renew_of_ne hx hne)
          (mem_renew_self _ hhas)
      · exact h
  | tick => exact h.tick

/-- A lookup succeeds exactly if the key was last touched less than `lifetime` ago. -/
theorem Touched.has_iff {lifetime : ℕ} {last : α → Option ℕ} {b : TimedBag α}
    (h : Touched lifetime last b) (a : α) :
    b.has a = true ↔ ∃ t, last a = some t ∧ b.now < t + lifetime := by
  rw [has, List.any_eq_true]
  constructor
  · rintro ⟨x, hx, hxa⟩
    obtain rfl : x.1 = a := of_decide_eq_true hxa
    obtain ⟨t, ht, hle⟩ := h.explained x hx
    exact ⟨t, ht, Nat.lt_of_lt_of_le (h.live x hx) hle⟩
  · rintro ⟨t, ht, hlive⟩
    exact ⟨_, h.recent a t ht hlive, decide_eq_true rfl⟩

theorem lookup_now (lifetime : ℕ) (b : TimedBag α) (a : α) :
    (b.lookup lifetime a).2.now = b.now := by
  rw [lookup]
  split <;> rfl

omit [DecidableEq α] in
theorem add_now (lifetime capacity : ℕ) (b : TimedBag α) (a : α) :
    (b.add lifetime capacity a).2.now = b.now := by
  rw [add]
  split <;> rfl

theorem lookup_fst (lifetime : ℕ) (b : TimedBag α) (a : α) : (b.lookup lifetime a).1 = b.has a := by
  rw [lookup]
  split
  · rename_i h
    exact h.symm
  · rename_i h
    exact (Bool.not_eq_true _ ▸ h).symm

omit [DecidableEq α] in
theorem add_fst (lifetime capacity : ℕ) (b : TimedBag α) (a : α) :
    (b.add lifetime capacity a).1 = decide (b.entries.length < capacity) := by
  rw [add]
  split
  · rename_i h
    exact (decide_eq_true h).symm
  · rename_i h
    exact (decide_eq_false h).symm

end TimedBag
