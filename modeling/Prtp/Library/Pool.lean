import Mathlib.Data.List.Nodup
import Mathlib.Data.List.Basic
import Mathlib.Data.Fintype.EquivFin
import Mathlib.Tactic.Common

set_option autoImplicit false

/-! # A pool of numbered entries

A fixed set of entries, each on exactly one of two queues: `free` or `used`. The partition is part
of the type, so a pool with a lost, doubled or shared entry cannot be built. `take` moves the head
of the free queue to the tail of the used one; `release` moves an entry, wherever it is, to the
tail of the free queue. -/

/-- Two queues that together hold every entry exactly once. -/
@[ext] structure Pool (ι : Type) where
  free : List ι
  used : List ι
  nodup : (free ++ used).Nodup
  complete : ∀ i, i ∈ free ++ used

namespace Pool

variable {ι : Type}

/-- The pool with every entry free, in the given order. -/
def full (l : List ι) (hnodup : l.Nodup) (hcomplete : ∀ i, i ∈ l) : Pool ι :=
  ⟨l, [], by simpa using hnodup, by simpa using hcomplete⟩

theorem mem_used_iff (p : Pool ι) (i : ι) : i ∈ p.used ↔ i ∉ p.free := by
  have hmem := List.mem_append.1 (p.complete i)
  have hdisj := List.disjoint_of_nodup_append p.nodup
  constructor
  · exact fun hu hf => hdisj hf hu
  · exact fun hf => hmem.resolve_left hf

theorem mem_free_iff (p : Pool ι) (i : ι) : i ∈ p.free ↔ i ∉ p.used := by
  rw [mem_used_iff, not_not]

theorem free_nodup (p : Pool ι) : p.free.Nodup := (List.nodup_append.1 p.nodup).1

theorem used_nodup (p : Pool ι) : p.used.Nodup := (List.nodup_append.1 p.nodup).2.1

/-- The queues have as many places as there are entries. -/
theorem length_used_add_free [Fintype ι] (p : Pool ι) :
    p.used.length + p.free.length = Fintype.card ι := by
  classical
  have hall : (p.free ++ p.used).toFinset = Finset.univ := by
    ext i
    simpa using p.complete i
  have hcard := List.toFinset_card_of_nodup p.nodup
  rw [hall, Finset.card_univ, List.length_append, Nat.add_comm] at hcard
  exact hcard.symm

/-- Every entry is on one of the queues, once. -/
theorem count_eq_one [DecidableEq ι] (p : Pool ι) (i : ι) : (p.free ++ p.used).count i = 1 :=
  List.count_eq_one_of_mem p.nodup (p.complete i)

/-- Move the head of the free queue to the tail of the used one. -/
def take (p : Pool ι) : Option (ι × Pool ι) :=
  match h : p.free with
  | [] => none
  | i :: rest =>
      some (i, ⟨rest, p.used ++ [i], by
        have hp : (i :: rest ++ p.used).Perm (rest ++ (p.used ++ [i])) := by
          rw [← List.append_assoc]
          exact (List.perm_append_singleton i (rest ++ p.used)).symm
        exact hp.nodup_iff.1 (h ▸ p.nodup), by
        intro j
        have hj := p.complete j
        rw [h] at hj
        simp only [List.cons_append, List.mem_cons, List.mem_append, List.not_mem_nil,
          or_false] at hj ⊢
        tauto⟩)

theorem take_eq_none (p : Pool ι) : p.take = none ↔ p.free = [] := by
  unfold take
  split <;> simp_all

/-- What `take` hands out and what it leaves. -/
theorem take_eq_some {p p' : Pool ι} {i : ι} (h : p.take = some (i, p')) :
    p.free = i :: p'.free ∧ p'.used = p.used ++ [i] := by
  unfold take at h
  split at h
  · exact absurd h (by simp)
  · rename_i j rest hfree
    obtain ⟨rfl, rfl⟩ : j = i ∧ _ = p' := by simpa using h
    exact ⟨hfree, rfl⟩

theorem not_mem_used_of_take {p p' : Pool ι} {i : ι} (h : p.take = some (i, p')) :
    i ∉ p.used := by
  rw [← mem_free_iff, (take_eq_some h).1]
  exact List.mem_cons_self ..

variable [DecidableEq ι]

/-- Move an entry, wherever it is, to the tail of the free queue. -/
def release (p : Pool ι) (i : ι) : Pool ι :=
  ⟨p.free.erase i ++ [i], p.used.erase i, by
    have hfree := p.free_nodup
    have hused := p.used_nodup
    have hdisj := List.disjoint_of_nodup_append p.nodup
    rw [List.nodup_append]
    refine ⟨?_, hused.erase i, ?_⟩
    · rw [List.nodup_append]
      refine ⟨hfree.erase i, List.nodup_singleton i, ?_⟩
      rintro a ha b hb rfl
      rw [List.mem_singleton.1 hb] at ha
      exact hfree.not_mem_erase ha
    · rintro a ha b hb rfl
      rcases List.mem_append.1 ha with ha | ha
      · exact hdisj (List.mem_of_mem_erase ha) (List.mem_of_mem_erase hb)
      · rw [List.mem_singleton.1 ha] at hb
        exact hused.not_mem_erase hb, by
    intro j
    by_cases hj : j = i
    · simp [hj]
    · rcases List.mem_append.1 (p.complete j) with h | h
      · simp [List.mem_erase_of_ne hj, h]
      · simp [List.mem_erase_of_ne hj, h]⟩

theorem mem_used_release (p : Pool ι) (i j : ι) :
    j ∈ (p.release i).used ↔ j ∈ p.used ∧ j ≠ i := by
  simp only [release]
  rw [p.used_nodup.mem_erase_iff]
  exact and_comm

/-- The first used entry that satisfies a test. -/
def findUsed (p : Pool ι) (f : ι → Bool) : Option ι := p.used.find? f

omit [DecidableEq ι] in
theorem findUsed_eq_some {p : Pool ι} {f : ι → Bool} {i : ι} (h : p.findUsed f = some i) :
    i ∈ p.used ∧ f i = true :=
  ⟨List.mem_of_find?_eq_some h, List.find?_some h⟩

omit [DecidableEq ι] in
theorem findUsed_eq_none {p : Pool ι} {f : ι → Bool} :
    p.findUsed f = none ↔ ∀ i ∈ p.used, f i = false := by
  simp [findUsed]

end Pool
