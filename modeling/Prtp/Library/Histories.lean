import Mathlib.Data.List.Basic
import Mathlib.Tactic.Common

set_option autoImplicit false

/-! # Histories

A history is a list of entries, the oldest first. What is said of an entry is said of it and of the
entries before it, so a property of entries is `P : List ε → ε → Prop`. The past-time operators are
defined by splitting the history, and each has one rule for an entry written behind the others. -/

variable {ε : Type} {P : List ε → ε → Prop} {Q : ε → Prop} {log : List ε} {e : ε}

/-- Every entry has the property. -/
def Historically (P : List ε → ε → Prop) (log : List ε) : Prop :=
  ∀ before e after, log = before ++ e :: after → P before e

/-- Some entry has the property. -/
def Once (P : List ε → ε → Prop) (log : List ε) : Prop :=
  ∃ before e after, log = before ++ e :: after ∧ P before e

/-- Some entry has the property `P`, and all entries behind it have `Q`. -/
def Since (P : List ε → ε → Prop) (Q : ε → Prop) (log : List ε) : Prop :=
  ∃ before e after, log = before ++ e :: after ∧ P before e ∧ ∀ x ∈ after, Q x

/-- Where the history can be split: at the last entry, or before it. -/
theorem concat_eq_split {before after : List ε} {x : ε} :
    log ++ [e] = before ++ x :: after ↔
      after = [] ∧ log = before ∧ e = x ∨
        ∃ after', after = after' ++ [e] ∧ log = before ++ x :: after' := by
  constructor
  · intro heq
    rcases List.eq_nil_or_concat after with rfl | ⟨after', z, rfl⟩
    · obtain ⟨hlog, he⟩ := List.append_inj' heq rfl
      exact .inl ⟨rfl, hlog, List.head_eq_of_cons_eq he⟩
    · rw [List.concat_eq_append, ← List.cons_append, ← List.append_assoc] at heq
      obtain ⟨hlog, he⟩ := List.append_inj' heq rfl
      obtain rfl : e = z := List.head_eq_of_cons_eq he
      exact .inr ⟨after', List.concat_eq_append, hlog⟩
  · rintro (⟨rfl, rfl, rfl⟩ | ⟨after', rfl, rfl⟩)
    · rfl
    · simp

theorem historically_nil : Historically P [] := by
  rintro before e after heq
  simp at heq

theorem not_once_nil : ¬ Once P [] := by
  rintro ⟨before, e, after, heq, -⟩
  simp at heq

theorem historically_concat : Historically P (log ++ [e]) ↔ Historically P log ∧ P log e := by
  constructor
  · intro h
    refine ⟨fun before x after heq => h before x (after ++ [e]) ?_, h log e [] rfl⟩
    exact concat_eq_split.2 (.inr ⟨after, rfl, heq⟩)
  · rintro ⟨hlog, he⟩ before x after heq
    rcases concat_eq_split.1 heq with ⟨-, rfl, rfl⟩ | ⟨after', -, heq'⟩
    · exact he
    · exact hlog before x after' heq'

theorem once_concat : Once P (log ++ [e]) ↔ Once P log ∨ P log e := by
  constructor
  · rintro ⟨before, x, after, heq, hx⟩
    rcases concat_eq_split.1 heq with ⟨-, rfl, rfl⟩ | ⟨after', -, heq'⟩
    · exact .inr hx
    · exact .inl ⟨before, x, after', heq', hx⟩
  · rintro (⟨before, x, after, rfl, hx⟩ | he)
    · exact ⟨before, x, after ++ [e], by simp, hx⟩
    · exact ⟨log, e, [], rfl, he⟩

/-- The last entry may be the one since which `Q` has held. -/
theorem since_here (he : P log e) : Since P Q (log ++ [e]) :=
  ⟨log, e, [], rfl, he, by simp⟩

theorem Since.concat (h : Since P Q log) (he : Q e) : Since P Q (log ++ [e]) := by
  obtain ⟨before, x, after, rfl, hx, hafter⟩ := h
  refine ⟨before, x, after ++ [e], by simp, hx, ?_⟩
  rw [List.forall_mem_append]
  exact ⟨hafter, by simpa using he⟩
