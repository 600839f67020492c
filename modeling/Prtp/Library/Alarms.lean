import Prtp.Library.Histories
import Mathlib.Data.List.Induction
import Mathlib.Data.Nat.Notation
import Mathlib.Tactic.Common

set_option autoImplicit false

/-! # Alarms that ring on time

What a timer service is for, told by its log: alarms are set to ring after a delay, may be cancelled
before, and ring. The log says when each of these happened. A log is *explained* if every entry was
in order when it was made: an alarm is set only when it is not pending, cancelled only when it is,
and rings at the very time it was set for. From an explained log at whose end no pending alarm is
overdue it can be read off that each alarm rings exactly once, on time, unless it is cancelled. -/

namespace Alarms

variable {ε : Type}

/-- What a timer service logs. -/
inductive Event (ε : Type)
  | set (e : ε) (delay : ℕ)
  | cancel (e : ε)
  | ring (e : ε)
deriving DecidableEq

namespace Event

/-- The alarm an event is about. -/
def alarm : Event ε → ε
  | .set e _ | .cancel e | .ring e => e

/-- Whether the event puts an end to what was set. -/
def ends : Event ε → Bool
  | .set _ _ => false
  | .cancel _ | .ring _ => true

end Event

variable [DecidableEq ε]

/-- When the alarm is due after an event at time `t`, if it was due at `due` before. -/
def follow (e : ε) (due : Option ℕ) : ℕ × Event ε → Option ℕ
  | (t, .set x delay) => if x = e then some (t + delay) else due
  | (_, .cancel x) | (_, .ring x) => if x = e then none else due

/-- When the alarm is due, after what the log says; `none` if it is not pending. -/
def pending (log : List (ℕ × Event ε)) (e : ε) : Option ℕ := log.foldl (follow e) none

@[simp] theorem pending_nil (e : ε) : pending [] e = none := rfl

theorem pending_append (log log' : List (ℕ × Event ε)) (e : ε) :
    pending (log ++ log') e = log'.foldl (follow e) (pending log e) :=
  List.foldl_append ..

@[simp] theorem pending_concat (log : List (ℕ × Event ε)) (x : ℕ × Event ε) (e : ε) :
    pending (log ++ [x]) e = follow e (pending log e) x :=
  pending_append ..

theorem follow_of_ne {e : ε} {t : ℕ} {ev : Event ε} (h : ev.alarm ≠ e) (due : Option ℕ) :
    follow e due (t, ev) = due := by
  cases ev <;> exact if_neg h

/-- Whether an entry is in order after a log. -/
def InOrder (log : List (ℕ × Event ε)) : ℕ × Event ε → Prop
  | (_, .set e _) => pending log e = none
  | (t, .cancel e) => ∃ due, pending log e = some due ∧ t ≤ due
  | (t, .ring e) => pending log e = some t

/-- Every entry of the log was in order when it was made. -/
def Explained (log : List (ℕ × Event ε)) : Prop :=
  ∀ before x after, log = before ++ x :: after → InOrder before x

theorem explained_nil : Explained ([] : List (ℕ × Event ε)) := historically_nil

theorem Explained.concat {log : List (ℕ × Event ε)} {x : ℕ × Event ε} (h : Explained log)
    (hx : InOrder log x) : Explained (log ++ [x]) :=
  historically_concat.2 ⟨h, hx⟩

/-- What has become, by `now`, of an alarm that was due at `due`, given the first event that ended
    it: it rang then, or it was cancelled by then, or it is not due yet. -/
def EndedBy (due now : ℕ) : Option (ℕ × Event ε) → Prop
  | none => now < due
  | some (t, .ring _) => t = due
  | some (t, .cancel _) | some (t, .set _ _) => t ≤ due

/-- The first entry that ends an alarm. -/
def firstEnd (log : List (ℕ × Event ε)) (e : ε) : Option (ℕ × Event ε) :=
  log.find? fun x => x.2.ends && decide (x.2.alarm = e)

/-- The alarms of a log up to time `now` have done what they were set for. -/
structure OnTime (log : List (ℕ × Event ε)) (now : ℕ) : Prop where
  /-- The first thing that ends an alarm set at `t` is that it rings, `delay` later, or that it is
      cancelled by then; and nothing has ended it only if it is not due yet. -/
  settled : ∀ before t e delay after, log = before ++ (t, .set e delay) :: after →
    EndedBy (t + delay) now (firstEnd after e)
  /-- What rings was set before, and nothing has ended it since. -/
  earned : ∀ before t e after, log = before ++ (t, .ring e) :: after →
    ∃ before' t' delay between, before = before' ++ (t', .set e delay) :: between ∧
      ∀ x ∈ between, x.2.alarm = e → x.2.ends = false

/-- A pending alarm was set, and nothing has ended it since. -/
theorem exists_set_of_pending {log : List (ℕ × Event ε)} {e : ε} {due : ℕ}
    (h : pending log e = some due) :
    ∃ before t delay between, log = before ++ (t, .set e delay) :: between ∧
      ∀ x ∈ between, x.2.alarm = e → x.2.ends = false := by
  induction log using List.reverseRecOn with
  | nil => simp at h
  | append_singleton log x ih =>
      obtain ⟨t, ev⟩ := x
      rw [pending_concat] at h
      by_cases he : ev.alarm = e
      · cases ev with
        | set x delay =>
            obtain rfl : x = e := he
            exact ⟨log, t, delay, [], rfl, by simp⟩
        | cancel x | ring x => simp [follow, show x = e from he] at h
      · rw [follow_of_ne he] at h
        obtain ⟨before, t', delay, between, rfl, hbetween⟩ := ih h
        refine ⟨before, t', delay, between ++ [(t, ev)], by simp, ?_⟩
        intro x hx hxe
        rcases List.mem_append.1 hx with hx | hx
        · exact hbetween x hx hxe
        · rw [List.mem_singleton] at hx
          rw [hx] at hxe
          exact absurd hxe he

/-- What ends a pending alarm first. -/
theorem Explained.first_end {log : List (ℕ × Event ε)} (h : Explained log) {now : ℕ} {e : ε}
    (hnow : ∀ due, pending log e = some due → now < due) {before after : List (ℕ × Event ε)}
    (hlog : log = before ++ after) {due : ℕ} (hdue : pending before e = some due) :
    EndedBy due now (firstEnd after e) := by
  induction after generalizing before with
  | nil =>
      rw [List.append_nil] at hlog
      exact hnow due (hlog ▸ hdue)
  | cons x after ih =>
      obtain ⟨t, ev⟩ := x
      have horder := h before (t, ev) after hlog
      have hrest : log = (before ++ [(t, ev)]) ++ after := by simp [hlog]
      by_cases he : ev.alarm = e
      · cases ev with
        | set x delay =>
            -- it is not set again while it is pending
            obtain rfl : x = e := he
            rw [InOrder, hdue] at horder
            exact absurd horder (by simp)
        | cancel x =>
            obtain rfl : x = e := he
            obtain ⟨due', hdue', hle⟩ := horder
            obtain rfl : due' = due := by simpa [hdue] using hdue'.symm
            simpa [firstEnd, Event.ends, Event.alarm, EndedBy] using hle
        | ring x =>
            obtain rfl : x = e := he
            rw [InOrder, hdue, Option.some_inj] at horder
            simpa [firstEnd, Event.ends, Event.alarm, EndedBy] using horder.symm
      · rw [firstEnd, List.find?_cons_of_neg (by simp [he])]
        exact ih hrest (by rw [pending_concat, follow_of_ne he, hdue])

/-- A log that is explained and leaves nothing overdue is on time. -/
theorem Explained.onTime {log : List (ℕ × Event ε)} (h : Explained log) {now : ℕ}
    (hnow : ∀ e due, pending log e = some due → now < due) : OnTime log now where
  settled := by
    intro before t e delay after hlog
    have hset : log = (before ++ [(t, .set e delay)]) ++ after := by simp [hlog]
    have hdue : pending (before ++ [(t, .set e delay)]) e = some (t + delay) := by simp [follow]
    exact h.first_end (hnow e) hset hdue
  earned := by
    intro before t e after hlog
    exact exists_set_of_pending (h before (t, .ring e) after hlog)

end Alarms
