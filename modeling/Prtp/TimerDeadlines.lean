import Prtp.Library.Alarms
import Prtp.Library.Runs
import Prtp.SoftTimer
import Mathlib.Algebra.Order.Floor.Div

set_option autoImplicit false

/-! # When the timers of a wheel fire

The wheel stores the tick an element is due at, in 32 bits, and looks for due elements in one bucket
a tick. What matters of it is how many ticks each running element has left: `remaining`. Adding an
element sets it, a tick takes one off all of them, and an element fires when none are left. -/

namespace SoftTimer

variable {ε : Type}

/-! ## Delays -/

/-- `get_soft_tick_from_milsec` rounds up. -/
theorem getSoftTickFromMilsec_eq (timer : SoftTimer ε) (hrate : 1 ≤ timer.tickRate) {d : Int}
    (hd : 1 ≤ d) (hmax : d < 2 ^ 31) :
    (timer.getSoftTickFromMilsec d).toNat = d.toNat ⌈/⌉ timer.tickRate.toNat := by
  obtain ⟨n, rfl⟩ := Int.eq_ofNat_of_zero_le (show 0 ≤ d by omega)
  obtain ⟨r, hr⟩ := Int.eq_ofNat_of_zero_le (show 0 ≤ timer.tickRate by omega)
  have hrpos : 0 < r := by omega
  have hq : n / r < 2 ^ 31 := Nat.lt_of_le_of_lt (Nat.div_le_self ..) (by omega)
  have hsplit : n / r * r + n % r = n := by rw [Nat.mul_comm]; exact Nat.div_add_mod n r
  have hlt := Nat.mod_lt n hrpos
  rw [getSoftTickFromMilsec, hr, Nat.ceilDiv_eq_add_pred_div, ← Int.ofNat_tdiv, ← Int.ofNat_tmod]
  simp only [Int.toNat_natCast]
  generalize n / r = q at *
  have hdiv : (UInt32.ofInt (q : Int)).toNat = q := by
    rw [UInt32.ofInt, UInt32.toNat_ofNat']
    omega
  split
  · rename_i hne
    have hceil : (n + r - 1) / r = q + 1 := by
      rw [Nat.div_eq_iff hrpos, Nat.add_mul]
      omega
    have hone : (1 : UInt32).toNat = 1 := rfl
    rw [UInt32.toNat_add, hdiv, hceil, hone]
    omega
  · rename_i heq
    have hceil : (n + r - 1) / r = q := by
      rw [Nat.div_eq_iff hrpos]
      omega
    rw [hdiv, hceil]

theorem ceilDiv_pos {a b : ℕ} (ha : 0 < a) (hb : 0 < b) : 0 < a ⌈/⌉ b := by
  rw [Nat.ceilDiv_eq_add_pred_div]
  exact Nat.div_pos (by omega) hb

/-! ## Ticks left -/

theorem toNat_sub_succ {a b : UInt32} (h : a ≠ b) : (a - (b + 1)).toNat = (a - b).toNat - 1 := by
  have hne : a.toNat ≠ b.toNat := fun heq => h (UInt32.toNat_inj.1 heq)
  have ha := a.toNat_lt
  have hb := b.toNat_lt
  have hone : (1 : UInt32).toNat = 1 := rfl
  rw [UInt32.toNat_sub, UInt32.toNat_sub, UInt32.toNat_add, hone]
  omega

variable [DecidableEq ε]

/-- How many ticks the element has left; `none` if it is stopped. -/
def remaining (timer : SoftTimer ε) (e : ε) : Option ℕ :=
  if e ∈ timer.timeoutList then some 0
  else if timer.Running e then some (timer.elemTick e - timer.tick).toNat
  else none

theorem remaining_eq_none {timer : SoftTimer ε} {e : ε} :
    timer.remaining e = none ↔ ¬ timer.Running e := by
  unfold remaining
  by_cases hto : e ∈ timer.timeoutList
  · simp [hto, Running]
  · by_cases hrun : timer.Running e <;> simp [hto, hrun]

theorem running_of_remaining {timer : SoftTimer ε} {e : ε} {n : ℕ}
    (h : timer.remaining e = some n) : timer.Running e := by
  by_contra hrun
  rw [remaining_eq_none.2 hrun] at h
  exact absurd h (by simp)

theorem exists_remaining {timer : SoftTimer ε} {e : ε} (h : timer.Running e) :
    ∃ n, timer.remaining e = some n :=
  Option.ne_none_iff_exists'.1 fun hnone => remaining_eq_none.1 hnone h

theorem remaining_of_mem_timeoutList {timer : SoftTimer ε} {e : ε} (h : e ∈ timer.timeoutList) :
    timer.remaining e = some 0 := if_pos h

@[simp] theorem remaining_init (timer : SoftTimer ε) (r : Int) (e : ε) :
    (timer.softTimerInit r).remaining e = none :=
  remaining_eq_none.2 (not_running_init timer r e)

theorem remaining_del (timer : SoftTimer ε) (e x : ε) :
    (timer.softTimerDel e).remaining x = if x = e then none else timer.remaining x := by
  split
  · rename_i hx
    exact remaining_eq_none.2 fun hrun => ((running_del ..).1 hrun).2 hx
  · rename_i hx
    have hto : x ∈ (timer.softTimerDel e).timeoutList ↔ x ∈ timer.timeoutList :=
      List.mem_erase_of_ne hx
    simp [remaining, hto, running_del, hx]

theorem remaining_popTimeout {timer : SoftTimer ε} {e : ε} {rest : List ε}
    (h : timer.timeoutList = e :: rest) (x : ε) :
    timer.popTimeout.remaining x = if x = e then none else timer.remaining x := by
  split
  · rename_i hx
    exact remaining_eq_none.2 fun hrun => ((running_popTimeout h x).1 hrun).2 hx
  · rename_i hx
    have hto : x ∈ timer.popTimeout.timeoutList ↔ x ∈ timer.timeoutList := by simp [h, hx]
    simp only [remaining, hto, running_popTimeout h, hx, ne_eq, not_false_eq_true, and_true,
      elemTick_popTimeout, tick_popTimeout]

/-- Adding a running element changes nothing. -/
theorem softTimerAdd_of_running {timer : SoftTimer ε} {e : ε} (h : timer.Running e) (d : Int) :
    timer.softTimerAdd e d = timer := dif_pos h

theorem remaining_add_of_ne (timer : SoftTimer ε) {e x : ε} (hx : x ≠ e) (d : Int) :
    (timer.softTimerAdd e d).remaining x = timer.remaining x := by
  have hrun : (timer.softTimerAdd e d).Running x ↔ timer.Running x := by
    rw [running_add]
    exact or_iff_left hx
  simp only [remaining, timeoutList_add, hrun, elemTick_add_of_ne timer d hx, tick_add]

/-- A stopped element that is added has the whole delay left. -/
theorem remaining_add_self {timer : SoftTimer ε} {e : ε} (h : timer.remaining e = none) (d : Int) :
    (timer.softTimerAdd e d).remaining e = some (timer.getSoftTickFromMilsec d).toNat := by
  have hstopped := remaining_eq_none.1 h
  have hto : e ∉ timer.timeoutList := fun hmem => hstopped (Or.inr hmem)
  have hrun : (timer.softTimerAdd e d).Running e := (running_add ..).2 (Or.inr rfl)
  rw [remaining, timeoutList_add, if_neg hto, if_pos hrun, elemTick_add_self timer d hstopped,
    tick_add, UInt32.add_comm, UInt32.add_sub_cancel]

/-- An element restarted has the whole delay left, the others keep theirs. -/
theorem remaining_restart (timer : SoftTimer ε) (e x : ε) (d : Int) :
    ((timer.softTimerDel e).softTimerAdd e d).remaining x =
      if x = e then some (timer.getSoftTickFromMilsec d).toNat else timer.remaining x := by
  split
  · rename_i hx
    rw [hx]
    exact remaining_add_self (by rw [remaining_del, if_pos rfl]) d
  · rename_i hx
    rw [remaining_add_of_ne _ hx, remaining_del, if_neg hx]

/-- A tick takes one off what an element has left; an element with none left is on the timeout
    list. -/
theorem remaining_expire {timer : SoftTimer ε} {e : ε} (h : timer.remaining e ≠ some 0) :
    timer.expire.remaining e = (timer.remaining e).map (· - 1) := by
  by_cases hrun : timer.Running e
  · have hto : e ∉ timer.timeoutList := fun hmem => h (remaining_of_mem_timeoutList hmem)
    have hold : timer.remaining e = some (timer.elemTick e - timer.tick).toNat := by
      rw [remaining, if_neg hto, if_pos hrun]
    have hbucket : e ∈ timer.buckets (bucketOf (timer.elemTick e)) :=
      (mem_bucket_iff timer e).1 (hrun.resolve_right hto)
    have hne : timer.elemTick e ≠ timer.tick := by
      intro heq
      rw [hold, heq, UInt32.sub_self] at h
      exact h rfl
    rw [hold, Option.map_some, ← toNat_sub_succ hne]
    by_cases hdue : timer.elemTick e = timer.tick + 1
    · have hmem : e ∈ timer.expire.timeoutList := by
        rw [hdue] at hbucket
        exact List.mem_append_right _ (List.mem_filter.2 ⟨hbucket, decide_eq_true hdue⟩)
      rw [remaining_of_mem_timeoutList hmem, hdue, UInt32.sub_self]
      rfl
    · have hmem : e ∉ timer.expire.timeoutList := by
        intro hmem
        rcases List.mem_append.1 hmem with hmem | hmem
        · exact hto hmem
        · exact hdue (of_decide_eq_true (List.mem_filter.1 hmem).2)
      rw [remaining, if_neg hmem, if_pos ((running_expire ..).2 hrun), elemTick_expire, tick_expire]
  · have hstopped : ¬ timer.expire.Running e := fun hexp => hrun ((running_expire ..).1 hexp)
    rw [remaining_eq_none.2 hrun, remaining_eq_none.2 hstopped, Option.map_none]

/-- Every element with no tick left is on the timeout list. -/
def Ahead (timer : SoftTimer ε) : Prop := ∀ e, timer.remaining e = some 0 → e ∈ timer.timeoutList

theorem mem_timeoutList_expire {timer : SoftTimer ε} {e : ε} (h : timer.remaining e ≠ some 0) :
    e ∈ timer.expire.timeoutList ↔ timer.remaining e = some 1 := by
  constructor
  · intro hmem
    have hnew := remaining_expire h
    rw [remaining_of_mem_timeoutList hmem] at hnew
    obtain ⟨n, hn, hn0⟩ := Option.map_eq_some_iff.1 hnew.symm
    have hpos : n ≠ 0 := fun h0 => h (h0 ▸ hn)
    rw [hn, show n = 1 by omega]
  · intro hone
    have hrun := running_of_remaining hone
    have hto : e ∉ timer.timeoutList := fun hmem => h (remaining_of_mem_timeoutList hmem)
    have hbucket := (mem_bucket_iff timer e).1 (hrun.resolve_right hto)
    rw [remaining, if_neg hto, if_pos hrun, Option.some_inj] at hone
    have hdue : timer.elemTick e = timer.tick + 1 := by
      have hsub : timer.elemTick e - timer.tick = 1 := UInt32.toNat_inj.1 hone
      rw [← hsub, UInt32.add_comm, UInt32.sub_add_cancel]
    rw [hdue] at hbucket
    exact List.mem_append_right _ (List.mem_filter.2 ⟨hbucket, decide_eq_true hdue⟩)

theorem ahead_init (timer : SoftTimer ε) (r : Int) : (timer.softTimerInit r).Ahead := by
  intro e h
  rw [remaining_init] at h
  exact absurd h (by simp)

theorem Ahead.expire {timer : SoftTimer ε} (h : timer.Ahead) (hempty : timer.timeoutList = []) :
    timer.expire.Ahead := by
  intro e he
  have hne : timer.remaining e ≠ some 0 := by
    intro h0
    have hmem := h e h0
    rw [hempty] at hmem
    exact absurd hmem (List.not_mem_nil)
  rw [mem_timeoutList_expire hne]
  rw [remaining_expire hne] at he
  obtain ⟨n, hn, hn0⟩ := Option.map_eq_some_iff.1 he
  have hpos : n ≠ 0 := fun h0 => hne (h0 ▸ hn)
  rw [hn, show n = 1 by omega]

theorem Ahead.popTimeout {timer : SoftTimer ε} (h : timer.Ahead) {e : ε} {rest : List ε}
    (htop : timer.timeoutList = e :: rest) : timer.popTimeout.Ahead := by
  intro x hx
  rw [remaining_popTimeout htop] at hx
  split at hx
  · exact absurd hx (by simp)
  · rename_i hne
    have hmem := h x hx
    rw [htop] at hmem
    rw [timeoutList_popTimeout, htop]
    exact (List.mem_cons.1 hmem).resolve_left hne

theorem Ahead.del {timer : SoftTimer ε} (h : timer.Ahead) (e : ε) :
    (timer.softTimerDel e).Ahead := by
  intro x hx
  rw [remaining_del] at hx
  split at hx
  · exact absurd hx (by simp)
  · rename_i hne
    exact (List.mem_erase_of_ne hne).2 (h x hx)

theorem Ahead.add {timer : SoftTimer ε} (h : timer.Ahead) (e : ε) {d : Int}
    (hd : 0 < (timer.getSoftTickFromMilsec d).toNat) : (timer.softTimerAdd e d).Ahead := by
  intro x hx
  rw [timeoutList_add]
  by_cases hxe : x = e
  · subst hxe
    cases hrem : timer.remaining x with
    | none =>
        rw [remaining_add_self hrem, Option.some_inj] at hx
        omega
    | some n =>
        rw [softTimerAdd_of_running (running_of_remaining hrem)] at hx
        exact h x hx
  · rw [remaining_add_of_ne _ hxe] at hx
    exact h x hx

/-! ## A wheel at work

A program that adds and deletes elements and drives the wheel, with callbacks that add and delete
elements in their turn. -/

/-- A timeout as `soft_timer_add` takes it: an `int` of at least one millisecond. -/
abbrev Milsec : Type := { d : Int // 1 ≤ d ∧ d < 2 ^ 31 }

/-- What a program and its callbacks do with elements. -/
inductive Cmd (ε : Type)
  | add (e : ε) (expires : Milsec)
  | del (e : ε)

/-- A wheel and whatever else the callbacks look at and change, with two history variables: how often
    the wheel was driven, and what became of its elements, as a log of alarms. -/
structure Driven (ε α : Type) where
  timer : SoftTimer ε
  mem : α
  now : ℕ
  log : List (ℕ × Alarms.Event ε)

namespace Driven

open Alarms

variable {α : Type}

def setTimer (s : Driven ε α) (timer : SoftTimer ε) : Driven ε α := { s with timer := timer }

/-- An entry of the log, made now. -/
def note (s : Driven ε α) (ev : Event ε) : Driven ε α := { s with log := s.log ++ [(s.now, ev)] }

/-- One call of `soft_timer_add` or `soft_timer_del`; what has no effect is not logged. -/
def exec (s : Driven ε α) : Cmd ε → Driven ε α
  | .add e expires =>
    let s' := s.setTimer (s.timer.softTimerAdd e expires)
    if s.timer.isSoftTimerRunning e then s'
    else s'.note (.set e (expires.1.toNat ⌈/⌉ s.timer.tickRate.toNat))
  | .del e =>
    let s' := s.setTimer (s.timer.softTimerDel e)
    if s.timer.isSoftTimerRunning e then s'.note (.cancel e) else s'

/-- The callback of `e`, which does what `script` says. -/
def callback (script : ε → SoftTimer ε → α → List (Cmd ε) × α) (e : ε) (s : Driven ε α) :
    Driven ε α :=
  let r := script e s.timer s.mem
  Runs.run exec ({ s with mem := r.2 }.note (.ring e)) r.1

/-- `soft_timer_drive` -/
def drive (script : ε → SoftTimer ε → α → List (Cmd ε) × α) (s : Driven ε α) : Driven ε α :=
  softTimerDrive timer setTimer (callback script) { s with now := s.now + 1 }

/-- One call of the program, or one tick. -/
inductive Op (ε : Type)
  | cmd (c : Cmd ε)
  | drive

def step (script : ε → SoftTimer ε → α → List (Cmd ε) × α) (s : Driven ε α) : Op ε → Driven ε α
  | .cmd c => s.exec c
  | .drive => s.drive script

/-- A wheel after `soft_timer_init`. -/
def start (timer : SoftTimer ε) (tickRate : Int) (mem : α) : Driven ε α :=
  ⟨timer.softTimerInit tickRate, mem, 0, []⟩

/-- The log accounts for the ticks every element has left. -/
structure Tracked (r : Int) (s : Driven ε α) : Prop where
  rate : s.timer.tickRate = r
  tick : s.timer.tick = UInt32.ofNat s.now
  ahead : s.timer.Ahead
  explained : Explained s.log
  due : ∀ e, pending s.log e = (s.timer.remaining e).map (s.now + ·)

theorem tracked_start (timer : SoftTimer ε) (r : Int) (mem : α) : (start timer r mem).Tracked r where
  rate := rfl
  tick := rfl
  ahead := ahead_init timer r
  explained := explained_nil
  due := by
    intro e
    rw [start, remaining_init]
    rfl

theorem Tracked.setMem {r : Int} {s : Driven ε α} (h : s.Tracked r) (mem : α) :
    Tracked r { s with mem := mem } where
  rate := h.rate
  tick := h.tick
  ahead := h.ahead
  explained := h.explained
  due := h.due

theorem Tracked.add {r : Int} {s : Driven ε α} (hr : 1 ≤ r) (h : s.Tracked r) (e : ε)
    (d : Milsec) : (s.exec (.add e d)).Tracked r := by
  have hdelay : (s.timer.getSoftTickFromMilsec d).toNat = d.1.toNat ⌈/⌉ s.timer.tickRate.toNat :=
    getSoftTickFromMilsec_eq s.timer (by rw [h.rate]; exact hr) d.2.1 d.2.2
  have hpos : 0 < d.1.toNat ⌈/⌉ s.timer.tickRate.toNat := by
    have hd := d.2.1
    have hrate := h.rate
    exact ceilDiv_pos (by omega) (by omega)
  simp only [exec]
  split
  · rename_i hrun
    rw [softTimerAdd_of_running (of_decide_eq_true hrun)]
    exact h
  · rename_i hrun
    have hstopped : s.timer.remaining e = none :=
      remaining_eq_none.2 fun h => hrun (decide_eq_true h)
    refine ⟨(tickRate_add ..).trans h.rate, (tick_add ..).trans h.tick,
      h.ahead.add e (by rw [hdelay]; exact hpos), h.explained.concat ?_, fun x => ?_⟩
    · show pending s.log e = none
      rw [h.due, hstopped]
      rfl
    · show pending (s.log ++ [(s.now, _)]) x = ((s.timer.softTimerAdd e d).remaining x).map (s.now + ·)
      rw [pending_concat]
      by_cases hx : x = e
      · subst hx
        rw [remaining_add_self hstopped, hdelay]
        exact if_pos rfl
      · rw [remaining_add_of_ne _ hx, ← h.due]
        exact if_neg (Ne.symm hx)

theorem Tracked.del {r : Int} {s : Driven ε α} (h : s.Tracked r) (e : ε) :
    (s.exec (.del e)).Tracked r := by
  have hpending : ∀ x, (if x = e then none else pending s.log x) =
      ((s.timer.softTimerDel e).remaining x).map (s.now + ·) := by
    intro x
    rw [remaining_del]
    split
    · rfl
    · exact h.due x
  simp only [exec]
  split
  · rename_i hrun
    obtain ⟨n, hn⟩ := exists_remaining (of_decide_eq_true hrun)
    refine ⟨h.rate, h.tick, h.ahead.del e, h.explained.concat ?_, fun x => ?_⟩
    · refine ⟨s.now + n, ?_, Nat.le_add_right ..⟩
      show pending s.log e = _
      rw [h.due, hn]
      rfl
    · show pending (s.log ++ [(s.now, _)]) x = ((s.timer.softTimerDel e).remaining x).map (s.now + ·)
      rw [← hpending, pending_concat]
      by_cases hx : x = e
      · rw [hx, if_pos rfl]
        exact if_pos rfl
      · rw [if_neg hx]
        exact if_neg (Ne.symm hx)
  · rename_i hrun
    refine ⟨h.rate, h.tick, h.ahead.del e, h.explained, fun x => ?_⟩
    show pending s.log x = ((s.timer.softTimerDel e).remaining x).map (s.now + ·)
    rw [← hpending]
    split
    · rename_i hx
      have hstopped : s.timer.remaining e = none :=
        remaining_eq_none.2 fun h => hrun (decide_eq_true h)
      rw [hx, h.due, hstopped]
      rfl
    · rfl

theorem Tracked.exec {r : Int} {s : Driven ε α} (hr : 1 ≤ r) (h : s.Tracked r) (c : Cmd ε) :
    (s.exec c).Tracked r := by
  cases c with
  | add e d => exact h.add hr e d
  | del e => exact h.del e

/-- An element that fires has no tick left. -/
theorem Tracked.ring {r : Int} {s : Driven ε α} (h : s.Tracked r) {e : ε} {rest : List ε}
    (htop : s.timer.timeoutList = e :: rest) :
    ((s.setTimer s.timer.popTimeout).note (.ring e)).Tracked r := by
  have hdue : s.timer.remaining e = some 0 :=
    remaining_of_mem_timeoutList (htop ▸ List.mem_cons_self ..)
  refine ⟨h.rate, h.tick, h.ahead.popTimeout htop, h.explained.concat ?_, fun x => ?_⟩
  · show pending s.log e = some s.now
    rw [h.due, hdue]
    rfl
  · show pending (s.log ++ [(s.now, _)]) x = (s.timer.popTimeout.remaining x).map (s.now + ·)
    rw [pending_concat, remaining_popTimeout htop]
    by_cases hx : x = e
    · simp [follow, hx]
    · rw [if_neg hx, ← h.due]
      exact if_neg (Ne.symm hx)

theorem Tracked.callback {r : Int} {s : Driven ε α} (hr : 1 ≤ r) (h : s.Tracked r) {e : ε}
    {rest : List ε} (htop : s.timer.timeoutList = e :: rest)
    (script : ε → SoftTimer ε → α → List (Cmd ε) × α) :
    (callback script e (s.setTimer s.timer.popTimeout)).Tracked r := by
  have hring := (h.ring htop).setMem (script e s.timer.popTimeout s.mem).2
  have hexec : ∀ (s : Driven ε α) c, s.Tracked r → (s.exec c).Tracked r :=
    fun s c h => h.exec hr c
  exact Runs.run_invariant hexec hring _

theorem Tracked.expire {r : Int} {s : Driven ε α} (h : s.Tracked r)
    (hempty : s.timer.timeoutList = []) :
    Tracked r (setTimer { s with now := s.now + 1 } s.timer.expire) := by
  refine ⟨h.rate, ?_, h.ahead.expire hempty, h.explained, fun e => ?_⟩
  · show s.timer.tick + 1 = UInt32.ofNat (s.now + 1)
    rw [h.tick, UInt32.ofNat_add]
    rfl
  · have hne : s.timer.remaining e ≠ some 0 := by
      intro h0
      have hmem := h.ahead e h0
      rw [hempty] at hmem
      exact absurd hmem List.not_mem_nil
    show pending s.log e = (s.timer.expire.remaining e).map (s.now + 1 + ·)
    rw [h.due, remaining_expire hne]
    cases hrem : s.timer.remaining e with
    | none => rfl
    | some n =>
        have hn : n ≠ 0 := fun h0 => hne (h0 ▸ hrem)
        simp only [Option.map_some, Option.some_inj]
        omega

theorem timeoutList_exec_length (s : Driven ε α) (c : Cmd ε) :
    (s.exec c).timer.timeoutList.length ≤ s.timer.timeoutList.length := by
  cases c with
  | add e d =>
      have hsame : (s.exec (.add e d)).timer.timeoutList = s.timer.timeoutList := by
        simp only [exec]
        split <;> exact timeoutList_add ..
      rw [hsame]
  | del e =>
      have herase : (s.exec (.del e)).timer.timeoutList = s.timer.timeoutList.erase e := by
        simp only [exec]
        split <;> rfl
      rw [herase]
      exact List.length_erase_le

theorem timeoutList_callback_length (script : ε → SoftTimer ε → α → List (Cmd ε) × α) (e : ε)
    (s : Driven ε α) :
    (callback script e s).timer.timeoutList.length ≤ s.timer.timeoutList.length := by
  have hstep : ∀ (t : Driven ε α) c, t.timer.timeoutList.length ≤ s.timer.timeoutList.length →
      (t.exec c).timer.timeoutList.length ≤ s.timer.timeoutList.length :=
    fun t c h => (t.timeoutList_exec_length c).trans h
  have hring : (note { s with mem := (script e s.timer s.mem).2 } (.ring e)).timer.timeoutList.length
      ≤ s.timer.timeoutList.length := Nat.le_refl _
  exact Runs.run_invariant hstep hring _

/-- Between two calls, every due element has fired. -/
structure Settled (r : Int) (s : Driven ε α) : Prop where
  tracked : s.Tracked r
  empty : s.timer.timeoutList = []

theorem Settled.drive {r : Int} {s : Driven ε α} (hr : 1 ≤ r) (h : s.Settled r)
    (script : ε → SoftTimer ε → α → List (Cmd ε) × α) : (s.drive script).Settled r where
  tracked := SoftTimer.softTimerDrive_invariant (P := Tracked r) (h.tracked.expire h.empty)
    fun _ _ _ htop h => h.callback hr htop script
  empty := timeoutList_softTimerDrive (fun _ _ => rfl) (timeoutList_callback_length script) _

theorem Settled.step {r : Int} {s : Driven ε α} (hr : 1 ≤ r) (h : s.Settled r)
    (script : ε → SoftTimer ε → α → List (Cmd ε) × α) (op : Op ε) :
    (s.step script op).Settled r := by
  cases op with
  | cmd c =>
      have hlen := s.timeoutList_exec_length c
      rw [h.empty] at hlen
      exact ⟨h.tracked.exec hr c, List.length_eq_zero_iff.1 (Nat.le_zero.1 hlen)⟩
  | drive => exact h.drive hr script

theorem settled_run {r : Int} (hr : 1 ≤ r) (timer : SoftTimer ε)
    (script : ε → SoftTimer ε → α → List (Cmd ε) × α) (mem : α) (ops : List (Op ε)) :
    (Runs.run (step script) (start timer r mem) ops).Settled r :=
  Runs.run_invariant (fun _ op h => h.step hr script op) ⟨tracked_start timer r mem, rfl⟩ ops

/-- Whatever a program and its callbacks add and delete, every element that is added while it is
    stopped fires exactly once, at the tick its delay rounds up to, unless it is deleted before; no
    other element fires; and adding a running element changes nothing. -/
theorem fires_on_time {r : Int} (hr : 1 ≤ r) (timer : SoftTimer ε)
    (script : ε → SoftTimer ε → α → List (Cmd ε) × α) (mem : α) (ops : List (Op ε)) :
    let s := Runs.run (step script) (start timer r mem) ops
    OnTime s.log s.now ∧ s.timer.tick = UInt32.ofNat s.now ∧
      (∀ e, s.timer.Running e ↔ (pending s.log e).isSome) ∧
      ∀ (t : Driven ε α) e d, t.timer.Running e → t.exec (.add e d) = t := by
  obtain ⟨h, hempty⟩ := settled_run hr timer script mem ops
  generalize Runs.run (step script) (start timer r mem) ops = s at h hempty
  refine ⟨h.explained.onTime fun e due hdue => ?_, h.tick, fun e => ?_, fun t e d hrun => ?_⟩
  · rw [h.due] at hdue
    obtain ⟨n, hn, rfl⟩ := Option.map_eq_some_iff.1 hdue
    have hne : n ≠ 0 := by
      rintro rfl
      have hmem := h.ahead e hn
      rw [hempty] at hmem
      exact absurd hmem List.not_mem_nil
    omega
  · rw [h.due, Option.isSome_map, Option.isSome_iff_ne_none, ne_eq, remaining_eq_none, not_not]
  · rw [exec, softTimerAdd_of_running hrun]
    exact if_pos (decide_eq_true hrun)

/-- Two elements due at the same tick: the first, when it fires, deletes the second and adds itself
    again, with a timeout of one and a half ticks. -/
def rivals (e : Fin 2) (_ : SoftTimer (Fin 2)) (_ : Unit) : List (Cmd (Fin 2)) × Unit :=
  if e = 0 then ([.del 1, .add 0 ⟨150, by decide⟩], ()) else ([], ())

theorem fires_on_time_rivals :
    let s := Runs.run (step rivals)
      (start ⟨0, 0, fun _ => 0, fun _ => [], [], by simp, by simp, by simp, by simp⟩ 100 ())
      [.cmd (.add 0 ⟨100, by decide⟩), .cmd (.add 1 ⟨1, by decide⟩), .drive, .drive, .drive]
    s.log = [(0, .set 0 1), (0, .set 1 1), (1, .ring 0), (1, .cancel 1), (1, .set 0 2),
      (3, .ring 0), (3, .set 0 2)] ∧ OnTime s.log s.now :=
  ⟨by decide +kernel, (fires_on_time (by decide) _ _ _ _).1⟩

end Driven

end SoftTimer
