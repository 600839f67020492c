import Mathlib.Logic.Function.Basic
import Mathlib.Data.List.Nodup
import Mathlib.Data.Fintype.Basic
import Mathlib.Tactic.Common

set_option autoImplicit false

/-! # The timer wheel (`soft_timer.c`, `soft_timer.h`)

Eight buckets of timer elements, an element due at tick `T` in bucket `T % 8`. An element is
*running* when its link is on some list: a bucket, or the local `timeout_list` of `timer_tick`,
which is part of the state here because callbacks may delete elements that are on it.

The intrusive lists are lists of element names. What the links guarantee is part of the type: an
element is on at most one list, at most once, and in the bucket its tick selects. -/

/-- `SOFT_TIMER_NUM_BUCKETS` -/
abbrev numBuckets : Nat := 8

/-- `SoftTimer`, over the names `ε` of the timer elements, with each element's `tick` field. -/
@[ext] structure SoftTimer (ε : Type) where
  tickRate : Int
  tick : UInt32
  elemTick : ε → UInt32
  buckets : Fin numBuckets → List ε
  timeoutList : List ε
  placed : ∀ b e, e ∈ buckets b → (elemTick e).toNat % numBuckets = b
  bucketsNodup : ∀ b, (buckets b).Nodup
  timeoutNodup : timeoutList.Nodup
  disjoint : ∀ b e, e ∈ buckets b → e ∉ timeoutList

namespace SoftTimer

variable {ε : Type}

/-- The bucket an element with this tick belongs to. -/
def bucketOf (t : UInt32) : Fin numBuckets := ⟨t.toNat % numBuckets, Nat.mod_lt _ (by decide)⟩

/-- `soft_timer_init`: the `tick` fields of the elements are left as they are in memory. -/
def softTimerInit (timer : SoftTimer ε) (tickRate : Int) : SoftTimer ε :=
  ⟨tickRate, 0, timer.elemTick, fun _ => [], [], by simp, by simp, by simp, by simp⟩

/-- `get_soft_tick_from_milsec` (C division: towards zero). -/
def getSoftTickFromMilsec (timer : SoftTimer ε) (milsec : Int) : UInt32 :=
  let tick := UInt32.ofInt (milsec.tdiv timer.tickRate)
  if milsec.tmod timer.tickRate ≠ 0 then tick + 1 else tick

/-- `soft_timer_get_tick_time`: an `unsigned int` product, widened only afterwards. -/
def softTimerGetTickTime (timer : SoftTimer ε) : Nat :=
  (timer.tick * UInt32.ofInt timer.tickRate).toNat

/-- The element is linked on some list. -/
def Running (timer : SoftTimer ε) (e : ε) : Prop :=
  (∃ b, e ∈ timer.buckets b) ∨ e ∈ timer.timeoutList

theorem mem_bucket_iff (timer : SoftTimer ε) (e : ε) :
    (∃ b, e ∈ timer.buckets b) ↔ e ∈ timer.buckets (bucketOf (timer.elemTick e)) := by
  constructor
  · rintro ⟨b, hb⟩
    have hplaced : bucketOf (timer.elemTick e) = b := Fin.ext (timer.placed b e hb)
    rwa [hplaced]
  · exact fun h => ⟨_, h⟩

/-- The first half of `timer_tick`: advance the counter and move every due element of the current
    bucket to the timeout list, in bucket order. -/
def expire (timer : SoftTimer ε) : SoftTimer ε :=
  let tick := timer.tick + 1
  let due := (timer.buckets (bucketOf tick)).filter fun e => timer.elemTick e = tick
  { timer with
    tick := tick
    buckets := Function.update timer.buckets (bucketOf tick)
      ((timer.buckets (bucketOf tick)).filter fun e => timer.elemTick e ≠ tick)
    timeoutList := timer.timeoutList ++ due
    placed := by
      intro b x hx
      by_cases hb : b = bucketOf tick
      · subst hb
        rw [Function.update_self] at hx
        exact timer.placed _ x (List.mem_of_mem_filter hx)
      · rw [Function.update_of_ne hb] at hx
        exact timer.placed b x hx
    bucketsNodup := by
      intro b
      by_cases hb : b = bucketOf tick
      · subst hb
        rw [Function.update_self]
        exact (timer.bucketsNodup _).filter _
      · rw [Function.update_of_ne hb]
        exact timer.bucketsNodup b
    timeoutNodup := by
      rw [List.nodup_append]
      refine ⟨timer.timeoutNodup, (timer.bucketsNodup _).filter _, ?_⟩
      rintro a ha b hb rfl
      exact timer.disjoint _ a (List.mem_of_mem_filter hb) ha
    disjoint := by
      intro b x hx hto
      have hxb : x ∈ timer.buckets b := by
        by_cases hb : b = bucketOf tick
        · subst hb
          rw [Function.update_self] at hx
          exact List.mem_of_mem_filter hx
        · rwa [Function.update_of_ne hb] at hx
      rcases List.mem_append.1 hto with hto | hto
      · exact timer.disjoint b x hxb hto
      · obtain ⟨hx', hdue⟩ := List.mem_filter.1 hto
        have hb : b = bucketOf tick :=
          Fin.ext ((timer.placed b x hxb).symm.trans (timer.placed _ x hx'))
        subst hb
        rw [Function.update_self, List.mem_filter] at hx
        simp_all }

/-- `list_del_init` of the first element of the timeout list. -/
def popTimeout (timer : SoftTimer ε) : SoftTimer ε :=
  { timer with
    timeoutList := timer.timeoutList.tail
    timeoutNodup := timer.timeoutNodup.tail
    disjoint := fun b e hb hto => timer.disjoint b e hb (List.mem_of_mem_tail hto) }

@[simp] theorem not_running_init (timer : SoftTimer ε) (r : Int) (e : ε) :
    ¬ (timer.softTimerInit r).Running e := by
  simp [Running, softTimerInit]

theorem running_expire (timer : SoftTimer ε) (x : ε) :
    timer.expire.Running x ↔ timer.Running x := by
  simp only [Running, expire]
  constructor
  · rintro (⟨b, hb⟩ | hto)
    · by_cases hbt : b = bucketOf (timer.tick + 1)
      · subst hbt
        rw [Function.update_self] at hb
        exact Or.inl ⟨_, List.mem_of_mem_filter hb⟩
      · rw [Function.update_of_ne hbt] at hb
        exact Or.inl ⟨b, hb⟩
    · exact (List.mem_append.1 hto).elim Or.inr fun h => Or.inl ⟨_, List.mem_of_mem_filter h⟩
  · rintro (⟨b, hb⟩ | hto)
    · by_cases hbt : b = bucketOf (timer.tick + 1)
      · subst hbt
        by_cases hdue : timer.elemTick x = timer.tick + 1
        · exact Or.inr (List.mem_append_right _ (List.mem_filter.2 ⟨hb, by simp [hdue]⟩))
        · refine Or.inl ⟨bucketOf (timer.tick + 1), ?_⟩
          rw [Function.update_self]
          exact List.mem_filter.2 ⟨hb, by simp [hdue]⟩
      · exact Or.inl ⟨b, by rwa [Function.update_of_ne hbt]⟩
    · exact Or.inr (List.mem_append_left _ hto)

/-- Where nothing runs, nothing is due. -/
theorem timeoutList_expire_of_idle {timer : SoftTimer ε} (hidle : ∀ e, ¬ timer.Running e) :
    timer.expire.timeoutList = [] := by
  rw [List.eq_nil_iff_forall_not_mem]
  intro e he
  exact hidle e ((running_expire timer e).1 (Or.inr he))

/-- Popping the head of the timeout list stops that element and no other. -/
theorem running_popTimeout {timer : SoftTimer ε} {e : ε} {rest : List ε}
    (h : timer.timeoutList = e :: rest) (x : ε) :
    timer.popTimeout.Running x ↔ timer.Running x ∧ x ≠ e := by
  have hnodup := timer.timeoutNodup
  rw [h, List.nodup_cons] at hnodup
  have hdisj : ∀ b, e ∉ timer.buckets b := fun b hb =>
    timer.disjoint b e hb (h ▸ List.mem_cons_self ..)
  simp only [Running, popTimeout, h, List.tail_cons, List.mem_cons]
  constructor
  · rintro (⟨b, hb⟩ | hto)
    · exact ⟨Or.inl ⟨b, hb⟩, fun hxe => hdisj b (hxe ▸ hb)⟩
    · exact ⟨Or.inr (Or.inr hto), fun hxe => hnodup.1 (hxe ▸ hto)⟩
  · rintro ⟨⟨b, hb⟩ | hto, hne⟩
    · exact Or.inl ⟨b, hb⟩
    · exact Or.inr (hto.resolve_left hne)

@[simp] theorem tick_expire (timer : SoftTimer ε) : timer.expire.tick = timer.tick + 1 := rfl

@[simp] theorem tickRate_expire (timer : SoftTimer ε) :
    timer.expire.tickRate = timer.tickRate := rfl

@[simp] theorem elemTick_expire (timer : SoftTimer ε) :
    timer.expire.elemTick = timer.elemTick := rfl

@[simp] theorem tick_popTimeout (timer : SoftTimer ε) :
    timer.popTimeout.tick = timer.tick := rfl

@[simp] theorem tickRate_popTimeout (timer : SoftTimer ε) :
    timer.popTimeout.tickRate = timer.tickRate := rfl

@[simp] theorem elemTick_popTimeout (timer : SoftTimer ε) :
    timer.popTimeout.elemTick = timer.elemTick := rfl

@[simp] theorem timeoutList_popTimeout (timer : SoftTimer ε) :
    timer.popTimeout.timeoutList = timer.timeoutList.tail := rfl

/-! ## Driving the wheel

`soft_timer_drive` over a state `σ` that holds a wheel, with `cb e` the callback of element `e`. -/

section Drive

variable {σ : Type} (timer : σ → SoftTimer ε) (setTimer : σ → SoftTimer ε → σ) (cb : ε → σ → σ)

/-- The second half of `timer_tick`: pop the timeout list and call back until it is empty. No
    callback extends the list, so its length bounds the number of rounds. -/
def fireTimeouts : Nat → σ → σ
  | 0, s => s
  | n + 1, s =>
    match (timer s).timeoutList with
    | [] => s
    | e :: _ => fireTimeouts n (cb e (setTimer s (timer s).popTimeout))

/-- `soft_timer_drive` -/
def softTimerDrive (s : σ) : σ :=
  let s' := setTimer s (timer s).expire
  fireTimeouts timer setTimer cb (timer s').timeoutList.length s'

/-- The callbacks `fireTimeouts` makes, each with the state it is called in. -/
def firings : Nat → σ → List (ε × σ)
  | 0, _ => []
  | n + 1, s =>
    match (timer s).timeoutList with
    | [] => []
    | e :: _ =>
      let s' := setTimer s (timer s).popTimeout
      (e, s') :: firings n (cb e s')

/-- The callbacks of one `soft_timer_drive`. -/
def driveFirings (s : σ) : List (ε × σ) :=
  let s' := setTimer s (timer s).expire
  firings timer setTimer cb (timer s').timeoutList.length s'

variable {timer setTimer cb}

/-- The invariant rule for the callback loop: `P` need only be kept by popping the head of the
    timeout list and running its callback, where the callbacks of the loop meet `G`. -/
theorem fireTimeouts_invariant {P : σ → Prop} {G : ε → σ → Prop}
    (hfire : ∀ e s rest, (timer s).timeoutList = e :: rest → P s →
      G e (setTimer s (timer s).popTimeout) → P (cb e (setTimer s (timer s).popTimeout)))
    {n : Nat} {s : σ} (hguard : ∀ p ∈ firings timer setTimer cb n s, G p.1 p.2) (hinit : P s) :
    P (fireTimeouts timer setTimer cb n s) := by
  induction n generalizing s with
  | zero => exact hinit
  | succ n ih =>
      simp only [fireTimeouts]
      simp only [firings] at hguard
      split at hguard
      · exact hinit
      · rename_i e rest h
        simp only [List.mem_cons, forall_eq_or_imp] at hguard
        exact ih hguard.2 (hfire e s rest h hinit hguard.1)

/-- The states in which the loop calls back: each is one that satisfies `P`, with the head of its
    timeout list popped. -/
theorem firings_invariant {P : σ → Prop} {G : ε → σ → Prop}
    (hfire : ∀ e s rest, (timer s).timeoutList = e :: rest → P s →
      G e (setTimer s (timer s).popTimeout) → P (cb e (setTimer s (timer s).popTimeout)))
    {n : Nat} {s : σ} (hguard : ∀ p ∈ firings timer setTimer cb n s, G p.1 p.2) (hinit : P s) :
    ∀ p ∈ firings timer setTimer cb n s, ∃ t rest, P t ∧ (timer t).timeoutList = p.1 :: rest ∧
      p.2 = setTimer t (timer t).popTimeout := by
  induction n generalizing s with
  | zero => simp [firings]
  | succ n ih =>
      simp only [firings] at hguard ⊢
      split at hguard
      · simp
      · rename_i e rest h
        simp only [List.mem_cons, forall_eq_or_imp] at hguard ⊢
        exact ⟨⟨s, rest, hinit, h, rfl⟩, ih hguard.2 (hfire e s rest h hinit hguard.1)⟩

/-- The invariant rule for a drive of the wheel: what holds once the due elements have expired, and is
    kept by every callback, holds at the end. -/
theorem softTimerDrive_invariant {P : σ → Prop} {s : σ} (hexpired : P (setTimer s (timer s).expire))
    (hfire : ∀ e t rest, (timer t).timeoutList = e :: rest → P t →
      P (cb e (setTimer t (timer t).popTimeout))) :
    P (softTimerDrive timer setTimer cb s) :=
  fireTimeouts_invariant (G := fun _ _ => True) (fun e t rest htop ht _ => hfire e t rest htop ht)
    (fun _ _ => trivial) hexpired

/-- The invariant rule for the callback loop with a history variable, of which `note` is what a
    callback makes. -/
theorem fireTimeouts_history {γ : Type} {note : γ → σ → ε → γ} {P : γ → σ → Prop}
    {G : ε → σ → Prop}
    (hfire : ∀ g e s rest, (timer s).timeoutList = e :: rest → P g s →
      G e (setTimer s (timer s).popTimeout) →
      P (note g (setTimer s (timer s).popTimeout) e) (cb e (setTimer s (timer s).popTimeout)))
    {n : Nat} {g : γ} {s : σ} (hguard : ∀ p ∈ firings timer setTimer cb n s, G p.1 p.2)
    (hinit : P g s) :
    P ((firings timer setTimer cb n s).foldl (fun g p => note g p.2 p.1) g)
      (fireTimeouts timer setTimer cb n s) := by
  induction n generalizing g s with
  | zero => exact hinit
  | succ n ih =>
      simp only [fireTimeouts, firings]
      simp only [firings] at hguard
      split at hguard
      · exact hinit
      · rename_i e rest h
        simp only [List.mem_cons, forall_eq_or_imp] at hguard
        exact ih hguard.2 (hfire g e s rest h hinit hguard.1)

/-- The simulation rule for the callback loop: two states with the same wheel make the same
    callbacks. -/
theorem fireTimeouts_simulation {R : σ → σ → Prop} (htimer : ∀ s t, R s t → timer s = timer t)
    (hfire : ∀ e s t rest, (timer s).timeoutList = e :: rest → R s t →
      R (cb e (setTimer s (timer s).popTimeout)) (cb e (setTimer t (timer t).popTimeout)))
    {n : Nat} {s t : σ} (hinit : R s t) :
    R (fireTimeouts timer setTimer cb n s) (fireTimeouts timer setTimer cb n t) := by
  induction n generalizing s t with
  | zero => exact hinit
  | succ n ih =>
      simp only [fireTimeouts]
      have hwheel := htimer s t hinit
      rw [← hwheel]
      split
      · exact hinit
      · rename_i e rest h
        have hnext := hfire e s t rest h hinit
        rw [← hwheel] at hnext
        exact ih hnext

/-- The simulation rule for a drive of the wheel. -/
theorem softTimerDrive_simulation {R : σ → σ → Prop} (htimer : ∀ s t, R s t → timer s = timer t)
    (hexpire : ∀ s t, R s t → R (setTimer s (timer s).expire) (setTimer t (timer t).expire))
    (hfire : ∀ e s t rest, (timer s).timeoutList = e :: rest → R s t →
      R (cb e (setTimer s (timer s).popTimeout)) (cb e (setTimer t (timer t).popTimeout)))
    {s t : σ} (hinit : R s t) :
    R (softTimerDrive timer setTimer cb s) (softTimerDrive timer setTimer cb t) := by
  have hstart := hexpire s t hinit
  simp only [softTimerDrive]
  rw [← htimer _ _ hstart]
  exact fireTimeouts_simulation htimer hfire hstart

/-- The loop ends because the timeout list is empty, not because it ran out of rounds. -/
theorem timeoutList_fireTimeouts (hlens : ∀ s t, timer (setTimer s t) = t)
    (hcb : ∀ e s, (timer (cb e s)).timeoutList.length ≤ (timer s).timeoutList.length)
    {n : Nat} {s : σ} (hn : (timer s).timeoutList.length ≤ n) :
    (timer (fireTimeouts timer setTimer cb n s)).timeoutList = [] := by
  induction n generalizing s with
  | zero => exact List.eq_nil_of_length_eq_zero (Nat.le_zero.1 hn)
  | succ n ih =>
      simp only [fireTimeouts]
      split
      · assumption
      · rename_i e rest h
        have hpop : (timer (setTimer s (timer s).popTimeout)).timeoutList = rest := by
          rw [hlens, timeoutList_popTimeout, h, List.tail_cons]
        have hle := hcb e (setTimer s (timer s).popTimeout)
        rw [hpop] at hle
        rw [h, List.length_cons] at hn
        exact ih (by omega)

theorem timeoutList_softTimerDrive (hlens : ∀ s t, timer (setTimer s t) = t)
    (hcb : ∀ e s, (timer (cb e s)).timeoutList.length ≤ (timer s).timeoutList.length) (s : σ) :
    (timer (softTimerDrive timer setTimer cb s)).timeoutList = [] :=
  timeoutList_fireTimeouts hlens hcb (Nat.le_refl _)

/-- A wheel on which nothing runs calls nobody back. -/
theorem driveFirings_of_idle (hlens : ∀ s t, timer (setTimer s t) = t) {s : σ}
    (hidle : ∀ e, ¬ (timer s).Running e) : driveFirings timer setTimer cb s = [] := by
  simp only [driveFirings]
  rw [hlens, timeoutList_expire_of_idle hidle]
  rfl

theorem softTimerDrive_of_idle (hlens : ∀ s t, timer (setTimer s t) = t) {s : σ}
    (hidle : ∀ e, ¬ (timer s).Running e) :
    softTimerDrive timer setTimer cb s = setTimer s (timer s).expire := by
  simp only [softTimerDrive]
  rw [hlens, timeoutList_expire_of_idle hidle]
  rfl

end Drive

/-! ## Adding and deleting elements -/

variable [DecidableEq ε]

instance (timer : SoftTimer ε) (e : ε) : Decidable (timer.Running e) :=
  decidable_of_iff
    (e ∈ timer.buckets (bucketOf (timer.elemTick e)) ∨ e ∈ timer.timeoutList)
    (by rw [Running, mem_bucket_iff])

/-- `is_soft_timer_running` -/
def isSoftTimerRunning (timer : SoftTimer ε) (e : ε) : Bool := decide (timer.Running e)

/-- `soft_timer_add`: nothing happens if the element is already running. -/
def softTimerAdd (timer : SoftTimer ε) (e : ε) (expires : Int) : SoftTimer ε :=
  if h : timer.Running e then timer
  else
    let t := timer.tick + timer.getSoftTickFromMilsec expires
    have hbucket : ∀ b, e ∉ timer.buckets b := fun b hb => h (Or.inl ⟨b, hb⟩)
    { timer with
      elemTick := Function.update timer.elemTick e t
      buckets := Function.update timer.buckets (bucketOf t) (timer.buckets (bucketOf t) ++ [e])
      placed := by
        intro b x hx
        by_cases hxe : x = e
        · subst hxe
          rw [Function.update_self]
          by_cases hb : b = bucketOf t
          · rw [hb]; rfl
          · rw [Function.update_of_ne hb] at hx
            exact absurd hx (hbucket b)
        · rw [Function.update_of_ne hxe]
          by_cases hb : b = bucketOf t
          · subst hb
            rw [Function.update_self] at hx
            exact timer.placed _ x (by simpa [hxe] using hx)
          · rw [Function.update_of_ne hb] at hx
            exact timer.placed b x hx
      bucketsNodup := by
        intro b
        by_cases hb : b = bucketOf t
        · subst hb
          rw [Function.update_self]
          rw [← List.concat_eq_append]
          exact (timer.bucketsNodup _).concat (hbucket _)
        · rw [Function.update_of_ne hb]
          exact timer.bucketsNodup b
      disjoint := by
        intro b x hx
        by_cases hb : b = bucketOf t
        · subst hb
          rw [Function.update_self, List.mem_append, List.mem_singleton] at hx
          rcases hx with hx | rfl
          · exact timer.disjoint _ x hx
          · exact fun hto => h (Or.inr hto)
        · rw [Function.update_of_ne hb] at hx
          exact timer.disjoint b x hx }

/-- `soft_timer_del`: unlink the element from whatever list it is on. -/
def softTimerDel (timer : SoftTimer ε) (e : ε) : SoftTimer ε :=
  { timer with
    buckets := fun b => (timer.buckets b).erase e
    timeoutList := timer.timeoutList.erase e
    placed := fun b x hx => timer.placed b x (List.mem_of_mem_erase hx)
    bucketsNodup := fun b => (timer.bucketsNodup b).erase e
    timeoutNodup := timer.timeoutNodup.erase e
    disjoint := fun b x hx hto =>
      timer.disjoint b x (List.mem_of_mem_erase hx) (List.mem_of_mem_erase hto) }

theorem running_add (timer : SoftTimer ε) (e x : ε) (d : Int) :
    (timer.softTimerAdd e d).Running x ↔ timer.Running x ∨ x = e := by
  unfold softTimerAdd
  split
  · rename_i h
    exact ⟨Or.inl, fun hx => hx.elim id fun hxe => hxe ▸ h⟩
  · simp only [Running]
    constructor
    · rintro (⟨b, hb⟩ | hto)
      · by_cases hbt : b = bucketOf (timer.tick + timer.getSoftTickFromMilsec d)
        · subst hbt
          rw [Function.update_self, List.mem_append, List.mem_singleton] at hb
          exact hb.imp (fun h => Or.inl ⟨_, h⟩) id
        · rw [Function.update_of_ne hbt] at hb
          exact Or.inl (Or.inl ⟨b, hb⟩)
      · exact Or.inl (Or.inr hto)
    · rintro ((⟨b, hb⟩ | hto) | rfl)
      · refine Or.inl ⟨b, ?_⟩
        by_cases hbt : b = bucketOf (timer.tick + timer.getSoftTickFromMilsec d)
        · subst hbt
          rw [Function.update_self]
          exact List.mem_append_left _ hb
        · rwa [Function.update_of_ne hbt]
      · exact Or.inr hto
      · exact Or.inl ⟨_, by rw [Function.update_self]; simp⟩

theorem running_del (timer : SoftTimer ε) (e x : ε) :
    (timer.softTimerDel e).Running x ↔ timer.Running x ∧ x ≠ e := by
  simp only [Running, softTimerDel, (timer.bucketsNodup _).mem_erase_iff,
    timer.timeoutNodup.mem_erase_iff]
  constructor
  · rintro (⟨b, hne, hb⟩ | ⟨hne, hto⟩)
    · exact ⟨Or.inl ⟨b, hb⟩, hne⟩
    · exact ⟨Or.inr hto, hne⟩
  · rintro ⟨⟨b, hb⟩ | hto, hne⟩
    · exact Or.inl ⟨b, hne, hb⟩
    · exact Or.inr ⟨hne, hto⟩

/-- Deleting some elements stops these and no other. -/
theorem running_foldl_del (timer : SoftTimer ε) (es : List ε) (x : ε) :
    (es.foldl softTimerDel timer).Running x ↔ timer.Running x ∧ x ∉ es := by
  induction es generalizing timer with
  | nil => simp
  | cons e es ih => rw [List.foldl_cons, ih, running_del, List.mem_cons, not_or, and_assoc]

theorem elemTick_add_of_ne (timer : SoftTimer ε) {e x : ε} (d : Int) (h : x ≠ e) :
    (timer.softTimerAdd e d).elemTick x = timer.elemTick x := by
  unfold softTimerAdd
  split
  · rfl
  · exact Function.update_of_ne h ..

/-- A stopped element that is added expires the given time from now. -/
theorem elemTick_add_self (timer : SoftTimer ε) {e : ε} (d : Int) (h : ¬ timer.Running e) :
    (timer.softTimerAdd e d).elemTick e = timer.tick + timer.getSoftTickFromMilsec d := by
  unfold softTimerAdd
  rw [dif_neg h]
  exact Function.update_self ..

@[simp] theorem tick_add (timer : SoftTimer ε) (e : ε) (d : Int) :
    (timer.softTimerAdd e d).tick = timer.tick := by
  unfold softTimerAdd; split <;> rfl

@[simp] theorem tickRate_add (timer : SoftTimer ε) (e : ε) (d : Int) :
    (timer.softTimerAdd e d).tickRate = timer.tickRate := by
  unfold softTimerAdd; split <;> rfl

@[simp] theorem timeoutList_add (timer : SoftTimer ε) (e : ε) (d : Int) :
    (timer.softTimerAdd e d).timeoutList = timer.timeoutList := by
  unfold softTimerAdd; split <;> rfl

@[simp] theorem tick_del (timer : SoftTimer ε) (e : ε) :
    (timer.softTimerDel e).tick = timer.tick := rfl

@[simp] theorem tickRate_del (timer : SoftTimer ε) (e : ε) :
    (timer.softTimerDel e).tickRate = timer.tickRate := rfl

@[simp] theorem elemTick_del (timer : SoftTimer ε) (e : ε) :
    (timer.softTimerDel e).elemTick = timer.elemTick := rfl

end SoftTimer
