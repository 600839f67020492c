import Prtp.Library.TimedBag
import Prtp.SourceConflict
import Prtp.TimerDeadlines

set_option autoImplicit false

/-! # The conflict table as a bag of addresses that expire

The table and the wheel it is set up with, driven by additions, lookups and ticks. Each used entry with
its address and the tick its timer is due is an entry of a `TimedBag` of addresses, in the same order, and
every operation answers what the bag answers. -/

namespace Prtp

/-- A conflict table and its wheel. -/
structure ConflictTimer where
  tbl : RtpSourceConflictTable
  tmr : SoftTimer TimerElem

namespace ConflictTimer

/-- `soft_timer_init` and `rtp_source_conflict_table_init`, on memory holding `mem`. -/
def init (mem : ConflictTimer) : ConflictTimer :=
  ⟨mem.tbl.rtpSourceConflictTableInit, mem.tmr.softTimerInit 100⟩

/-- `soft_timer_drive`; nothing else is on the wheel. -/
def drive (m : ConflictTimer) : ConflictTimer :=
  SoftTimer.softTimerDrive tmr (fun m t => { m with tmr := t })
    (fun e m =>
      match e with
      | .conflict c => { m with tbl := m.tbl.rtpSourceConflictTimerExpired c }
      | _ => m) m

/-- One call, with what it returns. -/
def step (m : ConflictTimer) : TimedBag.Op SockaddrIn → Bool × ConflictTimer
  | .add a =>
      let r := m.tbl.rtpSourceConflictAdd m.tmr a
      (r.1, ⟨r.2.1, r.2.2⟩)
  | .lookup a =>
      let r := m.tbl.rtpSourceConflictLookup m.tmr a
      (r.1, { m with tmr := r.2 })
  | .tick => (true, m.drive)

/-- The address of an entry, and the tick its timer is due, if it is running. -/
def view (m : ConflictTimer) (now : ℕ) (c : ConflictSlot) : SockaddrIn × ℕ :=
  (m.tbl.addr c, now + (m.tmr.remaining (.conflict c)).getD 0)

/-- `RTP_CONFIG_SOURCE_CONFLICT_TIMEOUT` in ticks of 100 ms. -/
abbrev lifetime : ℕ := 50

/-- Nothing but the timers of used entries runs, at ten ticks a second. -/
structure Kept (m : ConflictTimer) : Prop where
  rate : m.tmr.tickRate = 100
  ahead : m.tmr.Ahead
  running : ∀ e, m.tmr.Running e ↔ ∃ c ∈ m.tbl.pool.used, e = .conflict c

/-- The used entries are the entries of the bag. -/
structure Refines (m : ConflictTimer) (b : TimedBag SockaddrIn) : Prop extends m.Kept where
  settled : m.tmr.timeoutList = []
  entries : m.tbl.pool.used.map (m.view b.now) = b.entries

theorem getSoftTick_conflict {t : SoftTimer TimerElem} (hrate : t.tickRate = 100) :
    (t.getSoftTickFromMilsec rtpConfigSourceConflictTimeout).toNat = lifetime := by
  rw [SoftTimer.getSoftTickFromMilsec_eq t (by rw [hrate]; decide) (by decide) (by decide), hrate]
  decide

theorem refines_init (mem : ConflictTimer) : mem.init.Refines .empty where
  rate := rfl
  ahead := SoftTimer.ahead_init _ _
  running e := by
    refine ⟨fun h => absurd h (SoftTimer.not_running_init _ _ e), ?_⟩
    rintro ⟨c, hc, -⟩
    exact absurd hc List.not_mem_nil
  settled := rfl
  entries := rfl

theorem Kept.running_conflict {m : ConflictTimer} (h : m.Kept) (c : ConflictSlot) :
    m.tmr.Running (.conflict c) ↔ c ∈ m.tbl.pool.used := by
  rw [h.running]
  constructor
  · rintro ⟨c', hc', heq⟩
    rw [TimerElem.conflict.injEq] at heq
    exact heq ▸ hc'
  · exact fun hc => ⟨c, hc, rfl⟩

/-- A running timer is not due before a tick. -/
theorem Refines.left {m : ConflictTimer} {b : TimedBag SockaddrIn} (h : m.Refines b)
    (c : ConflictSlot) : m.tmr.remaining (.conflict c) ≠ some 0 := by
  intro hdue
  have hmem := h.ahead _ hdue
  rw [h.settled] at hmem
  exact absurd hmem List.not_mem_nil

/-! ## Lookups and additions -/

/-- The entry `rtp_source_conflict_lookup` finds is the first one of the address in the bag. -/
theorem findUsed_view (m : ConflictTimer) (now : ℕ) (a : SockaddrIn) :
    (m.tbl.pool.findUsed fun c => decide (m.tbl.addr c = a)) =
      m.tbl.pool.used.find? fun c => decide ((m.view now c).1 = a) := rfl

theorem Refines.has {m : ConflictTimer} {b : TimedBag SockaddrIn} (h : m.Refines b)
    (a : SockaddrIn) :
    b.has a = (m.tbl.pool.findUsed fun c => decide (m.tbl.addr c = a)).isSome := by
  rw [TimedBag.has, ← h.entries, List.any_map, m.findUsed_view b.now, Bool.eq_iff_iff,
    List.any_eq_true, List.find?_isSome]
  rfl

theorem Refines.lookup {m : ConflictTimer} {b : TimedBag SockaddrIn} (h : m.Refines b)
    (a : SockaddrIn) :
    (m.step (.lookup a)).1 = (b.lookup lifetime a).1 ∧
      (m.step (.lookup a)).2.Refines (b.lookup lifetime a).2 := by
  have hhas := h.has a
  rw [TimedBag.lookup_fst]
  simp only [ConflictTimer.step, RtpSourceConflictTable.rtpSourceConflictLookup, TimedBag.lookup]
  cases hfind : m.tbl.pool.findUsed fun c => decide (m.tbl.addr c = a) with
  | none =>
      rw [hfind, Option.isSome_none] at hhas
      simp only [hhas]
      exact ⟨trivial, h⟩
  | some c =>
      rw [hfind, Option.isSome_some] at hhas
      simp only [hhas, if_true]
      obtain ⟨hc, haddr⟩ := Pool.findUsed_eq_some hfind
      have hrate : (m.tmr.softTimerDel (.conflict c)).tickRate = 100 := h.rate
      have hleft := fun x => SoftTimer.remaining_restart m.tmr (.conflict c) x
        rtpConfigSourceConflictTimeout
      rw [getSoftTick_conflict h.rate] at hleft
      refine ⟨trivial, ⟨(SoftTimer.tickRate_add ..).trans hrate, ?_, fun e => ?_⟩, ?_, ?_⟩
      · refine (h.ahead.del _).add _ ?_
        rw [getSoftTick_conflict hrate]
        decide
      · rw [SoftTimer.running_add, SoftTimer.running_del, h.running]
        constructor
        · rintro (⟨he, -⟩ | rfl)
          · exact he
          · exact ⟨c, hc, rfl⟩
        · intro he
          by_cases hec : e = .conflict c
          · exact Or.inr hec
          · exact Or.inl ⟨he, hec⟩
      · rw [SoftTimer.timeoutList_add]
        show m.tmr.timeoutList.erase (.conflict c) = []
        rw [h.settled]
        rfl
      · rw [← h.entries]
        have hfirst : (m.tbl.pool.used.find? fun i => decide ((m.view b.now i).1 = a)) = some c := hfind
        refine (TimedBag.renew_map hfirst m.tbl.pool.used_nodup ?_ fun i hi => ?_).symm
        · simp only [view, hleft, if_true, Option.getD_some, of_decide_eq_true haddr]
        · have hne : TimerElem.conflict i ≠ .conflict c := fun heq =>
            hi (TimerElem.conflict.inj heq)
          simp only [view, hleft, if_neg hne]

theorem Refines.add {m : ConflictTimer} {b : TimedBag SockaddrIn} (h : m.Refines b)
    (a : SockaddrIn) :
    (m.step (.add a)).1 = (b.add lifetime rtpConfigSourceConflictTableSize a).1 ∧
      (m.step (.add a)).2.Refines (b.add lifetime rtpConfigSourceConflictTableSize a).2 := by
  have hlength : b.entries.length = m.tbl.pool.used.length := by
    rw [← h.entries, List.length_map]
  have hplaces := m.tbl.pool.length_used_add_free
  rw [Fintype.card_fin] at hplaces
  simp only [ConflictTimer.step, RtpSourceConflictTable.rtpSourceConflictAdd, TimedBag.add, hlength]
  cases htake : m.tbl.pool.take with
  | none =>
      rw [(Pool.take_eq_none _).1 htake, List.length_nil, Nat.add_zero] at hplaces
      rw [if_neg (by omega)]
      exact ⟨rfl, h⟩
  | some q =>
      obtain ⟨c, pool⟩ := q
      obtain ⟨hfree, hused⟩ := Pool.take_eq_some htake
      have hc := Pool.not_mem_used_of_take htake
      have hstopped : m.tmr.remaining (.conflict c) = none :=
        SoftTimer.remaining_eq_none.2 fun hrun => hc ((h.running_conflict c).1 hrun)
      rw [hfree, List.length_cons] at hplaces
      rw [if_pos (by omega)]
      refine ⟨rfl, ⟨(SoftTimer.tickRate_add ..).trans h.rate, ?_, fun e => ?_⟩, ?_, ?_⟩
      · refine h.ahead.add _ ?_
        rw [getSoftTick_conflict h.rate]
        decide
      · rw [SoftTimer.running_add, h.running, hused]
        simp [or_and_right, exists_or]
      · exact (SoftTimer.timeoutList_add ..).trans h.settled
      · have hold : m.tbl.pool.used.map (ConflictTimer.view
            ⟨⟨Function.update m.tbl.addr c a, pool⟩,
              m.tmr.softTimerAdd (.conflict c) rtpConfigSourceConflictTimeout⟩ b.now) =
            m.tbl.pool.used.map (m.view b.now) := by
          refine List.map_congr_left fun i hi => ?_
          have hne : i ≠ c := fun hic => hc (hic ▸ hi)
          have hne' : TimerElem.conflict i ≠ .conflict c := fun heq => hne (TimerElem.conflict.inj heq)
          simp only [view, Function.update_of_ne hne, SoftTimer.remaining_add_of_ne _ hne']
        rw [hused, List.map_append, hold, h.entries]
        simp only [List.map_cons, List.map_nil, view, Function.update_self,
          SoftTimer.remaining_add_self hstopped, getSoftTick_conflict h.rate, Option.getD_some]

/-! ## Ticks -/

/-- The used entries whose timers are not due are the entries of a bag, halfway through a tick. -/
structure Expiring (m : ConflictTimer) (b : TimedBag SockaddrIn) : Prop extends m.Kept where
  entries : (m.tbl.pool.used.filter fun c => decide (m.tmr.remaining (.conflict c) ≠ some 0)).map
    (m.view b.now) = b.entries

theorem Refines.expire {m : ConflictTimer} {b : TimedBag SockaddrIn} (h : m.Refines b) :
    Expiring ⟨m.tbl, m.tmr.expire⟩ b.tick where
  rate := h.rate
  ahead := h.ahead.expire h.settled
  running e := (SoftTimer.running_expire m.tmr e).trans (h.running e)
  entries := by
    have hleft : ∀ c ∈ m.tbl.pool.used, ∃ n, m.tmr.remaining (.conflict c) = some (n + 1) ∧
        m.tmr.expire.remaining (.conflict c) = some n := by
      intro c hc
      obtain ⟨n, hn⟩ := SoftTimer.exists_remaining ((h.running_conflict c).2 hc)
      have hpos : n ≠ 0 := fun h0 => h.left c (h0 ▸ hn)
      obtain ⟨k, rfl⟩ := Nat.exists_eq_succ_of_ne_zero hpos
      exact ⟨k, hn, by rw [SoftTimer.remaining_expire (h.left c), hn]; rfl⟩
    show List.map (ConflictTimer.view ⟨m.tbl, m.tmr.expire⟩ (b.now + 1)) _ =
      b.entries.filter fun x => decide (b.now + 1 < x.2)
    rw [← h.entries, List.filter_map]
    have hsame : (m.tbl.pool.used.filter fun c =>
        decide (m.tmr.expire.remaining (.conflict c) ≠ some 0)) =
        m.tbl.pool.used.filter ((fun x => decide (b.now + 1 < x.2)) ∘ m.view b.now) := by
      refine List.filter_congr fun c hc => ?_
      obtain ⟨n, hn, hn'⟩ := hleft c hc
      simp only [Function.comp, view, hn, hn', Option.getD_some, decide_eq_decide]
      constructor
      · intro hne
        have hpos : n ≠ 0 := fun h0 => hne (h0 ▸ rfl)
        omega
      · intro hlt h0
        rw [Option.some_inj] at h0
        omega
    rw [hsame]
    refine List.map_congr_left fun c hc => ?_
    obtain ⟨n, hn, hn'⟩ := hleft c (List.mem_of_mem_filter hc)
    simp only [view, hn, hn', Option.getD_some]
    rw [Nat.add_assoc, Nat.add_comm 1 n]

/-- The callback of an entry that is due frees it. -/
theorem Expiring.fire {m : ConflictTimer} {b : TimedBag SockaddrIn} (h : m.Expiring b)
    {c : ConflictSlot} {rest : List TimerElem} (htop : m.tmr.timeoutList = .conflict c :: rest) :
    Expiring ⟨m.tbl.rtpSourceConflictTimerExpired c, m.tmr.popTimeout⟩ b where
  rate := h.rate
  ahead := h.ahead.popTimeout htop
  running e := by
    rw [SoftTimer.running_popTimeout htop, h.running]
    constructor
    · rintro ⟨⟨i, hi, rfl⟩, hne⟩
      refine ⟨i, (Pool.mem_used_release _ c i).2 ⟨hi, fun hic => hne (hic ▸ rfl)⟩, rfl⟩
    · rintro ⟨i, hi, rfl⟩
      obtain ⟨hi, hne⟩ := (Pool.mem_used_release _ c i).1 hi
      exact ⟨⟨i, hi, rfl⟩, fun heq => hne (TimerElem.conflict.inj heq)⟩
  entries := by
    have hdue : m.tmr.remaining (.conflict c) = some 0 :=
      SoftTimer.remaining_of_mem_timeoutList (htop ▸ List.mem_cons_self ..)
    have hleft : ∀ i, i ≠ c →
        m.tmr.popTimeout.remaining (.conflict i) = m.tmr.remaining (.conflict i) := by
      intro i hi
      rw [SoftTimer.remaining_popTimeout htop, if_neg]
      exact fun heq => hi (TimerElem.conflict.inj heq)
    rw [← h.entries]
    have hused : (m.tbl.rtpSourceConflictTimerExpired c).pool.used =
        m.tbl.pool.used.filter (fun i => decide (i ≠ c)) := by
      refine (m.tbl.pool.used_nodup.erase_eq_filter c).trans (List.filter_congr fun i _ => ?_)
      rw [decide_not]
      rfl
    have hsame : ((m.tbl.rtpSourceConflictTimerExpired c).pool.used.filter fun i =>
        decide (m.tmr.popTimeout.remaining (.conflict i) ≠ some 0)) =
        m.tbl.pool.used.filter fun i => decide (m.tmr.remaining (.conflict i) ≠ some 0) := by
      rw [hused, List.filter_filter]
      refine List.filter_congr fun i _ => ?_
      by_cases hi : i = c
      · subst hi
        simp [hdue]
      · simp [hi, hleft i hi]
    rw [hsame]
    refine List.map_congr_left fun i hi => ?_
    have hne : i ≠ c := by
      rintro rfl
      exact of_decide_eq_true (List.mem_filter.1 hi).2 hdue
    simp only [view, hleft i hne]
    rfl

theorem Refines.tick {m : ConflictTimer} {b : TimedBag SockaddrIn} (h : m.Refines b) :
    m.drive.Refines b.tick := by
  have hfired : m.drive.Expiring b.tick := by
    refine SoftTimer.softTimerDrive_invariant (P := fun m => Expiring m b.tick) h.expire ?_
    intro e m rest htop hm
    obtain ⟨c, -, rfl⟩ := (hm.running e).1 (Or.inr (htop ▸ List.mem_cons_self ..))
    exact hm.fire htop
  have hempty : m.drive.tmr.timeoutList = [] := by
    refine SoftTimer.timeoutList_softTimerDrive (fun _ _ => rfl) (fun e m => ?_) m
    cases e <;> exact Nat.le_refl _
  refine ⟨hfired.toKept, hempty, ?_⟩
  have hall : (m.drive.tbl.pool.used.filter fun c =>
      decide (m.drive.tmr.remaining (.conflict c) ≠ some 0)) = m.drive.tbl.pool.used := by
    refine List.filter_eq_self.2 fun c _ => decide_eq_true fun hdue => ?_
    have hmem := hfired.ahead _ hdue
    rw [hempty] at hmem
    exact absurd hmem List.not_mem_nil
  rw [← hfired.entries, hall]

/-! ## Runs -/

/-- Every operation answers what it answers on the bag. -/
theorem Refines.step {m : ConflictTimer} {b : TimedBag SockaddrIn} (h : m.Refines b)
    (op : TimedBag.Op SockaddrIn) :
    (m.step op).1 = (b.step lifetime rtpConfigSourceConflictTableSize op).1 ∧
      (m.step op).2.Refines (b.step lifetime rtpConfigSourceConflictTableSize op).2 := by
  cases op with
  | add a => exact h.add a
  | lookup a => exact h.lookup a
  | tick => exact ⟨rfl, h.tick⟩

/-- A table that has been driven, with two history variables: how often it has been ticked, and when
    each address was last touched by an addition or a lookup of it that returned `RTP_TRUE`. -/
structure Observed where
  timer : ConflictTimer
  now : ℕ
  touched : SockaddrIn → Option ℕ

/-- One call, observed. -/
def Observed.step (o : Observed) (op : TimedBag.Op SockaddrIn) : Observed where
  timer := (o.timer.step op).2
  now :=
    match op with
    | .tick => o.now + 1
    | _ => o.now
  touched := TimedBag.touch o.touched o.now (o.timer.step op).1 op

/-- A run from the initialised table. -/
def observe (mem : ConflictTimer) (ops : List (TimedBag.Op SockaddrIn)) : Observed :=
  Runs.run Observed.step ⟨mem.init, 0, fun _ => none⟩ ops

/-- The bag after the same operations. -/
def bagAfter (ops : List (TimedBag.Op SockaddrIn)) : TimedBag SockaddrIn :=
  Runs.run (fun b op => (b.step lifetime rtpConfigSourceConflictTableSize op).2) .empty ops

/-- The table as a map of expiry times: what it answers next, and where its entries are. -/
structure TimedMap (o : Observed) (b : TimedBag SockaddrIn) : Prop where
  /-- the next operation answers what it answers on the map -/
  answers : ∀ op, (o.timer.step op).1 = (b.step lifetime rtpConfigSourceConflictTableSize op).1
  now : o.now = b.now
  live : ∀ x ∈ b.entries, o.now < x.2
  lookup : ∀ a, (o.timer.step (.lookup a)).1 = true ↔
    ∃ t, o.touched a = some t ∧ o.now < t + lifetime
  add : ∀ a, (o.timer.step (.add a)).1 = false ↔
    b.entries.length = rtpConfigSourceConflictTableSize
  once : ∀ c, (o.timer.tbl.pool.free ++ o.timer.tbl.pool.used).count c = 1
  running : ∀ c, o.timer.tmr.Running (.conflict c) ↔ c ∈ o.timer.tbl.pool.used

theorem timedMap {o : Observed} {b : TimedBag SockaddrIn} (h : o.timer.Refines b)
    (hnow : o.now = b.now) (htouched : b.Touched lifetime o.touched) : TimedMap o b where
  answers op := (h.step op).1
  now := hnow
  live x hx := hnow ▸ htouched.live x hx
  lookup a := by
    rw [(h.lookup a).1, TimedBag.lookup_fst, htouched.has_iff, hnow]
  add a := by
    have hlength : b.entries.length = o.timer.tbl.pool.used.length := by
      rw [← h.entries, List.length_map]
    have hplaces := o.timer.tbl.pool.length_used_add_free
    rw [Fintype.card_fin] at hplaces
    rw [(h.add a).1, TimedBag.add_fst, decide_eq_false_iff_not]
    omega
  once := o.timer.tbl.pool.count_eq_one
  running := h.running_conflict

/-- The conflict table refines a map of expiry times, whatever is added, looked up and ticked. -/
theorem timedMap_observe (mem : ConflictTimer) (ops : List (TimedBag.Op SockaddrIn)) :
    TimedMap (observe mem ops) (bagAfter ops) := by
  have hrun : ∀ (o : Observed) (b : TimedBag SockaddrIn), o.timer.Refines b → o.now = b.now →
      b.Touched lifetime o.touched →
      TimedMap (Runs.run Observed.step o ops)
        (Runs.run (fun b op => (b.step lifetime rtpConfigSourceConflictTableSize op).2) b ops) := by
    induction ops with
    | nil => exact fun o b h hnow htouched => timedMap h hnow htouched
    | cons op ops ih =>
        intro o b h hnow htouched
        obtain ⟨hanswer, hstep⟩ := h.step op
        have htouched' := htouched.step (by decide) rtpConfigSourceConflictTableSize op
        rw [← hanswer, ← hnow] at htouched'
        refine ih _ _ hstep ?_ htouched'
        cases op with
        | add a => exact hnow.trans (TimedBag.add_now ..).symm
        | lookup a => exact hnow.trans (TimedBag.lookup_now ..).symm
        | tick => exact congrArg (· + 1) hnow
  exact hrun ⟨mem.init, 0, fun _ => none⟩ .empty (refines_init mem) rfl (TimedBag.touched_empty _)

end ConflictTimer

end Prtp
