import Prtp.ConflictTimes
import Prtp.LinkedPools
import Prtp.LinkedTimers

set_option autoImplicit false

/-! # The member table and the conflict table in memory

`rtp_member_table.c` and `rtp_source_conflict.c` with their lists as nodes of one memory, the latter with its
timers on a wheel in memory too. Whatever the memory held before, and whatever is done after it was set up, the
tables answer what `RtpMemberTable` answers and what a bag of addresses that expire answers. -/

namespace Prtp

/-! ## `rtp_member_table.c` -/

/-- `rtp_member_table_t` -/
structure LinkedMemberTable where
  memberArray : Slot → RtpMember
  links : Links (PoolNode Slot)
  numMembers : UInt32

/-- What is done with a member table. The rest of the program writes to the records. -/
inductive TableCall
  | lookup (ssrc : UInt32)
  | alloc (ssrc : UInt32)
  | free (m : Slot)
  | changeRandomSsrc (m : Slot) (draws : List UInt32)
  | write (m : Slot) (x : RtpMember)

namespace LinkedMemberTable

/-- `rtp_member_table_init` -/
def rtpMemberTableInit (mt : LinkedMemberTable) : LinkedMemberTable :=
  { mt with
    links := (List.finRange rtpConfigMaxMembersPerSession).foldl (fun l m => l.listAddTail (.le m) .free)
      ((mt.links.initListHead .free).initListHead .used)
    numMembers := 0 }

/-- The rounds a loop over the used list is given: one more than there are members. -/
abbrev rounds : ℕ := rtpConfigMaxMembersPerSession + 1

/-- `rtp_member_table_lookup` -/
def rtpMemberTableLookup (mt : LinkedMemberTable) (ssrc : UInt32) : Option (Option Slot) :=
  mt.links.findUsed (fun m => decide ((mt.memberArray m).ssrc = ssrc)) rounds (mt.links.next .used)

/-- `rtp_member_table_alloc_member` -/
def rtpMemberTableAllocMember (mt : LinkedMemberTable) (ssrc : UInt32) :
    Option (Option Slot × LinkedMemberTable) :=
  if mt.links.listEmpty .free then some (none, mt)
  else
    (mt.links.listFirstEntry .free).map fun m =>
      (some m,
        { memberArray := Function.update mt.memberArray m (rtpMemberInit (mt.memberArray m) ssrc)
          links := (mt.links.listDelInit (.le m)).listAddTail (.le m) .used
          numMembers := mt.numMembers + 1 })

/-- `rtp_member_table_free` -/
def rtpMemberTableFree (mt : LinkedMemberTable) (m : Slot) : LinkedMemberTable :=
  { mt with
    links := (mt.links.listDelInit (.le m)).listAddTail (.le m) .free
    numMembers := mt.numMembers - 1 }

/-- `rtp_member_table_get_first` -/
def rtpMemberTableGetFirst (mt : LinkedMemberTable) : Option (Option Slot) :=
  if mt.links.listEmpty .used then some none else (mt.links.listFirstEntry .used).map some

/-- `rtp_member_table_get_next` -/
def rtpMemberTableGetNext (mt : LinkedMemberTable) : Option Slot → Option (Option Slot)
  | none => mt.rtpMemberTableGetFirst
  | some m => if mt.links.listIsLast (.le m) .used then some none else (mt.links.listFirstEntry (.le m)).map some

/-- The members the loops over the table come to from `m` on, which go on with `rtp_member_table_get_next`. -/
def walkFrom (mt : LinkedMemberTable) : ℕ → Option Slot → Option (List Slot)
  | 0, _ => none
  | _ + 1, none => some []
  | fuel + 1, some m => (mt.rtpMemberTableGetNext (some m)).bind fun n => (mt.walkFrom fuel n).map (m :: ·)

/-- All the members they come to. -/
def walk (mt : LinkedMemberTable) : Option (List Slot) := mt.rtpMemberTableGetFirst.bind (mt.walkFrom rounds)

/-- The loop of `rtp_member_table_change_random_ssrc`. -/
def drawUnusedSsrc (mt : LinkedMemberTable) : List UInt32 → Option (Option (UInt32 × List UInt32))
  | [] => some none
  | ssrc :: draws =>
      (mt.rtpMemberTableLookup ssrc).bind fun m =>
        if m = none then some (some (ssrc, draws)) else mt.drawUnusedSsrc draws

/-- `rtp_member_table_change_random_ssrc`, where nothing comes of it if the draws run out. -/
def rtpMemberTableChangeRandomSsrc (mt : LinkedMemberTable) (m : Slot) (draws : List UInt32) :
    Option LinkedMemberTable :=
  (mt.drawUnusedSsrc draws).map fun drawn =>
    match drawn with
    | none => mt
    | some (ssrc, _) =>
        { mt with memberArray := Function.update mt.memberArray m { mt.memberArray m with ssrc := ssrc } }

/-- One call, with the member it returns. -/
def step (mt : LinkedMemberTable) : TableCall → Option (Option Slot × LinkedMemberTable)
  | .lookup ssrc => (mt.rtpMemberTableLookup ssrc).map fun m => (m, mt)
  | .alloc ssrc => mt.rtpMemberTableAllocMember ssrc
  | .free m => some (none, mt.rtpMemberTableFree m)
  | .changeRandomSsrc m draws => (mt.rtpMemberTableChangeRandomSsrc m draws).map fun mt => (none, mt)
  | .write m x => some (none, { mt with memberArray := Function.update mt.memberArray m x })

end LinkedMemberTable

namespace RtpMemberTable

/-- `rtp_member_table_change_random_ssrc` on the table alone. -/
def rtpMemberTableChangeRandomSsrc (mt : RtpMemberTable) (m : Slot) (draws : List UInt32) : RtpMemberTable :=
  match mt.drawUnusedSsrc draws with
  | none => mt
  | some (ssrc, _) =>
      { mt with memberArray := Function.update mt.memberArray m { mt.memberArray m with ssrc := ssrc } }

/-- One call, with the member it returns. -/
def step (mt : RtpMemberTable) : TableCall → Option Slot × RtpMemberTable
  | .lookup ssrc => (mt.rtpMemberTableLookup ssrc, mt)
  | .alloc ssrc =>
      match mt.rtpMemberTableAllocMember ssrc with
      | none => (none, mt)
      | some (m, mt) => (some m, mt)
  | .free m => (none, mt.rtpMemberTableFree m)
  | .changeRandomSsrc m draws => (none, mt.rtpMemberTableChangeRandomSsrc m draws)
  | .write m x => (none, { mt with memberArray := Function.update mt.memberArray m x })

end RtpMemberTable

namespace LinkedMemberTable

variable {mt : LinkedMemberTable} {t : RtpMemberTable}

/-- The two lists in memory are those of the table. -/
structure Shows (mt : LinkedMemberTable) (t : RtpMemberTable) : Prop where
  memberArray : mt.memberArray = t.memberArray
  links : mt.links.Shows t.pool
  numMembers : mt.numMembers = t.numMembers

theorem length_used_lt {n : ℕ} (p : Pool (Fin n)) : p.used.length < n + 1 := by
  have hplaces := p.length_used_add_free
  rw [Fintype.card_fin] at hplaces
  omega

theorem shows_init (mt : LinkedMemberTable) (t : RtpMemberTable) (h : mt.memberArray = t.memberArray) :
    mt.rtpMemberTableInit.Shows t.rtpMemberTableInit where
  memberArray := h
  links := Links.shows_full Links.adds_listAddTail mt.links (List.nodup_finRange _) List.mem_finRange
  numMembers := rfl

theorem Shows.lookup (h : mt.Shows t) (ssrc : UInt32) :
    mt.rtpMemberTableLookup ssrc = some (t.rtpMemberTableLookup ssrc) := by
  rw [rtpMemberTableLookup, h.memberArray, h.links.findUsed _ (length_used_lt t.pool)]
  rfl

theorem Shows.alloc (h : mt.Shows t) (ssrc : UInt32) :
    ∃ mt', mt.rtpMemberTableAllocMember ssrc = some ((t.step (.alloc ssrc)).1, mt') ∧
      mt'.Shows (t.step (.alloc ssrc)).2 := by
  cases htake : t.pool.take with
  | none =>
      have hstep : t.step (.alloc ssrc) = (none, t) := by
        simp only [RtpMemberTable.step, RtpMemberTable.rtpMemberTableAllocMember, htake]
      have hempty := h.links.listEmpty.2 ((Pool.take_eq_none _).1 htake)
      rw [hstep]
      exact ⟨mt, if_pos hempty, h⟩
  | some r =>
      obtain ⟨m, pool⟩ := r
      have hstep : t.step (.alloc ssrc) =
          (some m, ⟨Function.update t.memberArray m (rtpMemberInit (t.memberArray m) ssrc), pool,
            t.numMembers + 1⟩) := by
        simp only [RtpMemberTable.step, RtpMemberTable.rtpMemberTableAllocMember, htake]
      have hfree := (Pool.take_eq_some htake).1
      have hfull : ¬ mt.links.listEmpty .free = true := fun hempty => by
        rw [h.links.listEmpty, hfree] at hempty
        cases hempty
      rw [hstep, rtpMemberTableAllocMember, if_neg hfull, h.links.first hfree]
      refine ⟨_, rfl, ?_, h.links.take htake, ?_⟩
      · rw [h.memberArray]
      · rw [h.numMembers]

theorem Shows.free (h : mt.Shows t) (m : Slot) : (mt.rtpMemberTableFree m).Shows (t.rtpMemberTableFree m) where
  memberArray := h.memberArray
  links := h.links.release m
  numMembers := congrArg (· - 1) h.numMembers

theorem Shows.drawUnusedSsrc (h : mt.Shows t) (draws : List UInt32) :
    mt.drawUnusedSsrc draws = some (t.drawUnusedSsrc draws) := by
  induction draws with
  | nil => rfl
  | cons ssrc draws ih =>
      rw [LinkedMemberTable.drawUnusedSsrc, h.lookup, Option.bind_some, RtpMemberTable.drawUnusedSsrc, ih]
      split <;> rfl

theorem Shows.write (h : mt.Shows t) (m : Slot) (x : RtpMember) :
    Shows { mt with memberArray := Function.update mt.memberArray m x }
      { t with memberArray := Function.update t.memberArray m x } where
  memberArray := by rw [h.memberArray]
  links := h.links
  numMembers := h.numMembers

theorem Shows.step (h : mt.Shows t) (call : TableCall) :
    ∃ mt', mt.step call = some ((t.step call).1, mt') ∧ mt'.Shows (t.step call).2 := by
  cases call with
  | lookup ssrc => exact ⟨mt, by rw [LinkedMemberTable.step, h.lookup]; rfl, h⟩
  | alloc ssrc => exact h.alloc ssrc
  | free m => exact ⟨_, rfl, h.free m⟩
  | changeRandomSsrc m draws =>
      simp only [LinkedMemberTable.step, LinkedMemberTable.rtpMemberTableChangeRandomSsrc, h.drawUnusedSsrc,
        RtpMemberTable.step, RtpMemberTable.rtpMemberTableChangeRandomSsrc, Option.map_some]
      cases t.drawUnusedSsrc draws with
      | none => exact ⟨mt, rfl, h⟩
      | some drawn =>
          obtain ⟨ssrc, rest⟩ := drawn
          refine ⟨_, rfl, ?_⟩
          simp only [h.memberArray]
          have hwritten := h.write m { t.memberArray m with ssrc := ssrc }
          rwa [h.memberArray] at hwritten
  | write m x => exact ⟨_, rfl, h.write m x⟩

/-- `rtp_member_table_get_next` goes to the next used member, until there is none. -/
theorem Shows.walkFrom (h : mt.Shows t) :
    ∀ (ms before : List Slot) (m : Slot) (fuel : ℕ), t.pool.used = before ++ m :: ms → ms.length + 1 < fuel →
      mt.walkFrom fuel (some m) = some (m :: ms) := by
  have hrs := Links.Rings.swap h.links
  obtain ⟨hr, -, -, -⟩ := Links.rings_cons.1 hrs
  intro ms
  induction ms with
  | nil =>
      intro before m fuel hused hfuel
      obtain ⟨fuel, rfl⟩ : ∃ k, fuel = k + 2 := Nat.exists_eq_add_of_le' hfuel
      rw [hused, List.map_append, List.map_cons, ← List.cons_append] at hrs
      have hlast : mt.links.listIsLast (.le m) .used = true := (Links.listIsLast_eq hrs).2 rfl
      rw [LinkedMemberTable.walkFrom, rtpMemberTableGetNext, if_pos hlast]
      rfl
  | cons n ms ih =>
      intro before m fuel hused hfuel
      obtain ⟨fuel, rfl⟩ := Nat.exists_eq_succ_of_ne_zero (Nat.ne_of_gt (Nat.zero_lt_of_lt hfuel))
      have hnext := ih (before ++ [m]) n fuel (by rw [hused, List.append_cons]) (Nat.lt_of_succ_lt_succ hfuel)
      have haround : PoolNode.used :: t.pool.used.map .le ++ [.used]
          = (.used :: before.map .le) ++ .le m :: .le n :: (ms.map .le ++ [.used]) := by simp [hused]
      have hlinked := (hr.linked haround).1
      rw [hused, List.map_append, List.map_cons, ← List.cons_append] at hrs
      have hmore : ¬ mt.links.listIsLast (.le m) .used = true := fun hlast => by
        have hnil := (Links.listIsLast_eq hrs).1 hlast
        cases hnil
      have hentry : mt.links.listFirstEntry (.le m) = some n := by rw [Links.listFirstEntry, hlinked]
      rw [LinkedMemberTable.walkFrom, rtpMemberTableGetNext, if_neg hmore, hentry, Option.map_some,
        Option.bind_some, hnext]
      rfl

/-- The loops over the table come to the used members in their order. -/
theorem Shows.walk (h : mt.Shows t) : mt.walk = some t.pool.used := by
  have hlength := length_used_lt t.pool
  rw [LinkedMemberTable.walk, rtpMemberTableGetFirst]
  cases hused : t.pool.used with
  | nil =>
      rw [if_pos (h.links.listEmpty_used.2 hused)]
      rfl
  | cons m ms =>
      have hfull : ¬ mt.links.listEmpty .used = true := fun hempty => by
        rw [h.links.listEmpty_used, hused] at hempty
        cases hempty
      rw [hused, List.length_cons] at hlength
      rw [if_neg hfull, h.links.first_used hused]
      exact h.walkFrom ms [] m rounds hused (by omega)

/-- Whatever was in memory, and whatever is looked up, allocated, freed and written from then on: every call
    returns, and what it returns is what it returns on the lists of `RtpMemberTable`. The loops over the table, which
    go on with `rtp_member_table_get_next`, come to the used members in the order of that list, to each once, and
    end. -/
theorem linked_members (mem : LinkedMemberTable) (pool : Pool Slot) (calls : List TableCall) :
    let t := Runs.run (Runs.answering RtpMemberTable.step)
      ([], RtpMemberTable.rtpMemberTableInit ⟨mem.memberArray, pool, mem.numMembers⟩) calls
    ∃ mt, calls.foldlM (Runs.answeringM LinkedMemberTable.step) ([], mem.rtpMemberTableInit) = some (t.1, mt) ∧
      mt.memberArray = t.2.memberArray ∧ mt.numMembers = t.2.numMembers ∧ mt.walk = some t.2.pool.used := by
  have hstep : ∀ (mt : LinkedMemberTable) (t : RtpMemberTable) call, mt.Shows t →
      ∃ mt', mt.step call = some ((t.step call).1, mt') ∧ mt'.Shows (t.step call).2 :=
    fun _ _ call h => h.step call
  obtain ⟨mt, hrun, hshows⟩ := Runs.answeringM_refines hstep
    (shows_init mem ⟨mem.memberArray, pool, mem.numMembers⟩ rfl) calls
  exact ⟨mt, hrun, hshows.memberArray, hshows.numMembers, hshows.walk⟩

end LinkedMemberTable

/-! ## `rtp_source_conflict.c` -/

/-- `rtp_source_conflict_table_t`, and the wheel that `tmr` points at. -/
structure LinkedConflictTable where
  addr : ConflictSlot → SockaddrIn
  links : Links (PoolNode ConflictSlot)
  tmr : LinkedTimer TimerElem

/-- The timers of a session but for those of the conflict table. -/
def otherTimers : List TimerElem :=
  .rtcp :: (List.finRange rtpConfigMaxMembersPerSession).flatMap fun m => [.member m, .sender m, .leave m]

/-- All timers of a session. -/
def allTimers : List TimerElem :=
  otherTimers ++ (List.finRange rtpConfigSourceConflictTableSize).map .conflict

namespace LinkedConflictTable

/-- `rtp_source_conflict_table_init` -/
def rtpSourceConflictTableInit (tbl : LinkedConflictTable) : LinkedConflictTable :=
  (List.finRange rtpConfigSourceConflictTableSize).foldl
    (fun tbl c =>
      { tbl with
        links := (tbl.links.initListHead (.le c)).listAddTail (.le c) .free
        tmr := tbl.tmr.softTimerInitElem (.conflict c) })
    { tbl with links := (tbl.links.initListHead .free).initListHead .used }

/-- A table that is set up, after `soft_timer_init` and with what sets up the other timers of the session. -/
def init (mem : LinkedConflictTable) : LinkedConflictTable :=
  rtpSourceConflictTableInit
    { mem with tmr := otherTimers.foldl LinkedTimer.softTimerInitElem (mem.tmr.softTimerInit 100) }

/-- The rounds a loop is given: one more than there are timers. -/
abbrev rounds : ℕ := allTimers.length + 1

/-- `rtp_source_conflict_lookup` -/
def rtpSourceConflictLookup (tbl : LinkedConflictTable) (addr : SockaddrIn) :
    Option (Bool × LinkedConflictTable) :=
  (tbl.links.findUsed (fun c => decide (tbl.addr c = addr)) rounds (tbl.links.next .used)).map fun found =>
    match found with
    | none => (false, tbl)
    | some c =>
        let tmr := tbl.tmr.softTimerDel (.conflict c)
        (true, { tbl with tmr := tmr.softTimerAdd (.conflict c) rtpConfigSourceConflictTimeout })

/-- `rtp_source_conflict_add` -/
def rtpSourceConflictAdd (tbl : LinkedConflictTable) (addr : SockaddrIn) : Option (Bool × LinkedConflictTable) :=
  if tbl.links.listEmpty .free then some (false, tbl)
  else
    (tbl.links.listFirstEntry .free).map fun c =>
      (true,
        { addr := Function.update tbl.addr c addr
          links := (tbl.links.listDelInit (.le c)).listAddTail (.le c) .used
          tmr := tbl.tmr.softTimerAdd (.conflict c) rtpConfigSourceConflictTimeout })

/-- `rtp_source_conflict_timer_expired` -/
def rtpSourceConflictTimerExpired (tbl : LinkedConflictTable) (c : ConflictSlot) : LinkedConflictTable :=
  { tbl with links := (tbl.links.listDelInit (.le c)).listAddTail (.le c) .free }

/-- The callback of a timer; nothing but conflict entries is on the wheel. -/
def callback (e : TimerElem) (tbl : LinkedConflictTable) : LinkedConflictTable :=
  match e with
  | .conflict c => tbl.rtpSourceConflictTimerExpired c
  | _ => tbl

/-- `soft_timer_drive` -/
def drive (tbl : LinkedConflictTable) : Option LinkedConflictTable :=
  LinkedTimer.softTimerDrive tmr (fun tbl t => { tbl with tmr := t }) callback rounds tbl

/-- One call, with what it returns. -/
def step (tbl : LinkedConflictTable) : TimedBag.Op SockaddrIn → Option (Bool × LinkedConflictTable)
  | .add a => tbl.rtpSourceConflictAdd a
  | .lookup a => tbl.rtpSourceConflictLookup a
  | .tick => tbl.drive.map fun tbl => (true, tbl)

/-- The lists in memory are those of the table and its wheel. -/
structure Shows (tbl : LinkedConflictTable) (m : ConflictTimer) : Prop where
  addr : tbl.addr = m.tbl.addr
  links : tbl.links.Shows m.tbl.pool
  tmr : tbl.tmr.Shows false m.tmr

theorem nodup_allTimers : allTimers.Nodup := by decide +kernel

theorem mem_allTimers (e : TimerElem) : e ∈ allTimers := by
  cases e <;> simp [allTimers, otherTimers]

theorem init_eq (mem : LinkedConflictTable) :
    mem.init =
      { addr := mem.addr
        links := (List.finRange _).foldl (fun l c => (l.initListHead (.le c)).listAddTail (.le c) .free)
          ((mem.links.initListHead .free).initListHead .used)
        tmr := allTimers.foldl LinkedTimer.softTimerInitElem (mem.tmr.softTimerInit 100) } := by
  have hfold : ∀ (cs : List ConflictSlot) (tbl : LinkedConflictTable),
      cs.foldl (fun tbl c =>
        { tbl with
          links := (tbl.links.initListHead (.le c)).listAddTail (.le c) .free
          tmr := tbl.tmr.softTimerInitElem (.conflict c) }) tbl =
      { tbl with
        links := cs.foldl (fun l c => (l.initListHead (.le c)).listAddTail (.le c) .free) tbl.links
        tmr := (cs.map .conflict).foldl LinkedTimer.softTimerInitElem tbl.tmr } := by
    intro cs
    induction cs with
    | nil => exact fun _ => rfl
    | cons c cs ih => exact fun tbl => ih _
  rw [init, rtpSourceConflictTableInit, hfold, allTimers, List.foldl_append]

theorem shows_init (mem : LinkedConflictTable) (pool : Pool ConflictSlot) :
    mem.init.Shows (ConflictTimer.init ⟨⟨mem.addr, pool⟩, mem.tmr.emptied⟩) := by
  rw [init_eq]
  exact ⟨rfl, Links.shows_full Links.adds_initListHead mem.links (List.nodup_finRange _) List.mem_finRange,
    LinkedTimer.shows_start mem.tmr 100 nodup_allTimers mem_allTimers⟩

variable {tbl : LinkedConflictTable} {m : ConflictTimer}

theorem rounds_lt (p : Pool ConflictSlot) : p.used.length < rounds := by
  have hused := LinkedMemberTable.length_used_lt p
  exact hused.trans (by decide +kernel)

theorem Shows.lookup (h : tbl.Shows m) (a : SockaddrIn) :
    ∃ tbl', tbl.step (.lookup a) = some ((m.step (.lookup a)).1, tbl') ∧ tbl'.Shows (m.step (.lookup a)).2 := by
  simp only [LinkedConflictTable.step, rtpSourceConflictLookup, ConflictTimer.step,
    RtpSourceConflictTable.rtpSourceConflictLookup, h.addr, h.links.findUsed _ (rounds_lt m.tbl.pool),
    Option.map_some]
  cases m.tbl.pool.findUsed fun c => decide (m.tbl.addr c = a) with
  | none => exact ⟨tbl, rfl, h⟩
  | some c => exact ⟨_, rfl, rfl, h.links, (h.tmr.del _).add _ _⟩

theorem Shows.add (h : tbl.Shows m) (a : SockaddrIn) :
    ∃ tbl', tbl.step (.add a) = some ((m.step (.add a)).1, tbl') ∧ tbl'.Shows (m.step (.add a)).2 := by
  simp only [LinkedConflictTable.step, rtpSourceConflictAdd, ConflictTimer.step,
    RtpSourceConflictTable.rtpSourceConflictAdd]
  cases htake : m.tbl.pool.take with
  | none =>
      have hempty := h.links.listEmpty.2 ((Pool.take_eq_none _).1 htake)
      exact ⟨tbl, if_pos hempty, h⟩
  | some r =>
      obtain ⟨c, pool⟩ := r
      have hfree := (Pool.take_eq_some htake).1
      have hfull : ¬ tbl.links.listEmpty .free = true := fun hempty => by
        rw [h.links.listEmpty, hfree] at hempty
        cases hempty
      rw [if_neg hfull, h.links.first hfree]
      refine ⟨_, rfl, ?_, h.links.take htake, h.tmr.add _ _⟩
      rw [h.addr]

/-- A callback leaves the list of the tick alone. -/
theorem follows_callback :
    LinkedTimer.Follows tmr (fun tbl t => { tbl with tmr := t }) callback ConflictTimer.tmr
      (fun m t => { m with tmr := t })
      (fun e m =>
        match e with
        | .conflict c => { m with tbl := m.tbl.rtpSourceConflictTimerExpired c }
        | _ => m)
      fun tbl m => tbl.addr = m.tbl.addr ∧ tbl.links.Shows m.tbl.pool where
  get _ _ := rfl
  get' _ _ := rfl
  set _ _ h := h
  callback e tbl m htmr h := by
    cases e with
    | conflict c => exact ⟨htmr, h.1, h.2.release c⟩
    | rtcp | member | sender | leave => exact ⟨htmr, h⟩
  shorter e m := by
    cases e with
    | conflict c => exact Nat.le_refl _
    | rtcp | member | sender | leave => exact Nat.le_refl _

theorem Shows.tick (h : tbl.Shows m) :
    ∃ tbl', tbl.step .tick = some ((m.step .tick).1, tbl') ∧ tbl'.Shows (m.step .tick).2 := by
  obtain ⟨tbl', hrun, htmr, haddr, hlinks⟩ :=
    follows_callback.softTimerDrive mem_allTimers (Nat.lt_succ_self _) h.tmr ⟨h.addr, h.links⟩
  refine ⟨tbl', ?_, haddr, hlinks, htmr⟩
  rw [LinkedConflictTable.step, drive, hrun]
  rfl

theorem Shows.step (h : tbl.Shows m) (op : TimedBag.Op SockaddrIn) :
    ∃ tbl', tbl.step op = some ((m.step op).1, tbl') ∧ tbl'.Shows (m.step op).2 := by
  cases op with
  | add a => exact h.add a
  | lookup a => exact h.lookup a
  | tick => exact h.tick

/-- Whatever was in memory, and whatever is added, looked up and ticked from then on: every call returns, and what
    it returns is what a bag of addresses that expire answers. The used list has the addresses of the bag on it, in
    the same order, and an entry is on it exactly if its timer runs. -/
theorem linked_conflicts (mem : LinkedConflictTable) (ops : List (TimedBag.Op SockaddrIn)) :
    let b := Runs.run (Runs.answering (TimedBag.step ConflictTimer.lifetime rtpConfigSourceConflictTableSize))
      ([], .empty) ops
    ∃ (tbl : LinkedConflictTable) (used : List ConflictSlot),
      ops.foldlM (Runs.answeringM LinkedConflictTable.step) ([], mem.init) = some (b.1, tbl) ∧
      tbl.links.listForEachEntry .used rounds (tbl.links.next .used) = some (used.map .le) ∧
      used.map tbl.addr = b.2.entries.map Prod.fst ∧
      ∀ c, tbl.tmr.isSoftTimerRunning (.conflict c) = true ↔ c ∈ used := by
  have hstep : ∀ (tbl : LinkedConflictTable) (b : TimedBag SockaddrIn) op,
      (∃ m : ConflictTimer, tbl.Shows m ∧ m.Refines b) →
      ∃ tbl', tbl.step op = some ((b.step ConflictTimer.lifetime rtpConfigSourceConflictTableSize op).1, tbl') ∧
        ∃ m : ConflictTimer, tbl'.Shows m ∧
          m.Refines (b.step ConflictTimer.lifetime rtpConfigSourceConflictTableSize op).2 := by
    rintro tbl b op ⟨m, hshows, hrefines⟩
    obtain ⟨tbl', hop, hshows'⟩ := hshows.step op
    obtain ⟨hanswer, hrefines'⟩ := hrefines.step op
    exact ⟨tbl', by rw [hop, hanswer], _, hshows', hrefines'⟩
  have hinit := shows_init mem (.full _ (List.nodup_finRange _) List.mem_finRange)
  obtain ⟨tbl, hrun, m, hshows, hrefines⟩ :=
    Runs.answeringM_refines hstep ⟨_, hinit, ConflictTimer.refines_init _⟩ ops
  refine ⟨tbl, m.tbl.pool.used, hrun, ?_, ?_, fun c => ?_⟩
  · refine Links.listForEachEntry_eq (Links.Rings.swap hshows.links) ?_
    rw [List.length_map]
    exact rounds_lt m.tbl.pool
  · rw [hshows.addr, ← hrefines.entries, List.map_map]
    rfl
  · rw [hshows.tmr.isSoftTimerRunning, SoftTimer.isSoftTimerRunning, decide_eq_true_eq]
    exact hrefines.toKept.running_conflict c

end LinkedConflictTable

end Prtp
