import Prtp.ActRules
import Prtp.Ledger

set_option autoImplicit false

/-! # A session refines its ledger

`Session.ledger` reads the ledger off the table, the wheel and the control variables. Each act of a
session moves its ledger by one event. -/

namespace Prtp

open Ledger (Event)

namespace Session

/-- What the table, the members' flags and the wheel say of a slot. -/
def entryOf (s : Session) (m : Slot) : Entry where
  used := decide (m ∈ s.usedList)
  self := (s.member m).flags.self
  bye := (s.member m).flags.byeReceived
  heard := (s.member m).flags.rtpHeard
  memberTe := s.isSoftTimerRunning (.member m)
  senderTe := s.isSoftTimerRunning (.sender m)
  leaveTe := s.isSoftTimerRunning (.leave m)

/-- The ledger of a session. -/
def ledger (s : Session) : Ledger where
  entry := s.entryOf
  self := s.self
  members := s.rtcpVar.members
  senders := s.rtcpVar.senders
  weSent := s.rtcpVar.weSent

/-! ## What the primitives do to the ledger -/

theorem Quiet.ledger {s s' : Session} (h : Quiet s s') : s'.ledger = s.ledger := by
  have hentry : s'.entryOf = s.entryOf := by
    funext m
    simp only [entryOf, h.usedList, (h.member m).self, (h.member m).byeReceived,
      (h.member m).rtpHeard, isSoftTimerRunning, h.timer]
  simp only [Session.ledger, hentry, h.self, h.rtcpVar]

@[simp] theorem ledger_setRtpError (s : Session) (e : RtpRxError) :
    (s.setRtpError e).ledger = s.ledger := rfl

@[simp] theorem ledger_setRtcpError (s : Session) (e : RtcpRxError) :
    (s.setRtcpError e).ledger = s.ledger := rfl

/-- Rewriting a member's record shows in its flags only. -/
theorem ledger_modifyMember (s : Session) (m : Slot) (f : RtpMember → RtpMember) :
    (s.modifyMember m f).ledger =
      s.ledger.put m
        { s.entryOf m with
          self := (f (s.member m)).flags.self
          bye := (f (s.member m)).flags.byeReceived
          heard := (f (s.member m)).flags.rtpHeard } := by
  have hentry : (s.modifyMember m f).entryOf =
      Function.update s.entryOf m
        { s.entryOf m with
          self := (f (s.member m)).flags.self
          bye := (f (s.member m)).flags.byeReceived
          heard := (f (s.member m)).flags.rtpHeard } := by
    funext j
    by_cases hj : j = m
    · subst hj
      rw [Function.update_self, entryOf, member_modifyMember, if_pos rfl]
      rfl
    · rw [Function.update_of_ne hj, entryOf, member_modifyMember, if_neg hj]
      rfl
  simp only [ledger, hentry, Ledger.put]
  rfl

/-- A change to a member that no flag on the ledger shows. -/
theorem ledger_modify_same (s : Session) (m : Slot) {f : RtpMember → RtpMember}
    (hself : (f (s.member m)).flags.self = (s.member m).flags.self)
    (hbye : (f (s.member m)).flags.byeReceived = (s.member m).flags.byeReceived)
    (hheard : (f (s.member m)).flags.rtpHeard = (s.member m).flags.rtpHeard) :
    (s.modifyMember m f).ledger = s.ledger := by
  rw [ledger_modifyMember, hself, hbye, hheard]
  exact Ledger.put_entry _ m

/-- A change to a member that shows as its being heard or not. -/
theorem ledger_modify_heard (s : Session) (m : Slot) {f : RtpMember → RtpMember} (heard : Bool)
    (hself : (f (s.member m)).flags.self = (s.member m).flags.self)
    (hbye : (f (s.member m)).flags.byeReceived = (s.member m).flags.byeReceived)
    (hheard : (f (s.member m)).flags.rtpHeard = heard) :
    (s.modifyMember m f).ledger = s.ledger.put m { s.ledger.entry m with heard := heard } := by
  rw [ledger_modifyMember, hself, hbye, hheard]
  rfl

/-- A timer switched on or off; the interval timer and those of the conflict table are on nobody's
    entry. -/
def setRunning (l : Ledger) (on : Bool) (e : TimerElem) : Ledger :=
  { l with
    entry := fun m =>
      { l.entry m with
        memberTe := if .member m = e then on else (l.entry m).memberTe
        senderTe := if .sender m = e then on else (l.entry m).senderTe
        leaveTe := if .leave m = e then on else (l.entry m).leaveTe } }

@[simp] theorem setRunning_rtcp (l : Ledger) (on : Bool) : setRunning l on .rtcp = l := by
  simp [setRunning]

@[simp] theorem setRunning_conflict (l : Ledger) (on : Bool) (c : ConflictSlot) :
    setRunning l on (.conflict c) = l := by
  simp [setRunning]

@[simp] theorem setRunning_member (l : Ledger) (on : Bool) (m : Slot) :
    setRunning l on (.member m) = l.put m { l.entry m with memberTe := on } := by
  ext1
  · funext j
    by_cases hj : j = m
    · subst hj
      simp [setRunning]
    · simp [setRunning, hj, Ledger.entry_put_of_ne l hj]
  all_goals rfl

@[simp] theorem setRunning_sender (l : Ledger) (on : Bool) (m : Slot) :
    setRunning l on (.sender m) = l.put m { l.entry m with senderTe := on } := by
  ext1
  · funext j
    by_cases hj : j = m
    · subst hj
      simp [setRunning]
    · simp [setRunning, hj, Ledger.entry_put_of_ne l hj]
  all_goals rfl

@[simp] theorem setRunning_leave (l : Ledger) (on : Bool) (m : Slot) :
    setRunning l on (.leave m) = l.put m { l.entry m with leaveTe := on } := by
  ext1
  · funext j
    by_cases hj : j = m
    · subst hj
      simp [setRunning]
    · simp [setRunning, hj, Ledger.entry_put_of_ne l hj]
  all_goals rfl

/-- Changing whether one timer runs shows in the ledger as that. -/
theorem ledger_setTimer (s : Session) (t : SoftTimer TimerElem) (e : TimerElem) (on : Bool)
    (h : ∀ x, t.isSoftTimerRunning x = if x = e then on else s.isSoftTimerRunning x) :
    (s.setTimer t).ledger = setRunning s.ledger on e := by
  have hentry : ∀ m, (s.setTimer t).entryOf m =
      { s.entryOf m with
        memberTe := t.isSoftTimerRunning (.member m)
        senderTe := t.isSoftTimerRunning (.sender m)
        leaveTe := t.isSoftTimerRunning (.leave m) } := fun _ => rfl
  have hfun : (s.setTimer t).entryOf = (setRunning s.ledger on e).entry := by
    funext m
    simp only [hentry, h]
    rfl
  simp only [ledger, hfun]
  rfl

@[simp] theorem ledger_softTimerAdd (s : Session) (e : TimerElem) (d : Int) :
    (s.softTimerAdd e d).ledger = setRunning s.ledger true e := by
  apply ledger_setTimer
  intro x
  by_cases hx : x = e <;>
    simp [isSoftTimerRunning, SoftTimer.isSoftTimerRunning, SoftTimer.running_add, hx]

@[simp] theorem ledger_softTimerDel (s : Session) (e : TimerElem) :
    (s.softTimerDel e).ledger = setRunning s.ledger false e := by
  apply ledger_setTimer
  intro x
  by_cases hx : x = e <;>
    simp [isSoftTimerRunning, SoftTimer.isSoftTimerRunning, SoftTimer.running_del, hx]

theorem ledger_popTimeout {s : Session} {e : TimerElem} {rest : List TimerElem}
    (h : s.softTimer.timeoutList = e :: rest) :
    (s.setTimer s.softTimer.popTimeout).ledger = setRunning s.ledger false e := by
  apply ledger_setTimer
  intro x
  by_cases hx : x = e <;>
    simp [isSoftTimerRunning, SoftTimer.isSoftTimerRunning, SoftTimer.running_popTimeout h, hx]

theorem ledger_expire (s : Session) : (s.setTimer s.softTimer.expire).ledger = s.ledger := by
  -- no element starts or stops, `rtcp` as little as any other
  have h := ledger_setTimer s s.softTimer.expire .rtcp (s.isSoftTimerRunning .rtcp) (by
    intro x
    simp only [isSoftTimerRunning, SoftTimer.isSoftTimerRunning, SoftTimer.running_expire]
    split
    · rename_i hx
      rw [hx]
    · rfl)
  rwa [setRunning_rtcp] at h

@[simp] theorem ledger_setTn (s : Session) (tn : Option ℚ) : (s.setTn tn).ledger = s.ledger := rfl

@[simp] theorem ledger_rtpEvent (s : Session) (newMember newSender : Bool) :
    (s.rtcpIntervalHandleRtpEvent newMember newSender).ledger =
      { s.ledger with
        members := Ledger.bump s.ledger.members newMember
        senders := Ledger.bump s.ledger.senders newSender } := rfl

@[simp] theorem ledger_nonBye (s : Session) (flags : IntervalFlags) (pktSize : UInt32) :
    (s.rtcpIntervalHandleRtcpEvent .rxNonBye flags pktSize).ledger =
      { s.ledger with members := Ledger.bump s.ledger.members flags.member } := rfl

theorem ledger_reschedule (s : Session) (tc : ℚ) (tn : Option ℚ) :
    (s.rtcpIntervalReschedule tc tn).ledger = s.ledger := by
  rw [rtcpIntervalReschedule, ledger_softTimerAdd, ledger_softTimerDel, setRunning_rtcp,
    setRunning_rtcp, ledger_setTn]

/-- Reverse reconsideration moves times, not participants. -/
theorem ledger_reverseReconsider (s : Session) : s.reverseReconsider.ledger = s.ledger := by
  have h := ledger_reschedule
    { s with
      rtcpVar :=
        { s.rtcpVar with
          tp := s.rtcpCurrentTime - s.reconsiderationRatio * (s.rtcpCurrentTime - s.rtcpVar.tp) } }
    s.rtcpCurrentTime
    (s.rtcpVar.tn.map fun tn => s.rtcpCurrentTime + s.reconsiderationRatio *
      (tn - s.rtcpCurrentTime))
  exact h

/-- A BYE or a timeout takes off what its flags say. -/
theorem ledger_leaving (s : Session) {event : RtcpEvent} (hevent : event ≠ .rxNonBye)
    (flags : IntervalFlags) (pktSize : UInt32) :
    (s.rtcpIntervalHandleRtcpEvent event flags pktSize).ledger =
      { s.ledger with
        members := Ledger.drop s.ledger.members flags.member
        senders := Ledger.drop s.ledger.senders flags.sender } := by
  rw [rtcpEvent_leaving s hevent]
  split
  · exact ledger_reverseReconsider _
  · rfl

/-- What allocation does to the session: the slot it hands out was free, and only the table and
    `undef` change. -/
theorem alloc_eq_some {s s' : Session} {ssrc : UInt32} {m : Slot}
    (h : s.rtpSessionAllocMember ssrc = some (m, s')) :
    m ∉ s.usedList ∧ s'.usedList = s.usedList ++ [m] ∧
      s'.memberTable.memberArray =
        Function.update s.memberTable.memberArray m (rtpMemberInit (s.member m) ssrc) ∧
      s'.softTimer = s.softTimer ∧ s'.rtcpVar = s.rtcpVar ∧ s'.self = s.self ∧
      s'.srcConflict = s.srcConflict := by
  rw [rtpSessionAllocMember, RtpMemberTable.rtpMemberTableAllocMember] at h
  cases htake : s.memberTable.pool.take with
  | none =>
      rw [htake] at h
      exact absurd h (by simp)
  | some p =>
      obtain ⟨j, pool⟩ := p
      simp only [htake, Option.some.injEq, Prod.mk.injEq] at h
      obtain ⟨rfl, rfl⟩ := h
      exact ⟨Pool.not_mem_used_of_take htake, (Pool.take_eq_some htake).2, rfl, rfl, rfl, rfl, rfl⟩

/-- What is in a slot that was taken and filled in, and in the others. -/
theorem member_alloc {s s' : Session} {ssrc : UInt32} {m : Slot}
    (h : s.rtpSessionAllocMember ssrc = some (m, s')) (f : RtpMember → RtpMember) (j : Slot) :
    (s'.modifyMember m f).member j =
      if j = m then f (rtpMemberInit (s.member m) ssrc) else s.member j := by
  obtain ⟨-, -, harray, -⟩ := alloc_eq_some h
  rw [member_modifyMember, Session.member, Session.member, harray, Function.update_self]
  split
  · rfl
  · rename_i hj
    rw [Function.update_of_ne hj, Session.member]

/-- A source that has just become a member, and was filled in by `f`, is looked up as that member. -/
theorem lookup_alloc {s s' t : Session} {ssrc : UInt32} {m : Slot}
    (hnone : s.rtpSessionLookupMember ssrc = none)
    (halloc : s.rtpSessionAllocMember ssrc = some (m, s')) {f : RtpMember → RtpMember}
    (hssrc : (f (rtpMemberInit (s.member m) ssrc)).ssrc = ssrc)
    (ht : t.memberTable = (s'.modifyMember m f).memberTable) :
    t.rtpSessionLookupMember ssrc = some m := by
  have hmember : ∀ j, t.member j = (s'.modifyMember m f).member j := by
    intro j
    rw [member, member, ht]
  have hused : t.usedList = s.usedList ++ [m] := by
    rw [usedList, ht]
    exact (alloc_eq_some halloc).2.1
  have hm : (t.member m).ssrc = ssrc := by
    rw [hmember, member_alloc halloc, if_pos rfl, hssrc]
  cases hlookup : t.rtpSessionLookupMember ssrc with
  | none =>
      refine absurd hm (lookup_eq_none.1 hlookup m ?_)
      rw [hused]
      exact List.mem_append_right _ (List.mem_singleton_self m)
  | some j =>
      obtain ⟨hj, hjssrc⟩ := lookup_eq_some hlookup
      rw [hused, List.mem_append, List.mem_singleton] at hj
      by_cases hjm : j = m
      · rw [hjm]
      · rw [hmember, member_alloc halloc, if_neg hjm] at hjssrc
        exact absurd hjssrc (lookup_eq_none.1 hnone j (hj.resolve_right hjm))

theorem out_alloc {s s' : Session} {ssrc : UInt32} {m : Slot}
    (h : s.rtpSessionAllocMember ssrc = some (m, s')) : s'.out = s.out := by
  rw [rtpSessionAllocMember] at h
  split at h
  · exact absurd h (by simp)
  · rw [Option.some_inj, Prod.mk.injEq] at h
    rw [← h.2]
    rfl

/-- A new member takes the first free slot. -/
theorem head_freeList_of_alloc {s s' : Session} {ssrc : UInt32} {m : Slot}
    (h : s.rtpSessionAllocMember ssrc = some (m, s')) : s.freeList.head? = some m := by
  rw [rtpSessionAllocMember, RtpMemberTable.rtpMemberTableAllocMember] at h
  cases htake : s.memberTable.pool.take with
  | none =>
      rw [htake] at h
      exact absurd h (by simp)
  | some q =>
      obtain ⟨j, pool⟩ := q
      simp only [htake, Option.some.injEq, Prod.mk.injEq] at h
      rw [freeList, (Pool.take_eq_some htake).1, List.head?_cons, h.1]

/-- Taking a slot: its flags are cleared, its timers are left as they are. -/
theorem ledger_alloc {s s' : Session} {ssrc : UInt32} {m : Slot}
    (h : s.rtpSessionAllocMember ssrc = some (m, s')) :
    (s.ledger.entry m).used = false ∧
      s'.ledger =
        s.ledger.put m
          { s.ledger.entry m with used := true, self := false, bye := false, heard := false } := by
  obtain ⟨hfree, hused, harray, htimer, hvar, hself, -⟩ := alloc_eq_some h
  refine ⟨decide_eq_false hfree, ?_⟩
  have hentry : s'.entryOf =
      Function.update s.entryOf m
        { s.entryOf m with used := true, self := false, bye := false, heard := false } := by
    funext j
    by_cases hj : j = m
    · subst hj
      rw [Function.update_self]
      simp [entryOf, member, hused, harray, isSoftTimerRunning, htimer, rtpMemberInit,
        RtpFlags.zero]
    · rw [Function.update_of_ne hj]
      simp [entryOf, member, hused, harray, isSoftTimerRunning, htimer, hj]
  simp only [ledger, hentry, hvar, hself, Ledger.put]

/-- Freeing a slot stops its timers. -/
theorem ledger_dealloc (s : Session) (m : Slot) :
    (s.rtpSessionDeallocMember m).ledger =
      s.ledger.put m (Ledger.vacate (s.ledger.entry m)) := by
  have hfree : (s.rtpSessionDeallocMember m).ledger =
      (s.rtpTimersDeinitMember m).ledger.put m
        { (s.rtpTimersDeinitMember m).ledger.entry m with used := false } := by
    have hentry : ∀ j, (s.rtpSessionDeallocMember m).entryOf j =
        { (s.rtpTimersDeinitMember m).entryOf j with
          used := decide (j ∈ (s.rtpSessionDeallocMember m).usedList) } := fun _ => rfl
    have hused : ∀ j, decide (j ∈ (s.rtpSessionDeallocMember m).usedList) =
        decide (j ∈ (s.rtpTimersDeinitMember m).usedList ∧ j ≠ m) :=
      fun j => decide_eq_decide.2 (Pool.mem_used_release _ m j)
    ext1
    · funext j
      refine (hentry j).trans ?_
      rw [hused]
      by_cases hj : j = m
      · subst hj
        simp [ledger]
      · rw [Ledger.entry_put_of_ne _ hj]
        simp [hj, ledger, entryOf]
    all_goals rfl
  rw [hfree, rtpTimersDeinitMember]
  simp [Ledger.vacate]

theorem ledger_changeRandomSsrc (s : Session) (m : Slot) :
    (s.rtpMemberTableChangeRandomSsrc m).ledger = s.ledger := by
  unfold rtpMemberTableChangeRandomSsrc
  split
  · rfl
  · rw [ledger_modifyMember]
    exact Ledger.put_entry _ m

theorem ledger_sourceConflictLookup (s : Session) (addr : SockaddrIn) :
    (s.rtpSourceConflictLookup addr).2.ledger = s.ledger := by
  simp only [rtpSourceConflictLookup, RtpSourceConflictTable.rtpSourceConflictLookup]
  split
  · rfl
  · rename_i c _
    have h := ledger_softTimerAdd (s.softTimerDel (.conflict c)) (.conflict c)
      rtpConfigSourceConflictTimeout
    rwa [ledger_softTimerDel, setRunning_conflict, setRunning_conflict] at h

theorem ledger_sourceConflictAdd (s : Session) (addr : SockaddrIn) :
    (s.rtpSourceConflictAdd addr).ledger = s.ledger := by
  simp only [rtpSourceConflictAdd, RtpSourceConflictTable.rtpSourceConflictAdd]
  split
  · rfl
  · rename_i c pool _
    have h := ledger_softTimerAdd s (.conflict c) rtpConfigSourceConflictTimeout
    rwa [setRunning_conflict] at h

/-- A collision changes the session's SSRC and the conflict table only. -/
theorem ledger_ownSsrcConflict (s : Session) (m : Slot) (fromAddr : SockaddrIn) :
    (s.ownSsrcConflict m fromAddr).2.ledger = s.ledger := by
  have hlookup := ledger_sourceConflictLookup s fromAddr
  simp only [ownSsrcConflict]
  split
  · exact hlookup
  · have hchange := ledger_changeRandomSsrc
      ((s.rtpSourceConflictLookup fromAddr).2.rtpSourceConflictAdd fromAddr) m
    rw [ledger_sourceConflictAdd, hlookup] at hchange
    exact hchange

/-! ## What the acts do to the ledger -/

/-- From `s` to `s'` the ledger moves by the event. -/
def Moves (s : Session) (e : Event) (s' : Session) : Prop :=
  s.ledger.Enabled e ∧ s'.ledger = s.ledger.apply e

theorem moves_idle {s s' : Session} (h : s'.ledger = s.ledger) : s.Moves .idle s' := ⟨trivial, h⟩

/-- The events a packet from `fromAddr` that names `ssrc` can cause. Only the member of that name is
    heard again, and the session's own only if the packet comes from its own address. -/
def PacketEvent (s : Session) (addr : RtpMember → SockaddrIn) (fromAddr : SockaddrIn)
    (ssrc : UInt32) : Event → Prop
  | .idle | .join _ _ | .speak _ => True
  | .hear m _ =>
      (s.member m).ssrc = ssrc ∧
        ((s.member m).flags.self = true → addr (s.member m) = fromAddr)
  | _ => False

theorem present_of_lookup {s : Session} {ssrc : UInt32} {m : Slot}
    (hm : s.rtpSessionLookupMember ssrc = some m)
    (hbye : (s.member m).flags.byeReceived = false) : (s.ledger.entry m).present = true := by
  have hused := (lookup_eq_some hm).1
  simp [ledger, entryOf, Entry.present, hused, hbye]

theorem rtpCreated_moves {s s' : Session} {m : Slot} {ssrc : UInt32} {seq : UInt16}
    {fromAddr : SockaddrIn} (h : s.rtpSessionAllocMember ssrc = some (m, s')) :
    s.Moves (.join m true) (s'.rtpCreated m seq fromAddr) := by
  obtain ⟨hfree, hledger⟩ := ledger_alloc h
  refine ⟨hfree, ?_⟩
  have hheard := ledger_modify_heard s' m (f := rtpFirstHeard seq fromAddr) true rfl rfl rfl
  simp only [rtpCreated, rtpTimersSenderStart, rtpTimersMemberStart, ledger_setRtpError,
    ledger_softTimerAdd, ledger_rtpEvent, hheard, hledger]
  simp [Ledger.put, Ledger.apply]

theorem rtpJoined_moves {s : Session} {m : Slot} {ssrc : UInt32} {seq : UInt16}
    {fromAddr : SockaddrIn} (hm : s.rtpSessionLookupMember ssrc = some m)
    (hbye : (s.member m).flags.byeReceived = false) (hself : (s.member m).flags.self = false)
    (hnew : (s.member m).flags.rtpHeard = false) :
    s.Moves (.speak m) (s.rtpJoined m seq fromAddr) := by
  refine ⟨⟨present_of_lookup hm hbye, hself, hnew⟩, ?_⟩
  have hheard := ledger_modify_heard s m (f := rtpFirstHeard seq fromAddr) true rfl rfl rfl
  simp only [rtpJoined, rtpTimersSenderStart, rtpTimersMemberRestart, ledger_setRtpError,
    ledger_softTimerAdd, ledger_softTimerDel, ledger_rtpEvent, hheard]
  simp [Ledger.put, Ledger.apply]

theorem rtpRefreshed_moves {s : Session} {m : Slot} {ssrc : UInt32}
    (hm : s.rtpSessionLookupMember ssrc = some m)
    (hbye : (s.member m).flags.byeReceived = false)
    (hknown : (s.member m).flags.self = true ∨ (s.member m).flags.rtpHeard = true) :
    s.Moves (.hear m true) (s.rtpRefreshed m) := by
  refine ⟨⟨present_of_lookup hm hbye, fun _ => hknown⟩, ?_⟩
  have hheard := ledger_modify_heard s m (f := RtpMember.setRtpHeard) true rfl rfl rfl
  simp only [rtpRefreshed, rtpTimersSenderRestart, rtpTimersMemberRestart, ledger_softTimerAdd,
    ledger_softTimerDel, hheard]
  simp [Ledger.put, Ledger.apply]

/-- A source of a data packet moves the ledger by at most one event. -/
theorem rtpHandleSsrc_moves (s : Session) (ssrc : UInt32) (seq : UInt16) (fromAddr : SockaddrIn)
    (csrc : Bool) :
    ∃ e, s.Moves e (s.rtpHandleSsrc ssrc seq fromAddr csrc).2 ∧
      s.PacketEvent RtpMember.rtpAddr fromAddr ssrc e := by
  have hcase := s.rtpHandleSsrc_case ssrc seq fromAddr csrc
  generalize s.rtpHandleSsrc ssrc seq fromAddr csrc = res at hcase
  cases hcase with
  | tableFull | leaving | thirdParty => exact ⟨.idle, moves_idle rfl, trivial⟩
  | created m s' hnone halloc => exact ⟨_, rtpCreated_moves halloc, trivial⟩
  | createdCsrc m s' hnone halloc =>
      have hcreated : s.Moves _ (s'.rtpCreated m seq fromAddr) := rtpCreated_moves halloc
      obtain ⟨hfree, hledger⟩ := hcreated
      have hflags := ledger_modify_same (s'.rtpCreated m seq fromAddr) m
        (f := fun x => x.setValidated.setCsrc) rfl rfl rfl
      exact ⟨_, ⟨hfree, hflags.trans hledger⟩, trivial⟩
  | joined _ m hm hbye hself hnew => exact ⟨_, rtpJoined_moves hm hbye hself hnew, trivial⟩
  | collision _ m hm hbye hself haddr err =>
      exact ⟨.idle, moves_idle (ledger_ownSsrcConflict s m fromAddr), trivial⟩
  | refreshed _ m hm hbye hknown haddr =>
      exact ⟨_, rtpRefreshed_moves hm hbye hknown, (lookup_eq_some hm).2, fun _ => haddr⟩

theorem rtcpCreated_moves {s s' : Session} {m : Slot} {ssrc pktSize : UInt32}
    {fromAddr : SockaddrIn} (h : s.rtpSessionAllocMember ssrc = some (m, s')) :
    s.Moves (.join m false) (s'.rtcpCreated m fromAddr pktSize) := by
  obtain ⟨hfree, hledger⟩ := ledger_alloc h
  refine ⟨hfree, ?_⟩
  have hsame := ledger_modify_same s' m (f := rtcpFirstHeard fromAddr) rfl rfl rfl
  simp only [rtcpCreated, rtpTimersMemberStart, ledger_setRtcpError, ledger_softTimerAdd,
    ledger_nonBye, hsame, hledger]
  simp [Ledger.put, Ledger.apply]

/-- Hearing a member by RTCP restarts its member timer and changes nothing else. -/
theorem hear_moves {s s' : Session} {m : Slot} {ssrc : UInt32}
    (hm : s.rtpSessionLookupMember ssrc = some m)
    (hbye : (s.member m).flags.byeReceived = false)
    (h : s'.ledger = setRunning (setRunning s.ledger false (.member m)) true (.member m)) :
    s.Moves (.hear m false) s' := by
  refine ⟨⟨present_of_lookup hm hbye, fun h => absurd h (by decide)⟩, ?_⟩
  rw [h]
  simp [Ledger.put, Ledger.apply]

/-- A source of an RTCP packet moves the ledger by at most one event. -/
theorem rtcpHandleSsrc_moves (s : Session) (ssrc : UInt32) (fromAddr : SockaddrIn)
    (pktSize : UInt32) :
    ∃ e, s.Moves e (s.rtcpHandleSsrc ssrc fromAddr pktSize).2 ∧
      s.PacketEvent RtpMember.rtcpAddr fromAddr ssrc e := by
  have hcase := s.rtcpHandleSsrc_case ssrc fromAddr pktSize
  generalize s.rtcpHandleSsrc ssrc fromAddr pktSize = res at hcase
  cases hcase with
  | tableFull | leaving | thirdParty => exact ⟨.idle, moves_idle rfl, trivial⟩
  | created m s' hnone halloc => exact ⟨_, rtcpCreated_moves halloc, trivial⟩
  | joined m hm hbye hself hnew =>
      have hsame := ledger_modify_same s m (f := rtcpFirstHeard fromAddr) rfl rfl rfl
      refine ⟨_, hear_moves hm hbye ?_, (lookup_eq_some hm).2, fun h => ?_⟩
      · simp only [rtcpJoined, rtpTimersMemberRestart, ledger_setRtcpError, ledger_softTimerAdd,
          ledger_softTimerDel, hsame]
      · rw [hself] at h
        exact absurd h (by decide)
  | collision m hm hbye hknown haddr hown err =>
      exact ⟨.idle, moves_idle (ledger_ownSsrcConflict s m fromAddr), trivial⟩
  | refreshed m hm hbye hknown haddr =>
      have hsame := ledger_modify_same s m (f := RtpMember.setRtcpHeard) rfl rfl rfl
      refine ⟨_, hear_moves hm hbye ?_, (lookup_eq_some hm).2, fun _ => haddr⟩
      simp only [rtcpRefreshed, rtpTimersMemberRestart, ledger_setRtcpError, ledger_softTimerAdd,
        ledger_softTimerDel, ledger_nonBye, hsame]
      rfl

/-- A source of a BYE moves the ledger by at most its leaving. -/
theorem rtcpHandleByeSource_moves (s : Session) (ssrc pktSize : UInt32) :
    s.Moves .idle (s.rtcpHandleByeSource ssrc pktSize) ∨
      ∃ m, s.rtpSessionLookupMember ssrc = some m ∧
        s.Moves (.quit m) (s.rtcpHandleByeSource ssrc pktSize) := by
  unfold rtcpHandleByeSource
  split
  · exact Or.inl (moves_idle rfl)
  · rename_i m hm
    split
    · exact Or.inl (moves_idle rfl)
    · rename_i hbye
      rw [Bool.not_eq_true] at hbye
      refine Or.inr ⟨m, hm, present_of_lookup hm hbye, ?_⟩
      have hflags : ∀ s : Session, (s.modifyMember m RtpMember.setByeReceived).ledger =
          s.ledger.put m { s.ledger.entry m with bye := true } := by
        intro s
        rw [ledger_modifyMember]
        rfl
      simp only [rtpTimersLeaveStart, rtpTimersMemberStop, rtpTimersSenderStop, ledger_softTimerAdd,
        ledger_softTimerDel, hflags, ledger_leaving s (show RtcpEvent.rxBye ≠ .rxNonBye by decide)]
      simp [Ledger.put, Ledger.apply]
      rfl

/-- `we_sent = b` -/
def setWeSent (s : Session) (b : Bool) : Session :=
  { s with rtcpVar := { s.rtcpVar with weSent := b } }

@[simp] theorem ledger_setWeSent (s : Session) (b : Bool) :
    (s.setWeSent b).ledger = { s.ledger with weSent := b } := rfl

theorem ledger_senderRestart (s : Session) (m : Slot) :
    (s.rtpTimersSenderRestart m).ledger =
      s.ledger.put m { s.ledger.entry m with senderTe := true } := by
  simp only [rtpTimersSenderRestart, ledger_softTimerAdd, ledger_softTimerDel]
  simp [Ledger.put]

/-- The part of a transmit before the size check. -/
theorem rtpTxCount_moves (s : Session) (payloadLen : UInt32) :
    s.Moves .transmit (s.rtpTxCount payloadLen) := by
  refine ⟨trivial, ?_⟩
  cases hsent : s.rtcpVar.weSent with
  | true =>
      have hw : s.ledger.weSent = true := hsent
      have hcount : (s.rtpTxCount payloadLen).ledger =
          (s.rtpTimersSenderRestart s.self).ledger := by
        simp only [rtpTxCount, hsent, if_true]
        rfl
      rw [hcount, ledger_senderRestart, Ledger.apply, hw]
      exact Ledger.ext rfl rfl rfl rfl hw
  | false =>
      have hw : s.ledger.weSent = false := hsent
      -- the session becomes a sender first
      have hsame := ledger_modify_same (s.setWeSent true) s.self (f := RtpMember.setSender)
        rfl rfl rfl
      have hcount : (s.rtpTxCount payloadLen).ledger =
          (rtpTimersSenderRestart (((s.setWeSent true).modifyMember s.self
            RtpMember.setSender).rtcpIntervalHandleRtpEvent false true) s.self).ledger := by
        simp only [rtpTxCount, hsent, Bool.false_eq_true, if_false]
        rfl
      rw [hcount, ledger_senderRestart, ledger_rtpEvent, hsame, Ledger.apply, hw]
      rfl

/-- The event a timer's expiry is. -/
def expiryEvent : TimerElem → Event
  | .rtcp | .conflict _ => .idle
  | .member m => .memberExpired m
  | .sender m => .senderExpired m
  | .leave m => .leaveExpired m

theorem ledger_schedule (s : Session) (tc : ℚ) (tn : Option ℚ) :
    (s.rtcpIntervalSchedule tc tn).ledger = s.ledger := by
  rw [rtcpIntervalSchedule, ledger_softTimerAdd, setRunning_rtcp, ledger_setTn]

/-- The interval timer concerns nobody on the ledger. -/
theorem ledger_intervalTimeout (s : Session) : s.rtcpIntervalTimeout.ledger = s.ledger := by
  apply rtcpIntervalTimeout_rule (R := fun s s' => s'.ledger = s.ledger)
  · exact fun h h' => h'.trans h
  · exact fun s => (Quiet.drawInterval s).ledger
  · exact fun s => (Quiet.rtcpSendReport s).ledger
  · exact fun _ _ _ _ => rfl
  · exact ledger_schedule

theorem ledger_memberTimedout (s : Session) (m : Slot) :
    (s.rtcpIntervalMemberTimedout m).ledger =
      { s.ledger.put m (Ledger.vacate (s.ledger.entry m)) with
        members := s.ledger.members - 1
        senders := Ledger.drop s.ledger.senders (s.ledger.entry m).heard } := by
  rw [rtcpIntervalMemberTimedout, ledger_dealloc, ledger_leaving s (by decide)]
  rfl

theorem ledger_senderTimedout (s : Session) (m : Slot) :
    (s.rtcpIntervalSenderTimedout m).ledger =
      { s.ledger.put m { s.ledger.entry m with heard := false } with
        senders := s.ledger.senders - 1
        weSent := s.ledger.weSent && m ≠ s.ledger.self } := by
  have hheard := ledger_modify_heard s m (f := RtpMember.clearRtpHeard) false rfl rfl rfl
  unfold rtcpIntervalSenderTimedout
  by_cases hm : s.self = m
  · have hself : (s.modifyMember m RtpMember.clearRtpHeard).self = m := hm
    have hsame := ledger_modify_same (s.modifyMember m RtpMember.clearRtpHeard) m
      (f := RtpMember.clearSender) rfl rfl rfl
    have hclear := ledger_setWeSent
      ((s.modifyMember m RtpMember.clearRtpHeard).modifyMember m RtpMember.clearSender) false
    rw [hsame, hheard] at hclear
    simp only [if_pos hself]
    refine (ledger_leaving _ (by decide) _ _).trans ?_
    refine (congrArg (fun l : Ledger => { l with
      members := Ledger.drop l.members false, senders := Ledger.drop l.senders true })
      hclear).trans ?_
    have hown : m = s.ledger.self := hm.symm
    simp [hown, Ledger.drop]
  · have hself : (s.modifyMember m RtpMember.clearRtpHeard).self ≠ m := hm
    have hother : m ≠ s.ledger.self := Ne.symm hm
    simp only [if_neg hself]
    rw [ledger_leaving _ (by decide), hheard]
    simp [hother, Ledger.drop]

/-- Firing a timer moves the ledger by its expiry. -/
theorem fire_moves {s : Session} {e : TimerElem} {rest : List TimerElem}
    (h : s.softTimer.timeoutList = e :: rest) :
    s.Moves (expiryEvent e) (timerCallback e (s.setTimer s.softTimer.popTimeout)) := by
  have hpop := ledger_popTimeout h
  have hrun : s.isSoftTimerRunning e = true :=
    decide_eq_true (Or.inr (by rw [h]; exact List.mem_cons_self ..))
  cases e with
  | rtcp =>
      rw [setRunning_rtcp] at hpop
      exact moves_idle ((ledger_intervalTimeout _).trans hpop)
  | conflict c =>
      rw [setRunning_conflict] at hpop
      exact moves_idle hpop
  | member m =>
      refine ⟨hrun, (ledger_memberTimedout _ m).trans ?_⟩
      rw [hpop]
      simp [Ledger.put, expiryEvent, Ledger.apply, Ledger.vacate]
  | sender m =>
      refine ⟨hrun, (ledger_senderTimedout _ m).trans ?_⟩
      rw [hpop]
      simp [Ledger.put, expiryEvent, Ledger.apply]
  | leave m =>
      refine ⟨hrun, (ledger_dealloc _ m).trans ?_⟩
      rw [hpop]
      simp [Ledger.put, expiryEvent, Ledger.apply, Ledger.vacate]

end Session

end Prtp
