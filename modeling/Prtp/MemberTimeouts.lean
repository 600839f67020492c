import Prtp.Deadlines
import Prtp.Membership
import Prtp.SlotFrames
import Prtp.SlotWatch
import Prtp.UniqueSsrc

set_option autoImplicit false

/-! # When members time out

`slotView` reads a slot off the table and the wheel. Each act of a session is at most one move of one
slot, and each callback at most one timer of one slot firing; so every slot but the session's own stays
timed, and a member is removed in the tick its times call for and in no other. -/

namespace Prtp

namespace Session

/-- What the table and the wheel say of a slot. -/
def slotView (s : Session) (m : Slot) : SlotView where
  used := decide (m ∈ s.usedList)
  ssrc := (s.member m).ssrc
  bye := (s.member m).flags.byeReceived
  heard := (s.member m).flags.rtpHeard
  member := s.ticksLeft (.member m)
  sender := s.ticksLeft (.sender m)
  leave := s.ticksLeft (.leave m)

/-! ## What the primitives do to a slot -/

theorem slotView_of_eq {s s' : Session} {m : Slot} (hused : m ∈ s'.usedList ↔ m ∈ s.usedList)
    (hmember : s'.member m = s.member m)
    (hleft : ∀ e ∈ timersOf m, s'.ticksLeft e = s.ticksLeft e) : s'.slotView m = s.slotView m := by
  simp only [slotView, hused, hmember, hleft _ (show .member m ∈ timersOf m by simp [timersOf]),
    hleft _ (show .sender m ∈ timersOf m by simp [timersOf]),
    hleft _ (show .leave m ∈ timersOf m by simp [timersOf])]

theorem slotView_same {s s' : Session} (htable : s'.memberTable = s.memberTable)
    (htimer : s'.softTimer = s.softTimer) (m : Slot) : s'.slotView m = s.slotView m := by
  refine slotView_of_eq ?_ ?_ fun e _ => ?_
  · rw [usedList, usedList, htable]
  · rw [member, member, htable]
  · rw [ticksLeft, ticksLeft, htimer]

theorem slotView_quiet {s s' : Session} (h : Quiet s s') (m : Slot) :
    s'.slotView m = s.slotView m := by
  simp only [slotView, h.usedList, (h.member m).ssrc, (h.member m).byeReceived,
    (h.member m).rtpHeard, ticksLeft, h.timer]

theorem ticksLeft_del (s : Session) (e x : TimerElem) :
    (s.softTimerDel e).ticksLeft x = if x = e then none else s.ticksLeft x :=
  SoftTimer.remaining_del ..

theorem ticksLeft_pop {s : Session} {e : TimerElem} {rest : List TimerElem}
    (htop : s.softTimer.timeoutList = e :: rest) (x : TimerElem) :
    (s.setTimer s.softTimer.popTimeout).ticksLeft x = if x = e then none else s.ticksLeft x :=
  SoftTimer.remaining_popTimeout htop x

/-- A stopped timer that is started. -/
theorem ticksLeft_add {s : Session} (hrate : s.softTimer.tickRate = 100) {e : TimerElem}
    (hstopped : s.ticksLeft e = none) (d : SoftTimer.Milsec) (x : TimerElem) :
    (s.softTimerAdd e d).ticksLeft x =
      if x = e then some (d.1.toNat ⌈/⌉ 100) else s.ticksLeft x := by
  split
  · rename_i hx
    rw [hx, ← toNat_getSoftTick hrate d]
    exact SoftTimer.remaining_add_self hstopped d
  · rename_i hx
    exact SoftTimer.remaining_add_of_ne _ hx d

/-- Whatever is not about a slot leaves what can be seen of it as it is. -/
theorem slotView_frame (m : Slot) : SlotFrame m fun s s' => s'.slotView m = s.slotView m where
  trans h h' := h'.trans h
  same htable htimer := slotView_same htable htimer m
  modify s j f hne := by
    refine slotView_of_eq Iff.rfl ?_ fun _ _ => rfl
    rw [member_modifyMember, if_neg (Ne.symm hne)]
  add s x d hx := by
    refine slotView_of_eq Iff.rfl rfl fun e he => SoftTimer.remaining_add_of_ne _ ?_ d
    rintro rfl
    exact hx he
  del s x hx := by
    refine slotView_of_eq Iff.rfl rfl fun e he => ?_
    rw [ticksLeft_del, if_neg]
    rintro rfl
    exact hx he
  pop {s x rest} htop hx := by
    refine slotView_of_eq Iff.rfl rfl fun e he => ?_
    rw [ticksLeft_pop htop, if_neg]
    rintro rfl
    exact hx he
  alloc {s s' ssrc j} halloc hne := by
    obtain ⟨-, hused, harray, htimer, -⟩ := alloc_eq_some halloc
    refine slotView_of_eq ?_ ?_ fun e _ => ?_
    · rw [hused, List.mem_append, List.mem_singleton, or_iff_left (Ne.symm hne)]
    · rw [member, harray, Function.update_of_ne (Ne.symm hne), member]
    · rw [ticksLeft, htimer, ticksLeft]
  free s j hne := by
    refine slotView_of_eq ?_ rfl fun _ _ => rfl
    exact (Pool.mem_used_release _ j m).trans (and_iff_left (Ne.symm hne))

@[simp] theorem slotView_setRtpError (s : Session) (e : RtpRxError) (m : Slot) :
    (s.setRtpError e).slotView m = s.slotView m := rfl

@[simp] theorem slotView_setRtcpError (s : Session) (e : RtcpRxError) (m : Slot) :
    (s.setRtcpError e).slotView m = s.slotView m := rfl

theorem slotView_modify (s : Session) (m : Slot) (f : RtpMember → RtpMember) :
    (s.modifyMember m f).slotView m =
      { s.slotView m with
        ssrc := (f (s.member m)).ssrc
        bye := (f (s.member m)).flags.byeReceived
        heard := (f (s.member m)).flags.rtpHeard } := by
  have hmember : (s.modifyMember m f).member m = f (s.member m) := by
    rw [member_modifyMember, if_pos rfl]
  simp only [slotView, hmember]
  rfl

/-- A change to one timer. -/
theorem slotView_oneTimer (s s' : Session) (htable : s'.memberTable = s.memberTable)
    {e : TimerElem} {left : Option ℕ}
    (h : ∀ x, s'.ticksLeft x = if x = e then left else s.ticksLeft x) (m : Slot) :
    s'.slotView m =
      { s.slotView m with
        member := if .member m = e then left else (s.slotView m).member
        sender := if .sender m = e then left else (s.slotView m).sender
        leave := if .leave m = e then left else (s.slotView m).leave } := by
  have hused : s'.usedList = s.usedList := by rw [usedList, usedList, htable]
  have hmember : s'.member m = s.member m := by rw [member, member, htable]
  simp only [slotView, hused, hmember, h]

/-- The three timeouts in ticks. -/
theorem timeout_ticks : rtpConfigMemberTimeout.toNat ⌈/⌉ 100 = 100 ∧
    rtpConfigSenderTimeout.toNat ⌈/⌉ 100 = 50 ∧ rtpConfigLeaveTimeout.toNat ⌈/⌉ 100 = 30 := by
  decide

/-- The interval timer is nobody's. -/
theorem slotView_intervalTimeout (s : Session) (m : Slot) :
    s.rtcpIntervalTimeout.slotView m = s.slotView m := by
  obtain ⟨tc, tn, htimer⟩ := s.softTimer_intervalTimeout
  have hentry := congrArg (fun l : Ledger => l.entry m) s.ledger_intervalTimeout
  have hused := congrArg Entry.used hentry
  have hbye := congrArg Entry.bye hentry
  have hheard := congrArg Entry.heard hentry
  have hssrc := s.sameNames_intervalTimeout.ssrc m
  have hleft : ∀ e, e ≠ .rtcp → s.rtcpIntervalTimeout.ticksLeft e = s.ticksLeft e := by
    intro e he
    rw [ticksLeft, htimer]
    exact SoftTimer.remaining_add_of_ne _ he _
  exact SlotView.ext hused hssrc hbye hheard (hleft _ (by simp)) (hleft _ (by simp))
    (hleft _ (by simp))

section Timers

variable {s : Session} (m : Slot)

theorem slotView_memberStop : (s.rtpTimersMemberStop m).slotView m =
    { s.slotView m with member := none } := by
  simpa using slotView_oneTimer s (s.rtpTimersMemberStop m) rfl (ticksLeft_del s (.member m)) m

theorem slotView_senderStop : (s.rtpTimersSenderStop m).slotView m =
    { s.slotView m with sender := none } := by
  simpa using slotView_oneTimer s (s.rtpTimersSenderStop m) rfl (ticksLeft_del s (.sender m)) m

theorem slotView_leaveStop : (s.softTimerDel (.leave m)).slotView m =
    { s.slotView m with leave := none } := by
  simpa using slotView_oneTimer s (s.softTimerDel (.leave m)) rfl (ticksLeft_del s (.leave m)) m

variable (hrate : s.softTimer.tickRate = 100)

include hrate

theorem slotView_memberStart (hstopped : (s.slotView m).member = none) :
    (s.rtpTimersMemberStart m).slotView m = { s.slotView m with member := some 100 } := by
  have hleft := ticksLeft_add hrate (e := .member m) hstopped ⟨rtpConfigMemberTimeout, by decide⟩
  simpa [timeout_ticks] using slotView_oneTimer s (s.rtpTimersMemberStart m) rfl hleft m

theorem slotView_senderStart (hstopped : (s.slotView m).sender = none) :
    (s.rtpTimersSenderStart m).slotView m = { s.slotView m with sender := some 50 } := by
  have hleft := ticksLeft_add hrate (e := .sender m) hstopped ⟨rtpConfigSenderTimeout, by decide⟩
  simpa [timeout_ticks] using slotView_oneTimer s (s.rtpTimersSenderStart m) rfl hleft m

theorem slotView_leaveStart (hstopped : (s.slotView m).leave = none) :
    (s.rtpTimersLeaveStart m).slotView m = { s.slotView m with leave := some 30 } := by
  have hleft := ticksLeft_add hrate (e := .leave m) hstopped ⟨rtpConfigLeaveTimeout, by decide⟩
  simpa [timeout_ticks] using slotView_oneTimer s (s.rtpTimersLeaveStart m) rfl hleft m

theorem slotView_memberRestart :
    (s.rtpTimersMemberRestart m).slotView m = { s.slotView m with member := some 100 } := by
  have hstop := slotView_memberStop (s := s) m
  have hstart := slotView_memberStart (s := s.rtpTimersMemberStop m) m hrate (by rw [hstop])
  rw [hstop] at hstart
  exact hstart

theorem slotView_senderRestart :
    (s.rtpTimersSenderRestart m).slotView m = { s.slotView m with sender := some 50 } := by
  have hstop := slotView_senderStop (s := s) m
  have hstart := slotView_senderStart (s := s.rtpTimersSenderStop m) m hrate (by rw [hstop])
  rw [hstop] at hstart
  exact hstart

end Timers

theorem slotView_dealloc (s : Session) (m : Slot) :
    (s.rtpSessionDeallocMember m).slotView m = (s.slotView m).vacate := by
  have hstop : (s.rtpTimersDeinitMember m).slotView m =
      { s.slotView m with member := none, sender := none, leave := none } := by
    have hmember := slotView_memberStop (s := s) m
    have hsender := slotView_senderStop (s := s.rtpTimersMemberStop m) m
    have hleave := slotView_leaveStop (s := (s.rtpTimersMemberStop m).rtpTimersSenderStop m) m
    rw [hsender, hmember] at hleave
    exact hleave
  have hfree : m ∉ (s.rtpSessionDeallocMember m).usedList := fun h =>
    ((Pool.mem_used_release _ m m).1 h).2 rfl
  have hview : (s.rtpSessionDeallocMember m).slotView m =
      { (s.rtpTimersDeinitMember m).slotView m with used := false } := by
    simp only [slotView, decide_eq_false hfree]
    rfl
  rw [hview, hstop]
  rfl

theorem slotView_senderTimedout (s : Session) (m : Slot) :
    (s.rtcpIntervalSenderTimedout m).slotView m = { s.slotView m with heard := false } := by
  have hevent : RtcpEvent.timeout ≠ .rxNonBye := by decide
  have hheard : (s.modifyMember m RtpMember.clearRtpHeard).slotView m =
      { s.slotView m with heard := false } := slotView_modify s m _
  simp only [rtcpIntervalSenderTimedout]
  rw [(slotView_frame m).leaving _ hevent]
  split
  · have hsender : ((s.modifyMember m RtpMember.clearRtpHeard).modifyMember m
        RtpMember.clearSender).slotView m = (s.modifyMember m RtpMember.clearRtpHeard).slotView m :=
      slotView_quiet (.modifyMember _ m ⟨rfl, rfl, rfl, rfl, rfl, rfl, rfl⟩) m
    exact hsender.trans hheard
  · exact hheard

/-- A new member's slot before its timers are started. -/
theorem slotView_alloc {s s' : Session} {ssrc : UInt32} {m : Slot}
    (halloc : s.rtpSessionAllocMember ssrc = some (m, s')) :
    (s.slotView m).used = false ∧
      s'.slotView m =
        { s.slotView m with used := true, ssrc := ssrc, bye := false, heard := false } := by
  obtain ⟨hfree, hused, harray, htimer, -⟩ := alloc_eq_some halloc
  refine ⟨decide_eq_false hfree, ?_⟩
  have hmember : s'.member m = rtpMemberInit (s.member m) ssrc := by
    rw [member, harray, Function.update_self]
  have hmem : m ∈ s'.usedList := by simp [hused]
  simp only [slotView, hmember, decide_eq_true hmem, ticksLeft, htimer]
  rfl

/-- With every owed callback run, no timer of a slot is due. -/
theorem WheelKept.not_due {s : Session} (h : s.WheelKept) (hempty : s.softTimer.timeoutList = [])
    (m : Slot) :
    (s.slotView m).member ≠ some 0 ∧ (s.slotView m).sender ≠ some 0 ∧
      (s.slotView m).leave ≠ some 0 := by
  have hne : ∀ e, s.ticksLeft e ≠ some 0 := by
    intro e hdue
    have hmem := h.ahead e hdue
    rw [hempty] at hmem
    exact absurd hmem List.not_mem_nil
  exact ⟨hne _, hne _, hne _⟩

theorem WheelKept.slotView_expire {s : Session} (h : s.WheelKept)
    (hempty : s.softTimer.timeoutList = []) (m : Slot) :
    (s.setTimer s.softTimer.expire).slotView m = (s.slotView m).tick := by
  obtain ⟨hmem, hsnd, hlv⟩ := h.not_due hempty m
  exact SlotView.ext rfl rfl rfl rfl (SoftTimer.remaining_expire hmem)
    (SoftTimer.remaining_expire hsnd) (SoftTimer.remaining_expire hlv)

/-- A callback is at most one timer of a slot firing. -/
theorem slotView_fires {s : Session} {e : TimerElem} {rest : List TimerElem}
    (htop : s.softTimer.timeoutList = e :: rest) (m : Slot) :
    SlotFires (s.slotView m) ((timerCallback e (s.setTimer s.softTimer.popTimeout)).slotView m) := by
  have hframe := slotView_frame m
  have hdue : s.ticksLeft e = some 0 :=
    SoftTimer.remaining_of_mem_timeoutList (htop ▸ List.mem_cons_self ..)
  have hevent : RtcpEvent.timeout ≠ .rxNonBye := by decide
  have hpop : e ∉ timersOf m → (s.setTimer s.softTimer.popTimeout).slotView m = s.slotView m :=
    fun he => hframe.pop htop he
  have hstopped := slotView_oneTimer s (s.setTimer s.softTimer.popTimeout) rfl (ticksLeft_pop htop) m
  cases e with
  | rtcp =>
      have hsame := slotView_intervalTimeout (s.setTimer s.softTimer.popTimeout) m
      rw [show timerCallback .rtcp = rtcpIntervalTimeout from rfl, hsame,
        hpop (by simp [timersOf])]
      exact .spared
  | conflict c =>
      have hsame : (timerCallback (.conflict c) (s.setTimer s.softTimer.popTimeout)).slotView m =
          (s.setTimer s.softTimer.popTimeout).slotView m := slotView_same rfl rfl m
      rw [hsame, hpop (by simp [timersOf])]
      exact .spared
  | member j =>
      by_cases hj : j = m
      · subst hj
        have hview : (timerCallback (.member j) (s.setTimer s.softTimer.popTimeout)).slotView j =
            (s.slotView j).vacate := by
          refine (slotView_dealloc _ j).trans ?_
          rw [hframe.leaving _ hevent, hstopped]
          rfl
        rw [hview]
        exact .member hdue
      · refine (hframe.dealloc hj _).symm ▸ ?_
        rw [hframe.leaving _ hevent, hpop (not_mem_timersOf hj).1]
        exact .spared
  | sender j =>
      by_cases hj : j = m
      · subst hj
        have hview : (timerCallback (.sender j) (s.setTimer s.softTimer.popTimeout)).slotView j =
            (s.slotView j).silence := by
          refine (slotView_senderTimedout _ j).trans ?_
          rw [hstopped]
          simp [SlotView.silence]
        rw [hview]
        exact .sender hdue
      · refine (hframe.senderTimedout hj _).symm ▸ ?_
        rw [hpop (not_mem_timersOf hj).2.1]
        exact .spared
  | leave j =>
      by_cases hj : j = m
      · subst hj
        have hview : (timerCallback (.leave j) (s.setTimer s.softTimer.popTimeout)).slotView j =
            (s.slotView j).vacate := by
          refine (slotView_dealloc _ j).trans ?_
          rw [hstopped]
          rfl
        rw [hview]
        exact .leave hdue
      · refine (hframe.dealloc hj _).symm ▸ ?_
        rw [hpop (not_mem_timersOf hj).2.2]
        exact .spared

/-! ## What is noticed -/

/-- A packet for `ssrc` from `fromAddr` is turned away because its member is known on this channel, by
    `heard`, to have another address. -/
def addrMismatch (s : Session) (heard : RtpFlags → Bool) (addr : RtpMember → SockaddrIn)
    (ssrc : UInt32) (fromAddr : SockaddrIn) : Bool :=
  match s.rtpSessionLookupMember ssrc with
  | none => false
  | some m =>
    let x := s.member m
    !x.flags.byeReceived && (x.flags.self || heard x.flags) && decide (addr x ≠ fromAddr)

/-- A source is noticed each time `rtp_handle_ssrc` or `rtcp_handle_ssrc` is reached with it and does
    not turn it away for its address, a BYE each time it names a member. -/
def watchHistory : History Watch where
  rtp fromAddr w s ssrc :=
    if s.addrMismatch RtpFlags.rtpHeard RtpMember.rtpAddr ssrc fromAddr then w
    else w.hear ssrc (s.rtpSessionLookupMember ssrc).isNone true
  msg fromAddr w s
    | .bye ssrc => if (s.rtpSessionLookupMember ssrc).isSome then w.quit ssrc else w
    | .sr ssrc .. | .rr ssrc _ | .sdes ssrc _ =>
        if s.addrMismatch RtpFlags.rtcpHeard RtpMember.rtcpAddr ssrc fromAddr then w
        else w.hear ssrc (s.rtpSessionLookupMember ssrc).isNone false
  tx w _ := w
  expire w _ := w.tick
  fire w _ _ := w

theorem addrMismatch_none {s : Session} {ssrc : UInt32} (h : s.rtpSessionLookupMember ssrc = none)
    (heard : RtpFlags → Bool) (addr : RtpMember → SockaddrIn) (fromAddr : SockaddrIn) :
    s.addrMismatch heard addr ssrc fromAddr = false := by
  simp only [addrMismatch, h]

theorem addrMismatch_some {s : Session} {ssrc : UInt32} {m : Slot}
    (h : s.rtpSessionLookupMember ssrc = some m) (heard : RtpFlags → Bool)
    (addr : RtpMember → SockaddrIn) (fromAddr : SockaddrIn) :
    s.addrMismatch heard addr ssrc fromAddr =
      (!(s.member m).flags.byeReceived && ((s.member m).flags.self || heard (s.member m).flags) &&
        decide (addr (s.member m) ≠ fromAddr)) := by
  simp only [addrMismatch, h]

theorem watchHistory_source {fromAddr : SockaddrIn} {w : Watch} {s : Session} {msg : RtcpMsg}
    {ssrc : UInt32} (hsource : msg.source = some ssrc) :
    watchHistory.msg fromAddr w s msg =
      if s.addrMismatch RtpFlags.rtcpHeard RtpMember.rtcpAddr ssrc fromAddr then w
      else w.hear ssrc (s.rtpSessionLookupMember ssrc).isNone false := by
  cases msg with
  | bye _ => simp [RtcpMsg.source] at hsource
  | sr | rr | sdes =>
      simp only [RtcpMsg.source, Option.some.injEq] at hsource
      rw [← hsource]
      rfl

/-! ## Every slot is timed -/

/-- The ledger, the names and the wheel are in order, and the session's own slot is `i`. -/
structure Orderly (i : Slot) (s : Session) : Prop where
  self : s.self = i
  order : s.InOrder
  unique : s.UniqueSsrc
  wheel : s.WheelKept

/-- In an orderly session every slot but its own is timed. -/
structure WatchKept (i : Slot) (w : Watch) (s : Session) : Prop extends Orderly i s where
  timed : ∀ m, m ≠ i → Timed w (s.slotView m)

/-- The move of a slot that has another SSRC than the one that is noticed. -/
theorem moves_hear_other {w : Watch} {s : Session} {m : Slot} {ssrc : UInt32}
    (hother : m ∈ s.usedList → (s.member m).ssrc ≠ ssrc) (fresh data : Bool) :
    SlotMoves w (s.slotView m) (w.hear ssrc fresh data) (s.slotView m) :=
  .spared rfl fun hused => w.agree_hear (hother (of_decide_eq_true hused)) fresh data

namespace WatchKept

variable {i : Slot} {w : Watch} {s : Session}

/-- Only the session's own member carries the flag of it. -/
theorem eq_of_self (h : WatchKept i w s) {j : Slot} (hused : j ∈ s.usedList)
    (hself : (s.member j).flags.self = true) : j = i := by
  by_contra hne
  have hremote := h.order.1.remote j (by rw [show s.ledger.self = i from h.self]; exact hne)
  have hflag : (s.member j).flags.self = false := hremote.notSelf (decide_eq_true hused)
  rw [hself] at hflag
  exact absurd hflag (by decide)

/-- A member that is looked up by the session's own SSRC is its own. -/
theorem eq_of_own_ssrc (h : WatchKept i w s) {ssrc : UInt32} {j : Slot}
    (hj : s.rtpSessionLookupMember ssrc = some j) (hown : ssrc = s.selfMember.ssrc) : j = i := by
  obtain ⟨hused, hssrc⟩ := lookup_eq_some hj
  have hself : s.self ∈ s.usedList := of_decide_eq_true h.order.1.hasSelf.1
  rw [← h.self]
  exact h.unique j hused s.self hself (hssrc.trans hown)

/-- What can be seen of the slot that an accepted source is about. -/
theorem rtpCreated_view (h : WatchKept i w s) {s' : Session} {ssrc : UInt32} {m : Slot}
    (hm : m ≠ i) (halloc : s.rtpSessionAllocMember ssrc = some (m, s')) (seq : UInt16)
    (fromAddr : SockaddrIn) :
    (s.slotView m).used = false ∧
      (s'.rtpCreated m seq fromAddr).slotView m = (s.slotView m).join ssrc true := by
  obtain ⟨hfree, hview⟩ := slotView_alloc halloc
  obtain ⟨hmember, hsender, -⟩ := (h.timed m hm).of_free hfree
  have hrate : s'.softTimer.tickRate = 100 := by
    obtain ⟨-, -, -, htimer, -⟩ := alloc_eq_some halloc
    rw [htimer]
    exact h.wheel.rate
  have hrecord : ((s'.modifyMember m (rtpFirstHeard seq fromAddr)).rtcpIntervalHandleRtpEvent true
      true).slotView m = { s'.slotView m with heard := true } := slotView_modify s' m _
  have hstart : (rtpTimersSenderStart ((s'.modifyMember m (rtpFirstHeard seq
      fromAddr)).rtcpIntervalHandleRtpEvent true true) m).slotView m =
        { s'.slotView m with heard := true, sender := some 50 } := by
    rw [slotView_senderStart, hrecord]
    · exact hrate
    · rw [hrecord, hview]
      exact hsender
  refine ⟨hfree, ?_⟩
  rw [rtpCreated, slotView_setRtpError, slotView_memberStart, hstart, hview]
  · rfl
  · exact (SoftTimer.tickRate_add ..).trans hrate
  · rw [hstart, hview]
    exact hmember

theorem rtpJoined_view (h : WatchKept i w s) {m : Slot} (hm : m ≠ i)
    (hused : m ∈ s.usedList) (hbye : (s.member m).flags.byeReceived = false)
    (hnew : (s.member m).flags.rtpHeard = false) (seq : UInt16) (fromAddr : SockaddrIn) :
    (s.rtpJoined m seq fromAddr).slotView m = (s.slotView m).hear true := by
  obtain ⟨-, -, hsnd, -⟩ := (h.timed m hm).of_present (decide_eq_true hused) hbye
  have hheard : (s.slotView m).heard = false := hnew
  rw [hheard, if_neg (by decide), Option.map_eq_none_iff] at hsnd
  have hrecord : ((s.modifyMember m (rtpFirstHeard seq fromAddr)).rtcpIntervalHandleRtpEvent false
      true).slotView m = { s.slotView m with heard := true } := slotView_modify s m _
  rw [rtpJoined, slotView_setRtpError, slotView_memberRestart, slotView_senderStart, hrecord]
  · simp [SlotView.hear]
  · exact h.wheel.rate
  · rw [hrecord]
    exact hsnd
  · exact (SoftTimer.tickRate_add ..).trans h.wheel.rate

theorem rtpRefreshed_view (h : WatchKept i w s) (m : Slot) :
    (s.rtpRefreshed m).slotView m = (s.slotView m).hear true := by
  have hrecord : (s.modifyMember m RtpMember.setRtpHeard).slotView m =
      { s.slotView m with heard := true } := slotView_modify s m _
  rw [rtpRefreshed, slotView_memberRestart, slotView_senderRestart, hrecord]
  · simp [SlotView.hear]
  · exact h.wheel.rate
  · exact (SoftTimer.tickRate_add ..).trans h.wheel.rate

theorem rtcpCreated_view (h : WatchKept i w s) {s' : Session} {ssrc : UInt32} {m : Slot}
    (hm : m ≠ i) (halloc : s.rtpSessionAllocMember ssrc = some (m, s')) (fromAddr : SockaddrIn)
    (pktSize : UInt32) :
    (s.slotView m).used = false ∧
      (s'.rtcpCreated m fromAddr pktSize).slotView m = (s.slotView m).join ssrc false := by
  obtain ⟨hfree, hview⟩ := slotView_alloc halloc
  obtain ⟨hmember, -, -⟩ := (h.timed m hm).of_free hfree
  have hrate : s'.softTimer.tickRate = 100 := by
    obtain ⟨-, -, -, htimer, -⟩ := alloc_eq_some halloc
    rw [htimer]
    exact h.wheel.rate
  have hrecord : ((s'.modifyMember m (rtcpFirstHeard fromAddr)).rtcpIntervalHandleRtcpEvent .rxNonBye
      ⟨true, false⟩ pktSize).slotView m = s'.slotView m := slotView_modify s' m _
  refine ⟨hfree, ?_⟩
  rw [rtcpCreated, slotView_setRtcpError, slotView_memberStart, hrecord, hview]
  · rfl
  · exact hrate
  · rw [hrecord, hview]
    exact hmember

theorem rtcpHeard_view (h : WatchKept i w s) (m : Slot) {f : RtpMember → RtpMember}
    (hssrc : (f (s.member m)).ssrc = (s.member m).ssrc)
    (hbye : (f (s.member m)).flags.byeReceived = (s.member m).flags.byeReceived)
    (hheard : (f (s.member m)).flags.rtpHeard = (s.member m).flags.rtpHeard) :
    ((s.modifyMember m f).rtpTimersMemberRestart m).slotView m = (s.slotView m).hear false := by
  rw [slotView_memberRestart, slotView_modify, hssrc, hbye, hheard]
  · simp [SlotView.hear, slotView]
  · exact h.wheel.rate

/-- The move of a slot when a source that nobody has is heard: its own, if it is put there. -/
theorem moves_created {ssrc : UInt32} {m j : Slot} {t : Session}
    (hnone : s.rtpSessionLookupMember ssrc = none) (data : Bool)
    (hown : j = m → (s.slotView m).used = false ∧ t.slotView m = (s.slotView m).join ssrc data)
    (hother : j ≠ m → t.slotView m = s.slotView m) :
    SlotMoves w (s.slotView m) (w.hear ssrc true data) (t.slotView m) := by
  by_cases hj : j = m
  · obtain ⟨hfree, hview⟩ := hown hj
    rw [hview]
    exact .joined ssrc data hfree
  · rw [hother hj]
    exact moves_hear_other (lookup_eq_none.1 hnone m) true data

/-- The move of a slot when the source that `j` has is heard. -/
theorem moves_heard (h : WatchKept i w s) {ssrc : UInt32} {m j : Slot} {t : Session}
    (hj : s.rtpSessionLookupMember ssrc = some j) (hbye : (s.member j).flags.byeReceived = false)
    (data : Bool) (hown : j = m → t.slotView m = (s.slotView m).hear data)
    (hother : j ≠ m → t.slotView m = s.slotView m) :
    SlotMoves w (s.slotView m) (w.hear ssrc false data) (t.slotView m) := by
  by_cases hjm : j = m
  · subst hjm
    obtain ⟨hused, hssrc⟩ := lookup_eq_some hj
    rw [hown rfl, ← hssrc]
    exact .heard data (decide_eq_true hused) hbye
  · rw [hother hjm]
    exact moves_hear_other (h.unique.other hj hjm) false data

/-- The move of a slot when the source that `j` has is heard, while `j` is leaving. -/
theorem moves_ignored (h : WatchKept i w s) {ssrc : UInt32} {m j : Slot}
    (hj : s.rtpSessionLookupMember ssrc = some j) (hbye : (s.member j).flags.byeReceived = true)
    (data : Bool) : SlotMoves w (s.slotView m) (w.hear ssrc false data) (s.slotView m) := by
  by_cases hjm : j = m
  · subst hjm
    rw [← (lookup_eq_some hj).2]
    exact .ignored data hbye
  · exact moves_hear_other (h.unique.other hj hjm) false data

/-- A source of a data packet is at most one move of a slot. -/
theorem rtpSource (h : WatchKept i w s) {m : Slot} (hm : m ≠ i) (ssrc : UInt32) (seq : UInt16)
    (fromAddr : SockaddrIn) (csrc : Bool) :
    SlotMoves w (s.slotView m) (watchHistory.rtp fromAddr w s ssrc)
      ((s.rtpHandleSsrc ssrc seq fromAddr csrc).2.slotView m) := by
  have hframe := slotView_frame m
  have hcase := s.rtpHandleSsrc_case ssrc seq fromAddr csrc
  generalize s.rtpHandleSsrc ssrc seq fromAddr csrc = res at hcase
  have hcreated : ∀ j s', s.rtpSessionLookupMember ssrc = none →
      s.rtpSessionAllocMember ssrc = some (j, s') →
      SlotMoves w (s.slotView m) (w.hear ssrc true true) ((s'.rtpCreated j seq fromAddr).slotView m) := by
    intro j s' hnone halloc
    refine moves_created hnone true ?_ fun hj => hframe.rtpCreated hj halloc seq fromAddr
    rintro rfl
    exact h.rtpCreated_view hm halloc seq fromAddr
  simp only [watchHistory]
  cases hcase with
  | tableFull _ hnone hfull =>
      rw [addrMismatch_none hnone, hnone]
      exact moves_hear_other (lookup_eq_none.1 hnone m) true true
  | created j s' hnone halloc =>
      rw [addrMismatch_none hnone, hnone]
      exact hcreated j s' hnone halloc
  | createdCsrc j s' hnone halloc =>
      rw [addrMismatch_none hnone, hnone]
      have hvalid : ∀ t : Session, (t.modifyMember j fun x => x.setValidated.setCsrc).slotView m =
          t.slotView m := fun t => slotView_quiet (.modifyMember t j ⟨rfl, rfl, rfl, rfl, rfl, rfl, rfl⟩) m
      rw [hvalid]
      exact hcreated j s' hnone halloc
  | leaving _ j hj hbye =>
      rw [addrMismatch_some hj, hbye, hj]
      exact h.moves_ignored hj hbye true
  | joined _ j hj hbye hself hnew =>
      rw [addrMismatch_some hj, hbye, hself, hnew, hj]
      refine h.moves_heard (t := s.rtpJoined j seq fromAddr) hj hbye true ?_ fun hjm =>
        hframe.rtpJoined hjm s seq fromAddr
      rintro rfl
      exact h.rtpJoined_view hm (lookup_eq_some hj).1 hbye hnew seq fromAddr
  | thirdParty _ j hj hbye hself hheard haddr =>
      rw [addrMismatch_some hj, hbye, hheard, decide_eq_true haddr, Bool.or_true]
      exact .spared rfl fun _ => .refl w _
  | collision _ j hj hbye hself haddr err =>
      rw [addrMismatch_some hj, hbye, hself, decide_eq_true haddr]
      have hji : j ≠ m := by
        rw [h.eq_of_self (lookup_eq_some hj).1 hself]
        exact hm.symm
      show SlotMoves w _ _ ((s.ownSsrcConflict j fromAddr).2.slotView m)
      rw [hframe.ownSsrcConflict s fromAddr (Or.inl hji)]
      exact .spared rfl fun _ => .refl w _
  | refreshed _ j hj hbye hknown haddr =>
      rw [addrMismatch_some hj, decide_eq_false (not_not.2 haddr), Bool.and_false, hj]
      refine h.moves_heard (t := s.rtpRefreshed j) hj hbye true ?_ fun hjm =>
        hframe.rtpRefreshed hjm s
      rintro rfl
      exact h.rtpRefreshed_view j

/-- A source of an RTCP packet is at most one move of a slot. -/
theorem rtcpSource (h : WatchKept i w s) {m : Slot} (hm : m ≠ i) {msg : RtcpMsg} {ssrc : UInt32}
    (hsource : msg.source = some ssrc) (fromAddr : SockaddrIn) (pktSize : UInt32) :
    SlotMoves w (s.slotView m) (watchHistory.msg fromAddr w s msg)
      ((s.rtcpHandleSsrc ssrc fromAddr pktSize).2.slotView m) := by
  have hframe := slotView_frame m
  have hcase := s.rtcpHandleSsrc_case ssrc fromAddr pktSize
  generalize s.rtcpHandleSsrc ssrc fromAddr pktSize = res at hcase
  have hflag : ∀ {j}, ((s.member j).flags.self = true ∨ (s.member j).flags.rtcpHeard = true) →
      ((s.member j).flags.self || (s.member j).flags.rtcpHeard) = true := by
    rintro j (hself | hheard)
    · rw [hself, Bool.true_or]
    · rw [hheard, Bool.or_true]
  rw [watchHistory_source hsource]
  cases hcase with
  | tableFull hnone hfull =>
      rw [addrMismatch_none hnone, hnone]
      exact moves_hear_other (lookup_eq_none.1 hnone m) true false
  | created j s' hnone halloc =>
      rw [addrMismatch_none hnone, hnone]
      refine moves_created (t := s'.rtcpCreated j fromAddr pktSize) hnone false ?_ fun hj =>
        hframe.rtcpCreated hj halloc fromAddr pktSize
      rintro rfl
      exact h.rtcpCreated_view hm halloc fromAddr pktSize
  | leaving j hj hbye =>
      rw [addrMismatch_some hj, hbye, hj]
      exact h.moves_ignored hj hbye false
  | joined j hj hbye hself hnew =>
      rw [addrMismatch_some hj, hbye, hself, hnew, hj]
      refine h.moves_heard (t := s.rtcpJoined j fromAddr) hj hbye false ?_ fun hjm =>
        hframe.rtcpJoined hjm s fromAddr
      rintro rfl
      rw [rtcpJoined, slotView_setRtcpError]
      exact h.rtcpHeard_view j rfl rfl rfl
  | thirdParty j hj hbye hknown haddr hother =>
      rw [addrMismatch_some hj, hbye, hflag hknown, decide_eq_true haddr]
      exact .spared rfl fun _ => .refl w _
  | collision j hj hbye hknown haddr hown err =>
      rw [addrMismatch_some hj, hbye, hflag hknown, decide_eq_true haddr]
      have hji : j ≠ m := by
        rw [h.eq_of_own_ssrc hj hown]
        exact hm.symm
      show SlotMoves w _ _ ((s.ownSsrcConflict j fromAddr).2.slotView m)
      rw [hframe.ownSsrcConflict s fromAddr (Or.inl hji)]
      exact .spared rfl fun _ => .refl w _
  | refreshed j hj hbye hknown haddr =>
      rw [addrMismatch_some hj, decide_eq_false (not_not.2 haddr), Bool.and_false, hj]
      refine h.moves_heard (t := s.rtcpRefreshed j pktSize) hj hbye false ?_ fun hjm =>
        hframe.rtcpRefreshed hjm s pktSize
      rintro rfl
      exact h.rtcpHeard_view (f := RtpMember.setRtcpHeard) j rfl rfl rfl

theorem leaveOn_view (h : WatchKept i w s) {m : Slot} (hm : m ≠ i) (hused : m ∈ s.usedList)
    (hbye : (s.member m).flags.byeReceived = false) {t : Session}
    (hrate : t.softTimer.tickRate = 100) (ht : t.slotView m = s.slotView m) :
    (t.leaveOn m).slotView m = (s.slotView m).quit := by
  obtain ⟨-, -, -, hlv⟩ := (h.timed m hm).of_present (decide_eq_true hused) hbye
  have hstop : (((t.modifyMember m RtpMember.setByeReceived).rtpTimersSenderStop
      m).rtpTimersMemberStop m).slotView m =
        { s.slotView m with bye := true, member := none, sender := none } := by
    rw [slotView_memberStop, slotView_senderStop, ← ht]
    exact congrArg (fun x : SlotView => { x with member := none, sender := none })
      (slotView_modify t m RtpMember.setByeReceived)
  rw [leaveOn, slotView_leaveStart, hstop]
  · rfl
  · exact hrate
  · rw [hstop]
    exact hlv

/-- A source of a BYE is at most one move of a slot. -/
theorem byeSource (h : WatchKept i w s) {m : Slot} (hm : m ≠ i) (ssrc : UInt32)
    (fromAddr : SockaddrIn) (pktSize : UInt32) :
    SlotMoves w (s.slotView m) (watchHistory.msg fromAddr w s (.bye ssrc))
      ((s.rtcpHandleByeSource ssrc pktSize).slotView m) := by
  have hframe := slotView_frame m
  have hevent : RtcpEvent.rxBye ≠ .rxNonBye := by decide
  show SlotMoves w _ (if (s.rtpSessionLookupMember ssrc).isSome then w.quit ssrc else w) _
  cases hj : s.rtpSessionLookupMember ssrc with
  | none =>
      rw [rtcpHandleByeSource_of_absent (by simp [hj])]
      exact .spared rfl fun _ => .refl w _
  | some j =>
      obtain ⟨hused, hssrc⟩ := lookup_eq_some hj
      rw [Option.isSome_some, if_pos rfl]
      by_cases hjm : j = m
      · subst hjm
        rw [← hssrc]
        cases hbye : (s.member j).flags.byeReceived with
        | true =>
            rw [rtcpHandleByeSource_of_absent]
            · exact .leftAgain (decide_eq_true hused) hbye
            · intro k hk
              rw [hssrc, hj, Option.some_inj] at hk
              rw [← hk]
              exact hbye
        | false =>
            rw [hssrc, rtcpHandleByeSource_of_present hj hbye, ← hssrc,
              h.leaveOn_view hm hused hbye ?_ (hframe.leaving s hevent _ _)]
            · exact .left (decide_eq_true hused) hbye
            · exact (h.wheel.leaving hevent _ _).rate
      · have hsame : (s.rtcpHandleByeSource ssrc pktSize).slotView m = s.slotView m := by
          cases hbye : (s.member j).flags.byeReceived with
          | true => rw [rtcpHandleByeSource_of_absent (by simpa [hj] using hbye)]
          | false =>
              rw [rtcpHandleByeSource_of_present hj hbye, hframe.leaveOn hjm,
                hframe.leaving s hevent]
        rw [hsame]
        exact .spared rfl fun hm' => w.agree_quit (h.unique.other hj hjm (of_decide_eq_true hm'))

end WatchKept

/-! ## Runs -/

/-- The session's own slot stays the same. -/
theorem selfFrame (i : Slot) : Frame fun s s' => s.self = i → s'.self = i where
  trans h h' hs := h' (h hs)
  quiet h hs := h.self.trans hs
  add _ _ _ _ hs := hs
  del _ _ _ hs := hs
  table _ _ hs := hs
  conflicts _ _ hs := hs
  counts _ _ _ _ _ hs := hs

theorem self_rules (i : Slot) : ActRules (fun s => s.self = i) ActGuard.any :=
  (selfFrame i).actRules
    (fun s _ flags pktSize hevent hs => (congrArg Ledger.self (s.ledger_leaving hevent flags
      pktSize)).trans hs)
    (fun s hs => (congrArg Ledger.self s.ledger_intervalTimeout).trans hs)
    (fun _ hs => hs) (fun hs _ => hs)

/-- Nobody speaks in the session's own name, the wheel advances only when `G` allows it, and timers
    fire only if `F`. -/
def unnamedWhen (G : Session → Prop) (F : Prop) : ActGuard :=
  { selfUnnamed with expire := G, fire := fun _ _ => F }

theorem orderly_rules (i : Slot) {G : Session → Prop} {F : Prop}
    (hempty : ∀ s, G s → s.softTimer.timeoutList = []) :
    ActRules (Orderly i) (unnamedWhen G F) := by
  have hself := (self_rules i).mono (unnamedWhen G F).le_any
  have horder : ActRules InOrder (unnamedWhen G F) :=
    selfUnnamed_rules.mono ⟨id, id, id, fun _ => trivial, fun _ => trivial⟩
  have hunique := unique_rules.mono (unnamedWhen G F).le_any
  have hwheel : ActRules WheelKept (unnamedWhen G F) :=
    wheelKept_rules.mono ⟨fun _ => trivial, fun _ => trivial, fun _ => trivial, hempty _,
      fun _ => trivial⟩
  have hall := ((hself.and horder).and hunique).and hwheel
  have heq : (fun s => ((s.self = i ∧ s.InOrder) ∧ s.UniqueSsrc) ∧ s.WheelKept) = Orderly i :=
    funext fun s => propext ⟨fun h => ⟨h.1.1.1, h.1.1.2, h.1.2, h.2⟩,
      fun h => ⟨⟨⟨h.self, h.order⟩, h.unique⟩, h.wheel⟩⟩
  rwa [heq] at hall

/-- A property of slots that every move of a slot but the session's own keeps, and the advance of the
    wheel, is kept by a session in whose name nobody speaks, as long as its slots are timed. -/
theorem slot_rules {i m : Slot} (hm : m ≠ i) {Q : Watch → SlotView → Prop} {G : Session → Prop}
    {F : Prop} (hempty : ∀ s, G s → s.softTimer.timeoutList = [])
    (hmoves : ∀ {w x w' x'}, SlotMoves w x w' x' → Q w x → Q w' x')
    (hfires : ∀ {w x x'}, F → SlotFires x x' → Q w x → Q w x')
    (hexpire : ∀ {w s}, G s → Q w (s.slotView m) →
      Q w.tick ((s.setTimer s.softTimer.expire).slotView m)) :
    HistoryRules watchHistory (fun w s => WatchKept i w s ∧ Q w (s.slotView m))
      (unnamedWhen G F) where
  quiet hq := by
    rintro ⟨h, hQ⟩
    refine ⟨⟨(orderly_rules (F := F) i hempty).quiet hq h.toOrderly, fun j hj => ?_⟩, ?_⟩
    · rw [slotView_quiet hq]
      exact h.timed j hj
    · rw [slotView_quiet hq]
      exact hQ
  rtpSource := by
    rintro w s ssrc seq fromAddr csrc ⟨h, hQ⟩ hg
    have hsource := fun j hj => h.rtpSource (m := j) hj ssrc seq fromAddr csrc
    exact ⟨⟨(orderly_rules i hempty).rtpSource h.toOrderly hg,
      fun j hj => (h.timed j hj).moves (hsource j hj)⟩, hmoves (hsource m hm) hQ⟩
  rtcpSource := by
    rintro w s ssrc fromAddr pktSize msg ⟨h, hQ⟩ hg hssrc
    have hsource := fun j hj => h.rtcpSource (m := j) hj hssrc fromAddr pktSize
    exact ⟨⟨(orderly_rules i hempty).rtcpSource h.toOrderly hg hssrc,
      fun j hj => (h.timed j hj).moves (hsource j hj)⟩, hmoves (hsource m hm) hQ⟩
  byeSource := by
    rintro w s ssrc fromAddr pktSize ⟨h, hQ⟩ hg
    have hsource := fun j hj => h.byeSource (m := j) hj ssrc fromAddr pktSize
    exact ⟨⟨(orderly_rules i hempty).byeSource h.toOrderly hg,
      fun j hj => (h.timed j hj).moves (hsource j hj)⟩, hmoves (hsource m hm) hQ⟩
  txCount := by
    rintro w s payloadLen ncsrc ⟨h, hQ⟩ hg
    have hsame : ∀ j, j ≠ i → (s.rtpTxCount payloadLen).slotView j = s.slotView j := fun j hj =>
      (slotView_frame j).rtpTxCount (by rw [h.self]; exact hj.symm) payloadLen
    refine ⟨⟨(orderly_rules i hempty).txCount h.toOrderly hg, fun j hj => ?_⟩, ?_⟩
    · rw [hsame j hj]
      exact h.timed j hj
    · rw [hsame m hm]
      exact hQ
  expire := by
    rintro w s ⟨h, hQ⟩ hg
    refine ⟨⟨(orderly_rules i hempty).expire h.toOrderly hg, fun j hj => ?_⟩, hexpire hg hQ⟩
    obtain ⟨hmem, hsnd, hlv⟩ := h.wheel.not_due (hempty s hg) j
    rw [h.wheel.slotView_expire (hempty s hg)]
    exact (h.timed j hj).tick hmem hsnd hlv
  fire := by
    rintro w s e rest htop ⟨h, hQ⟩ hg
    have hfired := fun j => slotView_fires htop j
    exact ⟨⟨(orderly_rules i hempty).fire htop h.toOrderly hg,
      fun j hj => (h.timed j hj).fires (hfired j)⟩, hfires hg (hfired m) hQ⟩

/-- Between two calls no callback is owed; timers may fire. -/
abbrev unnamedSettled : ActGuard := unnamedWhen (fun s => s.softTimer.timeoutList = []) True

theorem watchKept_rules (i : Slot) : HistoryRules watchHistory (WatchKept i) unnamedSettled := by
  obtain ⟨m, hm⟩ : ∃ m : Slot, m ≠ i := exists_ne i
  have hrules := slot_rules (F := True) (Q := fun _ _ => True) hm (fun _ h => h) (fun _ _ => trivial)
    (fun _ _ _ => trivial) (fun _ _ => trivial)
  simpa only [and_true] using hrules

/-- A session starts alone in its table, with everybody else's timers standing still. -/
theorem watchKept_rtpSessionInit (mem : Session) (config : RtpSessionConfig) :
    WatchKept (mem.rtpSessionInit config).self .start (mem.rtpSessionInit config) where
  self := rfl
  order := kept_rtpSessionInit mem config
  unique := unique_rtpSessionInit mem config
  wheel := (settled_rtpSessionInit mem config).toWheelKept
  timed m hm := by
    have hfree := alone_rtpSessionInit mem config hm
    have hremote := (kept_rtpSessionInit mem config).1.remote m hm
    obtain ⟨hmem, hsnd, hlv⟩ := running_of_remote hremote
    have hstopped : ∀ e, ¬ (mem.rtpSessionInit config).softTimer.Running e →
        (mem.rtpSessionInit config).ticksLeft e = none := fun e => SoftTimer.remaining_eq_none.2
    have hview : (mem.rtpSessionInit config).slotView m =
        ((mem.rtpSessionInit config).slotView m).vacate := by
      refine SlotView.ext (decide_eq_false hfree) rfl rfl rfl ?_ ?_ ?_
      · exact hstopped _ fun h => hfree (hmem.1 h).1
      · exact hstopped _ fun h => hfree (hsnd.1 h).1.1
      · exact hstopped _ fun h => hfree (hlv.1 h).1
    rw [hview]
    exact .vacate _ _

/-- What an observer has noticed of a run. -/
def watch (mem : Session) (config : RtpSessionConfig) (ops : List Op) : Watch :=
  watchHistory.run .start (mem.rtpSessionInit config) ops

theorem watchKept_run {mem : Session} {config : RtpSessionConfig} {ops : List Op}
    (hg : Runs.Guarded step selfUnnamed.admits (mem.rtpSessionInit config) ops) :
    WatchKept (mem.rtpSessionInit config).self (watch mem config ops) (runSession mem config ops) :=
  (watchKept_rules _).run ((settled_rtpSessionInit mem config).guarded hg)
    (watchKept_rtpSessionInit mem config)

/-- How the member in slot `m` times out, by what has been noticed of it: it is removed in the tick it
    is due to be and by no other call; and its being a sender ends 50 ticks after its last data, unless
    it leaves before. -/
structure TimesOut (w : Watch) (s : Session) (m : Slot) : Prop where
  bye : (s.member m).flags.byeReceived = (w.bye (s.member m).ssrc).isSome
  later : w.now < w.removal (s.member m).ssrc
  removed : ∀ op, selfUnnamed.admits s op →
    (m ∉ (step s op).usedList ↔ op = .tick ∧ w.removal (s.member m).ssrc = w.now + 1)
  same : ∀ op, selfUnnamed.admits s op → m ∈ (step s op).usedList →
    ((step s op).member m).ssrc = (s.member m).ssrc
  heardLater : (s.member m).flags.byeReceived = false → (s.member m).flags.rtpHeard = true →
    w.now < w.heardRtp (s.member m).ssrc + 50
  cleared : ∀ op, selfUnnamed.admits s op → (s.member m).flags.rtpHeard = true →
    m ∈ (step s op).usedList →
    (((step s op).member m).flags.rtpHeard = false ↔
      op = .tick ∧ (s.member m).flags.byeReceived = false ∧
        w.heardRtp (s.member m).ssrc + 50 = w.now + 1)

theorem stays_step {i m : Slot} (hm : m ≠ i) {w : Watch} {s : Session} (h : WatchKept i w s)
    (hused : m ∈ s.usedList) {op : Op} (hop : op ≠ .tick) (hadmits : selfUnnamed.admits s op) :
    Stays (s.slotView m) ((step s op).slotView m) := by
  have hrules := slot_rules (F := False) (G := fun _ => False)
    (Q := fun _ x => Stays (s.slotView m) x) hm (fun _ h => h.elim)
    (fun hmoves h => h.moves hmoves) (fun hfalse => hfalse.elim) (fun hfalse => hfalse.elim)
  have hguard : (unnamedWhen (fun _ => False) False).admits s op := by
    cases op with
    | tick => exact absurd rfl hop
    | rxRtp | rxRtcp | tx => exact hadmits
  exact (hrules.step w s op ⟨h, decide_eq_true hused, rfl, id⟩ hguard).2

theorem ticked_step {i m : Slot} (hm : m ≠ i) {w : Watch} {s : Session} (h : WatchKept i w s)
    (hsettled : s.Settled) (hused : m ∈ s.usedList) :
    WatchKept i w.tick (step s .tick) ∧
      Ticked w.tick (s.slotView m) ((step s .tick).slotView m) := by
  have hexpired := (watchKept_rules i).expire h hsettled.empty
  have hstart : Ticked w.tick (s.slotView m) ((s.setTimer s.softTimer.expire).slotView m) := by
    rw [h.wheel.slotView_expire hsettled.empty]
    refine ⟨fun hfree => ?_, fun _ => ⟨rfl, rfl⟩, fun _ hheard hnot => ?_⟩
    · exact absurd (decide_eq_true hused) (ne_of_eq_of_ne hfree (by decide))
    · exact absurd (hheard.symm.trans hnot) (by decide)
  refine SoftTimer.softTimerDrive_invariant
    (P := fun t => WatchKept i w.tick t ∧ Ticked w.tick (s.slotView m) (t.slotView m))
    ⟨hexpired, hstart⟩ ?_
  rintro e t rest htop ⟨ht, hticked⟩
  exact ⟨(watchKept_rules i).fire htop ht trivial,
    hticked.fires (ht.timed m hm) (slotView_fires htop m)⟩

/-- A member whose times lie ahead, once every callback owed is run. -/
theorem WatchKept.ahead {i m : Slot} (hm : m ≠ i) {w : Watch} {s : Session} (h : WatchKept i w s)
    (hempty : s.softTimer.timeoutList = []) (hused : m ∈ s.usedList) :
    w.now < w.removal (s.member m).ssrc ∧
      ((s.member m).flags.byeReceived = false → (s.member m).flags.rtpHeard = true →
        w.now < w.heardRtp (s.member m).ssrc + 50) := by
  obtain ⟨hmem, hsnd, hlv⟩ := h.wheel.not_due hempty m
  exact (h.timed m hm).ahead (decide_eq_true hused) hmem hsnd hlv

theorem WatchKept.timesOut {i m : Slot} (hm : m ≠ i) {w : Watch} {s : Session}
    (h : WatchKept i w s) (hsettled : s.Settled) (hused : m ∈ s.usedList) : TimesOut w s m := by
  obtain ⟨hlater, hheardLater⟩ := h.ahead hm hsettled.empty hused
  have hstays := fun (op : Op) (hop : op ≠ .tick) hadmits => stays_step hm h hused hop hadmits
  obtain ⟨hkept, hticked⟩ := ticked_step hm h hsettled hused
  have hnext := hkept.ahead hm (settled_step hsettled .tick).empty
  refine ⟨(h.timed m hm).bye (decide_eq_true hused), hlater, fun op hadmits => ?_,
    fun op hadmits hstill => ?_, hheardLater, fun op hadmits hheard hstill => ?_⟩
  · by_cases hop : op = .tick
    · subst hop
      refine ⟨fun hgone => ⟨rfl, hticked.removed (decide_eq_false hgone)⟩, ?_⟩
      rintro ⟨-, hdue⟩ hstill
      -- a member still in the table would have been removed by now
      obtain ⟨hssrc, -⟩ := hticked.same (decide_eq_true hstill)
      have hlate := (hnext hstill).1
      rw [show ((step s .tick).member m).ssrc = (s.member m).ssrc from hssrc] at hlate
      exact absurd hdue (Nat.ne_of_gt hlate)
    · have hin : m ∈ (step s op).usedList := of_decide_eq_true (hstays op hop hadmits).used
      simp [hop, hin]
  · by_cases hop : op = .tick
    · subst hop
      exact (hticked.same (decide_eq_true hstill)).1
    · exact (hstays op hop hadmits).ssrc
  · by_cases hop : op = .tick
    · subst hop
      refine ⟨fun hnot => ⟨rfl, hticked.cleared (decide_eq_true hstill) hheard hnot⟩, ?_⟩
      rintro ⟨-, hbye, hdue⟩
      obtain ⟨hssrc, hsame⟩ := hticked.same (decide_eq_true hstill)
      by_contra hstillHeard
      rw [Bool.not_eq_false] at hstillHeard
      have hlate := (hnext hstill).2 (hsame.trans hbye) hstillHeard
      rw [show ((step s .tick).member m).ssrc = (s.member m).ssrc from hssrc] at hlate
      exact absurd hdue (Nat.ne_of_gt hlate)
    · have hheard' : ((step s op).member m).flags.rtpHeard = true :=
        (hstays op hop hadmits).heard hheard
      simp [hop, hheard']

/-- What is noticed of a call is noticed in the tick in which it is made. -/
theorem clocked_watchHistory : watchHistory.Clocked Watch.now where
  rtp fromAddr w s ssrc := by
    simp only [watchHistory]
    split <;> rfl
  msg fromAddr w s msg := by
    cases msg <;> (simp only [watchHistory]; split <;> rfl)
  tx _ _ := rfl
  expire _ _ := rfl
  fire _ _ _ := rfl

theorem now_watch (mem : Session) (config : RtpSessionConfig) (ops : List Op) :
    (watch mem config ops).now = ticks ops :=
  (clocked_watchHistory.run ops _ _).trans (Nat.zero_add _)

/-- In every run in which nobody speaks in the session's name, every other member times out when it
    should: it is removed exactly 30 ticks after its first BYE or, if it got none, 100 ticks after it
    was last heard; and it stops being a sender exactly 50 ticks after its last data. -/
theorem members_time_out (mem : Session) (config : RtpSessionConfig) (ops : List Op)
    (hg : Runs.Guarded step selfUnnamed.admits (mem.rtpSessionInit config) ops) :
    (watch mem config ops).now = ticks ops ∧
      ∀ m ∈ (runSession mem config ops).usedList, m ≠ (runSession mem config ops).self →
        TimesOut (watch mem config ops) (runSession mem config ops) m := by
  refine ⟨now_watch mem config ops, fun m hm hother => ?_⟩
  have hkept := watchKept_run hg
  rw [hkept.self] at hother
  exact hkept.timesOut hother (settled_runSession mem config ops) hm

/-- SSRC 5 sends data, is heard by RTCP 40 ticks later and then falls silent: 60 ticks after that, it
    is not a sender any more and 40 ticks from its removal. -/
theorem members_time_out_silent :
    TimesOut
      (watch (zeroed (.still .zero)) (plainConfig 1000 4)
        (.rxRtp (rtpFrom 5) 12 (.ofPort 7) :: List.replicate 40 .tick ++
          .rxRtcp (rrFrom 5) 8 (.ofPort 8) :: List.replicate 60 .tick))
      (runSession (zeroed (.still .zero)) (plainConfig 1000 4)
        (.rxRtp (rtpFrom 5) 12 (.ofPort 7) :: List.replicate 40 .tick ++
          .rxRtcp (rrFrom 5) 8 (.ofPort 8) :: List.replicate 60 .tick)) 1 :=
  (members_time_out _ _ _ (by decide +kernel)).2 1 (by decide +kernel) (by decide +kernel)

end Session

end Prtp
