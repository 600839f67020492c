import Prtp.Schedule

set_option autoImplicit false

/-! # Slots that an act has nothing to do with

Every act of a session is about one slot of the member table at most. A relation between sessions that
allows whatever is not about a given slot, step by step, holds across every act that is about another.
-/

namespace Prtp

namespace Session

/-- The timers of a member. -/
def timersOf (m : Slot) : List TimerElem := [.member m, .sender m, .leave m]

theorem not_mem_timersOf {m j : Slot} (hne : j ≠ m) :
    .member j ∉ timersOf m ∧ .sender j ∉ timersOf m ∧ .leave j ∉ timersOf m := by
  simp [timersOf, hne]

/-- The relation allows every change but one to the slot `m` or to one of its timers. -/
structure SlotFrame (m : Slot) (R : Session → Session → Prop) : Prop where
  trans : ∀ {s s' s''}, R s s' → R s' s'' → R s s''
  same : ∀ {s s'}, s'.memberTable = s.memberTable → s'.softTimer = s.softTimer → R s s'
  modify : ∀ s {j} f, j ≠ m → R s (s.modifyMember j f)
  add : ∀ s {e} d, e ∉ timersOf m → R s (s.softTimerAdd e d)
  del : ∀ s {e}, e ∉ timersOf m → R s (s.softTimerDel e)
  pop : ∀ {s e rest}, s.softTimer.timeoutList = e :: rest → e ∉ timersOf m →
    R s (s.setTimer s.softTimer.popTimeout)
  alloc : ∀ {s s' ssrc j}, s.rtpSessionAllocMember ssrc = some (j, s') → j ≠ m → R s s'
  free : ∀ s {j}, j ≠ m → R s { s with memberTable := s.memberTable.rtpMemberTableFree j }

namespace SlotFrame

variable {m : Slot} {R : Session → Session → Prop}

theorem refl (h : SlotFrame m R) (s : Session) : R s s := h.same rfl rfl

theorem setRtpError (h : SlotFrame m R) (s : Session) (e : RtpRxError) : R s (s.setRtpError e) :=
  h.same rfl rfl

theorem setRtcpError (h : SlotFrame m R) (s : Session) (e : RtcpRxError) :
    R s (s.setRtcpError e) := h.same rfl rfl

theorem rtpEvent (h : SlotFrame m R) (s : Session) (newMember newSender : Bool) :
    R s (s.rtcpIntervalHandleRtpEvent newMember newSender) := h.same rfl rfl

theorem nonBye (h : SlotFrame m R) (s : Session) (flags : IntervalFlags) (pktSize : UInt32) :
    R s (s.rtcpIntervalHandleRtcpEvent .rxNonBye flags pktSize) := h.same rfl rfl

/-- A leaving member's event is about the interval timer. -/
theorem leaving (h : SlotFrame m R) (s : Session) {event : RtcpEvent} (hevent : event ≠ .rxNonBye)
    (flags : IntervalFlags) (pktSize : UInt32) :
    R s (s.rtcpIntervalHandleRtcpEvent event flags pktSize) := by
  have hrtcp : TimerElem.rtcp ∉ timersOf m := by simp [timersOf]
  have hcount : R s (s.countOff flags) := h.same rfl rfl
  rw [rtcpEvent_leaving s hevent]
  split
  · refine h.trans hcount ?_
    exact h.trans (h.trans (h.same rfl rfl) (h.del _ hrtcp))
      (h.trans (h.add _ _ hrtcp) (h.same rfl rfl))
  · exact hcount

theorem conflictLookup (h : SlotFrame m R) (s : Session) (addr : SockaddrIn) :
    R s (s.rtpSourceConflictLookup addr).2 := by
  simp only [rtpSourceConflictLookup, RtpSourceConflictTable.rtpSourceConflictLookup]
  split
  · exact h.refl s
  · rename_i c _
    have hc : TimerElem.conflict c ∉ timersOf m := by simp [timersOf]
    exact h.trans (h.del s hc) (h.add _ _ hc)

theorem conflictAdd (h : SlotFrame m R) (s : Session) (addr : SockaddrIn) :
    R s (s.rtpSourceConflictAdd addr) := by
  simp only [rtpSourceConflictAdd, RtpSourceConflictTable.rtpSourceConflictAdd]
  split
  · exact h.refl s
  · rename_i c pool _
    have hc : TimerElem.conflict c ∉ timersOf m := by simp [timersOf]
    exact h.trans (h.add s _ hc) (h.same rfl rfl)

section Other

variable {j : Slot} (h : SlotFrame m R) (hne : j ≠ m)

include h hne

theorem memberStart (s : Session) : R s (s.rtpTimersMemberStart j) :=
  h.add s _ (not_mem_timersOf hne).1

theorem senderStart (s : Session) : R s (s.rtpTimersSenderStart j) :=
  h.add s _ (not_mem_timersOf hne).2.1

theorem memberRestart (s : Session) : R s (s.rtpTimersMemberRestart j) :=
  h.trans (h.del s (not_mem_timersOf hne).1) (h.memberStart hne _)

theorem senderRestart (s : Session) : R s (s.rtpTimersSenderRestart j) :=
  h.trans (h.del s (not_mem_timersOf hne).2.1) (h.senderStart hne _)

theorem leaveOn (s : Session) : R s (s.leaveOn j) := by
  obtain ⟨hmem, hsnd, hlv⟩ := not_mem_timersOf hne
  have hstop := h.trans (h.modify s RtpMember.setByeReceived hne) (h.del _ hsnd)
  exact h.trans (h.trans hstop (h.del _ hmem)) (h.add _ _ hlv)

theorem dealloc (s : Session) : R s (s.rtpSessionDeallocMember j) := by
  obtain ⟨hmem, hsnd, hlv⟩ := not_mem_timersOf hne
  exact h.trans (h.trans (h.trans (h.del s hmem) (h.del _ hsnd)) (h.del _ hlv)) (h.free _ hne)

theorem changeRandomSsrc (s : Session) : R s (s.rtpMemberTableChangeRandomSsrc j) := by
  unfold rtpMemberTableChangeRandomSsrc
  split
  · exact h.same rfl rfl
  · refine h.trans ?_ (h.modify _ _ hne)
    exact h.same rfl rfl

theorem rtpCreated {s s' : Session} {ssrc : UInt32}
    (halloc : s.rtpSessionAllocMember ssrc = some (j, s')) (seq : UInt16) (fromAddr : SockaddrIn) :
    R s (s'.rtpCreated j seq fromAddr) := by
  have hrecord := h.trans (h.alloc halloc hne) (h.modify s' (rtpFirstHeard seq fromAddr) hne)
  have hsender := h.trans (h.trans hrecord (h.rtpEvent _ true true)) (h.senderStart hne _)
  exact h.trans (h.trans hsender (h.memberStart hne _)) (h.setRtpError _ _)

theorem rtpJoined (s : Session) (seq : UInt16) (fromAddr : SockaddrIn) :
    R s (s.rtpJoined j seq fromAddr) := by
  have hrecord := h.modify s (rtpFirstHeard seq fromAddr) hne
  have hsender := h.trans (h.trans hrecord (h.rtpEvent _ false true)) (h.senderStart hne _)
  exact h.trans (h.trans hsender (h.memberRestart hne _)) (h.setRtpError _ _)

theorem rtpRefreshed (s : Session) : R s (s.rtpRefreshed j) :=
  h.trans (h.trans (h.modify s RtpMember.setRtpHeard hne) (h.senderRestart hne _))
    (h.memberRestart hne _)

theorem rtcpCreated {s s' : Session} {ssrc : UInt32}
    (halloc : s.rtpSessionAllocMember ssrc = some (j, s')) (fromAddr : SockaddrIn)
    (pktSize : UInt32) : R s (s'.rtcpCreated j fromAddr pktSize) := by
  have hrecord := h.trans (h.alloc halloc hne) (h.modify s' (rtcpFirstHeard fromAddr) hne)
  have hmember := h.trans (h.trans hrecord (h.nonBye _ ⟨true, false⟩ pktSize)) (h.memberStart hne _)
  exact h.trans hmember (h.setRtcpError _ _)

theorem rtcpJoined (s : Session) (fromAddr : SockaddrIn) : R s (s.rtcpJoined j fromAddr) :=
  h.trans (h.trans (h.modify s (rtcpFirstHeard fromAddr) hne) (h.memberRestart hne _))
    (h.setRtcpError _ _)

theorem rtcpRefreshed (s : Session) (pktSize : UInt32) : R s (s.rtcpRefreshed j pktSize) := by
  have hmember := h.trans (h.modify s RtpMember.setRtcpHeard hne) (h.memberRestart hne _)
  exact h.trans (h.trans hmember (h.nonBye _ ⟨false, false⟩ pktSize)) (h.setRtcpError _ _)

theorem senderTimedout (s : Session) : R s (s.rtcpIntervalSenderTimedout j) := by
  apply rtcpIntervalSenderTimedout_rule (R := R) h.trans
  · exact fun s => h.modify s RtpMember.clearRtpHeard hne
  · exact fun s => h.modify s RtpMember.clearSender hne
  · exact fun _ => h.same rfl rfl
  · exact fun s => h.leaving s (by decide) _ _

end Other

/-- A collision is about the member that has the session's SSRC, unless the address is listed
    already. -/
theorem ownSsrcConflict {j : Slot} (h : SlotFrame m R) (s : Session) (fromAddr : SockaddrIn)
    (hother : j ≠ m ∨ (s.rtpSourceConflictLookup fromAddr).1 = true) :
    R s (s.ownSsrcConflict j fromAddr).2 := by
  have hlookup := h.conflictLookup s fromAddr
  simp only [Session.ownSsrcConflict]
  split
  · exact hlookup
  · rename_i hlisted
    have hchange := h.trans (h.trans hlookup (h.conflictAdd _ fromAddr))
      (h.changeRandomSsrc (hother.resolve_right hlisted) _)
    exact h.trans hchange (h.same rfl rfl)

/-- A transmit is about the session's own slot. -/
theorem rtpTxCount (h : SlotFrame m R) {s : Session} (hne : s.self ≠ m) (payloadLen : UInt32) :
    R s (s.rtpTxCount payloadLen) := by
  unfold Session.rtpTxCount
  split
  · exact h.trans (h.senderRestart hne s) (h.same rfl rfl)
  · have hsent : R s (s.setWeSent true) := h.same rfl rfl
    have hrecord := h.trans hsent (h.modify (s.setWeSent true) RtpMember.setSender hne)
    have hcounted := h.trans hrecord (h.rtpEvent _ false true)
    exact h.trans (h.trans hcounted (h.senderRestart hne _)) (h.same rfl rfl)

end SlotFrame

end Session

end Prtp
