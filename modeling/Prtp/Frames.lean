import Prtp.SessionLedger
import Prtp.TimerDeadlines

set_option autoImplicit false

/-! # Frames

Most of what a session does leaves the RTCP interval timer and the variables of the schedule alone: it
changes the member table, the conflict table, the counters and the other timers. A relation between
sessions that allows these changes, one by one, holds across every act but those that schedule. -/

namespace Prtp

namespace Session

/-- The relation allows every change but one to the clock, to the interval timer or to a variable of
    the schedule. -/
structure Frame (R : Session → Session → Prop) : Prop where
  trans : ∀ {s s' s''}, R s s' → R s' s'' → R s s''
  quiet : ∀ {s s'}, Quiet s s' → R s s'
  add : ∀ s {e} (d : SoftTimer.Milsec), e ≠ .rtcp → R s (s.softTimerAdd e d)
  del : ∀ s {e}, e ≠ .rtcp → R s (s.softTimerDel e)
  table : ∀ s mt, R s { s with memberTable := mt }
  conflicts : ∀ s t, R s { s with srcConflict := t }
  counts : ∀ s members senders avg weSent,
    R s { s with
      rtcpVar := { s.rtcpVar with
        members := members, senders := senders, avgRtcpSize := avg, weSent := weSent } }

namespace Frame

variable {R : Session → Session → Prop}

theorem refl (h : Frame R) (s : Session) : R s s := h.quiet (.refl s)

/-- What a frame's relation implies is one too, if it can be chained. -/
theorem mono {R' : Session → Session → Prop} (h : Frame R) (himp : ∀ {s s'}, R s s' → R' s s')
    (htrans : ∀ {s s' s''}, R' s s' → R' s' s'' → R' s s'') : Frame R' where
  trans := htrans
  quiet hq := himp (h.quiet hq)
  add s _ d he := himp (h.add s d he)
  del s _ he := himp (h.del s he)
  table s mt := himp (h.table s mt)
  conflicts s t := himp (h.conflicts s t)
  counts s members senders avg weSent := himp (h.counts s members senders avg weSent)

theorem modifyMember (h : Frame R) (s : Session) (m : Slot) (f : RtpMember → RtpMember) :
    R s (s.modifyMember m f) := h.table s _

theorem memberStart (h : Frame R) (s : Session) (m : Slot) : R s (s.rtpTimersMemberStart m) :=
  h.add s ⟨rtpConfigMemberTimeout, by decide⟩ (by simp)

theorem senderStart (h : Frame R) (s : Session) (m : Slot) : R s (s.rtpTimersSenderStart m) :=
  h.add s ⟨rtpConfigSenderTimeout, by decide⟩ (by simp)

theorem leaveStart (h : Frame R) (s : Session) (m : Slot) : R s (s.rtpTimersLeaveStart m) :=
  h.add s ⟨rtpConfigLeaveTimeout, by decide⟩ (by simp)

theorem memberRestart (h : Frame R) (s : Session) (m : Slot) : R s (s.rtpTimersMemberRestart m) :=
  h.trans (h.del s (by simp)) (h.memberStart _ m)

theorem senderRestart (h : Frame R) (s : Session) (m : Slot) : R s (s.rtpTimersSenderRestart m) :=
  h.trans (h.del s (by simp)) (h.senderStart _ m)

theorem rtpEvent (h : Frame R) (s : Session) (newMember newSender : Bool) :
    R s (s.rtcpIntervalHandleRtpEvent newMember newSender) := h.counts s _ _ _ _

theorem nonBye (h : Frame R) (s : Session) (flags : IntervalFlags) (pktSize : UInt32) :
    R s (s.rtcpIntervalHandleRtcpEvent .rxNonBye flags pktSize) := h.counts s _ _ _ _

theorem countOff (h : Frame R) (s : Session) (flags : IntervalFlags) : R s (s.countOff flags) :=
  h.counts s _ _ _ _

theorem setRtpError (h : Frame R) (s : Session) (e : RtpRxError) : R s (s.setRtpError e) :=
  h.quiet (.setRtpError s e)

theorem setRtcpError (h : Frame R) (s : Session) (e : RtcpRxError) : R s (s.setRtcpError e) :=
  h.quiet (.setRtcpError s e)

theorem alloc (h : Frame R) {s s' : Session} {ssrc : UInt32} {m : Slot}
    (halloc : s.rtpSessionAllocMember ssrc = some (m, s')) : R s s' := by
  rw [rtpSessionAllocMember] at halloc
  split at halloc
  · exact absurd halloc (by simp)
  · rename_i m' mt _
    rw [Option.some_inj, Prod.mk.injEq] at halloc
    rw [← halloc.2]
    exact h.trans (h.table s mt) (h.quiet ⟨rfl, rfl, rfl, rfl, rfl, rfl, rfl, fun _ => .refl _⟩)

theorem dealloc (h : Frame R) (s : Session) (m : Slot) : R s (s.rtpSessionDeallocMember m) := by
  have hmember := h.del s (e := .member m) (by simp)
  have hsender := h.del (s.softTimerDel (.member m)) (e := .sender m) (by simp)
  have hleave := h.del ((s.softTimerDel (.member m)).softTimerDel (.sender m)) (e := .leave m)
    (by simp)
  exact h.trans (h.trans (h.trans hmember hsender) hleave) (h.table _ _)

theorem changeRandomSsrc (h : Frame R) (s : Session) (m : Slot) :
    R s (s.rtpMemberTableChangeRandomSsrc m) := by
  unfold rtpMemberTableChangeRandomSsrc
  split
  · exact h.quiet ⟨rfl, rfl, rfl, rfl, rfl, rfl, rfl, fun _ => .refl _⟩
  · have hdraw : ∀ draws, Quiet s { s with env := { s.env with random32 := draws } } :=
      fun draws => ⟨rfl, rfl, rfl, rfl, rfl, rfl, rfl, fun _ => .refl _⟩
    exact h.trans (h.quiet (hdraw _)) (h.modifyMember _ m _)

theorem conflictLookup (h : Frame R) (s : Session) (addr : SockaddrIn) :
    R s (s.rtpSourceConflictLookup addr).2 := by
  simp only [rtpSourceConflictLookup, RtpSourceConflictTable.rtpSourceConflictLookup]
  split
  · exact h.refl s
  · rename_i c _
    have hstop := h.del s (e := .conflict c) (by simp)
    exact h.trans hstop (h.add _ ⟨rtpConfigSourceConflictTimeout, by decide⟩ (by simp))

theorem conflictAdd (h : Frame R) (s : Session) (addr : SockaddrIn) :
    R s (s.rtpSourceConflictAdd addr) := by
  simp only [rtpSourceConflictAdd, RtpSourceConflictTable.rtpSourceConflictAdd]
  split
  · exact h.refl s
  · rename_i c pool _
    have hstart := h.add s (e := .conflict c) ⟨rtpConfigSourceConflictTimeout, by decide⟩ (by simp)
    exact h.trans hstart (h.conflicts _ _)

theorem ownSsrcConflict (h : Frame R) (s : Session) (m : Slot) (fromAddr : SockaddrIn) :
    R s (s.ownSsrcConflict m fromAddr).2 := by
  have hlookup := h.conflictLookup s fromAddr
  simp only [Session.ownSsrcConflict]
  split
  · exact hlookup
  · have hadd := h.trans hlookup (h.conflictAdd _ fromAddr)
    have hreset : ∀ t : Session, Quiet t t.rtpSessionResetTxStats := fun t =>
      ⟨rfl, rfl, rfl, rfl, rfl, rfl, rfl, fun _ => .refl _⟩
    exact h.trans (h.trans hadd (h.changeRandomSsrc _ m)) (h.quiet (hreset _))

theorem rtpHandleSsrc (h : Frame R) (s : Session) (ssrc : UInt32) (seq : UInt16)
    (fromAddr : SockaddrIn) (csrc : Bool) : R s (s.rtpHandleSsrc ssrc seq fromAddr csrc).2 := by
  have hcase := s.rtpHandleSsrc_case ssrc seq fromAddr csrc
  generalize s.rtpHandleSsrc ssrc seq fromAddr csrc = res at hcase
  have hcreated : ∀ m s', s.rtpSessionAllocMember ssrc = some (m, s') →
      R s (s'.rtpCreated m seq fromAddr) := by
    intro m s' halloc
    have hrecord := h.trans (h.alloc halloc) (h.modifyMember s' m (rtpFirstHeard seq fromAddr))
    have hcounted := h.trans hrecord (h.rtpEvent _ true true)
    have hsender := h.trans hcounted (h.senderStart _ m)
    have hmember := h.trans hsender (h.memberStart _ m)
    exact h.trans hmember (h.setRtpError _ _)
  cases hcase with
  | tableFull | leaving | thirdParty => exact h.setRtpError s _
  | created m s' hnone halloc => exact hcreated m s' halloc
  | createdCsrc m s' hnone halloc =>
      exact h.trans (hcreated m s' halloc)
        (h.modifyMember (s'.rtpCreated m seq fromAddr) m fun x => x.setValidated.setCsrc)
  | joined _ m hm hbye hself hnew =>
      have hrecord := h.modifyMember s m (rtpFirstHeard seq fromAddr)
      have hcounted := h.trans hrecord (h.rtpEvent _ false true)
      have hsender := h.trans hcounted (h.senderStart _ m)
      exact h.trans (h.trans hsender (h.memberRestart _ m)) (h.setRtpError _ _)
  | collision _ m hm hbye hself haddr err =>
      exact h.trans (h.ownSsrcConflict s m fromAddr) (h.setRtpError _ _)
  | refreshed _ m hm hbye hknown haddr =>
      have hrecord := h.modifyMember s m RtpMember.setRtpHeard
      exact h.trans (h.trans hrecord (h.senderRestart _ m)) (h.memberRestart _ m)

theorem rtcpHandleSsrc (h : Frame R) (s : Session) (ssrc : UInt32) (fromAddr : SockaddrIn)
    (pktSize : UInt32) : R s (s.rtcpHandleSsrc ssrc fromAddr pktSize).2 := by
  have hcase := s.rtcpHandleSsrc_case ssrc fromAddr pktSize
  generalize s.rtcpHandleSsrc ssrc fromAddr pktSize = res at hcase
  cases hcase with
  | tableFull | leaving | thirdParty => exact h.setRtcpError s _
  | created m s' hnone halloc =>
      have hrecord := h.trans (h.alloc halloc) (h.modifyMember s' m (rtcpFirstHeard fromAddr))
      have hcounted := h.trans hrecord (h.nonBye _ ⟨true, false⟩ pktSize)
      have hmember := h.trans hcounted (h.memberStart _ m)
      exact h.trans hmember (h.setRtcpError _ _)
  | joined m hm hbye hself hnew =>
      have hrecord := h.modifyMember s m (rtcpFirstHeard fromAddr)
      exact h.trans (h.trans hrecord (h.memberRestart _ m)) (h.setRtcpError _ _)
  | collision m hm hbye hknown haddr hown err =>
      exact h.trans (h.ownSsrcConflict s m fromAddr) (h.setRtcpError _ _)
  | refreshed m hm hbye hknown haddr =>
      have hrecord := h.modifyMember s m RtpMember.setRtcpHeard
      have hcounted := h.trans (h.trans hrecord (h.memberRestart _ m)) (h.nonBye _ ⟨false, false⟩
        pktSize)
      exact h.trans hcounted (h.setRtcpError _ _)

theorem rtpTxCount (h : Frame R) (s : Session) (payloadLen : UInt32) :
    R s (s.rtpTxCount payloadLen) := by
  have hstats : ∀ t : Session, Quiet t
      { t with txPktCount := t.txPktCount + 1, txOctetCount := t.txOctetCount + payloadLen } :=
    fun t => ⟨rfl, rfl, rfl, rfl, rfl, rfl, rfl, fun _ => .refl _⟩
  unfold Session.rtpTxCount
  split
  · exact h.trans (h.senderRestart s _) (h.quiet (hstats _))
  · have hsent : R s (s.setWeSent true) := h.counts s _ _ _ _
    have hrecord := h.trans hsent (h.modifyMember (s.setWeSent true) s.self RtpMember.setSender)
    have hcounted := h.trans hrecord (h.rtpEvent _ false true)
    exact h.trans (h.trans hcounted (h.senderRestart _ s.self)) (h.quiet (hstats _))

end Frame

end Session

end Prtp
