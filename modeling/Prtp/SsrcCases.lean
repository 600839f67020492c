import Prtp.Session

set_option autoImplicit false

/-! # What handling a source can do

`rtcp_handle_ssrc` and `rtp_handle_ssrc` by cases: one constructor for each way through the code,
with the tests that led there and the result. Proofs about received packets split on these and do
not unfold the two functions. -/

namespace Prtp

namespace Session

theorem rtpSessionAllocMember_eq_none {s : Session} {ssrc : UInt32} :
    s.rtpSessionAllocMember ssrc = none ↔ s.freeList = [] := by
  rw [freeList, ← Pool.take_eq_none, rtpSessionAllocMember,
    RtpMemberTable.rtpMemberTableAllocMember]
  cases s.memberTable.pool.take <;> simp

/-- A new member's record after `rtcp_handle_ssrc` has filled it in. -/
def rtcpFirstHeard (fromAddr : SockaddrIn) (x : RtpMember) : RtpMember :=
  { x with rtcpAddr := fromAddr }.setRtcpHeard

/-- A new member's record after `rtp_handle_ssrc` has filled it in. -/
def rtpFirstHeard (seq : UInt16) (fromAddr : SockaddrIn) (x : RtpMember) : RtpMember :=
  { x with rtpSrc := x.rtpSrc.rtpInitSeq seq true, rtpAddr := fromAddr }.setRtpHeard

/-- The session `rtcp_handle_ssrc` leaves when it has created `m`. -/
def rtcpCreated (s : Session) (m : Slot) (fromAddr : SockaddrIn) (pktSize : UInt32) : Session :=
  ((((s.modifyMember m (rtcpFirstHeard fromAddr)).rtcpIntervalHandleRtcpEvent .rxNonBye
    ⟨true, false⟩ pktSize).rtpTimersMemberStart m).setRtcpError .memberFirstHeard)

/-- The session `rtcp_handle_ssrc` leaves when it hears a member created by RTP. -/
def rtcpJoined (s : Session) (m : Slot) (fromAddr : SockaddrIn) : Session :=
  (((s.modifyMember m (rtcpFirstHeard fromAddr)).rtpTimersMemberRestart m).setRtcpError
    .memberFirstHeard)

/-- The session `rtcp_handle_ssrc` leaves when it hears a member again. -/
def rtcpRefreshed (s : Session) (m : Slot) (pktSize : UInt32) : Session :=
  ((((s.modifyMember m RtpMember.setRtcpHeard).rtpTimersMemberRestart
    m).rtcpIntervalHandleRtcpEvent .rxNonBye ⟨false, false⟩ pktSize).setRtcpError .noError)

/-- The ways through `rtcp_handle_ssrc`, each with its result. -/
inductive RtcpSsrcCase (s : Session) (ssrc : UInt32) (fromAddr : SockaddrIn) (pktSize : UInt32) :
    Option Slot × Session → Prop
  | tableFull (hnone : s.rtpSessionLookupMember ssrc = none) (hfull : s.freeList = []) :
      RtcpSsrcCase s ssrc fromAddr pktSize (none, s.setRtcpError .memberAllocFailed)
  | created (m : Slot) (s' : Session) (hnone : s.rtpSessionLookupMember ssrc = none)
      (halloc : s.rtpSessionAllocMember ssrc = some (m, s')) :
      RtcpSsrcCase s ssrc fromAddr pktSize (some m, s'.rtcpCreated m fromAddr pktSize)
  | leaving (m : Slot) (hm : s.rtpSessionLookupMember ssrc = some m)
      (hbye : (s.member m).flags.byeReceived = true) :
      RtcpSsrcCase s ssrc fromAddr pktSize (none, s.setRtcpError .memberByeInProgress)
  | joined (m : Slot) (hm : s.rtpSessionLookupMember ssrc = some m)
      (hbye : (s.member m).flags.byeReceived = false) (hself : (s.member m).flags.self = false)
      (hnew : (s.member m).flags.rtcpHeard = false) :
      RtcpSsrcCase s ssrc fromAddr pktSize (some m, s.rtcpJoined m fromAddr)
  | thirdParty (m : Slot) (hm : s.rtpSessionLookupMember ssrc = some m)
      (hbye : (s.member m).flags.byeReceived = false)
      (hknown : (s.member m).flags.self = true ∨ (s.member m).flags.rtcpHeard = true)
      (haddr : (s.member m).rtcpAddr ≠ fromAddr) (hother : ssrc ≠ s.selfMember.ssrc) :
      RtcpSsrcCase s ssrc fromAddr pktSize (none, s.setRtcpError .thirdPartyConflict)
  | collision (m : Slot) (hm : s.rtpSessionLookupMember ssrc = some m)
      (hbye : (s.member m).flags.byeReceived = false)
      (hknown : (s.member m).flags.self = true ∨ (s.member m).flags.rtcpHeard = true)
      (haddr : (s.member m).rtcpAddr ≠ fromAddr) (hown : ssrc = s.selfMember.ssrc)
      (err : RtcpRxError) :
      RtcpSsrcCase s ssrc fromAddr pktSize
        (none, (s.ownSsrcConflict m fromAddr).2.setRtcpError err)
  | refreshed (m : Slot) (hm : s.rtpSessionLookupMember ssrc = some m)
      (hbye : (s.member m).flags.byeReceived = false)
      (hknown : (s.member m).flags.self = true ∨ (s.member m).flags.rtcpHeard = true)
      (haddr : (s.member m).rtcpAddr = fromAddr) :
      RtcpSsrcCase s ssrc fromAddr pktSize (some m, s.rtcpRefreshed m pktSize)

theorem rtcpHandleSsrc_case (s : Session) (ssrc : UInt32) (fromAddr : SockaddrIn)
    (pktSize : UInt32) :
    RtcpSsrcCase s ssrc fromAddr pktSize (s.rtcpHandleSsrc ssrc fromAddr pktSize) := by
  rw [rtcpHandleSsrc]
  cases hm : s.rtpSessionLookupMember ssrc with
  | none =>
      cases halloc : s.rtpSessionAllocMember ssrc with
      | none => exact .tableFull hm (rtpSessionAllocMember_eq_none.1 halloc)
      | some p => exact .created p.1 p.2 hm halloc
  | some m =>
      by_cases hbye : (s.member m).flags.byeReceived = true
      · simp only [hbye, if_true]
        exact .leaving m hm hbye
      · rw [Bool.not_eq_true] at hbye
        by_cases hnew : (s.member m).flags.self = false ∧ (s.member m).flags.rtcpHeard = false
        · simp only [hbye, hnew.1, hnew.2]
          exact .joined m hm hbye hnew.1 hnew.2
        · have hknown : (s.member m).flags.self = true ∨ (s.member m).flags.rtcpHeard = true := by
            cases hs : (s.member m).flags.self <;> cases hr : (s.member m).flags.rtcpHeard <;>
              simp_all
          have htest : (!(s.member m).flags.self && !(s.member m).flags.rtcpHeard) = false := by
            rcases hknown with h | h <;> simp [h]
          simp only [hbye, htest, Bool.false_eq_true, if_false]
          by_cases haddr : (s.member m).rtcpAddr = fromAddr
          · rw [if_neg (not_not.2 haddr)]
            exact .refreshed m hm hbye hknown haddr
          · rw [if_pos haddr]
            by_cases hown : ssrc = s.selfMember.ssrc
            · rw [if_neg (not_not.2 hown)]
              exact .collision m hm hbye hknown haddr hown _
            · rw [if_pos hown]
              exact .thirdParty m hm hbye hknown haddr hown

/-- The session `rtp_handle_ssrc` leaves when it has created `m`. -/
def rtpCreated (s : Session) (m : Slot) (seq : UInt16) (fromAddr : SockaddrIn) : Session :=
  (((((s.modifyMember m (rtpFirstHeard seq fromAddr)).rtcpIntervalHandleRtpEvent true
    true).rtpTimersSenderStart m).rtpTimersMemberStart m).setRtpError .memberFirstHeard)

/-- The session `rtp_handle_ssrc` leaves when a member known by RTCP becomes a sender. -/
def rtpJoined (s : Session) (m : Slot) (seq : UInt16) (fromAddr : SockaddrIn) : Session :=
  (((((s.modifyMember m (rtpFirstHeard seq fromAddr)).rtcpIntervalHandleRtpEvent false
    true).rtpTimersSenderStart m).rtpTimersMemberRestart m).setRtpError .memberFirstHeard)

/-- The session `rtp_handle_ssrc` leaves when it hears a member again. -/
def rtpRefreshed (s : Session) (m : Slot) : Session :=
  ((s.modifyMember m RtpMember.setRtpHeard).rtpTimersSenderRestart m).rtpTimersMemberRestart m

/-- The ways through `rtp_handle_ssrc`, each with its result. -/
inductive RtpSsrcCase (s : Session) (ssrc : UInt32) (seq : UInt16) (fromAddr : SockaddrIn) :
    Bool → Option Slot × Session → Prop
  | tableFull (csrc : Bool) (hnone : s.rtpSessionLookupMember ssrc = none)
      (hfull : s.freeList = []) :
      RtpSsrcCase s ssrc seq fromAddr csrc (none, s.setRtpError .memberAllocFailed)
  | created (m : Slot) (s' : Session) (hnone : s.rtpSessionLookupMember ssrc = none)
      (halloc : s.rtpSessionAllocMember ssrc = some (m, s')) :
      RtpSsrcCase s ssrc seq fromAddr false (none, s'.rtpCreated m seq fromAddr)
  | createdCsrc (m : Slot) (s' : Session) (hnone : s.rtpSessionLookupMember ssrc = none)
      (halloc : s.rtpSessionAllocMember ssrc = some (m, s')) :
      RtpSsrcCase s ssrc seq fromAddr true
        (some m, (s'.rtpCreated m seq fromAddr).modifyMember m fun x => x.setValidated.setCsrc)
  | leaving (csrc : Bool) (m : Slot) (hm : s.rtpSessionLookupMember ssrc = some m)
      (hbye : (s.member m).flags.byeReceived = true) :
      RtpSsrcCase s ssrc seq fromAddr csrc (none, s.setRtpError .memberByeInProgress)
  | joined (csrc : Bool) (m : Slot) (hm : s.rtpSessionLookupMember ssrc = some m)
      (hbye : (s.member m).flags.byeReceived = false) (hself : (s.member m).flags.self = false)
      (hnew : (s.member m).flags.rtpHeard = false) :
      RtpSsrcCase s ssrc seq fromAddr csrc (none, s.rtpJoined m seq fromAddr)
  | thirdParty (csrc : Bool) (m : Slot) (hm : s.rtpSessionLookupMember ssrc = some m)
      (hbye : (s.member m).flags.byeReceived = false) (hself : (s.member m).flags.self = false)
      (hheard : (s.member m).flags.rtpHeard = true) (haddr : (s.member m).rtpAddr ≠ fromAddr) :
      RtpSsrcCase s ssrc seq fromAddr csrc (none, s.setRtpError .thirdPartyConflict)
  | collision (csrc : Bool) (m : Slot) (hm : s.rtpSessionLookupMember ssrc = some m)
      (hbye : (s.member m).flags.byeReceived = false) (hself : (s.member m).flags.self = true)
      (haddr : (s.member m).rtpAddr ≠ fromAddr) (err : RtpRxError) :
      RtpSsrcCase s ssrc seq fromAddr csrc
        (none, (s.ownSsrcConflict m fromAddr).2.setRtpError err)
  | refreshed (csrc : Bool) (m : Slot) (hm : s.rtpSessionLookupMember ssrc = some m)
      (hbye : (s.member m).flags.byeReceived = false)
      (hknown : (s.member m).flags.self = true ∨ (s.member m).flags.rtpHeard = true)
      (haddr : (s.member m).rtpAddr = fromAddr) :
      RtpSsrcCase s ssrc seq fromAddr csrc (some m, s.rtpRefreshed m)

theorem rtpHandleSsrc_case (s : Session) (ssrc : UInt32) (seq : UInt16) (fromAddr : SockaddrIn)
    (csrc : Bool) :
    RtpSsrcCase s ssrc seq fromAddr csrc (s.rtpHandleSsrc ssrc seq fromAddr csrc) := by
  rw [rtpHandleSsrc]
  cases hm : s.rtpSessionLookupMember ssrc with
  | none =>
      cases halloc : s.rtpSessionAllocMember ssrc with
      | none => exact .tableFull csrc hm (rtpSessionAllocMember_eq_none.1 halloc)
      | some p =>
          cases csrc with
          | false => exact .created p.1 p.2 hm halloc
          | true => exact .createdCsrc p.1 p.2 hm halloc
  | some m =>
      by_cases hbye : (s.member m).flags.byeReceived = true
      · simp only [hbye, if_true]
        exact .leaving csrc m hm hbye
      · rw [Bool.not_eq_true] at hbye
        by_cases hnew : (s.member m).flags.self = false ∧ (s.member m).flags.rtpHeard = false
        · simp only [hbye, hnew.1, hnew.2]
          exact .joined csrc m hm hbye hnew.1 hnew.2
        · have hknown : (s.member m).flags.self = true ∨ (s.member m).flags.rtpHeard = true := by
            cases hs : (s.member m).flags.self <;> cases hr : (s.member m).flags.rtpHeard <;>
              simp_all
          have htest : (!(s.member m).flags.self && !(s.member m).flags.rtpHeard) = false := by
            rcases hknown with h | h <;> simp [h]
          simp only [hbye, htest, Bool.false_eq_true, if_false]
          by_cases haddr : (s.member m).rtpAddr = fromAddr
          · rw [if_neg (not_not.2 haddr)]
            exact .refreshed csrc m hm hbye hknown haddr
          · rw [if_pos haddr]
            cases hself : (s.member m).flags.self with
            | true => exact .collision csrc m hm hbye hself haddr _
            | false =>
                exact .thirdParty csrc m hm hbye hself
                  (hknown.resolve_left (by rw [hself]; decide)) haddr

end Session

end Prtp
