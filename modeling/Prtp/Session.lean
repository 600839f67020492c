import Prtp.Library.Runs
import Prtp.Rtp

set_option autoImplicit false

/-! # The session (`rtp_session.c`)

`rtp_session_init`, the dispatch of timer callbacks, and the machine whose steps are the four calls
an application makes: a received RTP or RTCP packet, a transmit, a timer tick. -/

namespace Prtp

namespace Session

/-! ## Initialisation -/

/-- `rtp_session_init_self` -/
def rtpSessionInitSelf (s : Session) (config : RtpSessionConfig) : Session :=
  let (ssrc, s) := s.rtpRandom32
  match s.rtpSessionAllocMember ssrc with
  | none => { s with undef := true }
  | some (m, s) =>
    { s with self := m }.modifyMember m fun x =>
      let x := rtpMemberSetCname x.setSelf (config.cname.slice 0 config.cnameLen.toNat)
      { x with rtpAddr := config.rtpAddr, rtcpAddr := config.rtcpAddr }

/-- `rtp_session_init` on memory holding `mem`. -/
def rtpSessionInit (mem : Session) (config : RtpSessionConfig) : Session :=
  let s :=
    { mem with
      config := config
      lastRtpError := .noError
      lastRtcpError := .noError
      softTimer := mem.softTimer.softTimerInit 100
      srcConflict := mem.srcConflict.rtpSourceConflictTableInit
      memberTable := mem.memberTable.rtpMemberTableInit
      invalidRtcpPkt := 0
      invalidRtpPkt := 0
      out := []
      undef := false }
  let (seq, s) := s.rtpRandom32
  let s := { s with seq := seq.toUInt16 }
  ((s.rtpSessionResetTxStats).rtpSessionInitSelf config).rtcpInit

/-- What `rtp_session_init` has laid out before it creates the session's own member. -/
def rtpSessionBlank (mem : Session) (config : RtpSessionConfig) : Session :=
  { mem with
    config := config
    lastRtpError := .noError
    lastRtcpError := .noError
    softTimer := mem.softTimer.softTimerInit 100
    srcConflict := mem.srcConflict.rtpSourceConflictTableInit
    memberTable := mem.memberTable.rtpMemberTableInit
    invalidRtcpPkt := 0
    invalidRtpPkt := 0
    out := []
    undef := false
    seq := mem.rtpRandom32.1.toUInt16
    txPktCount := 0
    txOctetCount := 0
    env := mem.rtpRandom32.2.env }

theorem rtpSessionInit_eq (mem : Session) (config : RtpSessionConfig) :
    mem.rtpSessionInit config =
      ((mem.rtpSessionBlank config).rtpSessionInitSelf config).rtcpInit := rfl

/-! ## Timers -/

/-- The callback of a timer element, with its `__rtp_timers_*` wrapper unfolded. -/
def timerCallback : TimerElem → Session → Session
  | .rtcp, s => s.rtcpIntervalTimeout
  | .member m, s => s.rtcpIntervalMemberTimedout m
  | .sender m, s => s.rtcpIntervalSenderTimedout m
  | .leave m, s => s.rtpSessionDeallocMember m
  | .conflict c, s => { s with srcConflict := s.srcConflict.rtpSourceConflictTimerExpired c }

/-- `rtp_session_timer_tick` -/
def rtpSessionTimerTick (s : Session) : Session :=
  SoftTimer.softTimerDrive softTimer setTimer timerCallback s

/-- The callbacks of a `rtp_session_timer_tick`, each with the session it is called in. -/
def tickFirings (s : Session) : List (TimerElem × Session) :=
  SoftTimer.driveFirings softTimer setTimer timerCallback s

end Session

/-! ## The machine -/

/-- The calls an application makes on a session after `rtp_session_init`. -/
inductive Op
  | rxRtp (pkt : ByteMem) (len : UInt32) (fromAddr : SockaddrIn)
  | rxRtcp (pkt : ByteMem) (len : UInt32) (fromAddr : SockaddrIn)
  | tx (payload : ByteMem) (payloadLen : UInt32) (rtpTs : UInt32) (csrc : Nat → UInt32)
      (ncsrc : UInt8)
  | tick

/-- One call. -/
def step (s : Session) : Op → Session
  | .rxRtp pkt len fromAddr => (s.rtpRx len fromAddr).val pkt
  | .rxRtcp pkt len fromAddr => (s.rtcpRx len fromAddr).val pkt
  | .tx payload payloadLen rtpTs csrc ncsrc => s.rtpTx payload payloadLen rtpTs csrc ncsrc
  | .tick => s.rtpSessionTimerTick

/-- The state after `rtp_session_init` on memory holding `mem`, followed by `ops`. -/
def runSession (mem : Session) (config : RtpSessionConfig) (ops : List Op) : Session :=
  Runs.run step (mem.rtpSessionInit config) ops

/-! ## Sessions in zeroed memory

Concrete sessions to run the machine on. -/

/-- An address that differs from others by its port. -/
def SockaddrIn.ofPort (port : UInt16) : SockaddrIn := ⟨2, port, 0, 0⟩

/-- The packet memory that starts with the given octets. -/
def pktOf (bs : List UInt8) : ByteMem := fun i => bs.getD i 0

theorem holds_pktOf (pre bs : List UInt8) : (pktOf (pre ++ bs)).Holds pre.length bs := by
  induction bs generalizing pre with
  | nil => exact ByteMem.holds_nil ..
  | cons b bs ih =>
      rw [ByteMem.holds_cons]
      have hrest := ih (pre ++ [b])
      rw [List.append_assoc, List.singleton_append, List.length_append, List.length_singleton]
        at hrest
      refine ⟨?_, hrest⟩
      simp [pktOf]

/-- A RR of no blocks from SSRC `ssrc`. -/
def rrFrom (ssrc : UInt8) : ByteMem := pktOf [128, 201, 0, 1, 0, 0, 0, ssrc]

/-- A RR from SSRC 9 and a BYE that names SSRC `ssrc`. -/
def byeFor (ssrc : UInt8) : ByteMem :=
  pktOf [128, 201, 0, 1, 0, 0, 0, 9, 129, 203, 0, 1, 0, 0, 0, ssrc]

/-- A data packet from SSRC `ssrc`. -/
def rtpFrom (ssrc : UInt8) : ByteMem := pktOf [128, 0, 0, 7, 0, 0, 0, 0, 0, 0, 0, ssrc]

/-- Clocks that stand still, `random32` counting from 1, and the given values of `drand48`. -/
def Env.still (drand48 : Nat → Drand48) : Env where
  random32 := [1, 2, 3, 4, 5, 6, 7, 8]
  drand48 := drand48
  timeofday := fun _ => ⟨0, 0⟩
  rtpTimestamp := fun _ => 0
  stack := fun _ => 0

/-- `drand48` always returning 0. -/
def Drand48.zero : Nat → Drand48 := fun _ => ⟨0, by decide⟩

namespace Session

/-- Zeroed memory. -/
def zeroed (env : Env) : Session where
  softTimer := ⟨100, 0, fun _ => 0, fun _ => [], [], by simp, by simp, by simp, by simp⟩
  rtpPkt := fun _ => 0
  seq := 0
  memberTable :=
    { memberArray := fun _ =>
        { rtpAddr := .ofPort 0, rtcpAddr := .ofPort 0, ssrc := 0, cname := fun _ => 0
          cnameLen := 0, flags := .zero, rtpSrc := ⟨0, 0, 0, 0, 0, 0, 0, 0, 0, 0⟩
          lastSr := ⟨0, 0⟩, lastSrLocalTime := ⟨0, 0⟩, rtpTs := 0, pktCount := 0, octetCount := 0 }
      pool := Pool.full (List.finRange _) (List.nodup_finRange _) List.mem_finRange
      numMembers := 0 }
  rtcpVar := ⟨0, none, 0, 0, 0, 0, 0, false, false, 0⟩
  self := 0
  srcConflict :=
    { addr := fun _ => .ofPort 0
      pool := Pool.full (List.finRange _) (List.nodup_finRange _) List.mem_finRange }
  invalidRtcpPkt := 0
  invalidRtpPkt := 0
  lastRtpError := .noError
  lastRtcpError := .noError
  txPktCount := 0
  txOctetCount := 0
  config := ⟨.ofPort 0, .ofPort 0, 0, fun _ => 0, 0, 0, false⟩
  env := env
  out := []
  undef := false

/-- A configuration with RTP on port 100, RTCP on port 101, payload type 0 and no padding. -/
def plainConfig (sessionBw : UInt32) (cnameLen : UInt8) : RtpSessionConfig :=
  ⟨.ofPort 100, .ofPort 101, sessionBw, fun _ => 97, cnameLen, 0, false⟩

end Session

end Prtp
