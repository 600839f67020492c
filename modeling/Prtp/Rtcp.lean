import Prtp.Library.ByteReader
import Prtp.RtcpReport
import Prtp.SourceConflict

set_option autoImplicit false

/-! # RTCP: the interval timer, member timeouts and received packets

The rest of `rtcp.c`. The functions that look into a packet are `ByteReader`s over its memory, whose
offset `0` is the first octet of the compound packet; a pointer to a sub-packet is its offset. -/

namespace Prtp

open ByteReader

namespace Session

/-! ## Timers -/

/-- `__rtcp_interval_timeout` -/
def rtcpIntervalTimeout (s : Session) : Session :=
  let tc := s.rtcpCurrentTime
  let (t, s) := s.drawInterval
  let tn := t.map fun t => s.rtcpVar.tp + t
  -- `tn <= tc` is false of an infinity or a NaN
  if tn.any fun tn => tn ≤ tc then
    let (pktSize, s) := s.rtcpSendReport
    let s :=
      { s with
        rtcpVar :=
          { s.rtcpVar with
            avgRtcpSize := 1 / 16 * (pktSize.toNat : ℚ) + 15 / 16 * s.rtcpVar.avgRtcpSize
            tp := tc } }
    let (t, s) := s.drawInterval
    let s := s.rtcpIntervalSchedule tc (t.map fun t => t + tc)
    { s with rtcpVar := { s.rtcpVar with initial := false } }
  else s.rtcpIntervalSchedule tc tn

/-- `rtcp_interval_member_timedout` -/
def rtcpIntervalMemberTimedout (s : Session) (m : Slot) : Session :=
  let s := s.rtcpIntervalHandleRtcpEvent .timeout ⟨true, (s.member m).flags.rtpHeard⟩ 0
  s.rtpSessionDeallocMember m

/-- `rtcp_interval_sender_timedout` -/
def rtcpIntervalSenderTimedout (s : Session) (m : Slot) : Session :=
  let s := s.modifyMember m RtpMember.clearRtpHeard
  let s :=
    if s.self = m then
      let s := s.modifyMember m RtpMember.clearSender
      { s with rtcpVar := { s.rtcpVar with weSent := false } }
    else s
  s.rtcpIntervalHandleRtcpEvent .timeout ⟨false, true⟩ 0

/-- A relation that can be chained and allows what the interval timer is made of (a draw, a report, the
    variables it sets, the next interval) allows the whole of it. -/
theorem rtcpIntervalTimeout_rule {R : Session → Session → Prop}
    (trans : ∀ {s s' s''}, R s s' → R s' s'' → R s s'')
    (draw : ∀ s : Session, R s s.drawInterval.2)
    (report : ∀ s : Session, R s s.rtcpSendReport.2)
    (vars : ∀ (s : Session) avg tp initial,
      R s { s with rtcpVar := { s.rtcpVar with avgRtcpSize := avg, tp := tp, initial := initial } })
    (schedule : ∀ (s : Session) tc tn, R s (s.rtcpIntervalSchedule tc tn)) (s : Session) :
    R s s.rtcpIntervalTimeout := by
  have hdraw := draw s
  simp only [rtcpIntervalTimeout]
  split
  · have hreport := trans hdraw (report _)
    generalize s.drawInterval.2.rtcpSendReport = sent at hreport ⊢
    obtain ⟨pktSize, t⟩ := sent
    have hsent := trans hreport (vars t (1 / 16 * (pktSize.toNat : ℚ) + 15 / 16 * t.rtcpVar.avgRtcpSize)
      s.rtcpCurrentTime t.rtcpVar.initial)
    have hnext := trans hsent (draw _)
    exact trans (trans hnext (schedule _ _ _)) (vars (rtcpIntervalSchedule _ _ _) _ _ false)
  · exact trans hdraw (schedule _ _ _)

/-- The same for a sender's timeout: its record, the session's own, and the event of the interval. -/
theorem rtcpIntervalSenderTimedout_rule {R : Session → Session → Prop} {m : Slot}
    (trans : ∀ {s s' s''}, R s s' → R s' s'' → R s s'')
    (heard : ∀ s : Session, R s (s.modifyMember m RtpMember.clearRtpHeard))
    (sender : ∀ s : Session, R s (s.modifyMember m RtpMember.clearSender))
    (unsent : ∀ s : Session, R s { s with rtcpVar := { s.rtcpVar with weSent := false } })
    (leaving : ∀ s : Session, R s (s.rtcpIntervalHandleRtcpEvent .timeout ⟨false, true⟩ 0))
    (s : Session) : R s (s.rtcpIntervalSenderTimedout m) := by
  have hheard := heard s
  simp only [rtcpIntervalSenderTimedout]
  split
  · exact trans (trans (trans hheard (sender _)) (unsent _)) (leaving _)
  · exact trans hheard (leaving _)

/-! ## The source of a packet -/

/-- `rtp_session_reset_tx_stats` -/
def rtpSessionResetTxStats (s : Session) : Session := { s with txPktCount := 0, txOctetCount := 0 }

/-- `sess->last_rtcp_error = e` -/
def setRtcpError (s : Session) (e : RtcpRxError) : Session := { s with lastRtcpError := e }

/-- What `rtp_handle_ssrc` and `rtcp_handle_ssrc` both do when the session's own SSRC, that of `m`,
    comes from a foreign address: whether the address is already in the conflict list, and the
    session with a new SSRC if it is not. `rtcp_tx_bye` does nothing. -/
def ownSsrcConflict (s : Session) (m : Slot) (fromAddr : SockaddrIn) : Bool × Session :=
  let (listed, s) := s.rtpSourceConflictLookup fromAddr
  if listed then (true, s)
  else
    let s := s.rtpSourceConflictAdd fromAddr
    (false, (s.rtpMemberTableChangeRandomSsrc m).rtpSessionResetTxStats)

/-- `rtcp_handle_ssrc` -/
def rtcpHandleSsrc (s : Session) (ssrc : UInt32) (fromAddr : SockaddrIn) (pktSize : UInt32) :
    Option Slot × Session :=
  match s.rtpSessionLookupMember ssrc with
  | none =>
    match s.rtpSessionAllocMember ssrc with
    | none => (none, s.setRtcpError .memberAllocFailed)
    | some (m, s) =>
      let s := s.modifyMember m fun x => { x with rtcpAddr := fromAddr }.setRtcpHeard
      let s := s.rtcpIntervalHandleRtcpEvent .rxNonBye ⟨true, false⟩ pktSize
      let s := s.rtpTimersMemberStart m
      (some m, s.setRtcpError .memberFirstHeard)
  | some m =>
    let x := s.member m
    if x.flags.byeReceived then (none, s.setRtcpError .memberByeInProgress)
    -- known by RTP only: `members` counts it already
    else if !x.flags.self && !x.flags.rtcpHeard then
      let s := s.modifyMember m fun x => { x with rtcpAddr := fromAddr }.setRtcpHeard
      let s := s.rtpTimersMemberRestart m
      (some m, s.setRtcpError .memberFirstHeard)
    -- told apart by the SSRC here, where `rtp_handle_ssrc` asks for the flag
    else if x.rtcpAddr ≠ fromAddr then
      if ssrc ≠ s.selfMember.ssrc then (none, s.setRtcpError .thirdPartyConflict)
      else
        let (listed, s) := s.ownSsrcConflict m fromAddr
        (none, s.setRtcpError (if listed then .sourceInConflictList else .ssrcConflict))
    else
      let s := s.modifyMember m RtpMember.setRtcpHeard
      let s := s.rtpTimersMemberRestart m
      let s := s.rtcpIntervalHandleRtcpEvent .rxNonBye ⟨false, false⟩ pktSize
      (some m, s.setRtcpError .noError)

/-! ## The handlers -/

/-- The loops over `rr[i]` of `rtcp_handle_sr` and `rtcp_handle_rr`, from the block at `rr` on. -/
def rtcpHandleRrItems (fromSsrc : UInt32) : Nat → Nat → Session → ByteReader Session
  | 0, _, s => pure s
  | n + 1, rr, s => do
      let block ← bytes rr 24
      rtcpHandleRrItems fromSsrc n (rr + 24) (s.emit (.rrRpt fromSsrc block))

/-- `r->common.count` -/
def readCount (r : Nat) : ByteReader Nat := do
  let b ← byte r
  pure (b.toNat % 32)

/-- The number of octets the header of a sub-packet claims, `4 * (ntohs(length) + 1)`. -/
def readSize (r : Nat) : ByteReader Nat := do
  let length ← be16 (r + 2)
  pure (4 * (length.toNat + 1))

/-- The assignments `rtcp_handle_sr` makes to the sender of a SR. -/
def recordSr (s : Session) (m : Slot) (ntp : NtpTs) (rtpTs psent osent : UInt32) : Session :=
  let s := s.modifyMember m fun x =>
    { x with lastSr := ntp, rtpTs := rtpTs, pktCount := psent, octetCount := osent }
  let (now, s) := s.ntpTsNow
  s.modifyMember m fun x => { x with lastSrLocalTime := now }

/-- `rtcp_handle_sr`; `sr_rpt` gets the octets of the sub-packet. -/
def rtcpHandleSr (s : Session) (r : Nat) (fromAddr : SockaddrIn) (cpktSize : UInt32) :
    ByteReader Session := do
  let ssrc ← be32 (r + 4)
  let res := s.rtcpHandleSsrc ssrc fromAddr cpktSize
  match res.1 with
  | none => pure res.2
  | some m => do
      let second ← be32 (r + 8)
      let fraction ← be32 (r + 12)
      let rtpTs ← be32 (r + 16)
      let psent ← be32 (r + 20)
      let osent ← be32 (r + 24)
      let s := res.2.recordSr m ⟨second, fraction⟩ rtpTs psent osent
      let count ← readCount r
      let s ← rtcpHandleRrItems ssrc count (r + 28) s
      let size ← readSize r
      let sub ← bytes r size
      pure (s.emit (.srRpt ssrc sub))

/-- `rtcp_handle_rr` -/
def rtcpHandleRr (s : Session) (r : Nat) (fromAddr : SockaddrIn) (cpktSize : UInt32) :
    ByteReader Session := do
  let ssrc ← be32 (r + 4)
  let res := s.rtcpHandleSsrc ssrc fromAddr cpktSize
  match res.1 with
  | none => pure res.2
  | some _ => do
      let count ← readCount r
      rtcpHandleRrItems ssrc count (r + 8) res.2

/-- `rtp_member_set_cname` and `rtp_member_set_validated`. -/
def recordCname (s : Session) (m : Slot) (cname : List UInt8) : Session :=
  s.modifyMember m fun x => (rtpMemberSetCname x cname).setValidated

/-- The inner loop of `rtcp_handle_sdes`, from the item at `rsp` on: where it leaves `rsp`. Items
    take two octets at least, so `stop - rsp` rounds are enough. -/
def rtcpHandleSdesItems (m : Option Slot) (stop : Nat) :
    Nat → Nat → Session → ByteReader (Nat × Session)
  | 0, rsp, s => pure (rsp, s)
  | n + 1, rsp, s => do
      let type ← byte rsp
      if type = 0 then pure (rsp, s)
      else do
        let length ← byte (rsp + 1)
        let rspn := rsp + length.toNat + 2
        -- an item that ends where the packet does is dropped like one that reaches beyond
        if stop ≤ rspn then pure (rspn, s)
        else
          match m with
          | none => rtcpHandleSdesItems m stop n rspn s
          | some x =>
            if type = rtcpSdesCname then do
              let data ← bytes (rsp + 2) length.toNat
              rtcpHandleSdesItems m stop n rspn (s.recordCname x data)
            else rtcpHandleSdesItems m stop n rspn s

/-- The outer loop of `rtcp_handle_sdes`, from the chunk at `sd` on. -/
def rtcpHandleSdesChunks (fromAddr : SockaddrIn) (cpktSize : UInt32) (stop : Nat) :
    Nat → Nat → Session → ByteReader Session
  | 0, _, s => pure s
  | count + 1, sd, s =>
      if stop ≤ sd + 4 then pure s
      else do
        let src ← be32 sd
        let res := s.rtcpHandleSsrc src fromAddr cpktSize
        let q ← rtcpHandleSdesItems res.1 stop (stop - (sd + 4)) (sd + 4) res.2
        -- at least one null octet ends the items, and the next chunk starts at a word
        rtcpHandleSdesChunks fromAddr cpktSize stop count (sd + 4 * ((q.1 - sd) / 4 + 1)) q.2

/-- The `end` pointer of `rtcp_handle_sdes`: the length is used without `ntohs`. -/
def readSdesEnd (r : Nat) : ByteReader Nat := do
  let length ← le16 (r + 2)
  pure (r + 4 * (length.toNat + 1))

/-- `rtcp_handle_sdes` -/
def rtcpHandleSdes (s : Session) (r : Nat) (fromAddr : SockaddrIn) (cpktSize : UInt32) :
    ByteReader Session := do
  let count ← readCount r
  let stop ← readSdesEnd r
  rtcpHandleSdesChunks fromAddr cpktSize stop count (r + 4) s

/-- The body of the loop of `rtcp_handle_bye`, for one listed source. -/
def rtcpHandleByeSource (s : Session) (ssrc pktSize : UInt32) : Session :=
  match s.rtpSessionLookupMember ssrc with
  | none => s
  | some m =>
    -- a repeated BYE counts nobody off twice
    if (s.member m).flags.byeReceived then s
    else
      let s := s.rtcpIntervalHandleRtcpEvent .rxBye ⟨true, (s.member m).flags.rtpHeard⟩ pktSize
      let s := s.modifyMember m RtpMember.setByeReceived
      ((s.rtpTimersSenderStop m).rtpTimersMemberStop m).rtpTimersLeaveStart m

/-- The loop of `rtcp_handle_bye`, from the source at `src` on. -/
def rtcpHandleByeSources (pktSize : UInt32) : Nat → Nat → Session → ByteReader Session
  | 0, _, s => pure s
  | n + 1, src, s => do
      let ssrc ← be32 src
      rtcpHandleByeSources pktSize n (src + 4) (s.rtcpHandleByeSource ssrc pktSize)

/-- `rtcp_handle_bye` -/
def rtcpHandleBye (s : Session) (r : Nat) (pktSize : UInt32) : ByteReader Session := do
  let count ← readCount r
  rtcpHandleByeSources pktSize count (r + 4) s

/-- The `switch` of `rtcp_rx`: any other packet type is skipped. -/
def rtcpDispatch (s : Session) (r : Nat) (fromAddr : SockaddrIn) (len : UInt32) :
    ByteReader Session := do
  let pt ← byte (r + 1)
  if pt = rtcpSr then s.rtcpHandleSr r fromAddr len
  else if pt = rtcpRr then s.rtcpHandleRr r fromAddr len
  else if pt = rtcpSdes then s.rtcpHandleSdes r fromAddr len
  else if pt = rtcpBye then s.rtcpHandleBye r len
  else pure s

end Session

/-! ## The compound packet -/

/-- The loop of `rtcp_check_pkt`: where it leaves `r`. A header takes four octets, so `stop / 4`
    rounds are enough. -/
def rtcpCheckWalk (stop : Nat) : Nat → Nat → ByteReader Nat
  | 0, r => pure r
  | n + 1, r => do
      let size ← Session.readSize r
      if r + size < stop then do
        let b ← byte (r + size)
        if b.toNat / 64 = 2 then rtcpCheckWalk stop n (r + size) else pure (r + size)
      else pure (r + size)

/-- `rtcp_check_pkt`: the error it records, which is `noError` if it accepts the packet. -/
def rtcpCheckPkt (len : UInt32) : ByteReader RtcpRxError :=
  if len.toNat < 4 then pure .headerTooShort
  else if len.toNat % 4 ≠ 0 then pure .lenNotMultiple4
  else do
    let b0 ← byte 0
    let b1 ← byte 1
    -- version 2, no padding, and a SR or a RR: `RTCP_VALID_MASK` on the first two octets
    if b0.toNat / 32 ≠ 4 ∨ b1.toNat / 2 ≠ 100 then pure .invalidMask
    else do
      let r ← rtcpCheckWalk len.toNat (len.toNat / 4) 0
      if r ≠ len.toNat then pure .invalidCompoundPacket else pure .noError

namespace Session

/-- The loop of `rtcp_rx`, from the sub-packet at `r` on; `len / 4` rounds are enough. -/
def rtcpRxLoop (fromAddr : SockaddrIn) (len : UInt32) : Nat → Nat → Session → ByteReader Session
  | 0, _, s => pure s
  | n + 1, r, s =>
      if len.toNat ≤ r then pure s
      else do
        let s ← s.rtcpDispatch r fromAddr len
        let size ← readSize r
        rtcpRxLoop fromAddr len n (r + size) s

/-- `rtcp_rx` -/
def rtcpRx (s : Session) (len : UInt32) (fromAddr : SockaddrIn) : ByteReader Session := do
  let err ← rtcpCheckPkt len
  let s := s.setRtcpError err
  if err = .noError then rtcpRxLoop fromAddr len (len.toNat / 4) 0 s
  else pure { s with invalidRtcpPkt := s.invalidRtcpPkt + 1 }

/-- `rtcp_init` -/
def rtcpInit (s : Session) : Session :=
  let tc := s.rtcpCurrentTime
  let s := s.rtcpIntervalControlVarInit
  let (t, s) := s.drawInterval
  s.rtcpIntervalSchedule tc (t.map fun t => tc + t)

end Session

end Prtp
