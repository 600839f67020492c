import Prtp.RtcpEncoder
import Prtp.RtcpInterval

set_option autoImplicit false

/-! # Sending a report

`rtcp_send_report_gen_rr` and `rtcp_send_report` of `rtcp.c`: one pass over `used_list` that adds a
report block for every remote member, inside a compound packet of a report and an SDES chunk. -/

namespace Prtp

namespace RtpSource

/-- `extended_max` -/
def extendedMax (s : RtpSource) : UInt32 := s.cycles + s.maxSeq.toUInt32

/-- `expected` -/
def expected (s : RtpSource) : UInt32 := s.extendedMax - s.baseSeq + 1

/-- `lost`, after the code's clamping. -/
def lost (s : RtpSource) : UInt32 :=
  let lost := s.expected - s.received
  -- the bounds of a 24-bit field, used as masks
  if 0 ≤ lost.toInt32 then lost &&& 0x7fffff else lost &&& 0x800000

/-- `fraction` -/
def fractionLost (s : RtpSource) : UInt8 :=
  let expectedInterval := s.expected - s.expectedPrior
  let lostInterval := expectedInterval - (s.received - s.receivedPrior)
  -- `lost_interval` is unsigned, so `<= 0` means `== 0`
  if expectedInterval = 0 ∨ lostInterval = 0 then 0
  else ((lostInterval <<< 8) / expectedInterval).toUInt8

/-- The two assignments that close the interval of `s`. -/
def closeInterval (s : RtpSource) : RtpSource :=
  { s with expectedPrior := s.expected, receivedPrior := s.received }

end RtpSource

/-- The `lsr` argument of a report block. -/
def RtpMember.lsr (m : RtpMember) : UInt32 := (m.lastSr.second <<< 16) ||| (m.lastSr.fraction >>> 16)

namespace Session

/-- The `dlsr` of a report block; the clock is read only if a SR has been received. -/
def dlsr (s : Session) (m : RtpMember) : UInt32 × Session :=
  if m.lastSrLocalTime.second = 0 ∧ m.lastSrLocalTime.fraction = 0 then (0, s)
  else
    let (now, s) := s.ntpTsNow
    (truncToUInt32 (ntpTsDiffInSec m.lastSrLocalTime now * 65536), s)

/-- The body of the loop of `rtcp_send_report_gen_rr` for a member that gets a report block. -/
def rrOf (s : Session) (m : Slot) : RtcpRr × Session :=
  let x := s.member m
  let s := s.setMember m { x with rtpSrc := x.rtpSrc.closeInterval }
  let (dlsr, s) := s.dlsr x
  ({ ssrc := x.ssrc
     fraction := x.rtpSrc.fractionLost
     lost := x.rtpSrc.lost
     lastSeq := x.rtpSrc.extendedMax
     jitter := x.rtpSrc.jitter
     lsr := x.lsr
     dlsr := dlsr }, s)

/-- The members a report block is generated for. -/
def Reportable (x : RtpMember) : Bool := !(x.flags.self || x.flags.byeReceived)

/-- The loop of `rtcp_send_report_gen_rr` over the members `ms`, with the encoder call `addRr`. The
    interval of a member is closed before the encoder is asked for room. -/
def rtcpSendReportGenRr (addRr : RtcpEncoder → RtcpRr → Bool × RtcpEncoder) :
    List Slot → RtcpEncoder → Session → Bool × RtcpEncoder × Session
  | [], enc, s => (true, enc, s)
  | m :: ms, enc, s =>
    if Reportable (s.member m) then
      let (rr, s) := s.rrOf m
      let (ok, enc) := addRr enc rr
      -- a block that does not fit ends the whole report
      if ok then rtcpSendReportGenRr addRr ms enc s else (false, enc, s)
    else rtcpSendReportGenRr addRr ms enc s

/-- The SR or RR part of `rtcp_send_report`. -/
def rtcpSendReportFirst (s : Session) (enc : RtcpEncoder) (ts : NtpTs) (rtpTs : UInt32) :
    Bool × RtcpEncoder × Session :=
  if s.selfMember.flags.sender then
    let (ok, enc) :=
      enc.srBegin s.selfMember.ssrc ts.second ts.fraction rtpTs s.txPktCount s.txOctetCount
    if ok then rtcpSendReportGenRr RtcpEncoder.srAddRr s.usedList enc s else (false, enc, s)
  else
    let (ok, enc) := enc.rrBegin s.selfMember.ssrc
    if ok then rtcpSendReportGenRr RtcpEncoder.rrAddRr s.usedList enc s else (false, enc, s)

/-- The SDES part of `rtcp_send_report`, up to the last `rtcp_encoder_end_packet`. -/
def rtcpSendReportSdes (self : RtpMember) (enc : RtcpEncoder) : Bool × RtcpEncoder :=
  let (ok, enc) := enc.sdesBegin
  if !ok then (false, enc)
  else
    let (ok, enc) := enc.sdesChunkBegin self.ssrc
    if !ok then (false, enc)
    else
      let (ok, enc) := enc.sdesChunkAddCname self.cname self.cnameLen
      if !ok then (false, enc) else enc.sdesChunkEnd

/-- `rtcp_send_report` from the first `rtcp_encoder_end_packet` on. -/
def rtcpSendReportRest (s : Session) (enc : RtcpEncoder) : UInt32 × Session :=
  match enc.endPacket with
  | none => (0, { s with undef := true })
  | some enc =>
    let (ok, enc) := rtcpSendReportSdes s.selfMember enc
    if !ok then (0, s)
    else
      match enc.endPacket with
      | none => (0, { s with undef := true })
      | some enc =>
        let pktLen := enc.msgLen
        (UInt32.ofNat pktLen, s.emit (.txRtcp (enc.buf.slice 0 pktLen)))

/-- `rtcp_send_report` -/
def rtcpSendReport (s : Session) : UInt32 × Session :=
  let s := s.emit .logRtcpTx
  let enc := RtcpEncoder.init s.env.stack rtpConfigRtcpEncoderBufferLen
  let (ts, s) := s.ntpTsNow
  let (rtpTs, s) := s.rtpSessionTimestamp
  let (ok, enc, s) := s.rtcpSendReportFirst enc ts rtpTs
  if !ok then (0, s) else s.rtcpSendReportRest enc

end Session

end Prtp
