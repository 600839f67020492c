import Prtp.Rtcp
import Prtp.RtpSource

set_option autoImplicit false

/-! # RTP: received and transmitted data packets (`rtp.c`)

Received packets are read through `ByteReader`. What `rtp_tx` writes into `rtp_pkt` is a list of
stores in program order, so that every index it writes can be spoken about. -/

namespace Prtp

open ByteReader

/-! ## `rtp_hdr_t` -/

/-- `RTP_HDR_SIZE`: `sizeof(rtp_hdr_t)` is 16. -/
def rtpHdrSize (csrc : Nat) : Nat := 16 - 4 + csrc * 4

/-- `RTP_PKT_SIZE`: a `size_t`, so a 32-bit payload length cannot make it wrap. -/
def rtpPktSize (csrc payloadLen : Nat) : Nat := rtpHdrSize csrc + payloadLen

/-- `hdr->cc` of a first octet. -/
def hdrCc (b0 : UInt8) : Nat := b0.toNat % 16

/-- `rtp_header_validity_check`: where the payload starts and how long it is. -/
def rtpHeaderValidityCheck (len : UInt32) (pt : UInt8) :
    ByteReader (Except RtpRxError (Nat × UInt32)) :=
  if len.toNat < 12 then pure (.error .headerTooShort)
  else do
    let b0 ← byte 0
    let hdrSize := 12 + 4 * hdrCc b0
    if len.toNat < hdrSize then pure (.error .invalidCsrcCount)
    else if b0.toNat / 64 ≠ 2 then pure (.error .invalidRtpVersion)
    else do
      let b1 ← byte 1
      if b1.toNat % 128 ≠ pt.toNat then pure (.error .invalidPayloadType)
      -- the padding flag: the last octet says how many octets to leave out, itself among them
      else if b0.toNat / 32 % 2 = 1 then do
        let paddingLen ← byte (len.toNat - 1)
        if len.toNat - hdrSize ≤ paddingLen.toNat then pure (.error .invalidOctetCount)
        else if b0.toNat / 16 % 2 = 1 then pure (.error .notImplemented)
        else pure (.ok (hdrSize, len - UInt32.ofNat hdrSize - paddingLen.toUInt32))
      else if b0.toNat / 16 % 2 = 1 then pure (.error .notImplemented)
      else pure (.ok (hdrSize, len - UInt32.ofNat hdrSize))

namespace Session

/-! ## Receiving -/

/-- `sess->last_rtp_error = e` -/
def setRtpError (s : Session) (e : RtpRxError) : Session := { s with lastRtpError := e }

/-- `rtp_handle_ssrc` -/
def rtpHandleSsrc (s : Session) (ssrc : UInt32) (seq : UInt16) (fromAddr : SockaddrIn)
    (csrc : Bool) : Option Slot × Session :=
  match s.rtpSessionLookupMember ssrc with
  | none =>
    match s.rtpSessionAllocMember ssrc with
    | none => (none, s.setRtpError .memberAllocFailed)
    -- a new source: the packet is not handed on, unless it only names it on its CSRC list
    | some (m, s) =>
      let s := s.modifyMember m fun x =>
        { x with rtpSrc := x.rtpSrc.rtpInitSeq seq true, rtpAddr := fromAddr }.setRtpHeard
      let s := s.rtcpIntervalHandleRtpEvent true true
      let s := (s.rtpTimersSenderStart m).rtpTimersMemberStart m
      let s := s.setRtpError .memberFirstHeard
      if csrc then (some m, s.modifyMember m fun x => x.setValidated.setCsrc) else (none, s)
  | some m =>
    let x := s.member m
    if x.flags.byeReceived then (none, s.setRtpError .memberByeInProgress)
    -- known by RTCP only, so it becomes a sender
    else if !x.flags.self && !x.flags.rtpHeard then
      let s := s.modifyMember m fun x =>
        { x with rtpSrc := x.rtpSrc.rtpInitSeq seq true, rtpAddr := fromAddr }.setRtpHeard
      let s := s.rtcpIntervalHandleRtpEvent false true
      let s := (s.rtpTimersSenderStart m).rtpTimersMemberRestart m
      (none, s.setRtpError .memberFirstHeard)
    -- somebody else's packet, or the session's own coming back
    else if x.rtpAddr ≠ fromAddr then
      if !x.flags.self then (none, s.setRtpError .thirdPartyConflict)
      else
        let (listed, s) := s.ownSsrcConflict m fromAddr
        (none, s.setRtpError (if listed then .sourceInConflictList else .ssrcConflict))
    else
      let s := s.modifyMember m RtpMember.setRtpHeard
      (some m, (s.rtpTimersSenderRestart m).rtpTimersMemberRestart m)

/-- `rtcp_compute_jitter` on the member `m`. -/
def rtcpComputeJitter (s : Session) (m : Slot) (rtpTs arrival : UInt32) : Session :=
  s.modifyMember m fun x => { x with rtpSrc := x.rtpSrc.rtcpComputeJitter rtpTs arrival }

/-- The body of the loop over the CSRC list in `rtp_rx`. -/
def rtpHandleCsrc (seq : UInt16) (fromAddr : SockaddrIn) (rtpTs arrival : UInt32) (s : Session)
    (csrc : UInt32) : Session :=
  let res := s.rtpHandleSsrc csrc seq fromAddr true
  match res.1 with
  | none => res.2
  | some m => res.2.rtcpComputeJitter m rtpTs arrival

/-- Read `n` words in network order. -/
def readWords : Nat → Nat → ByteReader (List UInt32)
  | _, 0 => pure []
  | i, n + 1 => do
      let w ← be32 i
      let ws ← readWords (i + 4) n
      pure (w :: ws)

/-- The fields of a data packet's header. -/
structure RtpHdr where
  seq : UInt16
  ts : UInt32
  ssrc : UInt32
  csrc : List UInt32

/-- Read the fields of the header. -/
def readRtpHdr : ByteReader RtpHdr := do
  let seq ← be16 2
  let ts ← be32 4
  let ssrc ← be32 8
  let b0 ← byte 0
  let csrc ← readWords 12 (hdrCc b0)
  pure ⟨seq, ts, ssrc, csrc⟩

/-- `rtp_rx` between the header check and the CSRC list: whether it goes on with the list. -/
def rtpRxSource (s : Session) (hdr : RtpHdr) (arrival : UInt32) (fromAddr : SockaddrIn) :
    Bool × Session :=
  let res := s.rtpHandleSsrc hdr.ssrc hdr.seq fromAddr false
  match res.1 with
  | none => (false, res.2)
  | some m =>
    let s := res.2
    let (ok, src) := (s.member m).rtpSrc.rtpUpdateSeq hdr.seq
    let s := s.modifyMember m fun x => { x with rtpSrc := src }
    if !ok then (false, s.setRtpError .seqError)
    else (true, (s.rtcpComputeJitter m hdr.ts arrival).modifyMember m RtpMember.setValidated)

/-- `rtp_rx` after the header check, with the header's fields and the payload. -/
def rtpRxData (s : Session) (hdr : RtpHdr) (payload : List UInt8) (payloadLen : UInt32)
    (arrival : UInt32) (fromAddr : SockaddrIn) : Session :=
  let (ok, s) := s.rtpRxSource hdr arrival fromAddr
  if !ok then s
  else
    let s := hdr.csrc.foldl (rtpHandleCsrc hdr.seq fromAddr hdr.ts arrival) s
    let s := s.setRtpError .noError
    s.emit (.rxRtp
      { payload := payload
        payloadLen := payloadLen
        rtpTs := hdr.ts
        seq := hdr.seq
        csrc := hdr.csrc
        ncsrc := hdr.csrc.length })

/-- `rtp_rx` -/
def rtpRx (s : Session) (len : UInt32) (fromAddr : SockaddrIn) : ByteReader Session := do
  let (arrival, s) := s.rtpSessionTimestamp
  let check ← rtpHeaderValidityCheck len s.config.pt
  match check with
  | .error e =>
      pure { s.setRtpError e with invalidRtpPkt := s.invalidRtpPkt + 1 }
  | .ok (off, payloadLen) => do
      let hdr ← readRtpHdr
      let payload ← bytes off payloadLen.toNat
      pure (s.rtpRxData hdr payload payloadLen arrival fromAddr)

/-- A packet whose header is refused is counted. -/
theorem val_rtpRx_of_error (s : Session) {len : UInt32} {pkt : ByteMem} {e : RtpRxError}
    (hcheck : (rtpHeaderValidityCheck len s.config.pt).val pkt = .error e) (fromAddr : SockaddrIn) :
    (s.rtpRx len fromAddr).val pkt =
      { s.rtpSessionTimestamp.2.setRtpError e with invalidRtpPkt := s.invalidRtpPkt + 1 } := by
  have hconfig : s.rtpSessionTimestamp.2.config = s.config := rfl
  simp only [rtpRx, val_bind, hconfig]
  rw [hcheck]
  rfl

/-- A packet whose header passes is handed on with its payload. -/
theorem val_rtpRx_of_ok (s : Session) {len : UInt32} {pkt : ByteMem} {off : Nat} {payloadLen : UInt32}
    (hcheck : (rtpHeaderValidityCheck len s.config.pt).val pkt = .ok (off, payloadLen))
    (fromAddr : SockaddrIn) :
    (s.rtpRx len fromAddr).val pkt =
      s.rtpSessionTimestamp.2.rtpRxData (readRtpHdr.val pkt) ((bytes off payloadLen.toNat).val pkt)
        payloadLen s.rtpSessionTimestamp.1 fromAddr := by
  have hconfig : s.rtpSessionTimestamp.2.config = s.config := rfl
  simp only [rtpRx, val_bind, hconfig]
  rw [hcheck]
  rfl

/-! ## Transmitting -/

/-- Consecutive octets as stores from offset `off` on. -/
def storesAt (off : Nat) : List UInt8 → List (Nat × UInt8)
  | [] => []
  | b :: bs => (off, b) :: storesAt (off + 1) bs

/-- The words of the CSRC list, in network order. -/
def csrcBytes (csrc : Nat → UInt32) (ncsrc : Nat) : List UInt8 :=
  (List.range ncsrc).flatMap fun i => be32Bytes (csrc i)

/-- The payload copy, the header and the CSRC list. `cc` and `pt` are fields of four and of seven
    bits. -/
def rtpTxHdrStores (s : Session) (payload : ByteMem) (payloadLen : Nat) (rtpTs : UInt32)
    (csrc : Nat → UInt32) (ncsrc : Nat) : List (Nat × UInt8) :=
  storesAt (rtpHdrSize ncsrc) (payload.slice 0 payloadLen) ++
    storesAt 0
      ([UInt8.ofNat (128 + ncsrc % 16), UInt8.ofNat (s.config.pt.toNat % 128)] ++
        be16Bytes s.seq ++ be32Bytes rtpTs ++ be32Bytes s.selfMember.ssrc) ++
    storesAt 12 (csrcBytes csrc ncsrc)

/-- The padding octets after a packet of `pktSize` octets that lacks `pad` of a multiple of four,
    and the padding flag. -/
def rtpTxPadStores (ncsrc pktSize pad : Nat) : List (Nat × UInt8) :=
  storesAt pktSize (List.replicate (pad - 1) 0 ++ [UInt8.ofNat pad]) ++
    [(0, UInt8.ofNat (160 + ncsrc % 16))]

/-- Every store `rtp_tx` makes into `rtp_pkt`, and the size of the packet it hands to `tx_rtp`, if
    it gets there. -/
def rtpTxBuild (s : Session) (payload : ByteMem) (payloadLen : UInt32) (rtpTs : UInt32)
    (csrc : Nat → UInt32) (ncsrc : UInt8) : List (Nat × UInt8) × Option Nat :=
  let pktSize := rtpPktSize ncsrc.toNat payloadLen.toNat
  -- too long: `rtp_tx` returns before it stores anything
  if rtpConfigMaxRtpPktSize < pktSize then ([], none)
  else
    let stores := s.rtpTxHdrStores payload payloadLen.toNat rtpTs csrc ncsrc.toNat
    if s.config.alignBy4 ∧ pktSize % 4 ≠ 0 then
      let pad := 4 - pktSize % 4
      -- this check comes after the stores, and asks for four octets whatever the padding
      if rtpConfigMaxRtpPktSize < pktSize + 4 then (stores, none)
      else (stores ++ rtpTxPadStores ncsrc.toNat pktSize pad, some (pktSize + pad))
    else (stores, some pktSize)

/-- The part of `rtp_tx` before the size check. -/
def rtpTxCount (s : Session) (payloadLen : UInt32) : Session :=
  let s :=
    if s.rtcpVar.weSent then s
    else
      let s := { s with rtcpVar := { s.rtcpVar with weSent := true } }
      (s.modifyMember s.self RtpMember.setSender).rtcpIntervalHandleRtpEvent false true
  let s := s.rtpTimersSenderRestart s.self
  { s with txPktCount := s.txPktCount + 1, txOctetCount := s.txOctetCount + payloadLen }

/-- `rtp_tx` -/
def rtpTx (s : Session) (payload : ByteMem) (payloadLen : UInt32) (rtpTs : UInt32)
    (csrc : Nat → UInt32) (ncsrc : UInt8) : Session :=
  let s := s.rtpTxCount payloadLen
  let (stores, size) := s.rtpTxBuild payload payloadLen rtpTs csrc ncsrc
  -- what is stored stays stored, also where nothing is transmitted
  let s :=
    { s with
      rtpPkt := stores.foldl (fun m w => m.store w.1 w.2) s.rtpPkt
      undef := s.undef || stores.any fun w => rtpPktLen ≤ w.1 }
  match size with
  | none => s
  | some size =>
    let s := s.emit (.txRtp (s.rtpPkt.slice 0 size))
    { s with seq := s.seq + 1 }

end Session

end Prtp
