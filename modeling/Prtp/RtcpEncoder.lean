import Prtp.Library.ByteMem

set_option autoImplicit false

/-! # The RTCP encoder (`rtcp_encoder.c`)

A compound packet is built in place: each call checks the space left, writes at fixed offsets from
the current sub-packet or at the write index, and advances the index. A call returns `RTP_FALSE`
when the buffer is too short, together with the encoder as the call left it.

Memory outside `buf` is out of reach of these functions, and `buf_len` never exceeds its size. -/

namespace Prtp

/-- `rtcp_encoder_t`: the pointer `rtcp` into `buf` is an offset. -/
structure RtcpEncoder where
  buf : ByteMem
  rtcp : Nat
  bufLen : Nat
  writeNdx : Nat
  chunkBegin : Nat

/-- What `rtcp_encoder_sr_add_rr` and `rtcp_encoder_rr_add_rr` are called with. -/
structure RtcpRr where
  ssrc : UInt32
  fraction : UInt8
  lost : UInt32
  lastSeq : UInt32
  jitter : UInt32
  lsr : UInt32
  dlsr : UInt32
deriving DecidableEq

/-- The octets of a `rtcp_rr_t`; `lost` is a 24-bit field. -/
def RtcpRr.bytes (rr : RtcpRr) : List UInt8 :=
  be32Bytes rr.ssrc ++ [rr.fraction] ++ (be32Bytes rr.lost).tail ++ be32Bytes rr.lastSeq ++
    be32Bytes rr.jitter ++ be32Bytes rr.lsr ++ be32Bytes rr.dlsr

@[simp] theorem RtcpRr.bytes_length (rr : RtcpRr) : rr.bytes.length = 24 := rfl

abbrev rtcpSr : UInt8 := 200
abbrev rtcpRr : UInt8 := 201
abbrev rtcpSdes : UInt8 := 202
abbrev rtcpBye : UInt8 := 203

/-- `RTCP_SDES_CNAME` -/
abbrev rtcpSdesCname : UInt8 := 1

namespace RtcpEncoder

/-- `rtcp_encoder_space_left` -/
def spaceLeft (re : RtcpEncoder) : Nat := re.bufLen - re.writeNdx

/-- `re->rtcp->common.count`, the low five bits of the first octet. -/
def count (re : RtcpEncoder) : Nat := (re.buf re.rtcp).toNat % 32

/-- Assign `re->rtcp->common.count`. -/
def setCount (re : RtcpEncoder) (n : Nat) : RtcpEncoder :=
  { re with
    buf := re.buf.store re.rtcp (UInt8.ofNat ((re.buf re.rtcp).toNat / 32 * 32 + n % 32)) }

/-- Assign `re->rtcp->common.pt`. -/
def setPt (re : RtcpEncoder) (pt : UInt8) : RtcpEncoder :=
  { re with buf := re.buf.store (re.rtcp + 1) pt }

/-- Write octets at offset `off`. -/
def put (re : RtcpEncoder) (off : Nat) (bs : List UInt8) : RtcpEncoder :=
  { re with buf := re.buf.storeBytes off bs }

/-- `re->write_ndx += n` -/
def advance (re : RtcpEncoder) (n : Nat) : RtcpEncoder := { re with writeNdx := re.writeNdx + n }

/-- `rtcp_encoder_set_current_pkt`: everything of the header word but the packet type. -/
def setCurrentPkt (re : RtcpEncoder) : RtcpEncoder :=
  { re with
    rtcp := re.writeNdx
    buf := (re.buf.store re.writeNdx 0x80).storeBytes (re.writeNdx + 2) [0, 0] }

/-- `rtcp_encoder_reset` -/
def reset (re : RtcpEncoder) : RtcpEncoder :=
  { re with writeNdx := 0, chunkBegin := 0 }.setCurrentPkt

/-- `rtcp_encoder_init` of an encoder whose buffer holds `stack`. -/
def init (stack : ByteMem) (bufLen : Nat) : RtcpEncoder := reset ⟨stack, 0, bufLen, 0, 0⟩

/-- `rtcp_encoder_msg_len` -/
def msgLen (re : RtcpEncoder) : Nat := re.writeNdx

/-- `rtcp_encoder_end_packet`: `none` is the crash on a sub-packet that is not 4-byte aligned. -/
def endPacket (re : RtcpEncoder) : Option RtcpEncoder :=
  let lenInBytes := re.writeNdx - re.rtcp
  if lenInBytes % 4 ≠ 0 then none
  -- in words, less one
  else some (re.put (re.rtcp + 2) (be16Bytes (UInt16.ofNat (lenInBytes / 4 + 65535))))

/-- `rtcp_encoder_sr_begin` -/
def srBegin (re : RtcpEncoder) (ssrc ntpMsb ntpLsb rtpTs pktCount octetCount : UInt32) :
    Bool × RtcpEncoder :=
  if re.spaceLeft < 28 then (false, re)
  else
    let re := re.setCurrentPkt.setPt rtcpSr
    let re := re.put (re.rtcp + 4)
      (be32Bytes ssrc ++ be32Bytes ntpMsb ++ be32Bytes ntpLsb ++ be32Bytes rtpTs ++
        be32Bytes pktCount ++ be32Bytes octetCount)
    (true, re.advance 28)

/-- The common part of `rtcp_encoder_sr_add_rr` and `rtcp_encoder_rr_add_rr`, whose report blocks
    start at offset `base` of the sub-packet. -/
def addRr (base : Nat) (re : RtcpEncoder) (rr : RtcpRr) : Bool × RtcpEncoder :=
  if re.spaceLeft < 24 then (false, re)
  else
    -- the place comes from the five-bit count, the end of the packet from `write_ndx`
    let ndx := re.count
    let re := re.put (re.rtcp + base + 24 * ndx) rr.bytes
    (true, (re.setCount (ndx + 1)).advance 24)

/-- `rtcp_encoder_sr_add_rr` -/
def srAddRr : RtcpEncoder → RtcpRr → Bool × RtcpEncoder := addRr 28

/-- `rtcp_encoder_rr_begin` -/
def rrBegin (re : RtcpEncoder) (ssrc : UInt32) : Bool × RtcpEncoder :=
  if re.spaceLeft < 8 then (false, re)
  else
    let re := re.setCurrentPkt.setPt rtcpRr
    (true, (re.put (re.rtcp + 4) (be32Bytes ssrc)).advance 8)

/-- `rtcp_encoder_rr_add_rr` -/
def rrAddRr : RtcpEncoder → RtcpRr → Bool × RtcpEncoder := addRr 8

/-- `rtcp_encoder_sdes_begin` -/
def sdesBegin (re : RtcpEncoder) : Bool × RtcpEncoder :=
  if re.spaceLeft < 4 then (false, re)
  else (true, (re.setCurrentPkt.setPt rtcpSdes).advance 4)

/-- `rtcp_encoder_sdes_chunk_begin` -/
def sdesChunkBegin (re : RtcpEncoder) (ssrc : UInt32) : Bool × RtcpEncoder :=
  if re.spaceLeft < 4 then (false, re)
  else
    let re := re.setCount (re.count + 1)
    let re := re.put re.writeNdx (be32Bytes ssrc)
    (true, { re with chunkBegin := re.writeNdx }.advance 4)

/-- `rtcp_encoder_sdes_chunk_add_cname`; the length octet is that of the 8-bit parameter `len`. -/
def sdesChunkAddCname (re : RtcpEncoder) (name : ByteMem) (len : UInt8) : Bool × RtcpEncoder :=
  if re.spaceLeft < len.toNat + 2 then (false, re)
  else
    let re := re.put re.writeNdx ([rtcpSdesCname, len] ++ name.slice 0 len.toNat)
    (true, re.advance (2 + len.toNat))

/-- The second half of `rtcp_encoder_sdes_chunk_end`: null octets up to the next word. -/
def padChunk (re : RtcpEncoder) : Bool × RtcpEncoder :=
  let chunkSize := re.writeNdx - re.chunkBegin
  if chunkSize % 4 = 0 then (true, re)
  else
    let pad := 4 - chunkSize % 4
    if re.spaceLeft < pad then (false, re)
    else (true, (re.put re.writeNdx (List.replicate pad 0)).advance pad)

/-- `rtcp_encoder_sdes_chunk_end`: the null octet stays written when there is no room to pad. -/
def sdesChunkEnd (re : RtcpEncoder) : Bool × RtcpEncoder :=
  if re.spaceLeft < 1 then (false, re)
  else ((re.put re.writeNdx [0]).advance 1).padChunk

/-- `rtcp_encoder_bye_begin` -/
def byeBegin (re : RtcpEncoder) : Bool × RtcpEncoder :=
  if re.spaceLeft < 4 then (false, re)
  else (true, (re.setCurrentPkt.setPt rtcpBye).advance 4)

/-- `rtcp_encoder_bye_add_ssrc` -/
def byeAddSsrc (re : RtcpEncoder) (ssrc : UInt32) : Bool × RtcpEncoder :=
  if re.spaceLeft < 4 then (false, re)
  else
    -- nothing stops the count at 31, after which the next source overwrites the first
    let ndx := re.count
    let re := re.put (re.rtcp + 4 + 4 * ndx) (be32Bytes ssrc)
    (true, (re.setCount (ndx + 1)).advance 4)

/-- `rtcp_encoder_bye_add_reason`, given the characters before the terminator; `len` is the
    `uint8_t` their number is assigned to. -/
def byeAddReason (re : RtcpEncoder) (reason : List UInt8) : Bool × RtcpEncoder :=
  let len := reason.length % 256
  let pad := if (1 + len) % 4 = 0 then 0 else 4 - (1 + len) % 4
  let total := 1 + len + pad
  if re.spaceLeft < total then (false, re)
  else
    (true, (re.put re.writeNdx
      ([UInt8.ofNat len] ++ reason.take len ++ List.replicate pad 0)).advance total)

end RtcpEncoder

end Prtp
