import Prtp.Types

set_option autoImplicit false

/-! # Sequence numbers and jitter of one source

`rtp_init_seq` and `rtp_update_seq` of `rtp.c`, `rtcp_compute_jitter` of `rtcp.c` (RFC 3550 A.1 and
A.8), on the `rtp_source_t` they work on. -/

namespace Prtp

/-- `RTP_SEQ_MOD` -/
abbrev rtpSeqMod : Nat := 65536

namespace RtpSource

/-- `rtp_init_seq`: `transit` and `jitter` are not touched, and `probation` only on first contact. -/
def rtpInitSeq (s : RtpSource) (seq : UInt16) (first : Bool) : RtpSource :=
  let s :=
    { s with
      baseSeq := seq.toUInt32
      maxSeq := seq
      badSeq := 65537
      cycles := 0
      received := 0
      receivedPrior := 0
      expectedPrior := 0 }
  if first then { s with maxSeq := seq - 1, probation := rtpConfigMinSequential } else s

/-- `rtp_update_seq`: whether the packet is accepted, and the new source state. -/
def rtpUpdateSeq (s : RtpSource) (seq : UInt16) : Bool × RtpSource :=
  let udelta : UInt16 := seq - s.maxSeq
  if s.probation ≠ 0 then
    -- `max_seq + 1` is computed in `int`, so it does not wrap
    if seq.toNat = s.maxSeq.toNat + 1 then
      let s := { s with probation := s.probation - 1, maxSeq := seq }
      if s.probation = 0 then
        -- validated: the counts start with this packet
        let s := s.rtpInitSeq seq false
        (true, { s with received := s.received + 1 })
      else (false, s)
    else (false, { s with probation := rtpConfigMinSequential - 1, maxSeq := seq })
  -- in order, with a permissible gap; a smaller number has gone round
  else if udelta.toNat < rtpConfigMaxDropout then
    let s := if seq < s.maxSeq then { s with cycles := s.cycles + 65536 } else s
    let s := { s with maxSeq := seq }
    (true, { s with received := s.received + 1 })
  else if udelta.toNat ≤ rtpSeqMod - rtpConfigMaxMisorder then
    -- the second sequential packet after a very large jump: `first` is TRUE here, so a new trial begins
    if seq.toUInt32 = s.badSeq then
      let s := s.rtpInitSeq seq true
      (true, { s with received := s.received + 1 })
    else (false, { s with badSeq := UInt32.ofNat ((seq.toNat + 1) % rtpSeqMod) })
  -- duplicate or reordered packet
  else (true, { s with received := s.received + 1 })

/-- `rtcp_compute_jitter`: the negation wraps at the least `int`. -/
def rtcpComputeJitter (s : RtpSource) (rtpTs arrival : UInt32) : RtpSource :=
  let transit := arrival - rtpTs
  let d : Int32 := (transit - s.transit).toInt32
  let d := if d < 0 then -d else d
  { s with
    transit := transit
    jitter := truncToUInt32 (s.jitter.toNat + 1 / 16 * ((d.toInt : ℚ) - s.jitter.toNat)) }

end RtpSource

end Prtp
