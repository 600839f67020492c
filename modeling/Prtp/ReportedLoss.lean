import Prtp.ReportRoundTrip
import Mathlib.Data.Nat.Bitwise

set_option autoImplicit false

/-! # The cumulative loss in a report block

`rtcp_send_report_gen_rr` masks the difference of expected and received packets where it means to clamp
it to the 24 bits of the field: a loss keeps its low 23 bits, and what is left of a negative loss is
bit 23. The block is the same in a SR and in a RR. -/

namespace Prtp

open ByteReader

namespace RtpSource

/-- `expected - received`, read as a signed 32-bit number. -/
def lossDiff (s : RtpSource) : ℤ := (s.expected - s.received).toInt32.toInt

/-- The loss, clamped to what 24 bits of two's complement hold. -/
def clampedLoss (s : RtpSource) : ℤ := max (-8388608) (min s.lossDiff 8388607)

/-- The masks do what clamping would: the loss is from 0 to `2^23 - 1`, or it is larger and its low 23 bits
    are all set, or it is at most `-2^23` and its bit 23 is set. -/
def MaskClamps (s : RtpSource) : Prop :=
  0 ≤ s.lossDiff ∧ s.lossDiff ≤ 8388607 ∨
    8388607 < s.lossDiff ∧ s.lossDiff % 8388608 = 8388607 ∨
    s.lossDiff ≤ -8388608 ∧ 8388608 ≤ s.lossDiff % 16777216

/-- `lost`, as a number. -/
theorem toNat_lost (s : RtpSource) :
    (s.lost.toNat : ℤ) =
      if 0 ≤ s.lossDiff then s.lossDiff % 8388608
      else if s.lossDiff % 16777216 < 8388608 then 0 else 8388608 := by
  have hlt := (s.expected - s.received).toNat_lt
  have hdiff := toInt_toInt32 (s.expected - s.received)
  rw [← lossDiff] at hdiff
  unfold lost
  simp only [zero_le_toInt32]
  split
  · rename_i hpos
    have hmask : ((s.expected - s.received) &&& 0x7fffff).toNat =
        (s.expected - s.received).toNat % 8388608 := by
      rw [UInt32.toNat_and]
      exact Nat.and_two_pow_sub_one_eq_mod _ 23
    rw [if_pos hpos] at hdiff
    rw [if_pos (by omega), hmask, hdiff]
    omega
  · rename_i hneg
    have hmask : ((s.expected - s.received) &&& 0x800000).toNat =
        ((s.expected - s.received).toNat.testBit 23).toNat * 8388608 := by
      rw [UInt32.toNat_and]
      exact Nat.and_two_pow _ 23
    rw [if_neg hneg] at hdiff
    rw [if_neg (by omega), hmask, Nat.testBit_eq_decide_div_mod_eq]
    by_cases hbit : (s.expected - s.received).toNat / 2 ^ 23 % 2 = 1
    · rw [decide_eq_true hbit, if_neg (by omega)]
      rfl
    · rw [decide_eq_false hbit, if_pos (by omega)]
      rfl

/-- The 24 bits of `lost` are the clamped loss where the masks clamp, and only there. -/
theorem lost_eq_clampedLoss_iff (s : RtpSource) :
    Int.bmod s.lost.toNat 16777216 = s.clampedLoss ↔ s.MaskClamps := by
  have hlost := s.toNat_lost
  have hdiff : -2147483648 ≤ s.lossDiff ∧ s.lossDiff < 2147483648 := by
    have hlt := (s.expected - s.received).toNat_lt
    rw [lossDiff, toInt_toInt32]
    split
    · omega
    · omega
  rw [hlost, Int.bmod_def]
  unfold clampedLoss MaskClamps
  split
  · omega
  · split
    · omega
    · omega

end RtpSource

/-! ## In the packet -/

/-- The report blocks of a message. -/
def RtcpMsg.blocks : RtcpMsg → List (List UInt8)
  | .sr _ _ _ _ _ blocks _ => blocks
  | .rr _ blocks => blocks
  | .sdes .. => []
  | .bye _ => []

/-- The 24 bits of two's complement in a report block. -/
def cumulativeLost (block : List UInt8) : ℤ := Int.bmod (RtcpRr.ofBytes block).lost.toNat 16777216

/-- The block about a member, read. -/
theorem cumulativeLost_reportBlock (x : RtpMember) (dlsr : UInt32) :
    cumulativeLost (x.reportBlock dlsr).bytes = Int.bmod x.rtpSrc.lost.toNat 16777216 := by
  have hlost : (x.reportBlock dlsr).lost = x.rtpSrc.lost := rfl
  have hlt : (x.reportBlock dlsr).lost.toNat < 16777216 := by
    rw [hlost]
    exact RtpSource.lost_lt _
  unfold cumulativeLost
  rw [RtcpRr.ofBytes_bytes hlt, hlost]

namespace Session

/-- The report blocks of a compound packet. -/
def packetBlocks (pkt : ByteMem) (len : UInt32) : List (List UInt8) :=
  (rtcpMsgs pkt len).flatMap RtcpMsg.blocks

theorem packetBlocks_report {s : Session} {pkt : ByteMem} {len : UInt32} (h : s.ReportAt pkt len) :
    packetBlocks pkt len = s.sentBlocks.map RtcpRr.bytes := by
  rw [packetBlocks, h.msgs, List.flatMap_cons, List.flatMap_singleton]
  have hsdes : ∀ ssrc cnames, RtcpMsg.blocks (.sdes ssrc cnames) = [] := fun _ _ => rfl
  rw [hsdes, List.append_nil, reportMsg]
  split
  · rfl
  · rfl

/-- A transmitted report tells of each source its clamped cumulative loss exactly where the masks clamp,
    in a SR and in a RR alike. -/
theorem loss_reported_iff (s : Session) (bytes : List UInt8) (pkt : ByteMem) (len : UInt32)
    (hsent : s.Transmits bytes) (hpkt : pkt.Holds 0 bytes) (hlen : len.toNat = bytes.length) :
    List.Forall₂ (fun m block =>
        cumulativeLost block = (s.member m).rtpSrc.clampedLoss ↔ (s.member m).rtpSrc.MaskClamps)
      (s.reportable s.usedList) (packetBlocks pkt len) := by
  obtain ⟨hfits, rfl⟩ := hsent.eq
  rw [packetBlocks_report (reportAt_of_holds hfits hpkt hlen), List.forall₂_map_right_iff]
  refine s.reportsOn_sentBlocks.imp ?_
  rintro m rr ⟨now, rfl⟩
  rw [cumulativeLost_reportBlock]
  exact (s.member m).rtpSrc.lost_eq_clampedLoss_iff

/-- The packet `seq` of SSRC 5. -/
def rxSeq (seq : UInt8) : Op :=
  .rxRtp (pktOf [128, 0, 0, seq, 0, 0, 0, 0, 0, 0, 0, 5]) 12 (.ofPort 7)

/-- A session that SSRC 5 has sent two packets that count, of which the second twice, and one that does
    not: one packet more than expected. -/
def duplicated : Session :=
  runSession (zeroed (.still .zero)) (plainConfig 1000 4) [rxSeq 10, rxSeq 10, rxSeq 11, rxSeq 11]

theorem transmits_duplicated : duplicated.Transmits duplicated.reportBytes :=
  (duplicated.rtcpSendReport_fits (by decide +kernel)).1

theorem loss_reported_duplicated :
    List.Forall₂ (fun m block =>
        cumulativeLost block = (duplicated.member m).rtpSrc.clampedLoss ↔
          (duplicated.member m).rtpSrc.MaskClamps)
      (duplicated.reportable duplicated.usedList)
      (packetBlocks (pktOf duplicated.reportBytes) (UInt32.ofNat duplicated.reportBytes.length)) :=
  loss_reported_iff duplicated duplicated.reportBytes (pktOf duplicated.reportBytes)
    (UInt32.ofNat duplicated.reportBytes.length) transmits_duplicated (holds_pktOf [] _)
    (by decide +kernel)

/-- The loss of -1 is reported as `-2^23`. -/
theorem negative_loss_masked :
    duplicated.Transmits duplicated.reportBytes ∧
      (duplicated.reportable duplicated.usedList).map
        (fun m => (duplicated.member m).rtpSrc.clampedLoss) = [-1] ∧
      (packetBlocks (pktOf duplicated.reportBytes)
        (UInt32.ofNat duplicated.reportBytes.length)).map cumulativeLost = [-8388608] :=
  ⟨transmits_duplicated, by decide +kernel, by decide +kernel⟩

end Session

end Prtp
