import Prtp.ReportSent
import Prtp.RtcpWalk
import Prtp.SdesChunks

set_option autoImplicit false

/-! # What a report becomes at the other end

The encoder writes a report at offsets of its own, the handlers read it at theirs. Here the two meet: the
octets of a transmitted report are decoded into one SR or RR with the blocks the sender computed, and one
SDES chunk with its CNAME, and a session that hears the sender for the first time makes a member of it and
records exactly that. -/

namespace Prtp

open ByteReader RtcpEncoder

/-! ## Report blocks -/

/-- A `rtcp_rr_t` read field by field, as an application does in its `rr_rpt`. -/
def RtcpRr.ofBytes (block : List UInt8) : RtcpRr :=
  let m := pktOf block
  { ssrc := (be32 0).val m
    fraction := m 4
    lost := be32Word 0 (m 5) (m 6) (m 7)
    lastSeq := (be32 8).val m
    jitter := (be32 12).val m
    lsr := (be32 16).val m
    dlsr := (be32 20).val m }

/-- A block is read back as it was written, if the loss fits its 24 bits. -/
theorem RtcpRr.ofBytes_bytes {rr : RtcpRr} (h : rr.lost.toNat < 16777216) :
    RtcpRr.ofBytes rr.bytes = rr := by
  have hlost : be32Word 0 (UInt8.ofNat (rr.lost.toNat / 65536)) (UInt8.ofNat (rr.lost.toNat / 256))
      (UInt8.ofNat rr.lost.toNat) = rr.lost := by
    have hzero : (0 : UInt8) = UInt8.ofNat (rr.lost.toNat / 16777216) := by
      rw [Nat.div_eq_of_lt h]
      rfl
    rw [hzero, be32Word_be32Bytes]
  have hword := be32Word_be32Bytes
  obtain ⟨ssrc, fraction, lost, lastSeq, jitter, lsr, dlsr⟩ := rr
  simp only [RtcpRr.ofBytes, RtcpRr.mk.injEq]
  exact ⟨hword ssrc, rfl, hlost, hword lastSeq, hword jitter, hword lsr, hword dlsr⟩

/-- The loss a sender computes fits 24 bits, whatever its sign. -/
theorem RtpSource.lost_lt (x : RtpSource) : x.lost.toNat < 16777216 := by
  simp only [RtpSource.lost]
  split
  · rw [UInt32.toNat_and]
    exact Nat.lt_of_le_of_lt Nat.and_le_right (by decide)
  · rw [UInt32.toNat_and]
    exact Nat.lt_of_le_of_lt Nat.and_le_right (by decide)

/-- The report block about a member, with the given `dlsr`. -/
def RtpMember.reportBlock (x : RtpMember) (dlsr : UInt32) : RtcpRr :=
  { ssrc := x.ssrc
    fraction := x.rtpSrc.fractionLost
    lost := x.rtpSrc.lost
    lastSeq := x.rtpSrc.extendedMax
    jitter := x.rtpSrc.jitter
    lsr := x.lsr
    dlsr := dlsr }

namespace Session

/-- The block about the member `m` in a report of `s`: its fields are those of the member when the call
    begins, and the delay is measured at some later reading of the clock. -/
def ReportsOn (s : Session) (m : Slot) (rr : RtcpRr) : Prop :=
  ∃ now : Session, rr = (s.member m).reportBlock (now.dlsr (s.member m)).1

theorem member_rrOf {s : Session} {m j : Slot} (h : j ≠ m) :
    (s.rrOf m).2.member j = s.member j := by
  have hdlsr : ∀ (t : Session) (x : RtpMember), (t.dlsr x).2.member j = t.member j := by
    intro t x
    simp only [dlsr]
    split <;> rfl
  exact (hdlsr _ _).trans ((member_setMember ..).trans (if_neg h))

/-- The loop makes one block for each reportable member, about that member. -/
theorem reportsOn_rrBlocks {s t : Session} {ms : List Slot} (hnodup : ms.Nodup)
    (hsame : ∀ m ∈ ms, t.member m = s.member m) :
    List.Forall₂ s.ReportsOn (s.reportable ms) (rrBlocks ms t) := by
  induction ms generalizing t with
  | nil => exact .nil
  | cons m ms ih =>
      obtain ⟨hm, hnodup⟩ := List.nodup_cons.1 hnodup
      obtain ⟨hhead, htail⟩ := List.forall_mem_cons.1 hsame
      rw [rrBlocks, reportable, List.filter_cons, hhead]
      split
      · refine .cons ?_ (ih hnodup fun j hj => ?_)
        · refine ⟨t.setMember m
            { t.member m with rtpSrc := (t.member m).rtpSrc.closeInterval }, ?_⟩
          rw [← hhead]
          rfl
        · -- the interval of `m` is closed, the records of the others are as before
          have hne : j ≠ m := by
            rintro rfl
            exact hm hj
          rw [member_rrOf hne]
          exact htail j hj
      · exact ih hnodup htail

theorem reportsOn_sentBlocks (s : Session) :
    List.Forall₂ s.ReportsOn (s.reportable s.usedList) s.sentBlocks :=
  reportsOn_rrBlocks s.memberTable.pool.used_nodup fun _ _ => rfl

theorem lost_sentBlocks (s : Session) : ∀ rr ∈ s.sentBlocks, rr.lost.toNat < 16777216 := by
  have hblocks : List.Forall₂ (fun rr m => s.ReportsOn m rr) s.sentBlocks
      (s.reportable s.usedList) := s.reportsOn_sentBlocks.flip
  have hlost : List.Forall₂ (fun rr m => rr.lost.toNat < 16777216 ∧ s.ReportsOn m rr) s.sentBlocks
      (s.reportable s.usedList) := by
    refine hblocks.imp fun rr m h => ⟨?_, h⟩
    obtain ⟨now, rfl⟩ := h
    exact RtpSource.lost_lt _
  exact ((List.forall₂_and_left _ _).1 hlost).1

/-! ## The octets, decoded -/

theorem blocksAt_of_holds {pkt : ByteMem} {blocks : List RtcpRr} {off : ℕ}
    (h : pkt.Holds off (blocks.flatMap RtcpRr.bytes)) :
    blocksAt pkt blocks.length off = blocks.map RtcpRr.bytes := by
  induction blocks generalizing off with
  | nil => rfl
  | cons rr blocks ih =>
      rw [List.flatMap_cons, ByteMem.holds_append] at h
      obtain ⟨hblock, hrest⟩ := h
      rw [RtcpRr.bytes_length] at hrest
      have hslice : pkt.slice off 24 = rr.bytes := hblock
      rw [List.length_cons, blocksAt, List.map_cons, ih hrest, hslice]

/-- The SR or RR of a report of `s`. -/
def reportMsg (s : Session) : RtcpMsg :=
  if s.selfMember.flags.sender then
    .sr s.selfMember.ssrc s.ntpTsNow.1 s.rtpSessionTimestamp.1 s.txPktCount s.txOctetCount
      (s.sentBlocks.map RtcpRr.bytes) (rtcpSubPkt s.sentBlocks.length rtcpSr s.reportBody)
  else .rr s.selfMember.ssrc (s.sentBlocks.map RtcpRr.bytes)

theorem rtcpSdesCname_ne_zero : rtcpSdesCname ≠ 0 := by decide

theorem selfCname_length_le (s : Session) : s.selfCname.length ≤ 255 := by
  rw [selfCname, ByteMem.slice_length]
  have hlt := s.selfMember.cnameLen.toNat_lt
  omega

/-- The SDES chunk of a report of `s`. -/
def reportChunk (s : Session) : SdesChunk :=
  ⟨s.selfMember.ssrc, [⟨rtcpSdesCname, s.selfCname, rtcpSdesCname_ne_zero, s.selfCname_length_le⟩]⟩

theorem bytes_reportChunk (s : Session) :
    s.reportChunk.bytes = sdesChunk s.selfMember.ssrc s.selfCname := by
  have hpad : List.replicate (4 - (s.selfCname.length + 2) % 4) (0 : UInt8) =
      0 :: List.replicate (chunkPad (7 + s.selfCname.length)) 0 := by
    have hcount : 4 - (s.selfCname.length + 2) % 4 = chunkPad (7 + s.selfCname.length) + 1 := by
      rw [chunkPad]
      omega
    rw [hcount, List.replicate_succ]
  simp [SdesChunk.bytes, SdesChunk.itemBytes, reportChunk, SdesItem.bytes, sdesChunk, hpad]

/-- A SR is decoded into what it was built from. -/
theorem srAt_report {s : Session} {pkt : ByteMem} {r : ℕ} (hsender : s.selfMember.flags.sender = true)
    (h : pkt.Holds r (rtcpSubPkt s.sentBlocks.length s.reportPt s.reportBody))
    (hat : SubPktAt pkt r s.sentBlocks.length s.reportPt s.reportBody) :
    srAt pkt r = s.reportMsg := by
  have hbody := hat.holds
  simp only [reportBody, reportHead, hsender, if_true, ByteMem.holds_append] at hbody
  obtain ⟨⟨⟨⟨⟨⟨hssrc, hsec⟩, hfrac⟩, hts⟩, hpsent⟩, hosent⟩, hblocks⟩ := hbody
  have hcount : (readCount r).val pkt = s.sentBlocks.length := hat.count
  have hsub : pkt.slice r ((readSize r).val pkt) =
      rtcpSubPkt s.sentBlocks.length rtcpSr s.reportBody := by
    have hsize : (readSize r).val pkt = 4 + s.reportBody.length := hat.size
    rw [ByteMem.Holds, rtcpSubPkt_length, ← hsize, reportPt, if_pos hsender] at h
    exact h
  have h₀ : (be32 (r + 4)).val pkt = s.selfMember.ssrc := val_be32_of_holds hssrc
  have h₁ : (be32 (r + 8)).val pkt = s.ntpTsNow.1.second := val_be32_of_holds hsec
  have h₂ : (be32 (r + 12)).val pkt = s.ntpTsNow.1.fraction := val_be32_of_holds hfrac
  have h₃ : (be32 (r + 16)).val pkt = s.rtpSessionTimestamp.1 := val_be32_of_holds hts
  have h₄ : (be32 (r + 20)).val pkt = s.txPktCount := val_be32_of_holds hpsent
  have h₅ : (be32 (r + 24)).val pkt = s.txOctetCount := val_be32_of_holds hosent
  have h₆ : blocksAt pkt s.sentBlocks.length (r + 28) = s.sentBlocks.map RtcpRr.bytes :=
    blocksAt_of_holds hblocks
  rw [srAt, reportMsg, if_pos hsender, h₀, h₁, h₂, h₃, h₄, h₅, hcount, h₆, hsub]

/-- A RR is decoded into what it was built from. -/
theorem rrAt_report {s : Session} {pkt : ByteMem} {r : ℕ}
    (hsender : s.selfMember.flags.sender = false)
    (hat : SubPktAt pkt r s.sentBlocks.length s.reportPt s.reportBody) :
    rrAt pkt r = s.reportMsg := by
  have hbody := hat.holds
  simp only [reportBody, reportHead, hsender, Bool.false_eq_true, if_false, ByteMem.holds_append]
    at hbody
  obtain ⟨hssrc, hblocks⟩ := hbody
  have hcount : (readCount r).val pkt = s.sentBlocks.length := hat.count
  have h₀ : (be32 (r + 4)).val pkt = s.selfMember.ssrc := val_be32_of_holds hssrc
  have h₁ : blocksAt pkt s.sentBlocks.length (r + 8) = s.sentBlocks.map RtcpRr.bytes :=
    blocksAt_of_holds hblocks
  rw [rrAt, reportMsg, if_neg (by simp [hsender]), h₀, hcount, h₁]

/-- The message of the sub-packet a report starts with. -/
theorem msgsAt_report {s : Session} {pkt : ByteMem} {r : ℕ}
    (h : pkt.Holds r (rtcpSubPkt s.sentBlocks.length s.reportPt s.reportBody))
    (hat : SubPktAt pkt r s.sentBlocks.length s.reportPt s.reportBody) :
    msgsAt pkt r = [s.reportMsg] := by
  cases hsender : s.selfMember.flags.sender with
  | false =>
      have htype : pkt (r + 1) = rtcpRr := by rw [hat.type, reportPt, hsender]; rfl
      rw [msgsAt, htype, if_neg (by decide), if_pos rfl, rrAt_report hsender hat]
  | true =>
      have htype : pkt (r + 1) = rtcpSr := by rw [hat.type, reportPt, hsender]; rfl
      rw [msgsAt, htype, if_pos rfl, srAt_report hsender h hat]

/-- The message of the SDES sub-packet a report ends with. -/
theorem msgsAt_reportChunk {s : Session} {pkt : ByteMem} {r : ℕ}
    (hat : SubPktAt pkt r 1 rtcpSdes s.reportChunk.bytes) :
    msgsAt pkt r = [.sdes s.selfMember.ssrc [s.selfCname]] := by
  have hsdes : SdesAt pkt r [s.reportChunk] := by
    refine ⟨hat.type, hat.count, ?_, ?_⟩
    · rw [List.flatMap_singleton]
      exact hat.size
    · rw [List.flatMap_singleton]
      exact hat.holds
  have hshort : subPktSize pkt r ≤ 1024 := by
    have hlt := s.selfMember.cnameLen.toNat_lt
    rw [hat.size, bytes_reportChunk, sdesChunk_length, selfCname, ByteMem.slice_length]
    omega
  rw [msgsAt, hat.type, if_neg (by decide), if_neg (by decide), if_pos rfl]
  exact (sdesCalls_of_short hsdes hshort).trans rfl

/-- The octets of a report of `s`. -/
def reportBytes (s : Session) : List UInt8 :=
  s.compoundReport s.ntpTsNow.1 s.rtpSessionTimestamp.1 s.sentBlocks

/-- A received report that fits its sender's buffer: where its two sub-packets lie. -/
structure ReportAt (s : Session) (pkt : ByteMem) (len : UInt32) : Prop where
  report : pkt.Holds 0 (rtcpSubPkt s.sentBlocks.length s.reportPt s.reportBody)
  first : SubPktAt pkt 0 s.sentBlocks.length s.reportPt s.reportBody
  second : SubPktAt pkt s.reportSize 1 rtcpSdes s.reportChunk.bytes
  len : len.toNat = s.reportSize + subPktSize pkt s.reportSize

/-- A report that fits has less than 32 blocks. -/
theorem sentBlocks_lt {s : Session} (hfits : s.ReportFits) : s.sentBlocks.length < 32 := by
  have hbuf : rtpConfigRtcpEncoderBufferLen ≤ 512 := by decide
  rw [ReportFits, reportSize] at hfits
  rw [length_sentBlocks]
  omega

theorem reportAt_of_holds {s : Session} {pkt : ByteMem} {len : UInt32} (hfits : s.ReportFits)
    (hpkt : pkt.Holds 0 s.reportBytes) (hlen : len.toNat = s.reportBytes.length) :
    s.ReportAt pkt len := by
  have hsize := s.reportBody_length
  have haligned := s.four_dvd_reportSize
  have hbuf : rtpConfigRtcpEncoderBufferLen ≤ 512 := by decide
  have hroom : s.reportSize ≤ rtpConfigRtcpEncoderBufferLen := Nat.le_of_add_right_le hfits
  have hbytes : s.reportBytes = rtcpSubPkt s.sentBlocks.length s.reportPt s.reportBody ++
      rtcpSubPkt 1 rtcpSdes s.reportChunk.bytes := by
    rw [bytes_reportChunk]
    rfl
  rw [hbytes, ByteMem.holds_append, rtcpSubPkt_length, hsize, Nat.zero_add] at hpkt
  obtain ⟨hreport, hsdes⟩ := hpkt
  have hchunk := s.reportChunk.bytes_length
  have hsmall : s.reportChunk.bytes.length / 4 < 65536 := by
    rw [bytes_reportChunk, sdesChunk_length, selfCname, ByteMem.slice_length]
    have hlt := s.selfMember.cnameLen.toNat_lt
    omega
  have hsecond := subPktAt_of_holds hsdes (by decide) (by omega) hsmall
  refine ⟨hreport, ?_, hsecond, ?_⟩
  · exact subPktAt_of_holds hreport (sentBlocks_lt hfits) (by omega) (by omega)
  · rw [hlen, hbytes, List.length_append, rtcpSubPkt_length, rtcpSubPkt_length, hsecond.size, hsize]

namespace ReportAt

variable {s : Session} {pkt : ByteMem} {len : UInt32}

theorem first_size (h : s.ReportAt pkt len) : subPktSize pkt 0 = s.reportSize := by
  rw [h.first.size, reportBody_length]

/-- The packet check lets a report pass. -/
theorem accepted (h : s.ReportAt pkt len) : (rtcpCheckPkt len).val pkt = .noError := by
  have hfirst := h.first_size
  have hlen := h.len
  have hpos := four_le_subPktSize pkt s.reportSize
  have haligned := four_dvd_subPktSize pkt s.reportSize
  have haligned' := s.four_dvd_reportSize
  refine (rtcpCheckPkt_iff pkt len).2 ⟨[0, s.reportSize], by omega, by omega, h.first.padding, ?_,
    ⟨rfl, ?_, ?_⟩, ?_⟩
  · rw [h.first.type, reportPt]
    split
    · exact Or.inl rfl
    · exact Or.inr rfl
  · rw [hfirst, Nat.zero_add]
  · rw [hfirst, Nat.zero_add]
    exact hlen.symm
  · exact List.forall_mem_cons.2 ⟨h.first.version, List.forall_mem_singleton.2 h.second.version⟩

/-- A report is one SR or RR and one SDES chunk. -/
theorem msgs (h : s.ReportAt pkt len) :
    rtcpMsgs pkt len = [s.reportMsg, .sdes s.selfMember.ssrc [s.selfCname]] := by
  have hfirst := h.first_size
  have hlen := h.len
  have hpos := four_le_subPktSize pkt 0
  have hpos' := four_le_subPktSize pkt s.reportSize
  rw [rtcpMsgs, if_pos h.accepted]
  obtain ⟨n, hn⟩ : ∃ n, len.toNat / 4 = n + 2 := ⟨len.toNat / 4 - 2, by omega⟩
  have hnext : 0 + (readSize 0).val pkt = s.reportSize := by
    rw [Nat.zero_add]
    exact hfirst
  have hend : s.reportSize + (readSize s.reportSize).val pkt = len.toNat := hlen.symm
  have hdone : msgsFrom pkt len n len.toNat = [] := by
    cases n with
    | zero => rfl
    | succ n => rw [msgsFrom, if_pos (Nat.le_refl _)]
  rw [hn, msgsFrom, if_neg (by omega), msgsAt_report h.report h.first, hnext, msgsFrom,
    if_neg (by omega), msgsAt_reportChunk h.second, hend, hdone]
  rfl

end ReportAt

/-! ## The receiver -/

end Session

/-- A call of `rr_rpt`, decoded: who reports, and the block. -/
def Output.rrReport : Output → Option (UInt32 × RtcpRr)
  | .rrRpt fromSsrc block => some (fromSsrc, .ofBytes block)
  | _ => none

namespace Session

/-- The calls of `rr_rpt` so far. -/
def rrReports (s : Session) : List (UInt32 × RtcpRr) := s.out.filterMap Output.rrReport

theorem reportBlocks_eq (ssrc : UInt32) (blocks : List (List UInt8)) (s : Session) :
    reportBlocks ssrc blocks s = { s with out := s.out ++ blocks.map (.rrRpt ssrc) } := by
  induction blocks generalizing s with
  | nil => rw [List.map_nil, List.append_nil]; rfl
  | cons block blocks ih =>
      have hstep : reportBlocks ssrc (block :: blocks) s =
          reportBlocks ssrc blocks (s.emit (.rrRpt ssrc block)) := rfl
      rw [hstep, ih, emit, List.append_assoc]
      rfl

theorem rrReports_reportBlocks (ssrc : UInt32) {rrs : List RtcpRr}
    (hlost : ∀ rr ∈ rrs, rr.lost.toNat < 16777216) (s : Session) :
    (reportBlocks ssrc (rrs.map RtcpRr.bytes) s).rrReports =
      s.rrReports ++ rrs.map fun rr => (ssrc, rr) := by
  rw [rrReports, reportBlocks_eq, rrReports, List.filterMap_append]
  congr 1
  induction rrs with
  | nil => rfl
  | cons rr rrs ih =>
      obtain ⟨hrr, hrest⟩ := List.forall_mem_cons.1 hlost
      have hhead : Output.rrReport (.rrRpt ssrc rr.bytes) = some (ssrc, rr) := by
        rw [Output.rrReport, RtcpRr.ofBytes_bytes hrr]
      rw [List.map_cons, List.map_cons, List.filterMap_cons_some hhead, ih hrest, List.map_cons]

@[simp] theorem member_ntpTsNow (s : Session) (j : Slot) :
    s.ntpTsNow.2.member j = s.member j := rfl

theorem member_recordSr_of_ne (s : Session) {m j : Slot} (h : j ≠ m) (ntp : NtpTs)
    (rtpTs psent osent : UInt32) : (s.recordSr m ntp rtpTs psent osent).member j = s.member j := by
  unfold recordSr
  rw [member_modifyMember_of_ne _ h, member_ntpTsNow, member_modifyMember_of_ne _ h]

/-- What `rtcp_handle_sr` stores in the record of the sender. -/
theorem member_recordSr_self (s : Session) (m : Slot) (ntp : NtpTs) (rtpTs psent osent : UInt32) :
    (s.recordSr m ntp rtpTs psent osent).member m =
      { s.member m with
        lastSr := ntp, rtpTs := rtpTs, pktCount := psent, octetCount := osent
        lastSrLocalTime := s.ntpTsNow.1 } := by
  unfold recordSr
  rw [member_modifyMember_self, member_ntpTsNow, member_modifyMember_self]
  rfl

/-- A source that has just become a member is looked up as that member. -/
theorem lookup_rtcpCreated {t t' : Session} {ssrc : UInt32} {m : Slot}
    (hnone : t.rtpSessionLookupMember ssrc = none)
    (halloc : t.rtpSessionAllocMember ssrc = some (m, t')) (fromAddr : SockaddrIn)
    (len : UInt32) : (t'.rtcpCreated m fromAddr len).rtpSessionLookupMember ssrc = some m :=
  lookup_alloc hnone halloc (f := rtcpFirstHeard fromAddr) rfl rfl

/-- A member that is heard again from its address is refreshed. -/
theorem rtcpHandleSsrc_again {s : Session} {ssrc : UInt32} {m : Slot} {fromAddr : SockaddrIn}
    (hm : s.rtpSessionLookupMember ssrc = some m)
    (hbye : (s.member m).flags.byeReceived = false) (hheard : (s.member m).flags.rtcpHeard = true)
    (haddr : (s.member m).rtcpAddr = fromAddr) (len : UInt32) :
    s.rtcpHandleSsrc ssrc fromAddr len = (some m, s.rtcpRefreshed m len) := by
  have hcase := s.rtcpHandleSsrc_case ssrc fromAddr len
  generalize s.rtcpHandleSsrc ssrc fromAddr len = res at hcase
  cases hcase with
  | tableFull hnone | created _ _ hnone =>
      rw [hm] at hnone
      exact absurd hnone (by simp)
  | leaving j hj hbye' =>
      obtain rfl : m = j := Option.some.inj (hm.symm.trans hj)
      exact absurd (hbye.symm.trans hbye') Bool.false_ne_true
  | joined j hj _ _ hnew =>
      obtain rfl : m = j := Option.some.inj (hm.symm.trans hj)
      exact absurd (hnew.symm.trans hheard) Bool.false_ne_true
  | thirdParty j hj _ _ hne | collision j hj _ _ hne =>
      obtain rfl : m = j := Option.some.inj (hm.symm.trans hj)
      exact absurd haddr hne
  | refreshed j hj =>
      obtain rfl : m = j := Option.some.inj (hm.symm.trans hj)
      rfl

/-! ## The round trip -/

/-- A call of `rtcp_send_report` hands these octets to `tx_rtcp`. -/
def Transmits (s : Session) (pkt : List UInt8) : Prop :=
  s.rtcpSendReport.2.out = s.out ++ [.logRtcpTx, .txRtcp pkt]

/-- What a report of `s` does to a receiver `t` that `rtcp_rx` leaves as `t'`: `m` is a new member, and it
    is the only one that changes; it carries what the report says about the sender, and the application has
    been told what it says about others. -/
structure ReportReceived (s t : Session) (m : Slot) (t' : Session) : Prop where
  joined : t'.usedList = t.usedList ++ [m]
  ssrc : (t'.member m).ssrc = s.selfMember.ssrc
  others : ∀ j, j ≠ m → t'.member j = t.member j
  senderInfo : s.selfMember.flags.sender = true →
    (t'.member m).lastSr = s.ntpTsNow.1 ∧ (t'.member m).rtpTs = s.rtpSessionTimestamp.1 ∧
      (t'.member m).pktCount = s.txPktCount ∧ (t'.member m).octetCount = s.txOctetCount
  reports : t'.rrReports = t.rrReports ++ s.sentBlocks.map fun rr => (s.selfMember.ssrc, rr)
  cname : (t'.member m).Named s.selfCname

/-- What the SR or RR of a report does to the member that sent it. -/
structure ReportAccepted (s c : Session) (m : Slot) (a : Session) : Prop extends Calm c a where
  others : ∀ j, j ≠ m → a.member j = c.member j
  senderInfo : s.selfMember.flags.sender = true →
    (a.member m).lastSr = s.ntpTsNow.1 ∧ (a.member m).rtpTs = s.rtpSessionTimestamp.1 ∧
      (a.member m).pktCount = s.txPktCount ∧ (a.member m).octetCount = s.txOctetCount
  reports : a.rrReports = c.rrReports ++ s.sentBlocks.map fun rr => (s.selfMember.ssrc, rr)

theorem reportAccepted (s c : Session) (m : Slot) :
    ReportAccepted s c m (c.acceptMsg m s.reportMsg) := by
  have hcalm := Calm.acceptMsg c m s.reportMsg
  have hreports := rrReports_reportBlocks s.selfMember.ssrc s.lost_sentBlocks
  have hmember : ∀ (t : Session) (j : Slot),
      (reportBlocks s.selfMember.ssrc (s.sentBlocks.map RtcpRr.bytes) t).member j = t.member j := by
    intro t j
    rw [reportBlocks_eq]
    rfl
  rw [reportMsg] at hcalm ⊢
  split at hcalm
  · rename_i hsender
    rw [if_pos hsender]
    have hself := member_recordSr_self c m s.ntpTsNow.1 s.rtpSessionTimestamp.1 s.txPktCount
      s.txOctetCount
    have hothers := fun j (hj : j ≠ m) => member_recordSr_of_ne c hj s.ntpTsNow.1
      s.rtpSessionTimestamp.1 s.txPktCount s.txOctetCount
    have hout : (c.recordSr m s.ntpTsNow.1 s.rtpSessionTimestamp.1 s.txPktCount
      s.txOctetCount).rrReports = c.rrReports := rfl
    simp only [acceptMsg] at hcalm ⊢
    generalize c.recordSr m s.ntpTsNow.1 s.rtpSessionTimestamp.1 s.txPktCount s.txOctetCount = t
      at hself hothers hout hcalm ⊢
    refine ⟨hcalm, fun j hj => (hmember t j).trans (hothers j hj), fun _ => ?_, ?_⟩
    · have hm : ((reportBlocks s.selfMember.ssrc (s.sentBlocks.map RtcpRr.bytes) t).emit
          (.srRpt s.selfMember.ssrc
            (rtcpSubPkt s.sentBlocks.length rtcpSr s.reportBody))).member m = _ :=
        (hmember t m).trans hself
      rw [hm]
      exact ⟨rfl, rfl, rfl, rfl⟩
    · have hall := hreports t
      rw [hout] at hall
      rw [← hall, rrReports, emit, List.filterMap_append]
      exact List.append_nil _
  · rename_i hsender
    rw [if_neg hsender]
    exact ⟨hcalm, fun j _ => hmember c j, fun h => absurd h hsender, hreports c⟩

/-- The first message of a report makes a member of its sender, the second one names it. -/
theorem reportReceived_msgs (s : Session) {t t' : Session} {m : Slot} {fromAddr : SockaddrIn}
    {len : UInt32} (hunknown : t.rtpSessionLookupMember s.selfMember.ssrc = none)
    (halloc : t.rtpSessionAllocMember s.selfMember.ssrc = some (m, t'))
    (hnew : t.rtcpHandleSsrc s.selfMember.ssrc fromAddr len =
      (some m, t'.rtcpCreated m fromAddr len)) :
    ReportReceived s t m (handleMsg fromAddr len (handleMsg fromAddr len t s.reportMsg)
      (.sdes s.selfMember.ssrc [s.selfCname])) := by
  -- `c` is the session with the new member, `a` the one after the SR or RR
  have hcreated := member_rtcpCreated halloc fromAddr len
  have hlookup := lookup_rtcpCreated hunknown halloc fromAddr len
  have hothers : ∀ j, j ≠ m → (t'.rtcpCreated m fromAddr len).member j = t.member j := fun j hj =>
    (member_alloc halloc (rtcpFirstHeard fromAddr) j).trans (if_neg hj)
  have hused : (t'.rtcpCreated m fromAddr len).usedList = t.usedList ++ [m] :=
    (alloc_eq_some halloc).2.1
  have hout : (t'.rtcpCreated m fromAddr len).rrReports = t.rrReports := by
    have hcopy : (t'.rtcpCreated m fromAddr len).out = t'.out := rfl
    rw [rrReports, hcopy, out_alloc halloc, rrReports]
  have hfirst : handleMsg fromAddr len t s.reportMsg =
      (t'.rtcpCreated m fromAddr len).acceptMsg m s.reportMsg := by
    rw [reportMsg]
    split
    · simp only [handleMsg, hnew]
    · simp only [handleMsg, hnew]
  rw [hfirst]
  generalize t'.rtcpCreated m fromAddr len = c at hcreated hlookup hothers hused hout
  have hacc := reportAccepted s c m
  generalize c.acceptMsg m s.reportMsg = a at hacc
  have halike := hacc.member m
  rw [hcreated] at halike
  have hagain : a.rtcpHandleSsrc s.selfMember.ssrc fromAddr len = (some m, a.rtcpRefreshed m len) :=
    rtcpHandleSsrc_again ((hacc.lookup _).trans hlookup) halike.byeReceived halike.rtcpHeard
      halike.rtcpAddr len
  simp only [handleMsg, hagain, acceptMsg, List.foldl_cons, List.foldl_nil]
  have hrefreshed : ∀ j, (a.rtcpRefreshed m len).member j =
      (a.modifyMember m RtpMember.setRtcpHeard).member j := fun _ => rfl
  have hm : ((a.rtcpRefreshed m len).recordCname m s.selfCname).member m =
      (rtpMemberSetCname (a.member m).setRtcpHeard s.selfCname).setValidated := by
    rw [recordCname, member_modifyMember_self, hrefreshed, member_modifyMember_self]
  refine ⟨?_, ?_, fun j hj => ?_, fun hsender => ?_, ?_, ?_⟩
  · exact (hacc.usedList).trans hused
  · rw [hm]
    exact halike.ssrc
  · rw [recordCname, member_modifyMember_of_ne _ hj, hrefreshed, member_modifyMember_of_ne _ hj,
      hacc.others j hj, hothers j hj]
  · rw [hm]
    exact hacc.senderInfo hsender
  · have hreports := hacc.reports
    rw [hout] at hreports
    exact hreports
  · have hlen := s.selfMember.cnameLen.toNat_lt
    refine named_of_recordCname (a.rtcpRefreshed m len) m (List.getLast?_singleton (a := s.selfCname)) ?_
    rw [selfCname, ByteMem.slice_length]
    omega

/-- What is transmitted is the whole report. -/
theorem Transmits.eq {s : Session} {bytes : List UInt8} (h : s.Transmits bytes) :
    s.ReportFits ∧ s.reportBytes = bytes := by
  have hfits : s.ReportFits := by
    by_contra hfull
    rw [Transmits, (s.rtcpSendReport_full hfull).2] at h
    simpa using List.append_cancel_left h
  refine ⟨hfits, ?_⟩
  rw [Transmits, (s.rtcpSendReport_fits hfits).1] at h
  simpa [reportBytes] using List.append_cancel_left h

/-- A report comes out at the other end as it went in. -/
theorem report_round_trip (s t : Session) (bytes : List UInt8) (pkt : ByteMem) (len : UInt32)
    (fromAddr : SockaddrIn) (hsent : s.Transmits bytes) (hpkt : pkt.Holds 0 bytes)
    (hlen : len.toNat = bytes.length) (hfree : t.freeList ≠ [])
    (hunknown : t.rtpSessionLookupMember s.selfMember.ssrc = none) :
    (rtcpCheckPkt len).val pkt = .noError ∧
      List.Forall₂ s.ReportsOn (s.reportable s.usedList) s.sentBlocks ∧
      ∃ m, ReportReceived s t m ((t.rtcpRx len fromAddr).val pkt) := by
  obtain ⟨hfits, rfl⟩ := hsent.eq
  have hat := reportAt_of_holds hfits hpkt hlen
  refine ⟨hat.accepted, s.reportsOn_sentBlocks, ?_⟩
  obtain ⟨m, t', halloc, hnew⟩ := rtcpHandleSsrc_new (s := t.setRtcpError .noError) hunknown hfree
    fromAddr len
  refine ⟨m, ?_⟩
  rw [val_rtcpRx, if_pos hat.accepted, hat.msgs]
  have h := reportReceived_msgs s (t := t.setRtcpError .noError) hunknown halloc hnew
  exact ⟨h.joined, h.ssrc, h.others, h.senderInfo, h.reports, h.cname⟩

/-- A session of SSRC 2 that has heard SSRC 9 and has sent a packet of its own. -/
def reporter : Session :=
  runSession (zeroed (.still .zero)) (plainConfig 1000 4)
    [.rxRtcp (rrFrom 9) 8 (.ofPort 7), .tx (fun _ => 5) 4 77 (fun _ => 0) 0]

/-- A session of SSRC 78 that has heard nobody. -/
def listener : Session :=
  (zeroed { Env.still .zero with random32 := [77, 78] }).rtpSessionInit (plainConfig 1000 4)

theorem report_round_trip_sr :
    (rtcpCheckPkt 68).val (pktOf reporter.reportBytes) = .noError ∧
      List.Forall₂ reporter.ReportsOn (reporter.reportable reporter.usedList) reporter.sentBlocks ∧
      ∃ m, ReportReceived reporter listener m
        ((listener.rtcpRx 68 (.ofPort 8)).val (pktOf reporter.reportBytes)) :=
  report_round_trip reporter listener reporter.reportBytes (pktOf reporter.reportBytes) 68 (.ofPort 8)
    (reporter.rtcpSendReport_fits (by decide +kernel)).1 (holds_pktOf [] _) (by decide +kernel)
    (by decide +kernel) (by decide +kernel)

end Session

end Prtp
