import Prtp.RtcpCompound
import Prtp.Session

set_option autoImplicit false

/-! # When a report is sent

`rtcp_send_report` gives up, returning 0, at the first encoder call that has no room: report blocks
that do not fit are not trimmed, and neither is anything dropped for the SDES chunk. So a report is
transmitted exactly when all of it fits the encoder's buffer. -/

namespace Prtp

open RtcpEncoder

namespace Session

/-! ## The loop over the members -/

/-- What the loop over the members leaves as it was: everything the packet is made of but the
    interval counters of the sources. -/
structure SameButSources (s s' : Session) : Prop where
  out : s'.out = s.out
  self : s'.self = s.self
  flags : ∀ m, (s'.member m).flags = (s.member m).flags
  ssrc : ∀ m, (s'.member m).ssrc = (s.member m).ssrc
  cname : ∀ m, (s'.member m).cname = (s.member m).cname
  cnameLen : ∀ m, (s'.member m).cnameLen = (s.member m).cnameLen

theorem SameButSources.refl (s : Session) : SameButSources s s :=
  ⟨rfl, rfl, fun _ => rfl, fun _ => rfl, fun _ => rfl, fun _ => rfl⟩

theorem SameButSources.trans {s s' s'' : Session} (h : SameButSources s s')
    (h' : SameButSources s' s'') : SameButSources s s'' where
  out := h'.out.trans h.out
  self := h'.self.trans h.self
  flags m := (h'.flags m).trans (h.flags m)
  ssrc m := (h'.ssrc m).trans (h.ssrc m)
  cname m := (h'.cname m).trans (h.cname m)
  cnameLen m := (h'.cnameLen m).trans (h.cnameLen m)

theorem SameButSources.dlsr (s : Session) (x : RtpMember) : SameButSources s (s.dlsr x).2 := by
  simp only [Session.dlsr]
  split
  · exact .refl s
  · exact ⟨rfl, rfl, fun _ => rfl, fun _ => rfl, fun _ => rfl, fun _ => rfl⟩

theorem SameButSources.rrOf (s : Session) (m : Slot) : SameButSources s (s.rrOf m).2 := by
  have hclose : SameButSources s
      (s.setMember m { s.member m with rtpSrc := (s.member m).rtpSrc.closeInterval }) := by
    refine ⟨rfl, rfl, ?_, ?_, ?_, ?_⟩ <;>
    · intro j
      rw [member_setMember]
      split
      · rename_i h; rw [h]
      · rfl
  exact hclose.trans (.dlsr _ _)

/-- The members of a list that get a report block. -/
def reportable (s : Session) (ms : List Slot) : List Slot :=
  ms.filter fun m => Reportable (s.member m)

theorem SameButSources.reportable_eq {s s' : Session} (h : SameButSources s s') (ms : List Slot) :
    s'.reportable ms = s.reportable ms := by
  simp only [Session.reportable, Reportable, h.flags]

theorem SameButSources.ssrcs_eq {s s' : Session} (h : SameButSources s s') (ms : List Slot) :
    ms.map (fun m => (s'.member m).ssrc) = ms.map fun m => (s.member m).ssrc := by
  simp only [h.ssrc]

/-- The report blocks the loop computes, in order. -/
def rrBlocks : List Slot → Session → List RtcpRr
  | [], _ => []
  | m :: ms, s =>
    if Reportable (s.member m) then (s.rrOf m).1 :: rrBlocks ms (s.rrOf m).2 else rrBlocks ms s

/-- There is a block for each reportable member. -/
theorem ssrcs_rrBlocks (ms : List Slot) (s : Session) :
    (rrBlocks ms s).map RtcpRr.ssrc = (s.reportable ms).map fun m => (s.member m).ssrc := by
  induction ms generalizing s with
  | nil => rfl
  | cons m ms ih =>
      rw [rrBlocks]
      by_cases hm : Reportable (s.member m)
      · have hcons : s.reportable (m :: ms) = m :: s.reportable ms := by
          simp [Session.reportable, hm]
        have hsame := SameButSources.rrOf s m
        rw [if_pos hm, hcons, List.map_cons, List.map_cons, ih, hsame.reportable_eq,
          hsame.ssrcs_eq]
        rfl
      · have hcons : s.reportable (m :: ms) = s.reportable ms := by
          simp [Session.reportable, hm]
        rw [if_neg hm, hcons, ih]

theorem length_rrBlocks (ms : List Slot) (s : Session) :
    (rrBlocks ms s).length = (s.reportable ms).length := by
  simpa using congrArg List.length (ssrcs_rrBlocks ms s)

variable {cap : Nat} {done : List UInt8} {pt : UInt8}

/-- The loop over the members adds one block for each reportable member if they all fit. -/
theorem rtcpSendReportGenRr_fits (base : Nat) (ms : List Slot) :
    ∀ {count : Nat} {body : List UInt8} {re : RtcpEncoder} {s : Session},
      Building re cap done count pt body → 4 + body.length = base + 24 * count →
      count + (s.reportable ms).length < 32 →
      done.length + 4 + body.length + 24 * (s.reportable ms).length ≤ cap →
      ∃ re' s',
        rtcpSendReportGenRr (addRr base) ms re s = (true, re', s') ∧
        Building re' cap done (count + (rrBlocks ms s).length) pt
          (body ++ (rrBlocks ms s).flatMap RtcpRr.bytes) ∧
        SameButSources s s' := by
  induction ms with
  | nil =>
      intro count body re s h _ _ _
      exact ⟨re, s, rfl, by simpa [rrBlocks] using h, .refl s⟩
  | cons m ms ih =>
      intro count body re s h hbase hcount hroom
      rw [rtcpSendReportGenRr, rrBlocks]
      by_cases hm : Reportable (s.member m)
      · have hcons : s.reportable (m :: ms) = m :: s.reportable ms := by
          simp [Session.reportable, hm]
        rw [hcons, List.length_cons] at hcount hroom
        obtain ⟨re₁, hadd, h₁⟩ := h.addRr hbase (by omega) (by omega) (s.rrOf m).1
        have hsame := SameButSources.rrOf s m
        rw [← hsame.reportable_eq ms] at hcount hroom
        have hlen : (body ++ (s.rrOf m).1.bytes).length = body.length + 24 := by simp
        obtain ⟨re', s', hrec, h', hsame'⟩ :=
          ih (s := (s.rrOf m).2) h₁ (by omega) (by omega) (by omega)
        rw [if_pos hm, if_pos hm]
        refine ⟨re', s', ?_, ?_, hsame.trans hsame'⟩
        · simp only [hadd, if_true]
          exact hrec
        · rw [List.flatMap_cons, ← List.append_assoc, List.length_cons,
            Nat.add_comm (rrBlocks ms _).length 1, ← Nat.add_assoc]
          exact h'
      · have hcons : s.reportable (m :: ms) = s.reportable ms := by
          simp [Session.reportable, hm]
        rw [hcons] at hcount hroom
        rw [if_neg hm, if_neg hm]
        exact ih h hbase hcount hroom

/-- The loop over the members fails, having handed nothing out, if their blocks do not all fit. -/
theorem rtcpSendReportGenRr_full (base : Nat) (ms : List Slot) :
    ∀ {count : Nat} {body : List UInt8} {re : RtcpEncoder} {s : Session},
      Building re cap done count pt body → 4 + body.length = base + 24 * count → cap < 32 * 24 →
      cap < done.length + 4 + body.length + 24 * (s.reportable ms).length →
      done.length + 4 + body.length ≤ cap →
      (rtcpSendReportGenRr (addRr base) ms re s).1 = false ∧
        SameButSources s (rtcpSendReportGenRr (addRr base) ms re s).2.2 := by
  induction ms with
  | nil =>
      intro count body re s h _ _ hfull hroom
      simp only [Session.reportable, List.filter_nil, List.length_nil] at hfull
      omega
  | cons m ms ih =>
      intro count body re s h hbase hcap hfull hroom
      rw [rtcpSendReportGenRr]
      by_cases hm : Reportable (s.member m)
      · have hcons : s.reportable (m :: ms) = m :: s.reportable ms := by
          simp [Session.reportable, hm]
        rw [hcons, List.length_cons] at hfull
        have hsame := SameButSources.rrOf s m
        rw [if_pos hm]
        by_cases hone : done.length + 4 + body.length + 24 ≤ cap
        · obtain ⟨re₁, hadd, h₁⟩ := h.addRr hbase (by omega) hone (s.rrOf m).1
          have hlen : (body ++ (s.rrOf m).1.bytes).length = body.length + 24 := by simp
          rw [← hsame.reportable_eq ms] at hfull
          simp only [hadd, if_true]
          obtain ⟨hfail, hsame'⟩ :=
            ih (s := (s.rrOf m).2) h₁ (by omega) hcap (by omega) (by omega)
          exact ⟨hfail, hsame.trans hsame'⟩
        · simp only [h.addRr_full (by omega) (s.rrOf m).1]
          exact ⟨rfl, hsame⟩
      · have hcons : s.reportable (m :: ms) = s.reportable ms := by
          simp [Session.reportable, hm]
        rw [hcons] at hfull
        rw [if_neg hm]
        exact ih h hbase hcap hfull hroom

/-! ## The compound packet -/

/-- The packet type of a report. -/
def reportPt (s : Session) : UInt8 := if s.selfMember.flags.sender then rtcpSr else rtcpRr

/-- The body of a report before its blocks. -/
def reportHead (s : Session) (ts : NtpTs) (rtpTs : UInt32) : List UInt8 :=
  if s.selfMember.flags.sender then
    be32Bytes s.selfMember.ssrc ++ be32Bytes ts.second ++ be32Bytes ts.fraction ++
      be32Bytes rtpTs ++ be32Bytes s.txPktCount ++ be32Bytes s.txOctetCount
  else be32Bytes s.selfMember.ssrc

/-- The octets of `self`'s CNAME. -/
def selfCname (s : Session) : List UInt8 :=
  s.selfMember.cname.slice 0 s.selfMember.cnameLen.toNat

/-- The compound packet of a report with the given blocks. -/
def compoundReport (s : Session) (ts : NtpTs) (rtpTs : UInt32) (blocks : List RtcpRr) :
    List UInt8 :=
  rtcpSubPkt blocks.length s.reportPt (s.reportHead ts rtpTs ++ blocks.flatMap RtcpRr.bytes) ++
    rtcpSubPkt 1 rtcpSdes (sdesChunk s.selfMember.ssrc s.selfCname)

/-- The room a report with a block for every reportable member takes, header word included. -/
def reportSize (s : Session) : Nat :=
  (if s.selfMember.flags.sender then 28 else 8) + 24 * (s.reportable s.usedList).length

/-- The SR or RR with a block for every reportable member, and the SDES chunk, fit the buffer. -/
def ReportFits (s : Session) : Prop :=
  s.reportSize + sdesSize s.selfMember.cnameLen.toNat ≤ rtpConfigRtcpEncoderBufferLen

instance (s : Session) : Decidable s.ReportFits := inferInstanceAs (Decidable (_ ≤ _))

/-- A call of `rtcp_send_report` hands one compound packet to `tx_rtcp`: a report with blocks for
    some of the remote members, in the order of `used_list`, and an SDES chunk with the CNAME. -/
def TransmitsReport (s : Session) : Prop :=
  ∃ blocks : List RtcpRr,
    (blocks.map RtcpRr.ssrc).Sublist
      ((s.reportable s.usedList).map fun m => (s.member m).ssrc) ∧
    s.rtcpSendReport.2.out =
      s.out ++
        [.logRtcpTx,
          .txRtcp (s.compoundReport s.ntpTsNow.1 s.rtpSessionTimestamp.1 blocks)]

theorem reportHead_length (s : Session) (ts : NtpTs) (rtpTs : UInt32) :
    4 + (s.reportHead ts rtpTs).length = if s.selfMember.flags.sender then 28 else 8 := by
  rw [reportHead]
  split <;> simp

theorem rtcpSendReportFirst_fits {re : RtcpEncoder} (s : Session) (h : Complete re cap [])
    (ts : NtpTs) (rtpTs : UInt32) (hcap : cap < 32 * 24) (hroom : s.reportSize ≤ cap) :
    ∃ re' s',
      s.rtcpSendReportFirst re ts rtpTs = (true, re', s') ∧
      Building re' cap [] (rrBlocks s.usedList s).length s.reportPt
        (s.reportHead ts rtpTs ++ (rrBlocks s.usedList s).flatMap RtcpRr.bytes) ∧
      SameButSources s s' := by
  have hlen := s.reportHead_length ts rtpTs
  rw [rtcpSendReportFirst, reportPt]
  rw [reportHead] at hlen ⊢
  rw [reportSize] at hroom
  split at hroom
  · rename_i hsender
    simp only [hsender, if_true] at hlen ⊢
    obtain ⟨re₁, hbegin, h₁⟩ := h.srBegin (by simp; omega) s.selfMember.ssrc ts.second ts.fraction
      rtpTs s.txPktCount s.txOctetCount
    obtain ⟨re', s', hloop, h', hsame⟩ :=
      rtcpSendReportGenRr_fits 28 s.usedList (s := s) h₁ hlen (by omega) (by simp; omega)
    rw [Nat.zero_add] at h'
    simp only [hbegin, if_true]
    exact ⟨re', s', hloop, h', hsame⟩
  · rename_i hsender
    simp only [hsender, Bool.false_eq_true, if_false] at hlen ⊢
    obtain ⟨re₁, hbegin, h₁⟩ := h.rrBegin (by simp; omega) s.selfMember.ssrc
    obtain ⟨re', s', hloop, h', hsame⟩ :=
      rtcpSendReportGenRr_fits 8 s.usedList (s := s) h₁ hlen (by omega) (by simp; omega)
    rw [Nat.zero_add] at h'
    simp only [hbegin, if_true]
    exact ⟨re', s', hloop, h', hsame⟩

theorem rtcpSendReportFirst_full {re : RtcpEncoder} (s : Session) (h : Complete re cap [])
    (ts : NtpTs) (rtpTs : UInt32) (hcap : cap < 32 * 24) (hmin : 28 ≤ cap)
    (hfull : cap < s.reportSize) :
    (s.rtcpSendReportFirst re ts rtpTs).1 = false ∧
      SameButSources s (s.rtcpSendReportFirst re ts rtpTs).2.2 := by
  have hlen := s.reportHead_length ts rtpTs
  rw [rtcpSendReportFirst]
  rw [reportHead] at hlen
  rw [reportSize] at hfull
  split at hfull
  · rename_i hsender
    simp only [hsender, if_true] at hlen ⊢
    obtain ⟨re₁, hbegin, h₁⟩ := h.srBegin (by simp; omega) s.selfMember.ssrc ts.second ts.fraction
      rtpTs s.txPktCount s.txOctetCount
    simp only [hbegin, if_true]
    exact rtcpSendReportGenRr_full 28 s.usedList h₁ hlen hcap (by simp; omega)
      (by simp; omega)
  · rename_i hsender
    simp only [hsender, Bool.false_eq_true, if_false] at hlen ⊢
    obtain ⟨re₁, hbegin, h₁⟩ := h.rrBegin (by simp; omega) s.selfMember.ssrc
    simp only [hbegin, if_true]
    exact rtcpSendReportGenRr_full 8 s.usedList h₁ hlen hcap (by simp; omega)
      (by simp; omega)

theorem rtcpSendReportSdes_fits {re : RtcpEncoder} (self : RtpMember) (h : Complete re cap done)
    (hroom : done.length + sdesSize self.cnameLen.toNat ≤ cap) :
    ∃ re', rtcpSendReportSdes self re = (true, re') ∧
      Building re' cap done 1 rtcpSdes
        (sdesChunk self.ssrc (self.cname.slice 0 self.cnameLen.toNat)) := by
  rw [sdesSize] at hroom
  obtain ⟨re₁, hbegin, h₁⟩ := h.sdesBegin (by omega)
  obtain ⟨re₂, hchunk, hat₂, h₂⟩ := h₁.sdesChunkBegin (by simp; omega) self.ssrc
  obtain ⟨re₃, hname, hat₃, h₃⟩ := h₂.sdesChunkAddCname self.cname self.cnameLen (by simp; omega)
  have hsize : re₃.writeNdx + 1 - re₃.chunkBegin = 7 + self.cnameLen.toNat := by
    rw [hat₃, hat₂, h₃.writeNdx, h₁.writeNdx]; simp; omega
  obtain ⟨re₄, hend, h₄⟩ := h₃.sdesChunkEnd (by
    rw [hsize, h₃.writeNdx, chunkPad]; simp; omega)
  simp only [rtcpSendReportSdes, hbegin, hchunk, hname, hend]
  refine ⟨re₄, rfl, ?_⟩
  rw [hsize] at h₄
  simpa [sdesChunk] using h₄

theorem rtcpSendReportSdes_full {re : RtcpEncoder} (self : RtpMember) (h : Complete re cap done)
    (hfull : cap < done.length + sdesSize self.cnameLen.toNat) :
    (rtcpSendReportSdes self re).1 = false := by
  rw [sdesSize] at hfull
  rw [rtcpSendReportSdes]
  by_cases hroom₁ : done.length + 4 ≤ cap
  · obtain ⟨re₁, hbegin, h₁⟩ := h.sdesBegin hroom₁
    by_cases hroom₂ : done.length + 4 + ([] : List UInt8).length + 4 ≤ cap
    · obtain ⟨re₂, hchunk, hat₂, h₂⟩ := h₁.sdesChunkBegin hroom₂ self.ssrc
      by_cases hroom₃ : done.length + 4 + ([] ++ be32Bytes self.ssrc).length +
          (self.cnameLen.toNat + 2) ≤ cap
      · obtain ⟨re₃, hname, hat₃, h₃⟩ := h₂.sdesChunkAddCname self.cname self.cnameLen hroom₃
        have hsize : re₃.writeNdx + 1 - re₃.chunkBegin = 7 + self.cnameLen.toNat := by
          rw [hat₃, hat₂, h₃.writeNdx, h₁.writeNdx]; simp; omega
        simp only [hbegin, hchunk, hname]
        exact h₃.sdesChunkEnd_full (by rw [hsize, h₃.writeNdx, chunkPad]; simp; omega)
      · have hname : (re₂.sdesChunkAddCname self.cname self.cnameLen).1 = false := by
          rw [RtcpEncoder.sdesChunkAddCname, if_pos (by rw [h₂.spaceLeft_eq]; omega)]
        simp [hbegin, hchunk, hname]
    · have hchunk : (re₁.sdesChunkBegin self.ssrc).1 = false := by
        rw [RtcpEncoder.sdesChunkBegin, if_pos (by rw [h₁.spaceLeft_eq]; omega)]
      simp [hbegin, hchunk]
  · have hbegin : re.sdesBegin.1 = false := by
      rw [RtcpEncoder.sdesBegin, if_pos (by rw [h.spaceLeft_eq]; omega)]
    simp [hbegin]

/-! ## The call -/

theorem flatMap_bytes_length (blocks : List RtcpRr) :
    (blocks.flatMap RtcpRr.bytes).length = 24 * blocks.length := by
  simp [List.length_flatMap]; omega

/-- With the SR or RR complete up to its length word, the rest of the call transmits if the SDES
    chunk fits. -/
theorem rtcpSendReportRest_fits {re : RtcpEncoder} {count : Nat} {body : List UInt8} (s : Session)
    (h : Building re cap [] count pt body) (halign : body.length % 4 = 0)
    (hroom : 4 + body.length + sdesSize s.selfMember.cnameLen.toNat ≤ cap) :
    s.rtcpSendReportRest re =
      (UInt32.ofNat (4 + body.length + sdesSize s.selfMember.cnameLen.toNat),
        s.emit (.txRtcp
          (rtcpSubPkt count pt body ++
            rtcpSubPkt 1 rtcpSdes (sdesChunk s.selfMember.ssrc s.selfCname)))) := by
  obtain ⟨re₁, hend₁, h₁⟩ := h.endPacket halign
  rw [List.nil_append] at h₁
  obtain ⟨re₂, hsdes, h₂⟩ := rtcpSendReportSdes_fits s.selfMember h₁ (by simpa using hroom)
  obtain ⟨re₃, hend₃, h₃⟩ := h₂.endPacket (by simp)
  have hlen : re₃.writeNdx = 4 + body.length + sdesSize s.selfMember.cnameLen.toNat := by
    rw [h₃.writeNdx]; simp [sdesSize]
  have hbuf := h₃.holds
  rw [ByteMem.Holds, ← h₃.writeNdx] at hbuf
  simp only [rtcpSendReportRest, hend₁, hsdes, hend₃, msgLen, hbuf]
  rw [hlen]
  rfl

/-- If the SDES chunk does not fit, the rest of the call hands out nothing. -/
theorem rtcpSendReportRest_full {re : RtcpEncoder} {count : Nat} {body : List UInt8} (s : Session)
    (h : Building re cap [] count pt body) (halign : body.length % 4 = 0)
    (hfull : cap < 4 + body.length + sdesSize s.selfMember.cnameLen.toNat) :
    s.rtcpSendReportRest re = (0, s) := by
  obtain ⟨re₁, hend₁, h₁⟩ := h.endPacket halign
  rw [List.nil_append] at h₁
  have hsdes := rtcpSendReportSdes_full s.selfMember h₁ (by simpa using hfull)
  simp only [rtcpSendReportRest, hend₁, hsdes]
  rfl

/-- The session in which `rtcp_send_report` starts its packet. -/
def reportStart (s : Session) : Session :=
  ((s.emit .logRtcpTx).ntpTsNow.2).rtpSessionTimestamp.2

theorem rtcpSendReport_eq (s : Session) :
    s.rtcpSendReport =
      let first := s.reportStart.rtcpSendReportFirst
        (RtcpEncoder.init s.env.stack rtpConfigRtcpEncoderBufferLen) s.ntpTsNow.1
        s.rtpSessionTimestamp.1
      if !first.1 then (0, first.2.2) else first.2.2.rtcpSendReportRest first.2.1 := rfl

theorem SameButSources.selfMember_eq {s s' : Session} (h : SameButSources s s') :
    s'.selfMember.ssrc = s.selfMember.ssrc ∧ s'.selfMember.cnameLen = s.selfMember.cnameLen ∧
      s'.selfCname = s.selfCname := by
  simp only [selfCname, selfMember, h.self, h.ssrc, h.cname, h.cnameLen, and_self]

/-- The report blocks a call computes. -/
def sentBlocks (s : Session) : List RtcpRr := rrBlocks s.usedList s.reportStart

theorem ssrcs_sentBlocks (s : Session) :
    s.sentBlocks.map RtcpRr.ssrc = (s.reportable s.usedList).map fun m => (s.member m).ssrc :=
  ssrcs_rrBlocks s.usedList s.reportStart

theorem length_sentBlocks (s : Session) :
    s.sentBlocks.length = (s.reportable s.usedList).length :=
  length_rrBlocks s.usedList s.reportStart

/-- The body of the SR or RR a call builds. -/
def reportBody (s : Session) : List UInt8 :=
  s.reportHead s.ntpTsNow.1 s.rtpSessionTimestamp.1 ++ s.sentBlocks.flatMap RtcpRr.bytes

theorem reportBody_length (s : Session) : 4 + s.reportBody.length = s.reportSize := by
  rw [reportBody, List.length_append, flatMap_bytes_length, length_sentBlocks, ← Nat.add_assoc,
    reportHead_length]
  rfl

theorem four_dvd_reportSize (s : Session) : s.reportSize % 4 = 0 := by
  rw [reportSize]
  split <;> omega

/-- If the SR or RR alone fits, the call gets to its rest with a block for every reportable member
    in the buffer. -/
theorem rtcpSendReport_first_fits (s : Session)
    (hroom : s.reportSize ≤ rtpConfigRtcpEncoderBufferLen) :
    ∃ re s',
      s.rtcpSendReport = s'.rtcpSendReportRest re ∧
      Building re rtpConfigRtcpEncoderBufferLen [] s.sentBlocks.length s.reportPt s.reportBody ∧
      SameButSources s.reportStart s' := by
  have hinit := Complete.init s.env.stack rtpConfigRtcpEncoderBufferLen
  obtain ⟨re, s', hfirst, hbuild, hsame⟩ :=
    s.reportStart.rtcpSendReportFirst_fits hinit s.ntpTsNow.1 s.rtpSessionTimestamp.1 (by decide)
      hroom
  refine ⟨re, s', ?_, hbuild, hsame⟩
  simp only [rtcpSendReport_eq, hfirst]
  rfl

/-- A report that fits goes out, with a block for every reportable member. -/
theorem rtcpSendReport_fits (s : Session) (hfits : s.ReportFits) :
    s.rtcpSendReport.2.out =
        s.out ++
          [.logRtcpTx,
            .txRtcp (s.compoundReport s.ntpTsNow.1 s.rtpSessionTimestamp.1 s.sentBlocks)] ∧
      s.rtcpSendReport.1 = UInt32.ofNat (s.reportSize + sdesSize s.selfMember.cnameLen.toNat) := by
  rw [ReportFits] at hfits
  obtain ⟨re, s', hcall, hbuild, hsame⟩ :=
    s.rtcpSendReport_first_fits (Nat.le_of_add_right_le hfits)
  have hsize := s.reportBody_length
  have halign := s.four_dvd_reportSize
  obtain ⟨hself, hlen, hcname⟩ := hsame.selfMember_eq
  have hrest := s'.rtcpSendReportRest_fits hbuild (by omega) (by rw [hlen, hsize]; exact hfits)
  rw [hself, hcname, hlen, hsize] at hrest
  refine ⟨?_, ?_⟩
  · rw [hcall, hrest]
    simp only [emit, hsame.out]
    exact List.append_assoc ..
  · rw [hcall, hrest]
    rfl

/-- A report that does not fit is dropped: nothing follows the log line. -/
theorem rtcpSendReport_full (s : Session) (hfull : ¬ s.ReportFits) :
    s.rtcpSendReport.1 = 0 ∧ s.rtcpSendReport.2.out = s.out ++ [.logRtcpTx] := by
  rw [ReportFits, Nat.not_le] at hfull
  by_cases hroom : s.reportSize ≤ rtpConfigRtcpEncoderBufferLen
  · obtain ⟨re, s', hcall, hbuild, hsame⟩ := s.rtcpSendReport_first_fits hroom
    have hsize := s.reportBody_length
    have halign := s.four_dvd_reportSize
    obtain ⟨hself, hlen, hcname⟩ := hsame.selfMember_eq
    have hrest := s'.rtcpSendReportRest_full hbuild (by omega) (by rw [hlen, hsize]; exact hfull)
    rw [hcall, hrest]
    exact ⟨rfl, hsame.out⟩
  · have hinit := Complete.init s.env.stack rtpConfigRtcpEncoderBufferLen
    obtain ⟨hfail, hsame⟩ := s.reportStart.rtcpSendReportFirst_full hinit s.ntpTsNow.1
      s.rtpSessionTimestamp.1 (by decide) (by decide) (Nat.lt_of_not_le hroom)
    have hcall : s.rtcpSendReport =
        (0, (s.reportStart.rtcpSendReportFirst
          (RtcpEncoder.init s.env.stack rtpConfigRtcpEncoderBufferLen) s.ntpTsNow.1
          s.rtpSessionTimestamp.1).2.2) := by
      rw [rtcpSendReport_eq]
      exact if_pos (by rw [hfail]; rfl)
    rw [hcall]
    exact ⟨rfl, hsame.out⟩

/-- A call transmits its report exactly when the report fits. -/
theorem transmitsReport_iff (s : Session) : s.TransmitsReport ↔ s.ReportFits := by
  constructor
  · rintro ⟨blocks, -, hout⟩
    by_contra hfull
    rw [(s.rtcpSendReport_full hfull).2] at hout
    simpa using List.append_cancel_left hout
  · intro hfits
    obtain ⟨hout, -⟩ := s.rtcpSendReport_fits hfits
    exact ⟨s.sentBlocks, s.ssrcs_sentBlocks ▸ List.Sublist.refl _, hout⟩

/-! ## The calls of a run -/

/-- The session in which `__rtcp_interval_timeout` calls `rtcp_send_report`, if it does. -/
def sendReportCall (s : Session) : Option Session :=
  let (t, s') := s.drawInterval
  if (t.map fun t => s'.rtcpVar.tp + t).any fun tn => tn ≤ s.rtcpCurrentTime then some s' else none

/-- What an expiry of the interval timer hands out is what that call hands out. -/
theorem out_rtcpIntervalTimeout (s : Session) :
    s.rtcpIntervalTimeout.out =
      match s.sendReportCall with
      | none => s.out
      | some s' => s'.rtcpSendReport.2.out := by
  simp only [rtcpIntervalTimeout, sendReportCall]
  split
  · rfl
  · rfl

/-- The calls of `rtcp_send_report` that the next tick makes. -/
def tickReports (s : Session) : List Session :=
  s.tickFirings.filterMap fun p =>
    match p.1 with
    | .rtcp => p.2.sendReportCall
    | _ => none

/-- In every reachable state, every call of `rtcp_send_report` by the interval timer transmits its
    report exactly when the whole of it fits the encoder's buffer. -/
theorem tickReports_transmit_iff (mem : Session) (config : RtpSessionConfig) (ops : List Op) :
    ∀ s ∈ (runSession mem config ops).tickReports, (s.TransmitsReport ↔ s.ReportFits) :=
  fun s _ => s.transmitsReport_iff

/-- A session with a CNAME of four octets sends its first report at the eleventh tick. -/
theorem short_cname_report_transmitted :
    ∃ s ∈ (runSession (zeroed (.still .zero)) (plainConfig 1000 4)
      (List.replicate 10 .tick)).tickReports, s.TransmitsReport := by
  have hcall : (runSession (zeroed (.still .zero)) (plainConfig 1000 4)
      (List.replicate 10 .tick)).tickReports ≠ [] := by decide +kernel
  refine ⟨_, List.head_mem hcall, ?_⟩
  exact (tickReports_transmit_iff _ _ _ _ (List.head_mem hcall)).2 (by decide +kernel +revert)

/-- A session with a CNAME of 255 octets drops its first report. -/
theorem long_cname_report_dropped :
    ¬ ∀ s ∈ (runSession (zeroed (.still .zero)) (plainConfig 1000 255)
      (List.replicate 10 .tick)).tickReports, s.TransmitsReport := by
  have hcall : (runSession (zeroed (.still .zero)) (plainConfig 1000 255)
      (List.replicate 10 .tick)).tickReports ≠ [] := by decide +kernel
  intro h
  exact absurd ((transmitsReport_iff _).1 (h _ (List.head_mem hcall))) (by decide +kernel +revert)

end Session

end Prtp
