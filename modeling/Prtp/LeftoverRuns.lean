import Prtp.Leftovers
import Prtp.Membership
import Prtp.ReportSent

set_option autoImplicit false

/-! # Runs over slots with different leftovers

Two sessions that act alike take the same data packets, transmits and ticks, and hand out the same;
so no run tells them apart that never brings different leftovers into play. -/

namespace Prtp

open ByteReader

namespace Session

variable {a b : List Output} {s t : Session}

/-! ## Data packets -/

/-- Whose data is accepted is in the table, and known by RTP. -/
theorem known_of_rtpAccepted {s : Session} {ssrc : UInt32} {seq : UInt16} {fromAddr : SockaddrIn}
    {csrc : Bool} {m : Slot} (h : (s.rtpHandleSsrc ssrc seq fromAddr csrc).1 = some m) :
    m ∈ (s.rtpHandleSsrc ssrc seq fromAddr csrc).2.usedList ∧
      (((s.rtpHandleSsrc ssrc seq fromAddr csrc).2.member m).flags.self = true ∨
        ((s.rtpHandleSsrc ssrc seq fromAddr csrc).2.member m).flags.rtpHeard = true) := by
  have hcase := s.rtpHandleSsrc_case ssrc seq fromAddr csrc
  generalize s.rtpHandleSsrc ssrc seq fromAddr csrc = res at h hcase
  cases hcase with
  | tableFull | leaving | thirdParty | collision | created | joined => simp at h
  | createdCsrc j s' hnone halloc =>
      obtain rfl : j = m := by simpa using h
      refine ⟨?_, Or.inr ?_⟩
      · show j ∈ s'.usedList
        rw [(alloc_eq_some halloc).2.1]
        simp
      · have hheard : ((s'.rtpCreated j seq fromAddr).member j).flags.rtpHeard = true := by
          show ((s'.modifyMember j (rtpFirstHeard seq fromAddr)).member j).flags.rtpHeard = true
          rw [member_modifyMember, if_pos rfl]
          rfl
        rw [member_modifyMember, if_pos rfl]
        exact hheard
  | refreshed _ j hj =>
      obtain rfl : j = m := by simpa using h
      refine ⟨(lookup_eq_some hj).1, Or.inr ?_⟩
      show ((s.modifyMember j RtpMember.setRtpHeard).member j).flags.rtpHeard = true
      rw [member_modifyMember, if_pos rfl]
      rfl

namespace ActsLike

/-- Writing the statistics of a member that both sessions keep alike. -/
theorem modifySrc (h : ActsLike a b s t) {m : Slot} (hm : m ∈ s.usedList) (src : RtpSource) :
    ActsLike a b (s.modifyMember m fun x => { x with rtpSrc := src })
      (t.modifyMember m fun x => { x with rtpSrc := src }) := by
  have hx := h.member m hm
  exact h.modifyUsed ⟨hx.ssrc, hx.flags, hx.cname, hx.lastSr, hx.lastSrLocalTime, .of_eq rfl,
    hx.rtcpAddr, hx.rtpAddr, fun _ => rfl⟩

theorem computeJitter (h : ActsLike a b s t) {m : Slot} (hm : m ∈ s.usedList)
    (hknown : (s.member m).flags.self = true ∨ (s.member m).flags.rtpHeard = true)
    (rtpTs arrival : UInt32) :
    ActsLike a b (s.rtcpComputeJitter m rtpTs arrival) (t.rtcpComputeJitter m rtpTs arrival) := by
  have hx := h.member m hm
  have hsrc := hx.rtpSrc hknown
  refine h.modifyUsed ⟨hx.ssrc, hx.flags, hx.cname, hx.lastSr, hx.lastSrLocalTime, ?_,
    hx.rtcpAddr, hx.rtpAddr, fun _ => ?_⟩
  · exact .of_eq (congrArg (fun src => src.rtcpComputeJitter rtpTs arrival) hsrc)
  · exact congrArg (fun src => src.rtcpComputeJitter rtpTs arrival) hsrc

theorem rtpRxSource (h : ActsLike a b s t) {hdr : RtpHdr} (hmatch : TimingsMatch s t hdr.ssrc)
    (arrival : UInt32) (fromAddr : SockaddrIn) :
    (s.rtpRxSource hdr arrival fromAddr).1 = (t.rtpRxSource hdr arrival fromAddr).1 ∧
      ActsLike a b (s.rtpRxSource hdr arrival fromAddr).2
        (t.rtpRxSource hdr arrival fromAddr).2 := by
  obtain ⟨haccepted, hnext⟩ := h.rtpHandleSsrc hmatch hdr.seq fromAddr false
  simp only [Session.rtpRxSource]
  rw [← haccepted]
  split
  · exact ⟨rfl, hnext⟩
  · rename_i m hm
    obtain ⟨hused, hknown⟩ := known_of_rtpAccepted hm
    rw [← (hnext.member m hused).rtpSrc hknown]
    have hseq := hnext.modifySrc hused (((s.rtpHandleSsrc hdr.ssrc hdr.seq fromAddr
      false).2.member m).rtpSrc.rtpUpdateSeq hdr.seq).2
    split
    · exact ⟨rfl, hseq.off (.setRtpError _)⟩
    · refine ⟨rfl, ?_⟩
      have hjitter := hseq.computeJitter hused (by
        rw [member_modifyMember, if_pos rfl]
        exact hknown) hdr.ts arrival
      exact hjitter.modifyUsed (hjitter.member m hused).setValidated

theorem rtpHandleCsrc (h : ActsLike a b s t) {csrc : UInt32} (hmatch : TimingsMatch s t csrc)
    (seq : UInt16) (fromAddr : SockaddrIn) (rtpTs arrival : UInt32) :
    ActsLike a b (Session.rtpHandleCsrc seq fromAddr rtpTs arrival s csrc)
      (Session.rtpHandleCsrc seq fromAddr rtpTs arrival t csrc) := by
  obtain ⟨haccepted, hnext⟩ := h.rtpHandleSsrc hmatch seq fromAddr true
  simp only [Session.rtpHandleCsrc]
  rw [← haccepted]
  split
  · exact hnext
  · rename_i m hm
    obtain ⟨hused, hknown⟩ := known_of_rtpAccepted hm
    exact hnext.computeJitter hused hknown rtpTs arrival

/-- The leftovers a data packet brings into play, source by source, are the same in both sessions. -/
def RtpMatches (s t : Session) (pkt : ByteMem) (len : UInt32) (fromAddr : SockaddrIn) : Prop :=
  let hdr := rtpHdrOf pkt
  let arrival := s.rtpSessionTimestamp.1
  let s := s.rtpSessionTimestamp.2
  let t := t.rtpSessionTimestamp.2
  ((rtpHeaderValidityCheck len s.config.pt).val pkt).toBool = true →
    TimingsMatch s t hdr.ssrc ∧
      ((s.rtpRxSource hdr arrival fromAddr).1 = true →
        Runs.Guarded (Runs.both (Session.rtpHandleCsrc hdr.seq fromAddr hdr.ts arrival))
          (fun p csrc => TimingsMatch p.1 p.2 csrc)
          ((s.rtpRxSource hdr arrival fromAddr).2, (t.rtpRxSource hdr arrival fromAddr).2) hdr.csrc)

theorem rtpRx (h : ActsLike a b s t) {pkt : ByteMem} {len : UInt32} {fromAddr : SockaddrIn}
    (hmatch : RtpMatches s t pkt len fromAddr) :
    ActsLike a b ((s.rtpRx len fromAddr).val pkt) ((t.rtpRx len fromAddr).val pkt) := by
  have hclock := h.off .rtpSessionTimestamp
  have harrival : s.rtpSessionTimestamp.1 = t.rtpSessionTimestamp.1 :=
    congrArg (fun x => x.rtpSessionTimestamp.1) h.shell
  have hpt : s.rtpSessionTimestamp.2.config.pt = t.rtpSessionTimestamp.2.config.pt :=
    congrArg (fun x => x.config.pt) hclock.shell
  simp only [RtpMatches] at hmatch
  cases hcheck : (rtpHeaderValidityCheck len s.rtpSessionTimestamp.2.config.pt).val pkt with
  | error e =>
    rw [s.val_rtpRx_of_error hcheck, t.val_rtpRx_of_error (hpt ▸ hcheck)]
    exact hclock.off (f := fun x => { x.setRtpError e with invalidRtpPkt := x.invalidRtpPkt + 1 })
      ⟨fun _ => rfl, fun _ => rfl, fun _ => rfl, fun _ => rfl⟩
  | ok p =>
    obtain ⟨off, payloadLen⟩ := p
    rw [hcheck] at hmatch
    obtain ⟨hssrc, hcsrc⟩ := hmatch rfl
    have hhdr : readRtpHdr.val pkt = rtpHdrOf pkt := rfl
    rw [s.val_rtpRx_of_ok hcheck, t.val_rtpRx_of_ok (hpt ▸ hcheck), hhdr, ← harrival]
    simp only [rtpRxData]
    obtain ⟨hok, hsrc⟩ := hclock.rtpRxSource hssrc s.rtpSessionTimestamp.1 fromAddr
    rw [← hok]
    split
    · exact hsrc
    · rename_i haccepted
      rw [Bool.not_eq_true, Bool.not_eq_false'] at haccepted
      have hlist := (hcsrc haccepted).simulation (fun x y csrc h hmatch =>
        h.rtpHandleCsrc hmatch (rtpHdrOf pkt).seq fromAddr (rtpHdrOf pkt).ts
          s.rtpSessionTimestamp.1) hsrc
      exact (hlist.off (.setRtpError .noError)).emit _

/-! ## Transmits -/

theorem rtpTxCount (h : ActsLike a b s t) (payloadLen : UInt32) :
    ActsLike a b (s.rtpTxCount payloadLen) (t.rtpTxCount payloadLen) := by
  have hsent : s.rtcpVar.weSent = t.rtcpVar.weSent := congrArg (fun x => x.rtcpVar.weSent) h.shell
  have hcount : ∀ s' t', s'.self = s.self → ActsLike a b s' t' →
      ActsLike a b
        { s'.rtpTimersSenderRestart s'.self with
          txPktCount := s'.txPktCount + 1, txOctetCount := s'.txOctetCount + payloadLen }
        { t'.rtpTimersSenderRestart t'.self with
          txPktCount := t'.txPktCount + 1, txOctetCount := t'.txOctetCount + payloadLen } := by
    intro s' t' _ h'
    exact h'.off (f := fun x =>
      { x.rtpTimersSenderRestart x.self with
        txPktCount := x.txPktCount + 1, txOctetCount := x.txOctetCount + payloadLen })
      ⟨fun _ => rfl, fun _ => rfl, fun _ => rfl, fun _ => rfl⟩
  simp only [Session.rtpTxCount, ← hsent]
  split
  · exact hcount s t rfl h
  · refine hcount _ _ rfl ?_
    have hown : s.selfMember.setSender.OwnAlike t.selfMember.setSender :=
      ⟨h.own.ssrc, rfl, h.own.cname⟩
    have hsender : ActsLike a b ((s.setWeSent true).modifyMember s.self RtpMember.setSender)
        ((t.setWeSent true).modifyMember t.self RtpMember.setSender) := by
      rw [selfMember, selfMember] at hown
      rw [← h.self] at hown ⊢
      exact (h.off (.setWeSent true)).modify (fun _ => hown) fun hm => (h.member _ hm).setSender
    exact hsender.off (.rtpEvent false true)

theorem rtpTx (h : ActsLike a b s t) (payload : ByteMem) (payloadLen rtpTs : UInt32)
    (csrc : Nat → UInt32) (ncsrc : UInt8) :
    ActsLike a b (s.rtpTx payload payloadLen rtpTs csrc ncsrc)
      (t.rtpTx payload payloadLen rtpTs csrc ncsrc) := by
  have hcount := h.rtpTxCount payloadLen
  have hbuild : (s.rtpTxCount payloadLen).rtpTxBuild payload payloadLen rtpTs csrc ncsrc =
      (t.rtpTxCount payloadLen).rtpTxBuild payload payloadLen rtpTs csrc ncsrc := by
    have halign : (s.rtpTxCount payloadLen).config.alignBy4 =
        (t.rtpTxCount payloadLen).config.alignBy4 := congrArg (fun x => x.config.alignBy4) hcount.shell
    have hpt : (s.rtpTxCount payloadLen).config.pt = (t.rtpTxCount payloadLen).config.pt :=
      congrArg (fun x => x.config.pt) hcount.shell
    have hseq : (s.rtpTxCount payloadLen).seq = (t.rtpTxCount payloadLen).seq :=
      congrArg (fun x => x.seq) hcount.shell
    simp only [rtpTxBuild, rtpTxHdrStores, halign, hpt, hseq, hcount.own.ssrc]
  simp only [Session.rtpTx]
  rw [← hbuild]
  have hstored : ∀ i, (∃ size, ((s.rtpTxCount payloadLen).rtpTxBuild payload payloadLen rtpTs csrc
      ncsrc).2 = some size ∧ i < size) →
      i ∈ ((s.rtpTxCount payloadLen).rtpTxBuild payload payloadLen rtpTs csrc ncsrc).1.map
        Prod.fst := by
    rintro i ⟨size, hsize, hi⟩
    exact mem_rtpTxBuild hsize hi
  generalize (s.rtpTxCount payloadLen).rtpTxBuild payload payloadLen rtpTs csrc ncsrc = build
    at hstored
  have hput := hcount.off (f := fun x =>
    { x with
      rtpPkt := build.1.foldl (fun m w => m.store w.1 w.2) x.rtpPkt
      undef := x.undef || build.1.any fun w => rtpPktLen ≤ w.1 })
    ⟨fun _ => rfl, fun _ => rfl, fun _ => rfl, fun _ => rfl⟩
  cases hsize : build.2 with
  | none => exact hput
  | some size =>
      have hpkt : (build.1.foldl (fun m w => m.store w.1 w.2)
          (s.rtpTxCount payloadLen).rtpPkt).slice 0 size =
          (build.1.foldl (fun m w => m.store w.1 w.2)
            (t.rtpTxCount payloadLen).rtpPkt).slice 0 size :=
        ByteMem.slice_congr fun i _ hi =>
          foldl_store_congr _ (Or.inl (hstored i ⟨size, hsize, by omega⟩))
      have hsent := hput.emit (.txRtp ((build.1.foldl (fun m w => m.store w.1 w.2)
        (s.rtpTxCount payloadLen).rtpPkt).slice 0 size))
      have hnext := hsent.off (f := fun x => { x with seq := x.seq + 1 })
        ⟨fun _ => rfl, fun _ => rfl, fun _ => rfl, fun _ => rfl⟩
      simp only
      rw [← hpkt]
      exact hnext

/-! ## Reports -/

theorem dlsr (h : ActsLike a b s t) {x y : RtpMember} (hxy : x.ActsLike y) :
    (s.dlsr x).1 = (t.dlsr y).1 ∧ ActsLike a b (s.dlsr x).2 (t.dlsr y).2 := by
  have hnow : s.ntpTsNow.1 = t.ntpTsNow.1 := congrArg (fun x => x.ntpTsNow.1) h.shell
  simp only [Session.dlsr, ← hxy.lastSrLocalTime, ← hnow]
  split
  · exact ⟨rfl, h⟩
  · exact ⟨rfl, h.off .ntpTsNow⟩

/-- The same report block is made of a member, and its interval is closed in both sessions. -/
theorem rrOf (h : ActsLike a b s t) {m : Slot} (hm : m ∈ s.usedList) :
    (s.rrOf m).1 = (t.rrOf m).1 ∧ ActsLike a b (s.rrOf m).2 (t.rrOf m).2 := by
  have hx := h.member m hm
  have hclose : ActsLike a b
      (s.modifyMember m fun x => { x with rtpSrc := x.rtpSrc.closeInterval })
      (t.modifyMember m fun x => { x with rtpSrc := x.rtpSrc.closeInterval }) :=
    h.modifyUsed ⟨hx.ssrc, hx.flags, hx.cname, hx.lastSr, hx.lastSrLocalTime,
      hx.report.closeInterval, hx.rtcpAddr, hx.rtpAddr, fun hknown =>
        congrArg RtpSource.closeInterval (hx.rtpSrc hknown)⟩
  obtain ⟨hdlsr, hnext⟩ := hclose.dlsr hx
  refine ⟨?_, hnext⟩
  simp only [Session.rrOf, RtcpRr.mk.injEq]
  refine ⟨hx.ssrc, hx.report.fractionLost, hx.report.lost, hx.report.extendedMax,
    hx.report.jitter, ?_, hdlsr⟩
  rw [RtpMember.lsr, RtpMember.lsr, hx.lastSr]

open RtcpEncoder

variable {cap : Nat} {done : List UInt8} {pt : UInt8}

/-- The loop over the members makes the same blocks, whatever the two buffers held before. -/
theorem sendReportGenRr (base : Nat) (hcap : cap < 32 * 24) (ms : List Slot) :
    ∀ {count : Nat} {body : List UInt8} {re re' : RtcpEncoder} {s t : Session},
      ActsLike a b s t → (∀ m ∈ ms, m ∈ s.usedList) → Building re cap done count pt body →
      Building re' cap done count pt body → 4 + body.length = base + 24 * count →
      (rtcpSendReportGenRr (addRr base) ms re s).1 =
          (rtcpSendReportGenRr (addRr base) ms re' t).1 ∧
        ActsLike a b (rtcpSendReportGenRr (addRr base) ms re s).2.2
          (rtcpSendReportGenRr (addRr base) ms re' t).2.2 ∧
        ∃ count' body', 4 + body'.length = base + 24 * count' ∧
          Building (rtcpSendReportGenRr (addRr base) ms re s).2.1 cap done count' pt body' ∧
          Building (rtcpSendReportGenRr (addRr base) ms re' t).2.1 cap done count' pt body' := by
  induction ms with
  | nil => exact fun h _ hre hre' hbase => ⟨rfl, h, _, _, hbase, hre, hre'⟩
  | cons m ms ih =>
      intro count body re re' s t h hms hre hre' hbase
      have hm := hms m (List.mem_cons_self ..)
      have hreportable : Reportable (t.member m) = Reportable (s.member m) := by
        rw [Reportable, Reportable, (h.member m hm).flags]
      simp only [rtcpSendReportGenRr, hreportable]
      obtain ⟨hrr, hnext⟩ := h.rrOf hm
      have hused : (s.rrOf m).2.usedList = s.usedList := (Quiet.rrOf s m).usedList
      have hms' : ∀ j ∈ ms, j ∈ (s.rrOf m).2.usedList := by
        intro j hj
        rw [hused]
        exact hms j (List.mem_cons_of_mem _ hj)
      split
      · rw [← hrr]
        by_cases hroom : done.length + 4 + body.length + 24 ≤ cap
        · obtain ⟨re₁, hadd, h₁⟩ := hre.addRr hbase (by omega) hroom (s.rrOf m).1
          obtain ⟨re₁', hadd', h₁'⟩ := hre'.addRr hbase (by omega) hroom (s.rrOf m).1
          simp only [hadd, hadd', if_true]
          exact ih hnext hms' h₁ h₁' (by simp; omega)
        · simp only [hre.addRr_full (Nat.lt_of_not_le hroom) (s.rrOf m).1,
            hre'.addRr_full (Nat.lt_of_not_le hroom) (s.rrOf m).1]
          exact ⟨rfl, hnext, _, _, hbase, hre, hre'⟩
      · exact ih h (fun j hj => hms j (List.mem_cons_of_mem _ hj)) hre hre' hbase

theorem sendReportFirst (h : ActsLike a b s t) {re re' : RtcpEncoder}
    (hre : Complete re rtpConfigRtcpEncoderBufferLen [])
    (hre' : Complete re' rtpConfigRtcpEncoderBufferLen []) (ts : NtpTs) (rtpTs : UInt32) :
    (s.rtcpSendReportFirst re ts rtpTs).1 = (t.rtcpSendReportFirst re' ts rtpTs).1 ∧
      ActsLike a b (s.rtcpSendReportFirst re ts rtpTs).2.2
        (t.rtcpSendReportFirst re' ts rtpTs).2.2 ∧
      ∃ count pt body, body.length % 4 = 0 ∧
        Building (s.rtcpSendReportFirst re ts rtpTs).2.1 rtpConfigRtcpEncoderBufferLen [] count pt
          body ∧
        Building (t.rtcpSendReportFirst re' ts rtpTs).2.1 rtpConfigRtcpEncoderBufferLen [] count pt
          body := by
  have hcounts : s.txPktCount = t.txPktCount ∧ s.txOctetCount = t.txOctetCount :=
    ⟨congrArg (fun x => x.txPktCount) h.shell, congrArg (fun x => x.txOctetCount) h.shell⟩
  have hused : t.usedList = s.usedList := h.usedList.symm
  simp only [rtcpSendReportFirst, ← h.own.sender, ← h.own.ssrc, ← hcounts.1, ← hcounts.2, hused]
  split
  · obtain ⟨re₁, hbegin, h₁⟩ := hre.srBegin (by decide) s.selfMember.ssrc ts.second ts.fraction rtpTs
      s.txPktCount s.txOctetCount
    obtain ⟨re₁', hbegin', h₁'⟩ := hre'.srBegin (by decide) s.selfMember.ssrc ts.second ts.fraction
      rtpTs s.txPktCount s.txOctetCount
    simp only [hbegin, hbegin', if_true]
    obtain ⟨hok, hnext, count, body, hbase, h₂, h₂'⟩ :=
      sendReportGenRr 28 (by decide) s.usedList h (fun _ => id) h₁ h₁' (by simp)
    exact ⟨hok, hnext, count, _, body, by omega, h₂, h₂'⟩
  · obtain ⟨re₁, hbegin, h₁⟩ := hre.rrBegin (by decide) s.selfMember.ssrc
    obtain ⟨re₁', hbegin', h₁'⟩ := hre'.rrBegin (by decide) s.selfMember.ssrc
    simp only [hbegin, hbegin', if_true]
    obtain ⟨hok, hnext, count, body, hbase, h₂, h₂'⟩ :=
      sendReportGenRr 8 (by decide) s.usedList h (fun _ => id) h₁ h₁' (by simp)
    exact ⟨hok, hnext, count, _, body, by omega, h₂, h₂'⟩

theorem selfCname_eq (h : ActsLike a b s t) : s.selfCname = t.selfCname := by
  rw [selfCname, selfCname, ← h.own.cname.1]
  exact ByteMem.slice_congr fun i _ hi => h.own.cname.2 i (by omega)

theorem sendReportRest (h : ActsLike a b s t) {re re' : RtcpEncoder} {count : Nat}
    {body : List UInt8} (hre : Building re cap [] count pt body)
    (hre' : Building re' cap [] count pt body) (halign : body.length % 4 = 0) :
    (s.rtcpSendReportRest re).1 = (t.rtcpSendReportRest re').1 ∧
      ActsLike a b (s.rtcpSendReportRest re).2 (t.rtcpSendReportRest re').2 := by
  have hlen := h.own.cname.1
  by_cases hroom : 4 + body.length + sdesSize s.selfMember.cnameLen.toNat ≤ cap
  · rw [s.rtcpSendReportRest_fits hre halign hroom,
      t.rtcpSendReportRest_fits hre' halign (by rw [← hlen]; exact hroom), ← hlen,
      ← h.own.ssrc, ← h.selfCname_eq]
    exact ⟨rfl, h.emit _⟩
  · rw [Nat.not_le] at hroom
    rw [s.rtcpSendReportRest_full hre halign hroom,
      t.rtcpSendReportRest_full hre' halign (by rw [← hlen]; exact hroom)]
    exact ⟨rfl, h⟩

/-- The same report is sent, or dropped, in both sessions. -/
theorem sendReport (h : ActsLike a b s t) :
    s.rtcpSendReport.1 = t.rtcpSendReport.1 ∧
      ActsLike a b s.rtcpSendReport.2 t.rtcpSendReport.2 := by
  have hclock := ((h.emit .logRtcpTx).off .ntpTsNow).off .rtpSessionTimestamp
  have hstart : ActsLike a b s.reportStart t.reportStart := hclock
  have hts : s.ntpTsNow.1 = t.ntpTsNow.1 := congrArg (fun x => x.ntpTsNow.1) h.shell
  have hrtpTs : s.rtpSessionTimestamp.1 = t.rtpSessionTimestamp.1 :=
    congrArg (fun x => x.rtpSessionTimestamp.1) h.shell
  obtain ⟨hok, hfirst, count, pt, body, halign, hre, hre'⟩ := hstart.sendReportFirst
    (Complete.init s.env.stack rtpConfigRtcpEncoderBufferLen)
    (Complete.init t.env.stack rtpConfigRtcpEncoderBufferLen) s.ntpTsNow.1
    s.rtpSessionTimestamp.1
  rw [rtcpSendReport_eq, rtcpSendReport_eq]
  simp only [← hts, ← hrtpTs, ← hok]
  split
  · exact ⟨rfl, hfirst⟩
  · exact hfirst.sendReportRest hre hre' halign

/-! ## Timers -/

theorem intervalTimeout (h : ActsLike a b s t) :
    ActsLike a b s.rtcpIntervalTimeout t.rtcpIntervalTimeout := by
  have htc : s.rtcpCurrentTime = t.rtcpCurrentTime := congrArg (fun x => x.rtcpCurrentTime) h.shell
  have hdraw := h.off .drawInterval
  have ht : s.drawInterval.1 = t.drawInterval.1 := congrArg (fun x => x.drawInterval.1) h.shell
  have htp : s.drawInterval.2.rtcpVar.tp = t.drawInterval.2.rtcpVar.tp :=
    congrArg (fun x => x.rtcpVar.tp) hdraw.shell
  simp only [rtcpIntervalTimeout, ← htc, ← ht, ← htp]
  split
  · obtain ⟨hsize, hsent⟩ := hdraw.sendReport
    rw [← hsize]
    have hsched := hsent.off (f := fun x =>
      { x with
        rtcpVar :=
          { x.rtcpVar with
            avgRtcpSize := 1 / 16 * (s.drawInterval.2.rtcpSendReport.1.toNat : ℚ) +
              15 / 16 * x.rtcpVar.avgRtcpSize
            tp := s.rtcpCurrentTime } })
      ⟨fun _ => rfl, fun _ => rfl, fun _ => rfl, fun _ => rfl⟩
    exact hsched.off (f := fun x =>
      { x.drawInterval.2.rtcpIntervalSchedule s.rtcpCurrentTime
          (x.drawInterval.1.map fun t => t + s.rtcpCurrentTime) with
        rtcpVar :=
          { (x.drawInterval.2.rtcpIntervalSchedule s.rtcpCurrentTime
              (x.drawInterval.1.map fun t => t + s.rtcpCurrentTime)).rtcpVar with
            initial := false } })
      ⟨fun _ => rfl, fun _ => rfl, fun _ => rfl, fun _ => rfl⟩
  · exact hdraw.off (.schedule _ _)

theorem memberTimedout (h : ActsLike a b s t) {m : Slot} (hm : m ∈ s.usedList) :
    ActsLike a b (s.rtcpIntervalMemberTimedout m) (t.rtcpIntervalMemberTimedout m) := by
  rw [rtcpIntervalMemberTimedout, rtcpIntervalMemberTimedout, ← (h.member m hm).flags]
  exact (h.off (.rtcpEvent _ _ _)).dealloc m

theorem senderTimedout (h : ActsLike a b s t) (m : Slot) :
    ActsLike a b (s.rtcpIntervalSenderTimedout m) (t.rtcpIntervalSenderTimedout m) := by
  have hheard : ActsLike a b (s.modifyMember m RtpMember.clearRtpHeard)
      (t.modifyMember m RtpMember.clearRtpHeard) := by
    refine h.modify (fun hown => ?_) fun hm => (h.member m hm).clearRtpHeard
    have hs := h.own
    rw [selfMember, selfMember, ← h.self, ← hown] at hs
    exact ⟨hs.ssrc, hs.sender, hs.cname⟩
  simp only [rtcpIntervalSenderTimedout]
  rw [← hheard.self]
  split
  · rename_i hown
    refine ActsLike.off (.rtcpEvent .timeout ⟨false, true⟩ 0) ?_
    have hsender : ActsLike a b
        ((s.modifyMember m RtpMember.clearRtpHeard).modifyMember m RtpMember.clearSender)
        ((t.modifyMember m RtpMember.clearRtpHeard).modifyMember m RtpMember.clearSender) := by
      refine hheard.modify (fun _ => ?_) fun hm => (hheard.member m hm).clearSender
      have hs := hheard.own
      rw [selfMember, selfMember, ← hheard.self, hown] at hs
      exact ⟨hs.ssrc, rfl, hs.cname⟩
    exact hsender.off (.setWeSent false)
  · exact hheard.off (.rtcpEvent .timeout ⟨false, true⟩ 0)

end ActsLike

end Session

/-! ## Whose member timer runs -/

/-- A member timer runs only for a slot in the table. -/
def Ledger.MemberTimersUsed (l : Ledger) : Prop :=
  ∀ m, (l.entry m).memberTe = true → (l.entry m).used = true

theorem Ledger.MemberTimersUsed.put {l : Ledger} (h : l.MemberTimersUsed) {m : Slot} {e : Entry}
    (he : e.memberTe = true → e.used = true) : (l.put m e).MemberTimersUsed := by
  intro j
  by_cases hj : j = m
  · subst hj
    rw [Ledger.entry_put_self]
    exact he
  · rw [Ledger.entry_put_of_ne l hj]
    exact h j

theorem Ledger.MemberTimersUsed.apply {l : Ledger} (h : l.MemberTimersUsed) {e : Ledger.Event}
    (he : l.Enabled e) : (l.apply e).MemberTimersUsed := by
  have hpresent : ∀ m, (l.entry m).present = true → (l.entry m).used = true := fun m hm =>
    (Bool.and_eq_true_iff.1 hm).1
  cases e with
  | idle => exact h
  | join m sending => exact h.put fun _ => rfl
  | hear m data => exact h.put fun _ => hpresent m he.1
  | speak m => exact h.put fun _ => hpresent m he.1
  | quit m => exact h.put fun hte => by simp at hte
  | transmit => exact h.put (h l.self)
  | memberExpired m => exact h.put fun hte => by simp [Ledger.vacate] at hte
  | senderExpired m => exact h.put (h m)
  | leaveExpired m => exact h.put fun hte => by simp [Ledger.vacate] at hte

namespace Session

variable {a b : List Output} {s t : Session}

theorem memberTimersUsed_rules : ActRules (fun s => s.ledger.MemberTimersUsed) .any :=
  ledger_rules fun h he => h.apply he

theorem memberTimersUsed_runSession (mem : Session) (config : RtpSessionConfig) (ops : List Op) :
    (runSession mem config ops).ledger.MemberTimersUsed := by
  apply memberTimersUsed_rules.run_any
  have hkept := kept_rtpSessionInit mem config
  intro m hte
  by_cases hm : m = (mem.rtpSessionInit config).ledger.self
  · subst hm
    rw [hkept.2.memberTe] at hte
    exact absurd hte (by decide)
  · rw [(hkept.1.remote m hm).memberTe] at hte
    exact (Bool.and_eq_true_iff.1 hte).1

/-! ## Steps and runs -/

namespace ActsLike

/-- What fires does the same in both sessions: a member timer only fires for a member in the table. -/
theorem fire (h : ActsLike a b s t) (htimers : s.ledger.MemberTimersUsed) {e : TimerElem}
    {rest : List TimerElem} (htop : s.softTimer.timeoutList = e :: rest) :
    ActsLike a b (timerCallback e (s.setTimer s.softTimer.popTimeout))
      (timerCallback e (t.setTimer t.softTimer.popTimeout)) := by
  have hpop := h.off .popTimeout
  cases e with
  | rtcp => exact hpop.intervalTimeout
  | member m =>
      have hrun : s.isSoftTimerRunning (.member m) = true :=
        decide_eq_true (Or.inr (by rw [htop]; exact List.mem_cons_self ..))
      have hused : m ∈ s.usedList := of_decide_eq_true (htimers m hrun)
      exact hpop.memberTimedout hused
  | sender m => exact hpop.senderTimedout m
  | leave m => exact hpop.dealloc m
  | conflict c =>
      exact hpop.off (f := fun x =>
        { x with srcConflict := x.srcConflict.rtpSourceConflictTimerExpired c })
        ⟨fun _ => rfl, fun _ => rfl, fun _ => rfl, fun _ => rfl⟩

theorem tick (h : ActsLike a b s t) (htimers : s.ledger.MemberTimersUsed) :
    ActsLike a b s.rtpSessionTimerTick t.rtpSessionTimerTick := by
  let R := fun s t => ActsLike a b s t ∧ s.ledger.MemberTimersUsed
  have hdrive : R s.rtpSessionTimerTick t.rtpSessionTimerTick :=
    SoftTimer.softTimerDrive_simulation (fun _ _ h => h.1.timer)
      (fun _ _ h => ⟨h.1.off .expire, memberTimersUsed_rules.expire h.2 trivial⟩)
      (fun _ _ _ _ htop h => ⟨h.1.fire h.2 htop, memberTimersUsed_rules.fire htop h.2 trivial⟩)
      ⟨h, htimers⟩
  exact hdrive.1

end ActsLike

/-- Whatever leftovers a call brings into play are the same in both sessions. -/
def LeftoversMatch (p : Session × Session) : Op → Prop
  | .rxRtp pkt len fromAddr => ActsLike.RtpMatches p.1 p.2 pkt len fromAddr
  | .rxRtcp pkt len fromAddr => ActsLike.RtcpMatches p.1 p.2 pkt len fromAddr
  | .tx .. => True
  | .tick => True

instance decidableLeftoversMatch (p : Session × Session) : (op : Op) → Decidable (LeftoversMatch p op)
  | .rxRtp _ _ _ => inferInstanceAs (Decidable (_ → _ ∧ (_ → Runs.Guarded _ _ _ _)))
  | .rxRtcp _ _ _ => inferInstanceAs (Decidable (Runs.Guarded _ _ _ _))
  | .tx .. => isTrue trivial
  | .tick => isTrue trivial

theorem ActsLike.step (h : ActsLike a b s t) (htimers : s.ledger.MemberTimersUsed) {op : Op}
    (hmatch : LeftoversMatch (s, t) op) : ActsLike a b (Prtp.step s op) (Prtp.step t op) := by
  cases op with
  | rxRtp pkt len fromAddr => exact h.rtpRx hmatch
  | rxRtcp pkt len fromAddr => exact h.rtcpRx hmatch
  | tx payload payloadLen rtpTs csrc ncsrc => exact h.rtpTx payload payloadLen rtpTs csrc ncsrc
  | tick => exact h.tick htimers

/-- A session that goes on with other clocks and random values. -/
def withEnv (s : Session) (env : Env) : Session := { s with env := env }

/-- Two sessions, equal but for what is in their free slots. -/
structure SameButFree (s t : Session) : Prop where
  shell : s.shell = t.shell
  member : ∀ m ∈ s.usedList, (s.member m).SameRecord (t.member m)

/-- Two reachable sessions that are equal but for what earlier occupants left in free slots hand out
    the same in every run that brings no differing leftovers into play: no member is made by RTCP in
    a slot whose counts make another report block, none is first heard by RTP in a slot with another
    jitter or transit time, and the session's own slot was not given up with another SSRC, CNAME or
    sender flag in it. -/
theorem leftovers_unseen (mem mem' : Session) (config config' : RtpSessionConfig)
    (pre pre' : List Op) (env env' : Env) (ops : List Op)
    (hsame : SameButFree ((runSession mem config pre).withEnv env)
      ((runSession mem' config' pre').withEnv env'))
    (hown : (runSession mem config pre).self ∈ (runSession mem config pre).freeList →
      (runSession mem config pre).selfMember.OwnAlike (runSession mem' config' pre').selfMember)
    (hmatch : Runs.Guarded (Runs.both step) LeftoversMatch
      ((runSession mem config pre).withEnv env, (runSession mem' config' pre').withEnv env') ops) :
    ∃ o, (Runs.run step ((runSession mem config pre).withEnv env) ops).out =
        (runSession mem config pre).out ++ o ∧
      (Runs.run step ((runSession mem' config' pre').withEnv env') ops).out =
        (runSession mem' config' pre').out ++ o := by
  have htimers : ((runSession mem config pre).withEnv env).ledger.MemberTimersUsed :=
    memberTimersUsed_runSession mem config pre
  generalize runSession mem config pre = s at hsame hown hmatch htimers ⊢
  generalize runSession mem' config' pre' = t at hsame hown hmatch ⊢
  have hself : s.self = t.self := congrArg (fun x => x.self) hsame.shell
  have hstart : ActsLike s.out t.out (s.withEnv env) (t.withEnv env') := by
    refine ⟨hsame.shell, ⟨[], by simp [withEnv], by simp [withEnv]⟩, ?_, fun m hm => ?_⟩
    · by_cases hfree : s.self ∈ s.freeList
      · exact hown hfree
      · have hused : s.self ∈ s.usedList := by
          rwa [mem_freeList_iff, not_not] at hfree
        have hrecord : (s.member s.self).SameRecord (t.member s.self) := hsame.member _ hused
        show s.selfMember.OwnAlike t.selfMember
        rw [selfMember, selfMember, ← hself]
        exact hrecord.actsLike.own
    · exact (hsame.member m hm).actsLike
  have hends := hmatch.simulation
    (R := fun s t => ActsLike _ _ s t ∧ s.ledger.MemberTimersUsed)
    (fun s t op h hop => ⟨h.1.step h.2 hop,
      memberTimersUsed_rules.step s op h.2 (ActGuard.any_admits s op)⟩) ⟨hstart, htimers⟩
  exact hends.1.out

/-! ## A slot used twice -/

/-- SSRC 9 sends one data packet, leaves, and its slot is freed. -/
def onePacket (seq : UInt8) : List Op :=
  .rxRtp (pktOf [128, 0, 0, seq, 0, 0, 0, 0, 0, 0, 0, 9]) 12 (.ofPort 7) ::
    .rxRtcp (byeFor 9) 16 (.ofPort 7) :: List.replicate 31 .tick

/-- A RR from SSRC 9, an SDES of 29 chunks, and a BYE for all of their SSRCs: thirty slots are taken,
    and none of them is reported. -/
def crowd : Op :=
  .rxRtcp
    (pktOf
      ([128, 201, 0, 1, 0, 0, 0, 9] ++ [157, 202, 0, 58] ++
        ((List.range 29).flatMap fun i => [0, 0, 1, UInt8.ofNat i, 0, 0, 0, 0]) ++
        [158, 203, 0, 30, 0, 0, 0, 9] ++
        (List.range 29).flatMap fun i => [0, 0, 1, UInt8.ofNat i]))
    368 (.ofPort 7)

/-- A run of these on zeroed memory, with the clocks standing still. -/
def runStill (ops : List Op) : Session := runSession (zeroed (.still .zero)) (plainConfig 1000 4) ops

/-- Whether the packet had sequence number 7 or 8 shows in the freed slot only. -/
theorem sameButFree_onePacket :
    SameButFree ((runStill (onePacket 7)).withEnv (.still .zero))
      ((runStill (onePacket 8)).withEnv (.still .zero)) := by
  have htimer : (runStill (onePacket 7)).softTimer = (runStill (onePacket 8)).softTimer := by
    refine SoftTimer.ext (by decide +kernel) (by decide +kernel) (funext fun e => ?_)
      (funext fun b => ?_) (by decide +kernel)
    · cases e with
      | rtcp => decide +kernel
      | member m | sender m | leave m => revert m; decide +kernel
      | conflict c => revert c; decide +kernel
    · revert b
      decide +kernel
  have hpool : (runStill (onePacket 7)).memberTable.pool =
      (runStill (onePacket 8)).memberTable.pool :=
    Pool.ext (by decide +kernel) (by decide +kernel)
  have hconflict : (runStill (onePacket 7)).srcConflict = (runStill (onePacket 8)).srcConflict := by
    refine RtpSourceConflictTable.ext (funext fun c => ?_)
      (Pool.ext (by decide +kernel) (by decide +kernel))
    revert c
    decide +kernel
  constructor
  · simp only [shell, withEnv, Session.mk.injEq, RtpMemberTable.mk.injEq, RtcpControlVar.mk.injEq,
      RtpSessionConfig.mk.injEq, htimer, hpool, hconflict, true_and, and_true]
    decide +kernel
  · decide +kernel

/-- A member made by a data packet in the slot the two packets went into is reported alike. -/
theorem leftovers_unseen_by_rtp :
    ∃ o, (Runs.run step ((runStill (onePacket 7)).withEnv (.still .zero))
        (crowd :: .rxRtp (rtpFrom 200) 12 (.ofPort 8) :: List.replicate 10 .tick)).out =
        (runStill (onePacket 7)).out ++ o ∧
      (Runs.run step ((runStill (onePacket 8)).withEnv (.still .zero))
        (crowd :: .rxRtp (rtpFrom 200) 12 (.ofPort 8) :: List.replicate 10 .tick)).out =
        (runStill (onePacket 8)).out ++ o :=
  leftovers_unseen (zeroed (.still .zero)) (zeroed (.still .zero)) (plainConfig 1000 4)
    (plainConfig 1000 4) (onePacket 7) (onePacket 8) (.still .zero) (.still .zero) _
    sameButFree_onePacket (by decide +kernel) (by decide +kernel)

/-- A member made by RTCP in that slot, which never sends data, is reported with the highest sequence
    number of the slot's last occupant. -/
theorem leftovers_reported :
    ¬ ∀ (mem mem' : Session) (config config' : RtpSessionConfig) (pre pre' : List Op)
      (env env' : Env), SameButFree ((runSession mem config pre).withEnv env)
        ((runSession mem' config' pre').withEnv env') → ∀ ops,
      ∃ o, (Runs.run step ((runSession mem config pre).withEnv env) ops).out =
          (runSession mem config pre).out ++ o ∧
        (Runs.run step ((runSession mem' config' pre').withEnv env') ops).out =
          (runSession mem' config' pre').out ++ o := by
  intro h
  obtain ⟨o, ho, ho'⟩ := h _ _ _ _ (onePacket 7) (onePacket 8) (.still .zero) (.still .zero)
    sameButFree_onePacket (crowd :: .rxRtcp (rrFrom 200) 8 (.ofPort 8) :: List.replicate 10 .tick)
  have hbefore : (runStill (onePacket 7)).out = (runStill (onePacket 8)).out := by decide +kernel
  have hafter : (Runs.run step ((runStill (onePacket 7)).withEnv (.still .zero))
      (crowd :: .rxRtcp (rrFrom 200) 8 (.ofPort 8) :: List.replicate 10 .tick)).out =
      (Runs.run step ((runStill (onePacket 8)).withEnv (.still .zero))
        (crowd :: .rxRtcp (rrFrom 200) 8 (.ofPort 8) :: List.replicate 10 .tick)).out :=
    ho.trans ((congrArg (fun x => x ++ o) hbefore).trans ho'.symm)
  revert hafter
  decide +kernel

end Session

end Prtp
