import Prtp.Exchange
import Prtp.MemberRecords

set_option autoImplicit false

/-! # Where everything a party knows comes from

In an exchange nothing is made up. What a session's callbacks are given and what its records hold about
other sources goes back, field by field, to calls that were made somewhere and sent something: a payload
to a transmit, a report block to a report and a member of its sender's table, a record to the packets that
named it. Losses, duplicates and delays of the network do not matter.

Two such facts are combined in `FromLog`, since the blocks of a report go back to the records of its
sender, which in turn go back to what that session has heard. -/

namespace Prtp

open ByteReader

/-! ## The facts -/

/-- The SSRCs a call's datagram names. -/
def Origin.names : Origin → List UInt32
  | .data s _ _ _ csrc ncsrc => s.selfMember.ssrc :: (List.range ncsrc.toNat).map csrc
  | .report s => [s.selfMember.ssrc]

/-- The middle 32 bits of a NTP time, as a report block carries them. -/
def NtpTs.middle (ts : NtpTs) : UInt32 := (ts.second <<< 16) ||| (ts.fraction >>> 16)

namespace Exchange

variable {ι : Type}

/-- Somebody made this call, and it sent something. -/
def Issued (log : SentLog ι) (o : Origin) : Prop := (∃ i, (i, o) ∈ log) ∧ ∃ d, o.Sends d

/-- A data packet with this source or contributing source was sent. -/
def NamedByData (log : SentLog ι) (ssrc : UInt32) : Prop :=
  ∃ s payload payloadLen rtpTs csrc ncsrc,
    Issued log (.data s payload payloadLen rtpTs csrc ncsrc) ∧
      ssrc ∈ (Origin.data s payload payloadLen rtpTs csrc ncsrc).names

/-- A report of `s`, which then had the given SSRC, was sent. -/
def ReportedBy (log : SentLog ι) (ssrc : UInt32) (s : Session) : Prop :=
  Issued log (.report s) ∧ s.selfMember.ssrc = ssrc

/-- A record's SR fields are those of a SR that a session with the record's SSRC sent. -/
def SrFrom (log : SentLog ι) (x : RtpMember) : Prop :=
  ∃ s, ReportedBy log x.ssrc s ∧ s.selfMember.flags.sender = true ∧ x.lastSr = s.ntpTsNow.1 ∧
    x.rtpTs = s.rtpSessionTimestamp.1 ∧ x.pktCount = s.txPktCount ∧ x.octetCount = s.txOctetCount

/-- What a record holds about its source is what was sent under that SSRC. -/
structure RecordFrom (log : SentLog ι) (x : RtpMember) : Prop where
  present : x.flags.byeReceived = false
  named : NamedByData log x.ssrc ∨ ∃ s, ReportedBy log x.ssrc s
  rtpHeard : x.flags.rtpHeard = true → NamedByData log x.ssrc
  rtcpHeard : x.flags.rtcpHeard = true → ∃ s, ReportedBy log x.ssrc s
  lastSr : x.lastSr = ntpTsInit ∨ SrFrom log x
  cname : x.cnameLen = 0 ∨
    ∃ s, ReportedBy log x.ssrc s ∧ x.cname.slice 0 x.cnameLen.toNat = s.selfCname

/-- What a callback is given is what was sent. -/
def OutputFrom (log : SentLog ι) : Output → Prop
  | .rxRtp report => ∃ s payload payloadLen rtpTs csrc ncsrc,
      Issued log (.data s payload payloadLen rtpTs csrc ncsrc) ∧
        report = (Origin.hdr s rtpTs csrc ncsrc).report (payload.slice 0 payloadLen.toNat) payloadLen
  | .srRpt fromSsrc sub => ∃ s, ReportedBy log fromSsrc s ∧ s.selfMember.flags.sender = true ∧
      sub = rtcpSubPkt s.sentBlocks.length rtcpSr s.reportBody
  | .rrRpt fromSsrc block => ∃ s, ReportedBy log fromSsrc s ∧
      ∃ m ∈ s.reportable s.usedList, RecordFrom log (s.member m) ∧
        ∃ rr, s.ReportsOn m rr ∧ block = rr.bytes
  | .txRtp _ => True
  | .txRtcp _ => True
  | .logRtcpTx => True

/-- Everything a session has handed out, and holds about others, is what was sent. -/
def FromLog (log : SentLog ι) (_ : ι) (s : Session) : Prop :=
  (∀ o ∈ s.out, OutputFrom log o) ∧ s.Others (RecordFrom log)

/-! ## The log grows -/

section Grows

variable {log log' : SentLog ι} (hlog : ∀ e ∈ log, e ∈ log')

include hlog

theorem Issued.mono {o : Origin} (h : Issued log o) : Issued log' o := by
  obtain ⟨⟨i, hi⟩, hsends⟩ := h
  exact ⟨⟨i, hlog _ hi⟩, hsends⟩

theorem NamedByData.mono {ssrc : UInt32} (h : NamedByData log ssrc) : NamedByData log' ssrc := by
  obtain ⟨s, payload, payloadLen, rtpTs, csrc, ncsrc, hissued, hnames⟩ := h
  exact ⟨s, payload, payloadLen, rtpTs, csrc, ncsrc, hissued.mono hlog, hnames⟩

theorem ReportedBy.mono {ssrc : UInt32} {s : Session} (h : ReportedBy log ssrc s) :
    ReportedBy log' ssrc s :=
  ⟨h.1.mono hlog, h.2⟩

theorem RecordFrom.mono {x : RtpMember} (h : RecordFrom log x) : RecordFrom log' x where
  present := h.present
  named := h.named.imp (·.mono hlog) fun ⟨s, hs⟩ => ⟨s, hs.mono hlog⟩
  rtpHeard hx := (h.rtpHeard hx).mono hlog
  rtcpHeard hx := (h.rtcpHeard hx).imp fun _ hs => hs.mono hlog
  lastSr := h.lastSr.imp_right fun ⟨s, hs, hsender, hfields⟩ => ⟨s, hs.mono hlog, hsender, hfields⟩
  cname := h.cname.imp_right fun ⟨s, hs, hname⟩ => ⟨s, hs.mono hlog, hname⟩

theorem OutputFrom.mono {o : Output} (h : OutputFrom log o) : OutputFrom log' o := by
  cases o with
  | rxRtp report =>
      obtain ⟨s, payload, payloadLen, rtpTs, csrc, ncsrc, hissued, hreport⟩ := h
      exact ⟨s, payload, payloadLen, rtpTs, csrc, ncsrc, hissued.mono hlog, hreport⟩
  | srRpt fromSsrc sub =>
      obtain ⟨s, hs, hrest⟩ := h
      exact ⟨s, hs.mono hlog, hrest⟩
  | rrRpt fromSsrc block =>
      obtain ⟨s, hs, m, hm, hrecord, hrest⟩ := h
      exact ⟨s, hs.mono hlog, m, hm, hrecord.mono hlog, hrest⟩
  | txRtp | txRtcp | logRtcpTx => trivial

theorem FromLog.mono {i : ι} {s : Session} (h : FromLog log i s) : FromLog log' i s :=
  ⟨fun o ho => (h.1 o ho).mono hlog, fun m hm hself => (h.2 m hm hself).mono hlog⟩

end Grows

/-! ## Records -/

theorem RecordFrom.lasting (log : SentLog ι) : RtpMember.Lasting (RecordFrom log) := by
  intro x y hkept h
  have hssrc := hkept.ssrc
  refine ⟨hkept.byeReceived.trans h.present, ?_, fun hy => ?_, fun hy => ?_, ?_, ?_⟩
  · rw [hssrc]
    exact h.named
  · rw [hssrc]
    exact h.rtpHeard (hkept.rtpHeard hy)
  · rw [hssrc]
    exact h.rtcpHeard (hkept.rtcpHeard hy)
  · rw [SrFrom, hssrc, hkept.lastSr, hkept.rtpTs, hkept.pktCount, hkept.octetCount]
    exact h.lastSr
  · rw [hssrc, hkept.cname, hkept.cnameLen]
    exact h.cname

/-- A source is heard on a data packet that was sent. -/
theorem RecordFrom.rtpFirstHeard {log : SentLog ι} {x : RtpMember} (hnamed : NamedByData log x.ssrc)
    (h : RecordFrom log x) (seq : UInt16) (fromAddr : SockaddrIn) :
    RecordFrom log (Session.rtpFirstHeard seq fromAddr x) :=
  ⟨h.present, h.named, fun _ => hnamed, h.rtcpHeard, h.lastSr, h.cname⟩

/-- A source is heard in a report that was sent. -/
theorem RecordFrom.rtcpFirstHeard {log : SentLog ι} {x : RtpMember} {s : Session}
    (hreported : ReportedBy log x.ssrc s) (h : RecordFrom log x) (fromAddr : SockaddrIn) :
    RecordFrom log (Session.rtcpFirstHeard fromAddr x) :=
  ⟨h.present, h.named, h.rtpHeard, fun _ => ⟨s, hreported⟩, h.lastSr, h.cname⟩

/-- A new record holds nothing but its SSRC. -/
theorem RecordFrom.init {log : SentLog ι} {ssrc : UInt32}
    (hnamed : NamedByData log ssrc ∨ ∃ s, ReportedBy log ssrc s) (x : RtpMember) :
    RecordFrom log (rtpMemberInit x ssrc) :=
  ⟨rfl, hnamed, fun h => absurd h Bool.false_ne_true, fun h => absurd h Bool.false_ne_true, Or.inl rfl, Or.inl rfl⟩

end Exchange

/-! ## What a session hears -/

namespace Session

open Exchange

variable {ι : Type} {log : SentLog ι}

/-- A source or contributing source of a data packet that was sent. -/
theorem Others.dataSource {s : Session} (h : s.Others (RecordFrom log)) {ssrc : UInt32}
    (hnamed : NamedByData log ssrc) (seq : UInt16) (fromAddr : SockaddrIn) (csrc : Bool) :
    (s.rtpHandleSsrc ssrc seq fromAddr csrc).2.Others (RecordFrom log) := by
  refine h.rtpHandleSsrc (RecordFrom.lasting log) csrc (fun x => ?_) fun x hx hrecord => ?_
  · exact (RecordFrom.init (Or.inl hnamed) x).rtpFirstHeard hnamed seq fromAddr
  · exact hrecord.rtpFirstHeard (hx ▸ hnamed) seq fromAddr

theorem retains_rtpSrc (s : Session) (m : Slot) (f : RtpMember → RtpSource) :
    Retains s (s.modifyMember m fun x => { x with rtpSrc := f x }) :=
  .modifyMember s m fun _ => .of_flags rfl rfl rfl id id

/-- The source of a data packet, up to its jitter. -/
theorem Others.dataSourceChecked {s : Session} (h : s.Others (RecordFrom log)) {hdr : RtpHdr}
    (hnamed : NamedByData log hdr.ssrc) (arrival : UInt32) (fromAddr : SockaddrIn) :
    (s.rtpRxSource hdr arrival fromAddr).2.Others (RecordFrom log) := by
  have hsource := h.dataSource hnamed hdr.seq fromAddr false
  simp only [rtpRxSource]
  generalize s.rtpHandleSsrc hdr.ssrc hdr.seq fromAddr false = res at hsource
  obtain ⟨found, t⟩ := res
  cases found with
  | none => exact hsource
  | some m =>
      refine hsource.retains (RecordFrom.lasting log) ?_
      have hseq := retains_rtpSrc t m fun _ => ((t.member m).rtpSrc.rtpUpdateSeq hdr.seq).2
      simp only
      split
      · exact hseq.trans (.of_table rfl)
      · have hjitter := retains_rtpSrc (t.modifyMember m fun x => { x with
          rtpSrc := ((t.member m).rtpSrc.rtpUpdateSeq hdr.seq).2 }) m
          fun x => x.rtpSrc.rtcpComputeJitter hdr.ts arrival
        exact (hseq.trans hjitter).trans
          (.modifyMember _ m (f := RtpMember.setValidated) fun _ => .of_flags rfl rfl rfl id id)

/-- A data packet all of whose sources were named by data that was sent. -/
theorem Others.data {s : Session} (h : s.Others (RecordFrom log)) {hdr : RtpHdr}
    (hnamed : ∀ ssrc ∈ hdr.ssrc :: hdr.csrc, NamedByData log ssrc) (payload : List UInt8)
    (payloadLen arrival : UInt32) (fromAddr : SockaddrIn) :
    (s.rtpRxData hdr payload payloadLen arrival fromAddr).Others (RecordFrom log) := by
  have hsource := h.dataSourceChecked (hnamed _ (List.mem_cons_self ..)) arrival fromAddr
  simp only [rtpRxData]
  generalize s.rtpRxSource hdr arrival fromAddr = res at hsource
  obtain ⟨ok, t⟩ := res
  cases ok with
  | false => exact hsource
  | true =>
      have hlist : ∀ csrcs : List UInt32, (∀ ssrc ∈ csrcs, NamedByData log ssrc) → ∀ t : Session,
          t.Others (RecordFrom log) →
          (csrcs.foldl (rtpHandleCsrc hdr.seq fromAddr hdr.ts arrival) t).Others (RecordFrom log) := by
        intro csrcs
        induction csrcs with
        | nil => exact fun _ t ht => ht
        | cons ssrc csrcs ih =>
            intro hall t ht
            refine ih (fun c hc => hall c (List.mem_cons_of_mem _ hc)) _ ?_
            have hstep := ht.dataSource (hall ssrc (List.mem_cons_self ..)) hdr.seq fromAddr true
            simp only [rtpHandleCsrc]
            split
            · exact hstep
            · exact hstep.retains (RecordFrom.lasting log) (retains_rtpSrc _ _ _)
      exact (hlist hdr.csrc (fun c hc => hnamed c (List.mem_cons_of_mem _ hc)) t hsource).retains
        (RecordFrom.lasting log) (.of_table rfl)

/-- The session finds itself under its SSRC, and nobody else. -/
theorem foundSelf {s : Session} (horder : s.InOrder) (hunique : s.UniqueSsrc) : s.FoundSelf := by
  obtain ⟨hused, hself⟩ := horder.self_used
  intro m hm
  have hfound := hunique.lookup hused
  rw [← selfMember] at hfound
  rw [hfound] at hm
  exact Option.some.inj hm ▸ hself

/-- A message of a report that was sent, if accepting it keeps the records. -/
theorem Others.reportMsg {s r : Session} (h : s.Others (RecordFrom log)) (hissued : Issued log (.report r))
    (hfound : s.FoundSelf) {msg : RtcpMsg} (hsource : msg.source = some r.selfMember.ssrc)
    (haccept : ∀ (t : Session) (m : Slot), t.Others (RecordFrom log) →
      (t.member m).ssrc = r.selfMember.ssrc → (t.acceptMsg m msg).Others (RecordFrom log))
    (fromAddr : SockaddrIn) (len : UInt32) :
    (handleMsg fromAddr len s msg).Others (RecordFrom log) := by
  have hreported : ReportedBy log r.selfMember.ssrc r := ⟨hissued, rfl⟩
  have hhandled : (s.rtcpHandleSsrc r.selfMember.ssrc fromAddr len).2.Others (RecordFrom log) := by
    refine h.rtcpHandleSsrc (RecordFrom.lasting log) len hfound (fun x => ?_) fun x hx hrecord => ?_
    · exact (RecordFrom.init (Or.inr ⟨r, hreported⟩) x).rtcpFirstHeard
        (x := rtpMemberInit x r.selfMember.ssrc) hreported fromAddr
    · exact hrecord.rtcpFirstHeard (s := r) ⟨hissued, hx.symm⟩ fromAddr
  apply handleMsg_rule
  · intro ssrc hssrc _
    obtain rfl := Option.some.inj (hsource.symm.trans hssrc)
    exact hhandled
  · intro ssrc m hssrc hm
    obtain rfl := Option.some.inj (hsource.symm.trans hssrc)
    exact haccept _ m hhandled (ssrc_of_rtcpHandleSsrc hm)
  · rintro ssrc rfl
    exact absurd hsource (by simp [RtcpMsg.source])

theorem source_reportMsg (r : Session) : r.reportMsg.source = some r.selfMember.ssrc := by
  rw [reportMsg]
  split <;> rfl

/-- The messages of a report that was sent. -/
theorem Others.report {cfg : RtpSessionConfig} {s r : Session}
    (hparty : (s.InOrder ∧ s.AtHome cfg) ∧ s.UniqueSsrc) (h : s.Others (RecordFrom log))
    (hissued : Issued log (.report r)) {fromAddr : SockaddrIn} (haddr : fromAddr ≠ cfg.rtcpAddr)
    (len : UInt32) :
    (Runs.run (handleMsg fromAddr len) s (Origin.msgs r)).Others (RecordFrom log) := by
  have hfirst : (handleMsg fromAddr len s r.reportMsg).Others (RecordFrom log) := by
    refine h.reportMsg hissued (foundSelf hparty.1.1 hparty.2) (source_reportMsg r) ?_ fromAddr len
    intro t m ht hssrc
    refine ht.acceptReport (RecordFrom.lasting log) hssrc fun hsender x now hx hrecord => ?_
    exact ⟨hrecord.present, hrecord.named, hrecord.rtpHeard, hrecord.rtcpHeard,
      Or.inr ⟨r, ⟨hissued, hx.symm⟩, hsender, rfl, rfl, rfl, rfl⟩, hrecord.cname⟩
  have hguard : (abroad cfg).msg fromAddr s r.reportMsg :=
    ⟨haddr, by rw [source_reportMsg]; simp⟩
  obtain ⟨⟨horder, -⟩, hunique⟩ := (party_rules cfg).handleMsg hparty hguard
  have hsource : (RtcpMsg.sdes r.selfMember.ssrc [r.selfCname]).source = some r.selfMember.ssrc := rfl
  refine hfirst.reportMsg hissued (foundSelf horder hunique) hsource ?_ fromAddr len
  intro t m ht hssrc
  refine ht.acceptSdes hssrc fun x hx hrecord => ?_
  refine ⟨hrecord.present, hrecord.named, hrecord.rtpHeard, hrecord.rtcpHeard, hrecord.lastSr,
    Or.inr ⟨r, ⟨hissued, hx.symm⟩, ?_⟩⟩
  have hlen : (UInt8.ofNat r.selfCname.length).toNat = r.selfCname.length := by
    rw [UInt8.toNat_ofNat']
    exact Nat.mod_eq_of_lt (Nat.lt_succ_of_le r.selfCname_length_le)
  have hstored := ByteMem.Holds.storeBytes_self x.cname 0 r.selfCname
  rw [ByteMem.Holds, ← hlen] at hstored
  exact hstored

end Session

namespace Exchange

variable {ι : Type} {config : ι → RtpSessionConfig}

/-! ## The rules -/

theorem outputFrom_tick {log : SentLog ι} {s : Session} {o : Output} (h : s.TickOutput o) :
    OutputFrom log o := by
  rcases h with rfl | ⟨r, -, bytes, rfl, -⟩
  · trivial
  · trivial

/-- Every block of a report is about a member it reports on. -/
theorem exists_reportsOn {r : Session} {rr : RtcpRr} (h : rr ∈ r.sentBlocks) :
    ∃ m ∈ r.reportable r.usedList, r.ReportsOn m rr := by
  have hblocks := r.reportsOn_sentBlocks
  generalize r.reportable r.usedList = ms at hblocks
  generalize r.sentBlocks = rrs at h hblocks
  induction hblocks with
  | nil => exact absurd h (List.not_mem_nil)
  | cons hhead _ ih =>
      rcases List.mem_cons.1 h with rfl | h
      · exact ⟨_, List.mem_cons_self .., hhead⟩
      · obtain ⟨m, hm, hon⟩ := ih h
        exact ⟨m, List.mem_cons_of_mem _ hm, hon⟩

/-- What a report makes a receiver hand out goes back to its sender's records. -/
theorem outputFrom_report {log : SentLog ι} {r : Session} (hissued : Issued log (.report r))
    (hrecords : r.Others (RecordFrom log)) {msg : RtcpMsg} (hmsg : msg ∈ Origin.msgs r) {o : Output}
    (h : Session.ReportsMsg msg o) : OutputFrom log o := by
  have hblock : ∀ block ∈ r.sentBlocks.map RtcpRr.bytes,
      OutputFrom log (.rrRpt r.selfMember.ssrc block) := by
    intro block hblock
    obtain ⟨rr, hrr, rfl⟩ := List.mem_map.1 hblock
    obtain ⟨m, hm, hon⟩ := exists_reportsOn hrr
    obtain ⟨hused, hreportable⟩ := List.mem_filter.1 hm
    have hself : (r.member m).flags.self = false := by
      cases hself : (r.member m).flags.self with
      | false => rfl
      | true =>
          rw [Session.Reportable, hself] at hreportable
          exact absurd hreportable (by simp)
    exact ⟨r, ⟨hissued, rfl⟩, m, hm, hrecords m hused hself, rr, hon, rfl⟩
  rcases List.mem_cons.1 hmsg with rfl | hmsg
  · rw [Session.reportMsg] at h
    split at h
    · rename_i hsender
      rcases h with rfl | ⟨block, hmem, rfl⟩
      · exact ⟨r, ⟨hissued, rfl⟩, hsender, rfl⟩
      · exact hblock block hmem
    · obtain ⟨block, hmem, rfl⟩ := h
      exact hblock block hmem
  · obtain rfl := List.mem_singleton.1 hmsg
    exact h.elim

theorem fromLog_rules (config : ι → RtpSessionConfig) : Rules config FromLog where
  lasts h := h.mono fun e he => mem_noteSent he _ _ _
  tx {log i s payload payloadLen rtpTs csrc ncsrc} h hfits := by
    refine ⟨fun o ho => ?_, h.fact.2.retains (RecordFrom.lasting log) (.rtpTx s _ _ _ _ _)⟩
    rcases (s.handsOut_rtpTx payload rtpTs csrc hfits).mem ho with hold | ⟨bytes, rfl, -⟩
    · exact h.fact.1 o hold
    · trivial
  tick {log i s} h := by
    refine ⟨fun o ho => ?_, h.fact.2.retains (RecordFrom.lasting log) (.tick s)⟩
    exact (s.handsOut_tick.mem ho).elim (h.fact.1 o) outputFrom_tick
  reports {log i s r} h hr := by
    refine ⟨fun o ho => ?_, h.fact.2.retains (RecordFrom.lasting log) (.tickReports s r hr)⟩
    exact ((Session.handsOut_tickReports hr).mem ho).elim (h.fact.1 o) outputFrom_tick
  refused {log i s e} h := ⟨h.fact.1, h.fact.2.retains (RecordFrom.lasting log) (.of_table rfl)⟩
  data {log i s j r payload payloadLen rtpTs csrc ncsrc fromAddr} h hsent _ := by
    have hissued : Issued log (.data r payload payloadLen rtpTs csrc ncsrc) :=
      ⟨⟨j, hsent.mem⟩, hsent.sends⟩
    have hrecords : s.rtpSessionTimestamp.2.Others (RecordFrom log) :=
      h.fact.2.retains (RecordFrom.lasting log) (.of_table rfl)
    refine ⟨fun o ho => ?_, hrecords.data (fun ssrc hssrc => ?_) _ _ _ fromAddr⟩
    · rcases (Session.handsOut_rtpRxData _ _ _ _ _ fromAddr).mem ho with hold | rfl
      · exact h.fact.1 o hold
      · exact ⟨r, payload, payloadLen, rtpTs, csrc, ncsrc, hissued, rfl⟩
    · exact ⟨r, payload, payloadLen, rtpTs, csrc, ncsrc, hissued, hssrc⟩
  report {log i s j r fromAddr len} h hsent haddr := by
    have hissued : Issued log (.report r) := ⟨⟨j, hsent.mem⟩, hsent.sends⟩
    have hrecords : (s.setRtcpError .noError).Others (RecordFrom log) :=
      h.fact.2.retains (RecordFrom.lasting log) (.of_table rfl)
    have hparty := (Session.party_rules (config i)).quiet (.setRtcpError s .noError)
      ⟨⟨h.inOrder, h.atHome⟩, h.unique⟩
    refine ⟨fun o ho => ?_, hrecords.report hparty hissued haddr len⟩
    rcases (Session.handsOut_msgs fromAddr len _ _).mem ho with hold | ⟨msg, hmsg, hreports⟩
    · exact h.fact.1 o hold
    · exact outputFrom_report hissued hsent.fact.2 hmsg hreports

/-- Nothing is known at the start. -/
theorem fromLog_start (mem : Session) (config : RtpSessionConfig) (i : ι) :
    FromLog [] i (mem.rtpSessionInit config) := by
  have hout : (mem.rtpSessionInit config).out = [] := by
    rw [Session.rtpSessionInit_eq]
    show ((mem.rtpSessionBlank config).rtpSessionInitSelf config).out = []
    simp only [Session.rtpSessionInitSelf]
    split
    · rfl
    · rename_i m s' halloc
      exact Session.out_alloc halloc
  refine ⟨fun o ho => ?_, fun m hm hself => ?_⟩
  · rw [hout] at ho
    exact absurd ho List.not_mem_nil
  · by_cases hme : m = (mem.rtpSessionInit config).self
    · subst hme
      rw [(Session.InOrder.self_used (Session.kept_rtpSessionInit mem config)).2] at hself
      exact absurd hself (by decide)
    · exact absurd hm (Session.alone_rtpSessionInit mem config hme)

/-! ## The results -/

section Results

variable [DecidableEq ι] (hpt : ∀ i, (config i).pt.toNat < 128) {mem : ι → Session}
  {moves : List (Move ι)} (hmoves : Proper config mem moves) (i : ι)

include hpt hmoves

theorem fromLog_party : Party config FromLog (log config mem moves) i (parties config mem moves i) :=
  (fromLog_rules config).party hpt (fun i => fromLog_start (mem i) (config i) i) hmoves i

/-- In every exchange of payload types that fit the header, whatever its losses, duplicates, delays and
    reordering, each call of `rx_rtp` at a party hands over what some party passed to `rtp_tx` in one call that
    sent a packet: the payload, its length, the timestamp and the CSRC list, with the sequence number of that
    packet. -/
theorem received_was_sent {report : RtpRxReport}
    (hreport : .rxRtp report ∈ (parties config mem moves i).out) :
    ∃ s payload payloadLen rtpTs csrc ncsrc,
      Issued (log config mem moves) (.data s payload payloadLen rtpTs csrc ncsrc) ∧
        report = (Origin.hdr s rtpTs csrc ncsrc).report (payload.slice 0 payloadLen.toNat)
          payloadLen :=
  (fromLog_party hpt hmoves i).fact.1 _ hreport

/-- Each block given to `rr_rpt` is one that a session with the reporting SSRC computed about a member of
    its table in a report it sent. The block's LSR is 0 or the middle of the NTP time of a SR that was sent
    by a session which then had the SSRC the block is about. -/
theorem block_was_reported {fromSsrc : UInt32} {block : List UInt8}
    (hblock : .rrRpt fromSsrc block ∈ (parties config mem moves i).out) :
    (∃ s, ReportedBy (log config mem moves) fromSsrc s ∧ ∃ m ∈ s.reportable s.usedList,
      s.ReportsOn m (.ofBytes block)) ∧
      ((RtcpRr.ofBytes block).lsr = 0 ∨
        ∃ s, ReportedBy (log config mem moves) (RtcpRr.ofBytes block).ssrc s ∧
          s.selfMember.flags.sender = true ∧ (RtcpRr.ofBytes block).lsr = s.ntpTsNow.1.middle) := by
  obtain ⟨s, hs, m, hm, hrecord, rr, ⟨now, rfl⟩, rfl⟩ := (fromLog_party hpt hmoves i).fact.1 _ hblock
  have hdecoded : RtcpRr.ofBytes ((s.member m).reportBlock (now.dlsr (s.member m)).1).bytes =
      (s.member m).reportBlock (now.dlsr (s.member m)).1 :=
    RtcpRr.ofBytes_bytes (RtpSource.lost_lt _)
  rw [hdecoded]
  refine ⟨⟨s, hs, m, hm, now, rfl⟩, ?_⟩
  have hlsr : ((s.member m).reportBlock (now.dlsr (s.member m)).1).lsr =
      (s.member m).lastSr.middle := rfl
  rw [hlsr]
  rcases hrecord.lastSr with hnone | ⟨q, hq, hsender, hlast, -⟩
  · left
    rw [hnone]
    rfl
  · right
    exact ⟨q, hq, hsender, by rw [hlast]⟩

/-- Each SR given to `sr_rpt` is, octet for octet, one that a session with the reporting SSRC sent. -/
theorem sr_was_sent {fromSsrc : UInt32} {sub : List UInt8}
    (hsr : .srRpt fromSsrc sub ∈ (parties config mem moves i).out) :
    ∃ s, ReportedBy (log config mem moves) fromSsrc s ∧ s.selfMember.flags.sender = true ∧
      sub = rtcpSubPkt s.sentBlocks.length rtcpSr s.reportBody :=
  (fromLog_party hpt hmoves i).fact.1 _ hsr

/-- Each member of a party's table but the party itself has a SSRC that was named by what was sent, and what
    its record holds about it (that it was heard, on either channel, its last SR and its CNAME) was sent under
    that SSRC. Nobody is ever taken to have left by a BYE. -/
theorem records_were_sent {m : Slot} (hm : m ∈ (parties config mem moves i).usedList)
    (hself : m ≠ (parties config mem moves i).self) :
    RecordFrom (log config mem moves) ((parties config mem moves i).member m) := by
  have hparty := fromLog_party hpt hmoves i
  exact hparty.fact.2 m hm ((hparty.inOrder.1.remote m hself).notSelf (decide_eq_true hm))

/-- Every party stays in its own table, counts its members right and runs just the timers they need, and no
    two of its members have one SSRC. -/
theorem parties_kept : (parties config mem moves i).SelfAllocated ∧
    (parties config mem moves i).MembershipKept ∧ (parties config mem moves i).UniqueSsrc := by
  have hparty := fromLog_party hpt hmoves i
  exact ⟨hparty.inOrder.selfAllocated, hparty.inOrder.membershipKept, hparty.unique⟩

end Results

/-! ## A talk -/

/-- Two configurations with addresses of their own. -/
def talkConfig : Bool → RtpSessionConfig
  | false => Session.plainConfig 1000 4
  | true => ⟨.ofPort 200, .ofPort 201, 1000, fun _ => 98, 4, 0, false⟩

def talkMem : Bool → Session
  | false => Session.zeroed (.still .zero)
  | true => Session.zeroed { Env.still .zero with random32 := [77, 78] }

/-- How a datagram reaches its receiver from the given port. -/
def fromPort (port : UInt16) : Arrival := ⟨fun _ => 0, .ofPort port⟩

/-- The first party sends three packets and a report. The second one hears a packet twice and the report
    last, and reports back. -/
def talkMoves : List (Move Bool) :=
  List.replicate 3 (.act false (.tx (pktOf [1, 2, 3]) 3 77 (fun _ => 0) 0)) ++
    List.replicate 11 (.act false .tick) ++
    [.deliver true 0 (fromPort 100), .deliver true 1 (fromPort 100), .deliver true 1 (fromPort 100),
      .deliver true 2 (fromPort 100), .deliver true 3 (fromPort 101)] ++
    List.replicate 11 (.act true .tick) ++ [.deliver false 4 (fromPort 201)]

theorem proper_talk : Proper talkConfig talkMem talkMoves := by decide +kernel

/-- The first party sends three packets that name the SSRCs 50 and 60, and the second one hears them all, the
    first of them last again. -/
def mixedMoves : List (Move Bool) :=
  List.replicate 3 (.act false (.tx (pktOf [1, 2, 3]) 3 77 (fun i => UInt32.ofNat (50 + 10 * i)) 2)) ++
    [.deliver true 0 (fromPort 100), .deliver true 1 (fromPort 100), .deliver true 2 (fromPort 100),
      .deliver true 0 (fromPort 100)]

theorem received_in_mix : ∃ s payload payloadLen rtpTs csrc ncsrc,
    Issued (log talkConfig talkMem mixedMoves) (.data s payload payloadLen rtpTs csrc ncsrc) ∧
      (⟨[1, 2, 3], 3, 77, 3, [50, 60], 2⟩ : RtpRxReport) =
        (Origin.hdr s rtpTs csrc ncsrc).report (payload.slice 0 payloadLen.toNat) payloadLen :=
  received_was_sent (by decide) (by decide +kernel) true (by decide +kernel)

/-- The block the second party sends about the first one. -/
def talkBlock : List UInt8 :=
  [0, 0, 0, 2, 0, 0, 0, 0, 0, 0, 0, 3, 0, 0, 0, 4, 126, 128, 0, 0, 0, 0, 0, 0]

theorem block_in_talk :
    (∃ s, ReportedBy (log talkConfig talkMem talkMoves) 78 s ∧ ∃ m ∈ s.reportable s.usedList,
      s.ReportsOn m (.ofBytes talkBlock)) ∧
      ((RtcpRr.ofBytes talkBlock).lsr = 0 ∨
        ∃ s, ReportedBy (log talkConfig talkMem talkMoves) (RtcpRr.ofBytes talkBlock).ssrc s ∧
          s.selfMember.flags.sender = true ∧ (RtcpRr.ofBytes talkBlock).lsr = s.ntpTsNow.1.middle) :=
  block_was_reported (by decide) proper_talk false (by decide +kernel)

theorem sr_in_talk : ∃ s, ReportedBy (log talkConfig talkMem talkMoves) 2 s ∧
    s.selfMember.flags.sender = true ∧
      [128, 200, 0, 6, 0, 0, 0, 2, 131, 170, 126, 128, 0, 0, 16, 198, 0, 0, 0, 0, 0, 0, 0, 3, 0, 0, 0, 9] =
        rtcpSubPkt s.sentBlocks.length rtcpSr s.reportBody :=
  sr_was_sent (by decide) proper_talk true (by decide +kernel)

theorem records_in_talk :
    RecordFrom (log talkConfig talkMem talkMoves) ((parties talkConfig talkMem talkMoves true).member 1) :=
  records_were_sent (by decide) proper_talk true (by decide +kernel) (by decide +kernel)

theorem kept_in_talk : (parties talkConfig talkMem talkMoves true).SelfAllocated ∧
    (parties talkConfig talkMem talkMoves true).MembershipKept ∧
      (parties talkConfig talkMem talkMoves true).UniqueSsrc :=
  parties_kept (by decide) proper_talk true

end Exchange

end Prtp
