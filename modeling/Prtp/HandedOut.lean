import Prtp.Deliveries
import Prtp.ReportRoundTrip
import Prtp.RtpRoundTrip

set_option autoImplicit false

/-! # What a call hands out

Everything a session gives to its callbacks is appended to `out`, and only a few places do so: a transmit
hands on its packet, a report what it was built as, an accepted packet its payload or its report blocks.
Here each call is told by what it may append, so that nothing else has to be looked at again when
sessions are put together. -/

namespace Prtp

open ByteReader

namespace Session

/-- `s'` has handed out nothing that `s` had not, but for outputs that are `P`. -/
def HandsOut (P : Output → Prop) (s s' : Session) : Prop :=
  ∃ o, s'.out = s.out ++ o ∧ ∀ x ∈ o, P x

namespace HandsOut

variable {P Q : Output → Prop} {s t u : Session}

theorem of_eq (h : t.out = s.out) : HandsOut P s t :=
  ⟨[], by rw [h, List.append_nil], by simp⟩

theorem refl (P : Output → Prop) (s : Session) : HandsOut P s s := of_eq rfl

theorem trans (h : HandsOut P s t) (h' : HandsOut P t u) : HandsOut P s u := by
  obtain ⟨o, ho, hall⟩ := h
  obtain ⟨o', ho', hall'⟩ := h'
  refine ⟨o ++ o', by rw [ho', ho, List.append_assoc], fun x hx => ?_⟩
  rcases List.mem_append.1 hx with hx | hx
  · exact hall x hx
  · exact hall' x hx

theorem mono (h : HandsOut P s t) (himp : ∀ x, P x → Q x) : HandsOut Q s t := by
  obtain ⟨o, ho, hall⟩ := h
  exact ⟨o, ho, fun x hx => himp x (hall x hx)⟩

theorem emit (s : Session) {o : Output} (ho : P o) : HandsOut P s (s.emit o) :=
  ⟨[o], rfl, by simpa using ho⟩

/-- What is handed out afterwards was so before, or is `P`. -/
theorem mem (h : HandsOut P s t) {x : Output} (hx : x ∈ t.out) : x ∈ s.out ∨ P x := by
  obtain ⟨o, ho, hall⟩ := h
  rw [ho] at hx
  exact (List.mem_append.1 hx).imp_right (hall x)

end HandsOut

/-! ## Sources -/

theorem out_ownSsrcConflict (s : Session) (m : Slot) (fromAddr : SockaddrIn) :
    (s.ownSsrcConflict m fromAddr).2.out = s.out := by
  have hlookup : (s.rtpSourceConflictLookup fromAddr).2.out = s.out := rfl
  simp only [ownSsrcConflict, rtpMemberTableChangeRandomSsrc]
  split
  · exact hlookup
  · split
    · exact hlookup
    · exact hlookup

theorem out_rtcpHandleSsrc (s : Session) (ssrc : UInt32) (fromAddr : SockaddrIn) (pktSize : UInt32) :
    (s.rtcpHandleSsrc ssrc fromAddr pktSize).2.out = s.out := by
  have hcase := s.rtcpHandleSsrc_case ssrc fromAddr pktSize
  generalize s.rtcpHandleSsrc ssrc fromAddr pktSize = res at hcase
  cases hcase with
  | tableFull | leaving | joined | thirdParty | refreshed => rfl
  | created m s' hnone halloc =>
      show s'.out = s.out
      exact out_alloc halloc
  | collision m hm hbye hknown haddr hown err => exact out_ownSsrcConflict s m fromAddr

theorem out_leaving (s : Session) {event : RtcpEvent} (hevent : event ≠ .rxNonBye)
    (flags : IntervalFlags) (pktSize : UInt32) :
    (s.rtcpIntervalHandleRtcpEvent event flags pktSize).out = s.out := by
  rw [rtcpEvent_leaving s hevent]
  split
  · rfl
  · rfl

theorem out_rtpHandleCsrc (s : Session) (seq : UInt16) (fromAddr : SockaddrIn)
    (rtpTs arrival csrc : UInt32) :
    (rtpHandleCsrc seq fromAddr rtpTs arrival s csrc).out = s.out := by
  have hsource := s.out_rtpHandleSsrc csrc seq fromAddr true
  simp only [rtpHandleCsrc]
  split
  · exact hsource
  · exact hsource

/-! ## Received packets -/

/-- What `rtp_rx` reports of a packet with the given header and payload. -/
def RtpHdr.report (hdr : RtpHdr) (payload : List UInt8) (payloadLen : UInt32) : RtpRxReport where
  payload := payload
  payloadLen := payloadLen
  rtpTs := hdr.ts
  seq := hdr.seq
  csrc := hdr.csrc
  ncsrc := hdr.csrc.length

/-- A data packet is reported, or nothing is handed out. -/
theorem handsOut_rtpRxData (s : Session) (hdr : RtpHdr) (payload : List UInt8) (payloadLen : UInt32)
    (arrival : UInt32) (fromAddr : SockaddrIn) :
    HandsOut (fun o => o = .rxRtp (hdr.report payload payloadLen)) s
      (s.rtpRxData hdr payload payloadLen arrival fromAddr) := by
  have hsource := HandsOut.of_eq (P := fun o => o = .rxRtp (hdr.report payload payloadLen))
    (s.out_rtpRxSource hdr arrival fromAddr)
  simp only [rtpRxData]
  generalize s.rtpRxSource hdr arrival fromAddr = res at hsource
  obtain ⟨ok, t⟩ := res
  cases ok with
  | false => exact hsource
  | true =>
      have hlist : (hdr.csrc.foldl (rtpHandleCsrc hdr.seq fromAddr hdr.ts arrival) t).out = t.out :=
        Runs.run_invariant (P := fun u : Session => u.out = t.out)
          (fun u csrc hu => (u.out_rtpHandleCsrc hdr.seq fromAddr hdr.ts arrival csrc).trans hu) rfl
          hdr.csrc
      exact hsource.trans ((HandsOut.of_eq hlist).trans (.emit _ rfl))

/-- Nothing is handed out by a data packet but a report of it. -/
theorem handsOut_rtpRx (s : Session) (pkt : ByteMem) (len : UInt32) (fromAddr : SockaddrIn) :
    HandsOut (fun o => ∃ report, o = .rxRtp report) s ((s.rtpRx len fromAddr).val pkt) := by
  cases hcheck : (rtpHeaderValidityCheck len s.config.pt).val pkt with
  | error e =>
      rw [s.val_rtpRx_of_error hcheck]
      exact .of_eq rfl
  | ok found =>
      obtain ⟨off, payloadLen⟩ := found
      rw [s.val_rtpRx_of_ok hcheck]
      have hdata := s.rtpSessionTimestamp.2.handsOut_rtpRxData (readRtpHdr.val pkt)
        ((ByteReader.bytes off payloadLen.toNat).val pkt) payloadLen s.rtpSessionTimestamp.1 fromAddr
      exact (HandsOut.of_eq rfl).trans (hdata.mono fun o ho => ⟨_, ho⟩)

/-- What a message of an RTCP packet hands out: its blocks and, if it is a SR, its octets. -/
def ReportsMsg : RtcpMsg → Output → Prop
  | .sr ssrc _ _ _ _ blocks sub, o => o = .srRpt ssrc sub ∨ ∃ block ∈ blocks, o = .rrRpt ssrc block
  | .rr ssrc blocks, o => ∃ block ∈ blocks, o = .rrRpt ssrc block
  | .sdes .., _ => False
  | .bye _, _ => False

theorem handsOut_acceptMsg (s : Session) (m : Slot) (msg : RtcpMsg) :
    HandsOut (ReportsMsg msg) s (s.acceptMsg m msg) := by
  have hblocks : ∀ (P : Output → Prop) (t : Session) ssrc blocks,
      (∀ block ∈ blocks, P (.rrRpt ssrc block)) → HandsOut P t (reportBlocks ssrc blocks t) := by
    intro P t ssrc blocks hall
    refine ⟨blocks.map (.rrRpt ssrc), by rw [reportBlocks_eq], fun x hx => ?_⟩
    obtain ⟨block, hblock, rfl⟩ := List.mem_map.1 hx
    exact hall block hblock
  cases msg with
  | sr ssrc ntp rtpTs psent osent blocks sub =>
      have hrecord : (s.recordSr m ntp rtpTs psent osent).out = s.out := rfl
      have hall := hblocks (ReportsMsg (.sr ssrc ntp rtpTs psent osent blocks sub))
        (s.recordSr m ntp rtpTs psent osent) ssrc blocks fun block hblock => Or.inr ⟨block, hblock, rfl⟩
      exact ((HandsOut.of_eq hrecord).trans hall).trans (.emit _ (Or.inl rfl))
  | rr ssrc blocks => exact hblocks _ s ssrc blocks fun block hblock => ⟨block, hblock, rfl⟩
  | sdes ssrc cnames =>
      have hnames : (cnames.foldl (fun s cname => s.recordCname m cname) s).out = s.out :=
        Runs.run_invariant (P := fun t : Session => t.out = s.out)
          (fun t cname ht => (show (t.recordCname m cname).out = t.out from rfl).trans ht) rfl cnames
      exact .of_eq hnames
  | bye ssrc => exact .refl _ s

theorem handsOut_handleMsg (fromAddr : SockaddrIn) (len : UInt32) (s : Session) (msg : RtcpMsg) :
    HandsOut (ReportsMsg msg) s (handleMsg fromAddr len s msg) := by
  apply handleMsg_rule (P := HandsOut (ReportsMsg msg) s)
  · intro ssrc _ _
    exact .of_eq (s.out_rtcpHandleSsrc ssrc fromAddr len)
  · intro ssrc m _ _
    exact (HandsOut.of_eq (s.out_rtcpHandleSsrc ssrc fromAddr len)).trans (handsOut_acceptMsg _ m msg)
  · rintro ssrc rfl
    refine .of_eq ?_
    unfold rtcpHandleByeSource
    split
    · rfl
    · split
      · rfl
      · exact s.out_leaving (by decide) _ len

/-- Messages handed on one after the other. -/
theorem handsOut_msgs (fromAddr : SockaddrIn) (len : UInt32) (s : Session) (msgs : List RtcpMsg) :
    HandsOut (fun o => ∃ msg ∈ msgs, ReportsMsg msg o) s
      (Runs.run (handleMsg fromAddr len) s msgs) := by
  induction msgs generalizing s with
  | nil => exact .refl _ s
  | cons msg msgs ih =>
      have hhead := handsOut_handleMsg fromAddr len s msg
      have htail := ih (handleMsg fromAddr len s msg)
      rw [Runs.run_cons]
      exact (hhead.mono fun o ho => ⟨msg, List.mem_cons_self .., ho⟩).trans
        (htail.mono fun o ⟨msg', hmem, ho⟩ => ⟨msg', List.mem_cons_of_mem _ hmem, ho⟩)

/-- A RTCP packet hands out what its messages do. -/
theorem handsOut_rtcpRx (s : Session) (pkt : ByteMem) (len : UInt32) (fromAddr : SockaddrIn) :
    HandsOut (fun o => ∃ msg, ReportsMsg msg o) s ((s.rtcpRx len fromAddr).val pkt) := by
  rw [val_rtcpRx]
  split
  · have hmsgs := handsOut_msgs fromAddr len (s.setRtcpError .noError) (rtcpMsgs pkt len)
    exact (HandsOut.of_eq rfl).trans (hmsgs.mono fun o ⟨msg, _, ho⟩ => ⟨msg, ho⟩)
  · exact .of_eq rfl

/-! ## Transmits -/

/-- A transmit that stays inside `rtp_pkt` hands out its packet, or nothing. -/
theorem handsOut_rtpTx (s : Session) (payload : ByteMem) {payloadLen : UInt32} (rtpTs : UInt32)
    (csrc : ℕ → UInt32) {ncsrc : UInt8} (hfits : TxFits payloadLen ncsrc) :
    HandsOut (fun o => ∃ bytes, o = .txRtp bytes ∧
      s.SendsRtp payload payloadLen rtpTs csrc ncsrc bytes) s
      (s.rtpTx payload payloadLen rtpTs csrc ncsrc) := by
  have hout : (s.rtpTxCount payloadLen).out = s.out := (s.rtpTxCount_fields payloadLen).1
  cases hsize : ((s.rtpTxCount payloadLen).rtpTxBuild payload payloadLen rtpTs csrc ncsrc).2 with
  | none =>
      refine .of_eq ?_
      simp only [rtpTx, hsize]
      exact hout
  | some size =>
      have hroom : rtpPktSize ncsrc.toNat payloadLen.toNat ≤ rtpPktLen := by
        refine hfits.resolve_right fun hbig => ?_
        rw [rtpTxBuild, if_pos hbig] at hsize
        exact absurd hsize (by simp)
      obtain ⟨bytes, hcall⟩ : ∃ bytes, (s.rtpTx payload payloadLen rtpTs csrc ncsrc).out =
          s.out ++ [.txRtp bytes] := by
        simp only [rtpTx, hsize, emit, hout]
        exact ⟨_, rfl⟩
      exact ⟨_, hcall, fun o ho => ⟨bytes, List.mem_singleton.1 ho, hroom, hcall⟩⟩

/-! ## Ticks -/

/-- A call of `rtcp_send_report` hands out a log line and the report, if the report fits. -/
theorem handsOut_rtcpSendReport (s : Session) :
    HandsOut (fun o => o = .logRtcpTx ∨ ∃ bytes, o = .txRtcp bytes ∧ s.Transmits bytes) s
      s.rtcpSendReport.2 := by
  by_cases hfits : s.ReportFits
  · have hsent : s.Transmits s.reportBytes := (s.rtcpSendReport_fits hfits).1
    refine ⟨_, hsent, fun x hx => ?_⟩
    rcases List.mem_cons.1 hx with rfl | hx
    · exact Or.inl rfl
    · exact Or.inr ⟨s.reportBytes, List.mem_singleton.1 hx, hsent⟩
  · exact ⟨_, (s.rtcpSendReport_full hfits).2, fun x hx => Or.inl (List.mem_singleton.1 hx)⟩

/-- When the interval timer comes to send its report, it has only drawn an interval. -/
theorem eq_of_sendReportCall {s r : Session} (h : s.sendReportCall = some r) :
    r = s.drawInterval.2 := by
  simp only [sendReportCall] at h
  split at h
  · exact (Option.some.inj h).symm
  · exact absurd h (by simp)

/-- The sessions a tick reports from are those in which the interval timer fires. -/
theorem firing_of_tickReports {s r : Session} (hr : r ∈ s.tickReports) :
    ∃ c, (TimerElem.rtcp, c) ∈ s.tickFirings ∧ c.sendReportCall = some r := by
  obtain ⟨⟨e, c⟩, hp, hcall⟩ := List.mem_filterMap.1 hr
  cases e with
  | rtcp => exact ⟨c, hp, hcall⟩
  | member | sender | leave | conflict => exact absurd hcall (by simp)

/-- Every timer but that of the RTCP interval hands out nothing when it expires. -/
theorem out_timerCallback {e : TimerElem} (he : e ≠ .rtcp) (s : Session) :
    (timerCallback e s).out = s.out := by
  cases e with
  | rtcp => exact absurd rfl he
  | member m => exact s.out_leaving (by decide) _ 0
  | sender m =>
      apply rtcpIntervalSenderTimedout_rule (R := fun s t : Session => t.out = s.out)
      · exact fun h h' => h'.trans h
      · exact fun _ => rfl
      · exact fun _ => rfl
      · exact fun _ => rfl
      · exact fun s => s.out_leaving (by decide) _ 0
  | leave m => rfl
  | conflict c => rfl

/-- What a callback of a tick hands out: if it is that of the interval timer, what its report does. -/
theorem handsOut_timerCallback (e : TimerElem) (c : Session) :
    HandsOut (fun o => o = .logRtcpTx ∨ ∃ r, e = .rtcp ∧ c.sendReportCall = some r ∧
      ∃ bytes, o = .txRtcp bytes ∧ r.Transmits bytes) c (timerCallback e c) := by
  by_cases he : e = .rtcp
  · subst he
    have hout := c.out_rtcpIntervalTimeout
    cases hcall : c.sendReportCall with
    | none =>
        rw [hcall] at hout
        exact .of_eq hout
    | some r =>
        rw [hcall] at hout
        have hr : r.out = c.out := by
          rw [eq_of_sendReportCall hcall]
          rfl
        refine ((HandsOut.of_eq hr).trans ?_).trans (.of_eq hout)
        exact r.handsOut_rtcpSendReport.mono fun o ho => ho.imp_right fun h => ⟨r, rfl, rfl, h⟩
  · exact .of_eq (out_timerCallback he c)

/-- The outputs of a tick are log lines and the reports of the interval timer. -/
def TickOutput (s : Session) (o : Output) : Prop :=
  o = .logRtcpTx ∨ ∃ r ∈ s.tickReports, ∃ bytes, o = .txRtcp bytes ∧ r.Transmits bytes

theorem handsOut_fire {s t : Session} {e : TimerElem} (h : HandsOut (TickOutput s) s t)
    (hfiring : (e, t.setTimer t.softTimer.popTimeout) ∈ s.tickFirings) :
    HandsOut (TickOutput s) s (timerCallback e (t.setTimer t.softTimer.popTimeout)) := by
  have hpop : HandsOut (TickOutput s) t (t.setTimer t.softTimer.popTimeout) := .of_eq rfl
  refine (h.trans hpop).trans ((handsOut_timerCallback e _).mono fun o ho => ho.imp_right ?_)
  rintro ⟨r, rfl, hcall, hbytes⟩
  exact ⟨r, List.mem_filterMap.2 ⟨_, hfiring, hcall⟩, hbytes⟩

theorem handsOut_tick (s : Session) : HandsOut (TickOutput s) s s.rtpSessionTimerTick :=
  SoftTimer.fireTimeouts_invariant (G := fun e t => (e, t) ∈ s.tickFirings)
    (fun _ _ _ _ ht hfiring => handsOut_fire ht hfiring) (fun _ hp => hp) (.of_eq rfl)

/-- The sessions the interval timer reports from have handed out no more. -/
theorem handsOut_tickReports {s r : Session} (hr : r ∈ s.tickReports) :
    HandsOut (TickOutput s) s r := by
  obtain ⟨c, hc, hcall⟩ := firing_of_tickReports hr
  have hexpired : HandsOut (TickOutput s) s (s.setTimer s.softTimer.expire) := .of_eq rfl
  obtain ⟨t, rest, ht, -, hpop⟩ := SoftTimer.firings_invariant
    (G := fun e t => (e, t) ∈ s.tickFirings) (fun _ _ _ _ ht hfiring => handsOut_fire ht hfiring)
    (fun _ hp => hp) hexpired _ hc
  simp only at hpop
  rw [eq_of_sendReportCall hcall, hpop]
  exact ht.trans (.of_eq rfl)

end Session

end Prtp
