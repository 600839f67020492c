import Prtp.OwnAddresses
import Prtp.HandedOut

set_option autoImplicit false

/-! # Runs that `undef` does not mark

A session stores only into its own packet, links a timer anew only when no list holds it, takes its own
member from a table that has a free slot, and never hands the encoder a sub-packet whose length is not one
of words. What is left is the loop that draws another SSRC: it ends as long as a draw that no member has is
to come. What else C leaves undefined, such as a read behind the datagram or a conversion out of range, is
not what `undef` marks. -/

namespace Prtp

open ByteReader

namespace Session

/-! ## The random numbers -/

/-- A draw that no member has is to come. -/
def RedrawsLeft (s : Session) : Prop :=
  (s.memberTable.drawUnusedSsrc s.env.random32).isSome = true

instance (s : Session) : Decidable s.RedrawsLeft := inferInstanceAs (Decidable (_ = _))

theorem undef_ownSsrcConflict {s : Session} (hredraws : s.RedrawsLeft) (m : Slot)
    (fromAddr : SockaddrIn) : (s.ownSsrcConflict m fromAddr).2.undef = s.undef := by
  have hlookup : (s.rtpSourceConflictLookup fromAddr).2.undef = s.undef := rfl
  simp only [ownSsrcConflict, rtpMemberTableChangeRandomSsrc]
  split
  · exact hlookup
  · split
    · rename_i hnone
      have hdraw : s.memberTable.drawUnusedSsrc s.env.random32 = none := hnone
      rw [RedrawsLeft, hdraw] at hredraws
      exact absurd hredraws (by simp)
    · exact hlookup

/-! ## New members -/

/-- The timers of a slot that is not in the table are on no list. -/
theorem InOrder.idle {s : Session} (h : s.InOrder) {m : Slot} (hm : m ∉ s.usedList) :
    s.isSoftTimerRunning (.member m) = false ∧ s.isSoftTimerRunning (.sender m) = false ∧
      s.isSoftTimerRunning (.leave m) = false := by
  have hother : m ≠ s.self := by
    rintro rfl
    exact hm h.self_used.1
  obtain ⟨hmem, hsnd, hlv⟩ := running_of_remote (h.1.remote m hother)
  refine ⟨decide_eq_false ?_, decide_eq_false ?_, decide_eq_false ?_⟩
  · exact fun hrun => hm (hmem.1 hrun).1
  · exact fun hrun => hm (hsnd.1 hrun).1.1
  · exact fun hrun => hm (hlv.1 hrun).1

theorem undef_alloc {s s' : Session} {ssrc : UInt32} {m : Slot} (hidle : m ∉ s.usedList →
      s.isSoftTimerRunning (.member m) = false ∧ s.isSoftTimerRunning (.sender m) = false ∧
        s.isSoftTimerRunning (.leave m) = false)
    (halloc : s.rtpSessionAllocMember ssrc = some (m, s')) : s'.undef = s.undef := by
  obtain ⟨hmem, hsnd, hlv⟩ := hidle (alloc_eq_some halloc).1
  rw [rtpSessionAllocMember] at halloc
  split at halloc
  · exact absurd halloc (by simp)
  · rename_i j mt _
    rw [Option.some_inj, Prod.mk.injEq] at halloc
    obtain ⟨rfl, rfl⟩ := halloc
    show (s.undef || s.isSoftTimerRunning (.member j) || s.isSoftTimerRunning (.sender j) ||
      s.isSoftTimerRunning (.leave j)) = s.undef
    rw [hmem, hsnd, hlv, Bool.or_false, Bool.or_false, Bool.or_false]

/-- Whatever the sources of a packet are, all stays defined. -/
theorem undef_rtpHandleSsrc {s : Session} (h : s.InOrder) {ssrc : UInt32}
    (hredraws : ssrc = s.selfMember.ssrc → s.RedrawsLeft) (seq : UInt16) (fromAddr : SockaddrIn)
    (csrc : Bool) : (s.rtpHandleSsrc ssrc seq fromAddr csrc).2.undef = s.undef := by
  have hcase := s.rtpHandleSsrc_case ssrc seq fromAddr csrc
  generalize s.rtpHandleSsrc ssrc seq fromAddr csrc = res at hcase
  cases hcase with
  | tableFull | leaving | joined | thirdParty | refreshed => rfl
  | created m s' hnone halloc | createdCsrc m s' hnone halloc =>
      show s'.undef = s.undef
      exact undef_alloc h.idle halloc
  | collision _ m hm hbye hself haddr err =>
      obtain ⟨hused, hssrc⟩ := lookup_eq_some hm
      have hown : m = s.self := by
        by_contra hother
        have hnot : (s.member m).flags.self = false := (h.1.remote m hother).notSelf (decide_eq_true hused)
        exact Bool.false_ne_true (hnot.symm.trans hself)
      subst hown
      exact undef_ownSsrcConflict (hredraws hssrc.symm) _ fromAddr

theorem undef_rtcpHandleSsrc {s : Session} (h : s.InOrder) {ssrc : UInt32}
    (hredraws : ssrc = s.selfMember.ssrc → s.RedrawsLeft) (fromAddr : SockaddrIn) (pktSize : UInt32) :
    (s.rtcpHandleSsrc ssrc fromAddr pktSize).2.undef = s.undef := by
  have hcase := s.rtcpHandleSsrc_case ssrc fromAddr pktSize
  generalize s.rtcpHandleSsrc ssrc fromAddr pktSize = res at hcase
  cases hcase with
  | tableFull | leaving | joined | thirdParty | refreshed => rfl
  | created m s' hnone halloc =>
      show s'.undef = s.undef
      exact undef_alloc h.idle halloc
  | collision m hm hbye hknown haddr hown err =>
      exact undef_ownSsrcConflict (hredraws hown) m fromAddr

/-! ## Leaving members -/

theorem undef_leaving (s : Session) {event : RtcpEvent} (hevent : event ≠ .rxNonBye)
    (flags : IntervalFlags) (pktSize : UInt32) :
    (s.rtcpIntervalHandleRtcpEvent event flags pktSize).undef = s.undef := by
  rw [rtcpEvent_leaving s hevent]
  split <;> rfl

theorem undef_rtcpHandleByeSource (s : Session) (ssrc pktSize : UInt32) :
    (s.rtcpHandleByeSource ssrc pktSize).undef = s.undef := by
  unfold rtcpHandleByeSource
  split
  · rfl
  · split
    · rfl
    · exact s.undef_leaving (by decide) _ pktSize

/-! ## Reports -/

theorem undef_rtcpSendReportGenRr (addRr : RtcpEncoder → RtcpRr → Bool × RtcpEncoder) (ms : List Slot) :
    ∀ (enc : RtcpEncoder) (s : Session), (rtcpSendReportGenRr addRr ms enc s).2.2.undef = s.undef := by
  induction ms with
  | nil => exact fun _ _ => rfl
  | cons m ms ih =>
      intro enc s
      have hrr : (s.rrOf m).2.undef = s.undef := by
        simp only [rrOf, dlsr]
        split <;> rfl
      simp only [rtcpSendReportGenRr]
      split
      · split
        · exact (ih _ _).trans hrr
        · exact hrr
      · exact ih enc s

theorem undef_rtcpSendReportFirst (s : Session) (enc : RtcpEncoder) (ts : NtpTs) (rtpTs : UInt32) :
    (s.rtcpSendReportFirst enc ts rtpTs).2.2.undef = s.undef := by
  simp only [rtcpSendReportFirst]
  split
  · split
    · exact undef_rtcpSendReportGenRr ..
    · rfl
  · split
    · exact undef_rtcpSendReportGenRr ..
    · rfl

/-- The encoder is never asked to close a sub-packet whose length is not one of words. -/
theorem undef_rtcpSendReport (s : Session) : s.rtcpSendReport.2.undef = s.undef := by
  have hstart : s.reportStart.undef = s.undef := rfl
  have hfirst := s.reportStart.undef_rtcpSendReportFirst
    (RtcpEncoder.init s.env.stack rtpConfigRtcpEncoderBufferLen) s.ntpTsNow.1 s.rtpSessionTimestamp.1
  have hinit := RtcpEncoder.Complete.init s.env.stack rtpConfigRtcpEncoderBufferLen
  rw [rtcpSendReport_eq]
  by_cases hroom : s.reportSize ≤ rtpConfigRtcpEncoderBufferLen
  · obtain ⟨re, s', heq, hbuild, hsame⟩ :=
      s.reportStart.rtcpSendReportFirst_fits hinit s.ntpTsNow.1 s.rtpSessionTimestamp.1 (by decide) hroom
    have hbody : RtcpEncoder.Building re rtpConfigRtcpEncoderBufferLen [] s.sentBlocks.length s.reportPt
        s.reportBody := hbuild
    have hsize := s.reportBody_length
    have haligned := s.four_dvd_reportSize
    have halign : s.reportBody.length % 4 = 0 := by omega
    rw [heq] at hfirst
    simp only [heq]
    refine Eq.trans ?_ (hfirst.trans hstart)
    show (s'.rtcpSendReportRest re).2.undef = s'.undef
    rcases Nat.lt_or_ge rtpConfigRtcpEncoderBufferLen
        (4 + s.reportBody.length + RtcpEncoder.sdesSize s'.selfMember.cnameLen.toNat) with hfull | hfits
    · rw [s'.rtcpSendReportRest_full hbody halign hfull]
    · rw [s'.rtcpSendReportRest_fits hbody halign hfits]
      rfl
  · obtain ⟨hfail, -⟩ := s.reportStart.rtcpSendReportFirst_full hinit s.ntpTsNow.1
      s.rtpSessionTimestamp.1 (by decide) (by decide) (Nat.lt_of_not_le hroom)
    simp only [hfail]
    exact hfirst.trans hstart

theorem undef_timerCallback (e : TimerElem) (s : Session) : (timerCallback e s).undef = s.undef := by
  cases e with
  | rtcp =>
      apply rtcpIntervalTimeout_rule (R := fun s t : Session => t.undef = s.undef)
      · exact fun h h' => h'.trans h
      · exact fun _ => rfl
      · exact undef_rtcpSendReport
      · exact fun _ _ _ _ => rfl
      · exact fun _ _ _ => rfl
  | member m => exact s.undef_leaving (by decide) _ 0
  | sender m =>
      apply rtcpIntervalSenderTimedout_rule (R := fun s t : Session => t.undef = s.undef)
      · exact fun h h' => h'.trans h
      · exact fun _ => rfl
      · exact fun _ => rfl
      · exact fun _ => rfl
      · exact fun s => s.undef_leaving (by decide) _ 0
  | leave m => rfl
  | conflict c => rfl

/-! ## Transmits -/

theorem undef_rtpTxCount (s : Session) (payloadLen : UInt32) :
    (s.rtpTxCount payloadLen).undef = s.undef := by
  unfold rtpTxCount
  split <;> rfl

/-- A packet that fits `rtp_pkt` is stored inside it, padding and all. -/
theorem storesBelow_of_txFits {payloadLen : UInt32} {ncsrc : UInt8} (hfits : TxFits payloadLen ncsrc)
    (s : Session) (payload : ByteMem) (rtpTs : UInt32) (csrc : Nat → UInt32) :
    StoresBelow rtpPktLen (s.rtpTxBuild payload payloadLen rtpTs csrc ncsrc).1 := by
  have hlen : rtpPktLen = 256 := rfl
  simp only [rtpTxBuild]
  split
  · exact fun _ hw => absurd hw List.not_mem_nil
  · rename_i hsize
    have hroom := hfits.resolve_right hsize
    have hhdr := (storesBelow_rtpTxHdrStores s payload payloadLen.toNat rtpTs csrc ncsrc.toNat rtpPktLen
      (by decide)).2 hroom
    split
    · split
      · exact hhdr
      · rw [StoresBelow.append_iff, storesBelow_rtpTxPadStores _ _ _ (by decide)]
        exact ⟨hhdr, by omega⟩
    · exact hhdr

theorem undef_rtpTx (s : Session) (payload : ByteMem) {payloadLen : UInt32} (rtpTs : UInt32)
    (csrc : Nat → UInt32) {ncsrc : UInt8} (hfits : TxFits payloadLen ncsrc) :
    (s.rtpTx payload payloadLen rtpTs csrc ncsrc).undef = s.undef := by
  have hstores := storesBelow_of_txFits hfits (s.rtpTxCount payloadLen) payload rtpTs csrc
  have hany : (((s.rtpTxCount payloadLen).rtpTxBuild payload payloadLen rtpTs csrc ncsrc).1.any
      fun w => rtpPktLen ≤ w.1) = false := by
    rw [List.any_eq_false]
    intro w hw
    have hbelow := hstores w hw
    rw [decide_eq_true_eq]
    omega
  have hcount := s.undef_rtpTxCount payloadLen
  simp only [rtpTx]
  split
  · rw [hany, Bool.or_false, hcount]
  · show ((s.rtpTxCount payloadLen).undef || _) = s.undef
    rw [hany, Bool.or_false, hcount]

/-! ## Runs -/

/-- Nobody speaks in the session's name, packets fit `rtp_pkt`, and whenever somebody uses its SSRC there
    is a draw left that no member has. -/
def defined : ActGuard where
  rtp fromAddr s ssrc :=
    selfUnnamed.rtp fromAddr s ssrc ∧ (ssrc = s.selfMember.ssrc → s.RedrawsLeft)
  msg fromAddr s msg :=
    selfUnnamed.msg fromAddr s msg ∧ (msg.source = some s.selfMember.ssrc → s.RedrawsLeft)
  tx := TxFits
  expire _ := True
  fire _ _ := True

instance : defined.Evaluable where
  rtp fromAddr s ssrc :=
    have := ActGuard.Evaluable.rtp (g := selfUnnamed) fromAddr s ssrc
    inferInstanceAs (Decidable (_ ∧ (_ → _)))
  msg fromAddr s msg :=
    have := ActGuard.Evaluable.msg (g := selfUnnamed) fromAddr s msg
    inferInstanceAs (Decidable (_ ∧ (_ → _)))
  tx _ _ := inferInstanceAs (Decidable (TxFits _ _))
  expire _ := isTrue trivial
  fire _ _ := isTrue trivial

theorem defined_le : defined.Le selfUnnamed :=
  ⟨And.left, And.left, id, fun _ => trivial, fun _ => trivial⟩

/-- The session is in order, and all that has happened is defined. -/
def Sound (s : Session) : Prop := s.InOrder ∧ s.undef = false

theorem sound_rtpRx {s : Session} (h : s.Sound) {pkt : ByteMem} {len : UInt32} {fromAddr : SockaddrIn}
    (hg : RtpGuarded (defined.rtp fromAddr) s pkt len fromAddr) :
    ((s.rtpRx len fromAddr).val pkt).Sound := by
  have hrules := (selfUnnamed_rules.mono defined_le).history.packets
  apply rtpRx_rule History.none.packets (P := fun _ => Sound) (x := ()) ?_ ?_ ?_ ?_ ?_ hg
  · exact ⟨hrules.calm (x := ()) (.rtpSessionTimestamp s) h.1, h.2⟩
  · intro x s e hs
    refine ⟨hrules.calm (x := ()) (s := s) ?_ hs.1, hs.2⟩
    exact .of_table ⟨rfl, rfl, rfl, rfl, rfl, rfl, rfl, fun _ => .refl _⟩ rfl
  · intro x s hdr arrival hs hssrc
    refine ⟨hrules.data (x := ()) hs.1 hssrc, ?_⟩
    have hsource := undef_rtpHandleSsrc hs.1 hssrc.2 hdr.seq fromAddr false
    simp only [Session.rtpRxSource]
    split
    · exact hsource.trans hs.2
    · split
      · exact hsource.trans hs.2
      · exact hsource.trans hs.2
  · intro x s seq rtpTs arrival csrc hs hcsrc
    refine ⟨hrules.rtpHandleCsrc (x := ()) hs.1 hcsrc, ?_⟩
    have hsource := undef_rtpHandleSsrc hs.1 hcsrc.2 seq fromAddr true
    simp only [Session.rtpHandleCsrc]
    split
    · exact hsource.trans hs.2
    · exact hsource.trans hs.2
  · exact fun x s o hs =>
      ⟨hrules.calm (x := ()) ((Calm.setRtpError _ _).trans (.emit _ _)) hs.1, hs.2⟩

theorem undef_acceptMsg (s : Session) (m : Slot) (msg : RtcpMsg) :
    (s.acceptMsg m msg).undef = s.undef := by
  cases msg with
  | sr ssrc ntp rtpTs psent osent blocks sub =>
      show (reportBlocks ssrc blocks (s.recordSr m ntp rtpTs psent osent)).undef = s.undef
      rw [reportBlocks_eq]
      rfl
  | rr ssrc blocks =>
      show (reportBlocks ssrc blocks s).undef = s.undef
      rw [reportBlocks_eq]
  | sdes ssrc cnames =>
      exact Runs.run_invariant (P := fun t : Session => t.undef = s.undef)
        (fun t cname ht => (show (t.recordCname m cname).undef = t.undef from rfl).trans ht) rfl cnames
  | bye ssrc => rfl

theorem sound_handleMsg {fromAddr : SockaddrIn} {len : UInt32} {s : Session} {msg : RtcpMsg}
    (h : s.Sound) (hg : defined.msg fromAddr s msg) : (handleMsg fromAddr len s msg).Sound := by
  refine ⟨(selfUnnamed_rules.mono defined_le).handleMsg h.1 hg, ?_⟩
  refine Eq.trans ?_ h.2
  apply handleMsg_rule (P := fun t => t.undef = s.undef)
  · intro ssrc hsource _
    exact undef_rtcpHandleSsrc h.1 (fun hown => hg.2 (hown ▸ hsource)) fromAddr len
  · intro ssrc m hsource _
    rw [undef_acceptMsg]
    exact undef_rtcpHandleSsrc h.1 (fun hown => hg.2 (hown ▸ hsource)) fromAddr len
  · exact fun ssrc _ => s.undef_rtcpHandleByeSource ssrc len

theorem sound_step {s : Session} (h : s.Sound) {op : Op} (hg : defined.admits s op) :
    (step s op).Sound := by
  have hrules := selfUnnamed_rules.mono defined_le
  cases op with
  | rxRtp pkt len fromAddr => exact sound_rtpRx h hg
  | rxRtcp pkt len fromAddr =>
      have hmsg : ∀ (s : Session) msg, s.Sound → defined.msg fromAddr s msg →
          (handleMsg fromAddr len s msg).Sound := fun _ _ => sound_handleMsg
      show ((s.rtcpRx len fromAddr).val pkt).Sound
      have hstart : (s.setRtcpError .noError).Sound := ⟨hrules.quiet (.setRtcpError s _) h.1, h.2⟩
      have hinOrder := hrules.step s (.rxRtcp pkt len fromAddr) h.1 hg
      refine ⟨hinOrder, ?_⟩
      rw [val_rtcpRx]
      split
      · exact (Runs.Guarded.invariant hmsg hg hstart).2
      · exact h.2
  | tx payload payloadLen rtpTs csrc ncsrc =>
      exact ⟨hrules.step s (.tx payload payloadLen rtpTs csrc ncsrc) h.1 hg,
        (s.undef_rtpTx payload rtpTs csrc hg).trans h.2⟩
  | tick =>
      refine ⟨hrules.step s .tick h.1 hg, ?_⟩
      have hexpired : (s.setTimer s.softTimer.expire).undef = s.undef := rfl
      refine SoftTimer.softTimerDrive_invariant (P := fun t : Session => t.undef = false) ?_ ?_
      · exact hexpired.trans h.2
      · exact fun e t rest _ ht => (undef_timerCallback e _).trans ht

theorem sound_rtpSessionInit (mem : Session) (config : RtpSessionConfig) :
    (mem.rtpSessionInit config).Sound := by
  refine ⟨kept_rtpSessionInit mem config, ?_⟩
  have hblank := blank_rtpSessionBlank mem config
  have hstart : (mem.rtpSessionBlank config).undef = false := rfl
  rw [rtpSessionInit_eq]
  generalize mem.rtpSessionBlank config = s at hblank hstart
  obtain ⟨m, rest, hfree⟩ := List.exists_cons_of_ne_nil hblank.free
  obtain ⟨s', halloc⟩ := rtpSessionAllocMember_of_free (s := s.rtpRandom32.2) s.rtpRandom32.1 hfree
  have hundef : s'.undef = s.rtpRandom32.2.undef :=
    undef_alloc (fun _ => ⟨hblank.idle _, hblank.idle _, hblank.idle _⟩) halloc
  have hself : (s.rtpSessionInitSelf config).undef = false := by
    simp only [rtpSessionInitSelf, halloc]
    exact hundef.trans hstart
  exact hself

/-- A session in whose name nobody else speaks, that is asked to send only packets that fit and always finds
    another SSRC when it needs one, does none of the four things that `undef` stands for: in no run of any
    length does it store outside `rtp_pkt`, re-initialise a timer that is queued, take its own member from a
    full table or reach the null store of `RTPCRASH`. -/
theorem runs_defined (mem : Session) (config : RtpSessionConfig) (ops : List Op)
    (hg : Runs.Guarded step defined.admits (mem.rtpSessionInit config) ops) :
    (runSession mem config ops).undef = false :=
  (hg.invariant (fun _ _ hs hop => sound_step hs hop) (sound_rtpSessionInit mem config)).2

/-- A session that hears SSRC 9 come and go, sends, meets its own SSRC 2 from elsewhere and goes on. -/
theorem runs_defined_collision :
    (runSession (zeroed (.still .zero)) (plainConfig 1000 4)
      ([.rxRtcp (rrFrom 9) 8 (.ofPort 7), .tx (fun _ => 0) 20 0 (fun _ => 0) 0,
        .rxRtp (rtpFrom 2) 12 (.ofPort 7)] ++ List.replicate 60 .tick)).undef = false :=
  runs_defined _ _ _ (by decide +kernel)

end Session

end Prtp
