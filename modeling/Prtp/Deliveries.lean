import Prtp.TrialRuns

set_option autoImplicit false

/-! # What is delivered to the application

`rx_rtp` is called for accepted packets. Unless the packet has the session's own SSRC, its source is then
a member other than the session's own that is known by the packet's address, has not left and has passed
its trial. -/

namespace Prtp

open ByteReader

namespace Session

/-! ## Accepted packets -/

/-- `rtp_rx` goes on to the CSRC list with a data packet of the header `hdr`, as one of `m`: it is known
    on this channel and not leaving, the packet comes from its recorded address, and its sequence
    number is accepted. -/
structure Accepts (s : Session) (hdr : RtpHdr) (fromAddr : SockaddrIn) (m : Slot) : Prop where
  lookup : s.rtpSessionLookupMember hdr.ssrc = some m
  bye : (s.member m).flags.byeReceived = false
  known : (s.member m).flags.self = true ∨ (s.member m).flags.rtpHeard = true
  addr : (s.member m).rtpAddr = fromAddr
  seq : ((s.member m).rtpSrc.rtpUpdateSeq hdr.seq).1 = true

/-- The session `rtp_rx` reaches the CSRC list with. -/
def rtpAccepted (s : Session) (m : Slot) (hdr : RtpHdr) (arrival : UInt32) : Session :=
  (((s.rtpRefreshed m).modifyMember m fun x =>
    { x with rtpSrc := (x.rtpSrc.rtpUpdateSeq hdr.seq).2 }).rtcpComputeJitter m hdr.ts
      arrival).modifyMember m RtpMember.setValidated

theorem quiet_rtpAccepted (s : Session) (m : Slot) (hdr : RtpHdr) (arrival : UInt32) :
    Quiet (s.rtpRefreshed m) (s.rtpAccepted m hdr arrival) := by
  have hseq := Quiet.modifyMember (s.rtpRefreshed m) m
    (f := fun x => { x with rtpSrc := (x.rtpSrc.rtpUpdateSeq hdr.seq).2 })
    ⟨rfl, rfl, rfl, rfl, rfl, rfl, rfl⟩
  have hjitter := hseq.trans (.modifyMember _ m
    (f := fun x => { x with rtpSrc := x.rtpSrc.rtcpComputeJitter hdr.ts arrival })
    ⟨rfl, rfl, rfl, rfl, rfl, rfl, rfl⟩)
  exact hjitter.trans (.modifyMember _ m ⟨rfl, rfl, rfl, rfl, rfl, rfl, rfl⟩)

theorem rtpHandleSsrc_known {s : Session} {ssrc : UInt32} {m : Slot} {fromAddr : SockaddrIn}
    (hm : s.rtpSessionLookupMember ssrc = some m) (hbye : (s.member m).flags.byeReceived = false)
    (hknown : (s.member m).flags.self = true ∨ (s.member m).flags.rtpHeard = true)
    (haddr : (s.member m).rtpAddr = fromAddr) (seq : UInt16) (csrc : Bool) :
    s.rtpHandleSsrc ssrc seq fromAddr csrc = (some m, s.rtpRefreshed m) := by
  have htest : (!(s.member m).flags.self && !(s.member m).flags.rtpHeard) = false := by
    rcases hknown with h | h <;> simp [h]
  simp only [Session.rtpHandleSsrc, hm, hbye, htest, haddr, ne_eq, not_true_eq_false,
    Bool.false_eq_true, if_false]
  rfl

theorem rtpRxSource_accepts {s : Session} {hdr : RtpHdr} {fromAddr : SockaddrIn} {m : Slot}
    (h : s.Accepts hdr fromAddr m) (arrival : UInt32) :
    s.rtpRxSource hdr arrival fromAddr = (true, s.rtpAccepted m hdr arrival) := by
  have hrecord : (s.rtpRefreshed m).member m = (s.member m).setRtpHeard := Function.update_self ..
  have hseq : (((s.rtpRefreshed m).member m).rtpSrc.rtpUpdateSeq hdr.seq).1 = true := by
    rw [hrecord]
    exact h.seq
  simp only [Session.rtpRxSource, rtpHandleSsrc_known h.lookup h.bye h.known h.addr, hseq]
  rfl

/-- `rtp_rx` goes on to the CSRC list with nothing but what it accepts. -/
theorem accepts_of_rtpRxSource {s : Session} {hdr : RtpHdr} {arrival : UInt32}
    {fromAddr : SockaddrIn} (h : (s.rtpRxSource hdr arrival fromAddr).1 = true) :
    ∃ m, s.Accepts hdr fromAddr m := by
  have hcase := s.rtpHandleSsrc_case hdr.ssrc hdr.seq fromAddr false
  simp only [Session.rtpRxSource] at h
  generalize s.rtpHandleSsrc hdr.ssrc hdr.seq fromAddr false = res at hcase h
  cases hcase with
  | tableFull | created | leaving | joined | thirdParty | collision =>
      exact absurd h (by simp)
  | refreshed _ m hm hbye hknown haddr =>
      have hrecord : (s.rtpRefreshed m).member m = (s.member m).setRtpHeard :=
        Function.update_self ..
      simp only [hrecord] at h
      refine ⟨m, hm, hbye, hknown, haddr, ?_⟩
      show ((s.member m).setRtpHeard.rtpSrc.rtpUpdateSeq hdr.seq).1 = true
      by_contra hrejected
      rw [Bool.not_eq_true] at hrejected
      simp [hrejected] at h

/-- `m` is on trial as a source of data with the given SSRC and address and has passed. -/
structure Trusted (ssrc : UInt32) (fromAddr : SockaddrIn) (m : Slot) (log : UInt32 → List UInt16)
    (s : Session) : Prop extends s.OnTrial m where
  passed : Consecutive rtpConfigMinSequential.toNat (log ssrc)
  ssrc : (s.member m).ssrc = ssrc
  bye : (s.member m).flags.byeReceived = false
  addr : (s.member m).rtpAddr = fromAddr

/-- Whatever leaves what is known of `m` as it is. -/
theorem Trusted.same {ssrc : UInt32} {fromAddr : SockaddrIn} {m : Slot}
    {log log' : UInt32 → List UInt16} {s s' : Session} (h : Trusted ssrc fromAddr m log s)
    (hused : m ∈ s'.usedList ↔ m ∈ s.usedList) (halike : (s.member m).Alike (s'.member m))
    (hlog : log' ssrc = log ssrc) : Trusted ssrc fromAddr m log' s' where
  used := hused.2 h.used
  notSelf := halike.self.trans h.notSelf
  heard := halike.rtpHeard.trans h.heard
  ssrc := halike.ssrc.trans h.ssrc
  bye := halike.byeReceived.trans h.bye
  addr := halike.rtpAddr.trans h.addr
  passed := hlog ▸ h.passed

theorem Trusted.quiet {ssrc : UInt32} {fromAddr : SockaddrIn} {m : Slot}
    {log : UInt32 → List UInt16} {s s' : Session} (h : Trusted ssrc fromAddr m log s)
    (hquiet : Quiet s s') : Trusted ssrc fromAddr m log s' :=
  h.same (by rw [hquiet.usedList]) (hquiet.member m) rfl

/-- Handling a source with another SSRC does not touch `m`. -/
theorem rtpHandleSsrc_other {s : Session} {m : Slot} {ssrc : UInt32} (hm : m ∈ s.usedList)
    (hother : (s.member m).ssrc ≠ ssrc) (seq : UInt16) (fromAddr : SockaddrIn) (csrc : Bool) :
    Untouched m s (s.rtpHandleSsrc ssrc seq fromAddr csrc).2 := by
  have hframe := Untouched.frame m
  have hcase := s.rtpHandleSsrc_case ssrc seq fromAddr csrc
  generalize s.rtpHandleSsrc ssrc seq fromAddr csrc = res at hcase
  have hnew : ∀ {j s'}, s.rtpSessionAllocMember ssrc = some (j, s') → j ≠ m := by
    rintro j s' halloc rfl
    exact (alloc_eq_some halloc).1 hm
  have hne : ∀ {j}, s.rtpSessionLookupMember ssrc = some j → j ≠ m := by
    rintro j hj rfl
    exact hother (lookup_eq_some hj).2
  cases hcase with
  | tableFull | leaving | thirdParty => exact hframe.setRtpError s _
  | created j s' hnone halloc => exact hframe.rtpCreated (hnew halloc) halloc seq fromAddr
  | createdCsrc j s' hnone halloc =>
      exact (hframe.rtpCreated (hnew halloc) halloc seq fromAddr).trans
        (hframe.modify _ (fun x => x.setValidated.setCsrc) (hnew halloc))
  | joined _ j hj hbye hself hunheard => exact hframe.rtpJoined (hne hj) s seq fromAddr
  | collision _ j hj hbye hself haddr err =>
      exact (hframe.ownSsrcConflict s fromAddr (Or.inl (hne hj))).trans (hframe.setRtpError _ err)
  | refreshed _ j hj hbye hknown haddr => exact hframe.rtpRefreshed (hne hj) s

/-- An entry of the CSRC list changes nothing that is known of the packet's source. -/
theorem Trusted.csrc {ssrc : UInt32} {fromAddr : SockaddrIn} {m : Slot}
    {log : UInt32 → List UInt16} {s : Session} (h : Trusted ssrc fromAddr m log s)
    (hunique : s.UniqueSsrc) (seq : UInt16) (rtpTs arrival csrc : UInt32) :
    Trusted ssrc fromAddr m (receivedHistory.csrc fromAddr log s csrc)
      (Session.rtpHandleCsrc seq fromAddr rtpTs arrival s csrc) := by
  have hjitter : ∀ {log' t}, Trusted ssrc fromAddr m log' t → ∀ j,
      Trusted ssrc fromAddr m log' (t.rtcpComputeJitter j rtpTs arrival) := fun ht j =>
    ht.quiet (.modifyMember _ j ⟨rfl, rfl, rfl, rfl, rfl, rfl, rfl⟩)
  have hsource : Trusted ssrc fromAddr m (receivedHistory.csrc fromAddr log s csrc)
      (s.rtpHandleSsrc csrc seq fromAddr true).2 := by
    by_cases hcsrc : ssrc = csrc
    · have hm : s.rtpSessionLookupMember csrc = some m := by
        rw [← hcsrc, ← h.ssrc]
        exact hunique.lookup h.used
      rw [rtpHandleSsrc_known hm h.bye (Or.inr h.heard) h.addr]
      have hrecord : (s.rtpRefreshed m).member m = (s.member m).setRtpHeard :=
        Function.update_self ..
      refine h.same Iff.rfl ?_ ?_
      · rw [hrecord]
        exact ⟨rfl, rfl, rfl, rfl, h.heard.symm, rfl, rfl⟩
      · rw [show receivedHistory.csrc fromAddr log s csrc = noteReceived fromAddr log s csrc []
          from rfl, noteReceived_refreshed hm h.bye (Or.inr h.heard) h.addr, hcsrc,
          Function.update_self, List.append_nil]
    · have hother : (s.member m).ssrc ≠ csrc := by rwa [h.ssrc]
      have hsame := rtpHandleSsrc_other h.used hother seq fromAddr true
      refine h.same hsame.used ?_ ?_
      · rw [hsame.record]
        exact .refl _
      · show noteReceived fromAddr log s csrc [] ssrc = log ssrc
        unfold noteReceived
        split
        · exact Function.update_of_ne hcsrc ..
        · split
          · exact Function.update_of_ne hcsrc ..
          · rfl
  simp only [Session.rtpHandleCsrc]
  split
  · exact hsource
  · exact hjitter hsource _

/-! ## Deliveries -/

/-- The call of `rx_rtp` that `rtp_rx` makes, if it makes one: the session it is made in, and the
    report. -/
def rxRtpCall (s : Session) (pkt : ByteMem) (len : UInt32) (fromAddr : SockaddrIn) :
    Option (Session × RtpRxReport) :=
  let (arrival, s) := s.rtpSessionTimestamp
  let hdr := rtpHdrOf pkt
  match (rtpHeaderValidityCheck len s.config.pt).val pkt with
  | .error _ => none
  | .ok (off, payloadLen) =>
    let src := s.rtpRxSource hdr arrival fromAddr
    if src.1 then
      some ((hdr.csrc.foldl (rtpHandleCsrc hdr.seq fromAddr hdr.ts arrival) src.2).setRtpError .noError,
        { payload := (bytes off payloadLen.toNat).val pkt
          payloadLen := payloadLen
          rtpTs := hdr.ts
          seq := hdr.seq
          csrc := hdr.csrc
          ncsrc := hdr.csrc.length })
    else none

/-- The call is all that `rtp_rx` still does. -/
theorem rtpRx_of_call {s t : Session} {pkt : ByteMem} {len : UInt32} {fromAddr : SockaddrIn}
    {rpt : RtpRxReport} (h : s.rxRtpCall pkt len fromAddr = some (t, rpt)) :
    (s.rtpRx len fromAddr).val pkt = t.emit (.rxRtp rpt) := by
  simp only [rxRtpCall] at h
  split at h
  · exact absurd h (by simp)
  · rename_i off payloadLen hvalid
    have hhdr : readRtpHdr.val pkt = rtpHdrOf pkt := rfl
    rw [s.val_rtpRx_of_ok hvalid, hhdr]
    split at h
    · rename_i hok
      rw [Option.some_inj, Prod.mk.injEq] at h
      obtain ⟨rfl, rfl⟩ := h
      simp only [rtpRxData, hok]
      rfl
    · exact absurd h (by simp)

theorem out_rtpHandleSsrc (s : Session) (ssrc : UInt32) (seq : UInt16) (fromAddr : SockaddrIn)
    (csrc : Bool) : (s.rtpHandleSsrc ssrc seq fromAddr csrc).2.out = s.out := by
  have hcase := s.rtpHandleSsrc_case ssrc seq fromAddr csrc
  generalize s.rtpHandleSsrc ssrc seq fromAddr csrc = res at hcase
  cases hcase with
  | tableFull | leaving | joined | thirdParty | refreshed => rfl
  | created m s' hnone halloc | createdCsrc m s' hnone halloc =>
      show s'.out = s.out
      exact out_alloc halloc
  | collision _ m hm hbye hself haddr err =>
      have hlookup : (s.rtpSourceConflictLookup fromAddr).2.out = s.out := rfl
      show (s.ownSsrcConflict m fromAddr).2.out = s.out
      simp only [ownSsrcConflict, rtpMemberTableChangeRandomSsrc]
      split
      · exact hlookup
      · split
        · exact hlookup
        · exact hlookup

theorem out_rtpRxSource (s : Session) (hdr : RtpHdr) (arrival : UInt32) (fromAddr : SockaddrIn) :
    (s.rtpRxSource hdr arrival fromAddr).2.out = s.out := by
  have hsource := s.out_rtpHandleSsrc hdr.ssrc hdr.seq fromAddr false
  simp only [Session.rtpRxSource]
  split
  · exact hsource
  · split
    · exact hsource
    · exact hsource

/-- `rtp_rx` calls nothing if it does not call `rx_rtp`. -/
theorem rtpRx_silent {s : Session} {pkt : ByteMem} {len : UInt32} {fromAddr : SockaddrIn}
    (h : s.rxRtpCall pkt len fromAddr = none) : ((s.rtpRx len fromAddr).val pkt).out = s.out := by
  simp only [rxRtpCall] at h
  cases hcheck : (rtpHeaderValidityCheck len s.rtpSessionTimestamp.2.config.pt).val pkt with
  | error e =>
      rw [s.val_rtpRx_of_error hcheck]
      rfl
  | ok p =>
      obtain ⟨off, payloadLen⟩ := p
      have hhdr : readRtpHdr.val pkt = rtpHdrOf pkt := rfl
      rw [s.val_rtpRx_of_ok hcheck, hhdr]
      simp only [rtpRxData]
      cases haccepted : (s.rtpSessionTimestamp.2.rtpRxSource (rtpHdrOf pkt)
          s.rtpSessionTimestamp.1 fromAddr).1 with
      | true =>
          rw [hcheck] at h
          simp only [haccepted, if_true] at h
          exact absurd h (by simp)
      | false => exact out_rtpRxSource ..

/-- `rx_rtp` is called in `t` for a packet of `ssrc` from `fromAddr` that arrived in `s`: it is not one
    of the session's own, and its source has passed its trial. -/
structure Genuine (s : Session) (log : UInt32 → List UInt16) (t : Session) (ssrc : UInt32)
    (fromAddr : SockaddrIn) : Prop where
  foreign : ssrc ≠ s.selfMember.ssrc
  trusted : ∃ m, Trusted ssrc fromAddr m log t

/-- A packet with the session's own SSRC is accepted. -/
def LoopsBack (s : Session) (pkt : ByteMem) (len : UInt32) (fromAddr : SockaddrIn) : Prop :=
  ((rtpHeaderValidityCheck len s.config.pt).val pkt).toBool = true ∧
    (rtpHdrOf pkt).ssrc = s.selfMember.ssrc ∧ ∃ m, s.Accepts (rtpHdrOf pkt) fromAddr m

/-- `rx_rtp` is called for what has a valid header and is accepted. -/
theorem rxRtpCall_isSome {s : Session} {pkt : ByteMem} {len : UInt32} {fromAddr : SockaddrIn} :
    (s.rxRtpCall pkt len fromAddr).isSome = true ↔
      ((rtpHeaderValidityCheck len s.config.pt).val pkt).toBool = true ∧
        ∃ m, s.Accepts (rtpHdrOf pkt) fromAddr m := by
  have hconfig : s.rtpSessionTimestamp.2.config = s.config := rfl
  simp only [rxRtpCall, hconfig]
  cases hvalid : (rtpHeaderValidityCheck len s.config.pt).val pkt with
  | error e => simp [Except.toBool]
  | ok r =>
      have hsame : ∀ m, s.rtpSessionTimestamp.2.Accepts (rtpHdrOf pkt) fromAddr m ↔
          s.Accepts (rtpHdrOf pkt) fromAddr m := fun m =>
        ⟨fun h => ⟨h.lookup, h.bye, h.known, h.addr, h.seq⟩,
          fun h => ⟨h.lookup, h.bye, h.known, h.addr, h.seq⟩⟩
      have hiff : (s.rtpSessionTimestamp.2.rtpRxSource (rtpHdrOf pkt) s.rtpSessionTimestamp.1
          fromAddr).1 = true ↔ ∃ m, s.Accepts (rtpHdrOf pkt) fromAddr m := by
        refine ⟨fun h => ?_, ?_⟩
        · obtain ⟨m, hm⟩ := accepts_of_rtpRxSource h
          exact ⟨m, (hsame m).1 hm⟩
        · rintro ⟨m, hm⟩
          rw [rtpRxSource_accepts ((hsame m).2 hm)]
      rw [← hiff]
      simp only [Except.toBool, true_and]
      split
      · rename_i hok
        simp [hok]
      · rename_i hok
        simp [hok]

/-- The source of an accepted packet that is not one of the session's own. -/
theorem Tried.accepted {log : UInt32 → List UInt16} {s : Session} (h : Tried log s) {hdr : RtpHdr}
    {fromAddr : SockaddrIn} {m : Slot} (haccepts : s.Accepts hdr fromAddr m)
    (hself : (s.member m).flags.self = false) (arrival : UInt32) :
    Trusted hdr.ssrc fromAddr m (receivedHistory.data fromAddr log s hdr.ssrc hdr.seq)
      (s.rtpAccepted m hdr arrival) := by
  obtain ⟨hused, hssrc⟩ := lookup_eq_some haccepts.lookup
  have hheard : (s.member m).flags.rtpHeard = true :=
    haccepts.known.resolve_left (by rw [hself]; decide)
  have htrial := h.trial m ⟨hused, hself, hheard⟩
  have hlog : receivedHistory.data fromAddr log s hdr.ssrc hdr.seq hdr.ssrc =
      log hdr.ssrc ++ [hdr.seq] := by
    show noteReceived fromAddr log s hdr.ssrc [hdr.seq] hdr.ssrc = _
    rw [noteReceived_refreshed haccepts.lookup haccepts.bye haccepts.known haccepts.addr,
      Function.update_self]
  have hpassed := (htrial.update hdr.seq).2 haccepts.seq
  rw [hssrc, ← hlog] at hpassed
  have hbefore : Trusted hdr.ssrc fromAddr m
      (receivedHistory.data fromAddr log s hdr.ssrc hdr.seq) s :=
    ⟨⟨hused, hself, hheard⟩, hpassed, hssrc, haccepts.bye, haccepts.addr⟩
  have hrecord : (s.rtpRefreshed m).member m = (s.member m).setRtpHeard := Function.update_self ..
  have hrefreshed : Trusted hdr.ssrc fromAddr m
      (receivedHistory.data fromAddr log s hdr.ssrc hdr.seq) (s.rtpRefreshed m) := by
    refine hbefore.same Iff.rfl ?_ rfl
    rw [hrecord]
    exact ⟨rfl, rfl, rfl, rfl, hheard.symm, rfl, rfl⟩
  exact hrefreshed.quiet (s.quiet_rtpAccepted m hdr arrival)

/-- The CSRC list of an accepted packet. -/
theorem Tried.trusted_list {log : UInt32 → List UInt16} {s : Session} (h : Tried log s)
    {ssrc : UInt32} {fromAddr : SockaddrIn} {m : Slot} (htrusted : Trusted ssrc fromAddr m log s)
    (seq : UInt16) (rtpTs arrival : UInt32) (csrcs : List UInt32) :
    Trusted ssrc fromAddr m
      (Runs.history (Session.rtpHandleCsrc seq fromAddr rtpTs arrival)
        (receivedHistory.csrc fromAddr) log s csrcs)
      (csrcs.foldl (Session.rtpHandleCsrc seq fromAddr rtpTs arrival) s) := by
  have hstep : ∀ log s csrc, Tried log s ∧ Trusted ssrc fromAddr m log s →
      Tried (receivedHistory.csrc fromAddr log s csrc)
          (Session.rtpHandleCsrc seq fromAddr rtpTs arrival s csrc) ∧
        Trusted ssrc fromAddr m (receivedHistory.csrc fromAddr log s csrc)
          (Session.rtpHandleCsrc seq fromAddr rtpTs arrival s csrc) :=
    fun log s csrc hP => ⟨tried_rules.rtpHandleCsrc hP.1 trivial,
      hP.2.csrc hP.1.unique seq rtpTs arrival csrc⟩
  exact (Runs.history_invariant hstep ⟨h, htrusted⟩ csrcs).2

/-- A delivery of a packet that is not one of the session's own. -/
theorem Tried.delivered {log : UInt32 → List UInt16} {s t : Session} (h : Tried log s)
    (halone : s.ledger.SelfAlone) {pkt : ByteMem} {len : UInt32} {fromAddr : SockaddrIn}
    {rpt : RtpRxReport} (hcall : s.rxRtpCall pkt len fromAddr = some (t, rpt))
    (hforeign : (rtpHdrOf pkt).ssrc ≠ s.selfMember.ssrc) :
    ∃ m, Trusted (rtpHdrOf pkt).ssrc fromAddr m (receivedHistory.noteRtp log s pkt len fromAddr)
      t := by
  have hclock : Tried log s.rtpSessionTimestamp.2 := tried_rules.calm (.rtpSessionTimestamp s) h
  simp only [rxRtpCall] at hcall
  split at hcall
  · exact absurd hcall (by simp)
  · rename_i off payloadLen hvalid
    split at hcall
    · rename_i hok
      rw [Option.some_inj, Prod.mk.injEq] at hcall
      obtain ⟨rfl, -⟩ := hcall
      obtain ⟨m, haccepts⟩ := accepts_of_rtpRxSource hok
      obtain ⟨hused, hssrc⟩ := lookup_eq_some haccepts.lookup
      have hself : (s.member m).flags.self = false := by
        by_contra hflag
        rw [Bool.not_eq_false] at hflag
        -- only the session's own member carries the flag
        have hm : m = s.self := halone m (decide_eq_true hused) hflag
        rw [hm] at hssrc
        exact hforeign hssrc.symm
      have htrusted := hclock.accepted haccepts hself s.rtpSessionTimestamp.1
      have htried : Tried _ (s.rtpSessionTimestamp.2.rtpRxSource (rtpHdrOf pkt)
          s.rtpSessionTimestamp.1 fromAddr).2 := hclock.rtpRxSource _ _ _
      have hsource := rtpRxSource_accepts haccepts s.rtpSessionTimestamp.1
      rw [hsource] at htried
      have hlist := htried.trusted_list htrusted (rtpHdrOf pkt).seq (rtpHdrOf pkt).ts
        s.rtpSessionTimestamp.1 (rtpHdrOf pkt).csrc
      refine ⟨m, ?_⟩
      simp only [PacketHistory.noteRtp, hvalid, Except.toBool, hsource, if_true]
      exact hlist.quiet (.setRtpError _ _)
    · exact absurd hcall (by simp)

/-- In every run in which RTCP packets rename nobody but the session's own member, exactly the packets
    that loop back are delivered though they are not genuine. -/
theorem deliveries_genuine (mem : Session) (config : RtpSessionConfig) (ops : List Op)
    (hg : Runs.Guarded step renamesSelf.admits (mem.rtpSessionInit config) ops)
    (pkt : ByteMem) (len : UInt32) (fromAddr : SockaddrIn) :
    (∀ t rpt, (runSession mem config ops).rxRtpCall pkt len fromAddr = some (t, rpt) →
      Genuine (runSession mem config ops)
        (receivedHistory.noteRtp (received mem config ops) (runSession mem config ops) pkt len
          fromAddr) t (rtpHdrOf pkt).ssrc fromAddr) ↔
      ¬ LoopsBack (runSession mem config ops) pkt len fromAddr := by
  have htried := tried_run hg
  have halone := selfAlone_runSession mem config ops
  refine ⟨?_, fun hloop t rpt hcall => ?_⟩
  · rintro hall ⟨hvalid, hown, haccepts⟩
    obtain ⟨⟨t, rpt⟩, hcall⟩ := Option.isSome_iff_exists.1 (rxRtpCall_isSome.2 ⟨hvalid, haccepts⟩)
    exact (hall t rpt hcall).foreign hown
  · have hforeign : (rtpHdrOf pkt).ssrc ≠ (runSession mem config ops).selfMember.ssrc := by
      intro hown
      obtain ⟨hvalid, haccepts⟩ := rxRtpCall_isSome.1 (Option.isSome_of_eq_some hcall)
      exact hloop ⟨hvalid, hown, haccepts⟩
    exact ⟨hforeign, htried.delivered halone hcall hforeign⟩

/-- The third packet of SSRC 5, after two with the same sequence number. -/
theorem deliveries_genuine_third :
    (∀ t rpt, (runSession (zeroed (.still .zero)) (plainConfig 1000 4)
        [.rxRtp (rtpFrom 5) 12 (.ofPort 7), .rxRtcp (rrFrom 5) 8 (.ofPort 8),
          .rxRtp (rtpFrom 5) 12 (.ofPort 7)]).rxRtpCall
            (pktOf [128, 0, 0, 8, 0, 0, 0, 0, 0, 0, 0, 5]) 12 (.ofPort 7) = some (t, rpt) →
      Genuine (runSession (zeroed (.still .zero)) (plainConfig 1000 4)
          [.rxRtp (rtpFrom 5) 12 (.ofPort 7), .rxRtcp (rrFrom 5) 8 (.ofPort 8),
            .rxRtp (rtpFrom 5) 12 (.ofPort 7)])
        (receivedHistory.noteRtp
          (received (zeroed (.still .zero)) (plainConfig 1000 4)
            [.rxRtp (rtpFrom 5) 12 (.ofPort 7), .rxRtcp (rrFrom 5) 8 (.ofPort 8),
              .rxRtp (rtpFrom 5) 12 (.ofPort 7)])
          (runSession (zeroed (.still .zero)) (plainConfig 1000 4)
            [.rxRtp (rtpFrom 5) 12 (.ofPort 7), .rxRtcp (rrFrom 5) 8 (.ofPort 8),
              .rxRtp (rtpFrom 5) 12 (.ofPort 7)])
          (pktOf [128, 0, 0, 8, 0, 0, 0, 0, 0, 0, 0, 5]) 12 (.ofPort 7))
        t (rtpHdrOf (pktOf [128, 0, 0, 8, 0, 0, 0, 0, 0, 0, 0, 5])).ssrc (.ofPort 7)) ↔
      ¬ LoopsBack (runSession (zeroed (.still .zero)) (plainConfig 1000 4)
          [.rxRtp (rtpFrom 5) 12 (.ofPort 7), .rxRtcp (rrFrom 5) 8 (.ofPort 8),
            .rxRtp (rtpFrom 5) 12 (.ofPort 7)])
        (pktOf [128, 0, 0, 8, 0, 0, 0, 0, 0, 0, 0, 5]) 12 (.ofPort 7) :=
  deliveries_genuine _ _ _ (by decide +kernel) _ _ _

/-- The session's own data, looped back to its own RTP address, is delivered with its first packet. -/
theorem own_data_delivered :
    ¬ ∀ (mem : Session) (config : RtpSessionConfig) (ops : List Op) (pkt : ByteMem) (len : UInt32)
      (fromAddr : SockaddrIn) (t : Session) (rpt : RtpRxReport),
      (runSession mem config ops).rxRtpCall pkt len fromAddr = some (t, rpt) →
        Genuine (runSession mem config ops)
          (receivedHistory.noteRtp (received mem config ops) (runSession mem config ops) pkt len
            fromAddr) t (rtpHdrOf pkt).ssrc fromAddr := by
  intro hall
  have hsome : ((runSession (zeroed (.still .zero)) (plainConfig 1000 4) []).rxRtpCall (rtpFrom 2) 12
      (.ofPort 100)).isSome = true := by decide +kernel
  obtain ⟨⟨t, rpt⟩, hcall⟩ := Option.isSome_iff_exists.1 hsome
  exact (hall _ _ _ _ _ _ t rpt hcall).foreign (by decide +kernel)

end Session

end Prtp
