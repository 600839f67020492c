import Prtp.HandedOut
import Prtp.QuietChanges

set_option autoImplicit false

/-! # What is held about other sources

The record of a member that is not the session itself takes something in at few places: when the source is
first heard, on either channel, when it sends a SR, and when it names itself. Everything else a session
does *retains* the records. A predicate of records that is closed under what is retained holds of all
others once it survives these places, and the lemmas here are about such predicates. -/

namespace Prtp

/-- `y` is still what `x` has been told, except that it may have been forgotten that `x` was heard. -/
structure RtpMember.Retains (x y : RtpMember) : Prop where
  ssrc : y.ssrc = x.ssrc
  self : y.flags.self = x.flags.self
  byeReceived : y.flags.byeReceived = x.flags.byeReceived
  rtpHeard : y.flags.rtpHeard = true → x.flags.rtpHeard = true
  rtcpHeard : y.flags.rtcpHeard = true → x.flags.rtcpHeard = true
  lastSr : y.lastSr = x.lastSr
  rtpTs : y.rtpTs = x.rtpTs
  pktCount : y.pktCount = x.pktCount
  octetCount : y.octetCount = x.octetCount
  cname : y.cname = x.cname
  cnameLen : y.cnameLen = x.cnameLen

namespace RtpMember.Retains

theorem refl (x : RtpMember) : x.Retains x := ⟨rfl, rfl, rfl, id, id, rfl, rfl, rfl, rfl, rfl, rfl⟩

theorem trans {x y z : RtpMember} (h : x.Retains y) (h' : y.Retains z) : x.Retains z where
  ssrc := h'.ssrc.trans h.ssrc
  self := h'.self.trans h.self
  byeReceived := h'.byeReceived.trans h.byeReceived
  rtpHeard hz := h.rtpHeard (h'.rtpHeard hz)
  rtcpHeard hz := h.rtcpHeard (h'.rtcpHeard hz)
  lastSr := h'.lastSr.trans h.lastSr
  rtpTs := h'.rtpTs.trans h.rtpTs
  pktCount := h'.pktCount.trans h.pktCount
  octetCount := h'.octetCount.trans h.octetCount
  cname := h'.cname.trans h.cname
  cnameLen := h'.cnameLen.trans h.cnameLen

/-- The record differs in its `rtp_src`, its addresses and the flags nobody else depends on. -/
theorem of_flags {x y : RtpMember} (h : y = { x with flags := y.flags, rtpSrc := y.rtpSrc })
    (hself : y.flags.self = x.flags.self) (hbye : y.flags.byeReceived = x.flags.byeReceived)
    (hrtp : y.flags.rtpHeard = true → x.flags.rtpHeard = true)
    (hrtcp : y.flags.rtcpHeard = true → x.flags.rtcpHeard = true) : x.Retains y := by
  rw [h]
  exact ⟨rfl, hself, hbye, hrtp, hrtcp, rfl, rfl, rfl, rfl, rfl, rfl⟩

end RtpMember.Retains

namespace Session

/-- `s'` knows no other sources than `s`, and nothing else about them. -/
def Retains (s s' : Session) : Prop :=
  ∀ m ∈ s'.usedList, (s'.member m).flags.self = false →
    m ∈ s.usedList ∧ (s.member m).Retains (s'.member m)

namespace Retains

theorem refl (s : Session) : Retains s s := fun _ hm _ => ⟨hm, .refl _⟩

theorem trans {s s' s'' : Session} (h : Retains s s') (h' : Retains s' s'') : Retains s s'' := by
  intro m hm hself
  obtain ⟨hm', hkept'⟩ := h' m hm hself
  obtain ⟨hm'', hkept⟩ := h m hm' (hkept'.self.symm.trans hself)
  exact ⟨hm'', hkept.trans hkept'⟩

theorem of_table {s s' : Session} (h : s'.memberTable = s.memberTable) : Retains s s' := by
  intro m hm _
  have hmember : s'.member m = s.member m := by rw [member, member, h]
  rw [usedList, h] at hm
  exact ⟨hm, hmember ▸ .refl _⟩

theorem modifyMember (s : Session) (m : Slot) {f : RtpMember → RtpMember}
    (hf : (f (s.member m)).flags.self = false → (s.member m).Retains (f (s.member m))) :
    Retains s (s.modifyMember m f) := by
  intro j hj hself
  refine ⟨hj, ?_⟩
  rw [member_modifyMember] at hself ⊢
  split
  · rename_i hjm
    subst hjm
    rw [if_pos rfl] at hself
    exact hf hself
  · exact .refl _

theorem dealloc (s : Session) (m : Slot) : Retains s (s.rtpSessionDeallocMember m) :=
  fun j hj _ => ⟨((Pool.mem_used_release s.memberTable.pool m j).1 hj).1, .refl _⟩

theorem leaving (s : Session) {event : RtcpEvent} (hevent : event ≠ .rxNonBye)
    (flags : IntervalFlags) (pktSize : UInt32) :
    Retains s (s.rtcpIntervalHandleRtcpEvent event flags pktSize) := by
  rw [rtcpEvent_leaving s hevent]
  split
  · exact of_table rfl
  · exact of_table rfl

theorem rrOf (s : Session) (m : Slot) : Retains s (s.rrOf m).2 := by
  have hclose : Retains s
      (s.setMember m { s.member m with rtpSrc := (s.member m).rtpSrc.closeInterval }) :=
    modifyMember s m (f := fun x => { x with rtpSrc := x.rtpSrc.closeInterval })
      fun _ => .of_flags rfl rfl rfl id id
  refine hclose.trans ?_
  simp only [Session.rrOf, dlsr]
  split
  · exact .refl _
  · exact of_table rfl

/-- Sending a report retains everything about others. -/
theorem rtcpSendReport (s : Session) : Retains s s.rtcpSendReport.2 :=
  ReportRules.rtcpSendReport (R := Retains) ⟨trans, fun _ _ _ _ => of_table rfl, rrOf⟩ s

theorem rtpTx (s : Session) (payload : ByteMem) (payloadLen rtpTs : UInt32) (csrc : ℕ → UInt32)
    (ncsrc : UInt8) : Retains s (s.rtpTx payload payloadLen rtpTs csrc ncsrc) := by
  have hcount : Retains s (s.rtpTxCount payloadLen) := by
    unfold rtpTxCount
    split
    · exact of_table rfl
    · have hsent : Retains s (s.setWeSent true) := of_table rfl
      exact (hsent.trans (modifyMember _ s.self (f := RtpMember.setSender)
        fun _ => .of_flags rfl rfl rfl id id)).trans (of_table rfl)
  refine hcount.trans ?_
  simp only [Session.rtpTx]
  split
  · exact of_table rfl
  · exact of_table rfl

theorem timerCallback (e : TimerElem) (s : Session) : Retains s (timerCallback e s) := by
  cases e with
  | rtcp =>
      apply rtcpIntervalTimeout_rule (R := Retains) trans
      · exact fun _ => of_table rfl
      · exact rtcpSendReport
      · exact fun _ _ _ _ => of_table rfl
      · exact fun _ _ _ => of_table rfl
  | member j => exact (leaving s (by decide) _ 0).trans (dealloc _ j)
  | sender j =>
      apply rtcpIntervalSenderTimedout_rule (R := Retains) trans
      · exact fun s => modifyMember s j fun _ => .of_flags rfl rfl rfl (absurd · Bool.false_ne_true) id
      · exact fun s => modifyMember s j fun _ => .of_flags rfl rfl rfl id id
      · exact fun _ => of_table rfl
      · exact fun s => leaving s (by decide) _ 0
  | leave j => exact dealloc s j
  | conflict c => exact of_table rfl

/-- A callback of a tick. -/
theorem fire {s t : Session} (h : Retains s t) (e : TimerElem) :
    Retains s (Session.timerCallback e (t.setTimer t.softTimer.popTimeout)) := by
  have hpop : Retains t (t.setTimer t.softTimer.popTimeout) := of_table rfl
  exact (h.trans hpop).trans (timerCallback e _)

theorem tick (s : Session) : Retains s s.rtpSessionTimerTick :=
  SoftTimer.fireTimeouts_invariant (G := fun _ _ => True) (fun e _ _ _ ht _ => ht.fire e)
    (fun _ _ => trivial) (of_table rfl)

/-- The sessions the interval timer reports from retain everything too. -/
theorem tickReports (s : Session) : ∀ r ∈ s.tickReports, Retains s r := by
  intro r hr
  obtain ⟨c, hc, hcall⟩ := firing_of_tickReports hr
  have hexpired : Retains s (s.setTimer s.softTimer.expire) := of_table rfl
  obtain ⟨t, rest, ht, -, hpop⟩ := SoftTimer.firings_invariant (G := fun _ _ => True)
    (fun e _ _ _ ht _ => ht.fire e) (fun _ _ => trivial) hexpired _ hc
  simp only at hpop
  rw [eq_of_sendReportCall hcall, hpop]
  exact ht.trans (of_table rfl)

theorem changeRandomSsrc {s : Session} {m : Slot} (hself : (s.member m).flags.self = true) :
    Retains s (s.rtpMemberTableChangeRandomSsrc m) := by
  unfold rtpMemberTableChangeRandomSsrc
  split
  · exact of_table rfl
  · refine Retains.trans ?_ (modifyMember _ m fun h => absurd (h.symm.trans hself) (by decide))
    exact of_table rfl

theorem ownSsrcConflict {s : Session} {m : Slot} (hself : (s.member m).flags.self = true)
    (fromAddr : SockaddrIn) : Retains s (s.ownSsrcConflict m fromAddr).2 := by
  simp only [Session.ownSsrcConflict]
  split
  · exact of_table rfl
  · have hadd : Retains s ((s.rtpSourceConflictLookup fromAddr).2.rtpSourceConflictAdd fromAddr) :=
      of_table rfl
    exact (hadd.trans (changeRandomSsrc hself)).trans (of_table rfl)

end Retains

/-! ## Predicates of records -/

/-- The predicate holds of every member but the session itself. -/
def Others (Q : RtpMember → Prop) (s : Session) : Prop :=
  ∀ m ∈ s.usedList, (s.member m).flags.self = false → Q (s.member m)

end Session

/-- A predicate of records that is kept by whatever retains them. -/
def RtpMember.Lasting (Q : RtpMember → Prop) : Prop := ∀ {x y : RtpMember}, x.Retains y → Q x → Q y

namespace Session

variable {Q : RtpMember → Prop}

theorem Others.retains (hQ : RtpMember.Lasting Q) {s s' : Session} (h : s.Others Q)
    (hkept : Retains s s') : s'.Others Q := by
  intro m hm hself
  obtain ⟨hm', hrecord⟩ := hkept m hm hself
  exact hQ hrecord (h m hm' (hrecord.self.symm.trans hself))

/-- A record changes. -/
theorem Others.modifyMember {s : Session} (h : s.Others Q) {m : Slot} {f : RtpMember → RtpMember}
    (hf : (f (s.member m)).flags.self = false → m ∈ s.usedList → Q (f (s.member m))) :
    (s.modifyMember m f).Others Q := by
  intro j hj hself
  rw [member_modifyMember] at hself ⊢
  split
  · rename_i hjm
    subst hjm
    rw [if_pos rfl] at hself
    exact hf hself hj
  · rename_i hjm
    rw [if_neg hjm] at hself
    exact h j hj hself

/-- A record is made. -/
theorem Others.alloc {s s' : Session} (h : s.Others Q) {ssrc : UInt32} {m : Slot}
    (halloc : s.rtpSessionAllocMember ssrc = some (m, s')) {f : RtpMember → RtpMember}
    (hf : Q (f (rtpMemberInit (s.member m) ssrc))) : (s'.modifyMember m f).Others Q := by
  intro j hj hself
  rw [member_alloc halloc] at hself ⊢
  split
  · exact hf
  · rename_i hjm
    rw [if_neg hjm] at hself
    have hused : j ∈ s'.usedList := hj
    rw [(alloc_eq_some halloc).2.1, List.mem_append, List.mem_singleton, or_iff_left hjm] at hused
    exact h j hused hself

/-- Under the session's own SSRC nobody else is found. -/
def FoundSelf (s : Session) : Prop :=
  ∀ m, s.rtpSessionLookupMember s.selfMember.ssrc = some m → (s.member m).flags.self = true

section Sources

variable (hQ : RtpMember.Lasting Q) {s : Session} (h : s.Others Q) {ssrc : UInt32} {seq : UInt16}
  {fromAddr : SockaddrIn}

include hQ h

/-- A source of a data packet is handled: what has to be shown is that its record may be made, and that
    its first packet may be noted. -/
theorem Others.rtpHandleSsrc (csrc : Bool)
    (hnew : ∀ x, Q (rtpFirstHeard seq fromAddr (rtpMemberInit x ssrc)))
    (hfirst : ∀ x, x.ssrc = ssrc → Q x → Q (rtpFirstHeard seq fromAddr x)) :
    (s.rtpHandleSsrc ssrc seq fromAddr csrc).2.Others Q := by
  have hcase := s.rtpHandleSsrc_case ssrc seq fromAddr csrc
  generalize s.rtpHandleSsrc ssrc seq fromAddr csrc = res at hcase
  cases hcase with
  | tableFull | leaving | thirdParty => exact h.retains hQ (.of_table rfl)
  | created m s' hnone halloc =>
      exact (h.alloc halloc (hnew (s.member m))).retains hQ (.of_table rfl)
  | createdCsrc m s' hnone halloc =>
      have hcreated : (s'.rtpCreated m seq fromAddr).Others Q :=
        (h.alloc halloc (hnew (s.member m))).retains hQ (.of_table rfl)
      exact hcreated.retains hQ (.modifyMember _ m (f := fun x => x.setValidated.setCsrc)
        fun _ => .of_flags rfl rfl rfl id id)
  | joined _ m hm hbye hself hnew =>
      obtain ⟨hused, hssrc⟩ := lookup_eq_some hm
      exact (h.modifyMember (f := rtpFirstHeard seq fromAddr)
        fun _ _ => hfirst _ hssrc (h m hused hself)).retains hQ (.of_table rfl)
  | collision _ m hm hbye hself haddr err =>
      exact h.retains hQ ((Retains.ownSsrcConflict hself fromAddr).trans (.of_table rfl))
  | refreshed _ m hm hbye hknown haddr =>
      refine h.retains hQ (Retains.trans (.modifyMember s m (f := RtpMember.setRtpHeard) ?_)
        (.of_table rfl))
      intro hself
      exact .of_flags rfl rfl rfl
        (fun _ => hknown.resolve_left fun ht => absurd (ht.symm.trans hself) (by decide)) id

/-- The same for the source of a RTCP message, in a session that is found under its own SSRC. -/
theorem Others.rtcpHandleSsrc (len : UInt32) (hfound : s.FoundSelf)
    (hnew : ∀ x, Q (rtcpFirstHeard fromAddr (rtpMemberInit x ssrc)))
    (hfirst : ∀ x, x.ssrc = ssrc → Q x → Q (rtcpFirstHeard fromAddr x)) :
    (s.rtcpHandleSsrc ssrc fromAddr len).2.Others Q := by
  have hcase := s.rtcpHandleSsrc_case ssrc fromAddr len
  generalize s.rtcpHandleSsrc ssrc fromAddr len = res at hcase
  cases hcase with
  | tableFull | leaving | thirdParty => exact h.retains hQ (.of_table rfl)
  | created m s' hnone halloc =>
      exact (h.alloc halloc (hnew (s.member m))).retains hQ (.of_table rfl)
  | joined m hm hbye hself hnew =>
      obtain ⟨hused, hssrc⟩ := lookup_eq_some hm
      exact (h.modifyMember (f := rtcpFirstHeard fromAddr)
        fun _ _ => hfirst _ hssrc (h m hused hself)).retains hQ (.of_table rfl)
  | collision m hm hbye hknown haddr hown err =>
      exact h.retains hQ ((Retains.ownSsrcConflict (hfound m (hown ▸ hm)) fromAddr).trans (.of_table rfl))
  | refreshed m hm hbye hknown haddr =>
      refine h.retains hQ (Retains.trans (.modifyMember s m (f := RtpMember.setRtcpHeard) ?_)
        (.of_table rfl))
      intro hself
      exact .of_flags rfl rfl rfl id fun _ => hknown.resolve_left fun ht =>
        absurd (ht.symm.trans hself) (by decide)

end Sources

/-! ## Messages -/

/-- An accepted source is the member with its SSRC. -/
theorem ssrc_of_rtcpHandleSsrc {s : Session} {ssrc : UInt32} {fromAddr : SockaddrIn} {len : UInt32}
    {m : Slot} (h : (s.rtcpHandleSsrc ssrc fromAddr len).1 = some m) :
    ((s.rtcpHandleSsrc ssrc fromAddr len).2.member m).ssrc = ssrc := by
  have hcase := s.rtcpHandleSsrc_case ssrc fromAddr len
  generalize s.rtcpHandleSsrc ssrc fromAddr len = res at h hcase
  cases hcase with
  | tableFull | leaving | thirdParty | collision => exact absurd h (by simp)
  | created j s' hnone halloc =>
      obtain rfl := Option.some.inj h
      rw [member_rtcpCreated halloc]
      rfl
  | joined j hj =>
      obtain rfl := Option.some.inj h
      have hrecord : (s.rtcpJoined j fromAddr).member j =
          (s.modifyMember j (rtcpFirstHeard fromAddr)).member j := rfl
      rw [hrecord, member_modifyMember_self]
      exact (lookup_eq_some hj).2
  | refreshed j hj =>
      obtain rfl := Option.some.inj h
      have hrecord : (s.rtcpRefreshed j len).member j =
          (s.modifyMember j RtpMember.setRtcpHeard).member j := rfl
      rw [hrecord, member_modifyMember_self]
      exact (lookup_eq_some hj).2

/-- The SR or RR of a report is accepted: what has to be shown is that a SR may be noted in the record of
    its sender. -/
theorem Others.acceptReport (hQ : RtpMember.Lasting Q) {s r : Session} {m : Slot} (h : s.Others Q)
    (hssrc : (s.member m).ssrc = r.selfMember.ssrc)
    (hsr : r.selfMember.flags.sender = true → ∀ x now, x.ssrc = r.selfMember.ssrc → Q x →
      Q { x with
          lastSr := r.ntpTsNow.1, rtpTs := r.rtpSessionTimestamp.1, pktCount := r.txPktCount
          octetCount := r.txOctetCount, lastSrLocalTime := now }) :
    (s.acceptMsg m r.reportMsg).Others Q := by
  have hblocks : ∀ (t : Session) ssrc blocks, Retains t (reportBlocks ssrc blocks t) := by
    intro t ssrc blocks
    rw [reportBlocks_eq]
    exact .of_table rfl
  rw [reportMsg]
  split
  · rename_i hsender
    have hrecord : (s.recordSr m r.ntpTsNow.1 r.rtpSessionTimestamp.1 r.txPktCount
        r.txOctetCount).Others Q := by
      intro j hj hself
      by_cases hjm : j = m
      · subst hjm
        rw [member_recordSr_self] at hself ⊢
        exact hsr hsender _ _ hssrc (h j hj hself)
      · rw [member_recordSr_of_ne s hjm] at hself ⊢
        exact h j hj hself
    exact hrecord.retains hQ ((hblocks _ _ _).trans (.of_table rfl))
  · exact h.retains hQ (hblocks _ _ _)

/-- A SDES chunk with one CNAME is accepted. -/
theorem Others.acceptSdes {s : Session} {m : Slot} {ssrc : UInt32} {cname : List UInt8}
    (h : s.Others Q) (hssrc : (s.member m).ssrc = ssrc)
    (hname : ∀ x, x.ssrc = ssrc → Q x → Q (rtpMemberSetCname x cname).setValidated) :
    (s.acceptMsg m (.sdes ssrc [cname])).Others Q :=
  h.modifyMember (f := fun x => (rtpMemberSetCname x cname).setValidated)
    fun hself hm => hname _ hssrc (h m hm hself)

end Session

end Prtp
