import Prtp.ForeignPackets
import Prtp.Membership
import Prtp.SourceTrial

set_option autoImplicit false

/-! # The trials of the sources in a run

Which sequence numbers have been received from a source since it was first heard is a history variable
of the run. Every member that is heard as a source, other than the session's own, stands in its trial as
this history says, as long as RTCP packets rename nobody but the session's own member. -/

namespace Prtp

open ByteReader

namespace Session

/-! ## Members on trial -/

theorem flags_changeRandomSsrc (s : Session) (j i : Slot) :
    ((s.rtpMemberTableChangeRandomSsrc j).member i).flags = (s.member i).flags := by
  unfold rtpMemberTableChangeRandomSsrc
  split
  · rfl
  · rw [member_modifyMember]
    split
    · rename_i h
      rw [h]
      rfl
    · rfl

/-- `m` is a member, other than the session's own, that is heard as a source of data. -/
structure OnTrial (s : Session) (m : Slot) : Prop where
  used : m ∈ s.usedList
  notSelf : (s.member m).flags.self = false
  heard : (s.member m).flags.rtpHeard = true

/-- If `m` is on trial afterwards, it was before, with the same SSRC, and its trial has not moved. -/
structure TrialKept (m : Slot) (s s' : Session) : Prop where
  before : s'.OnTrial m → s.OnTrial m
  ssrc : s'.OnTrial m → (s'.member m).ssrc = (s.member m).ssrc
  probation : s'.OnTrial m → (s'.member m).rtpSrc.probation = (s.member m).rtpSrc.probation
  maxSeq : s'.OnTrial m → (s'.member m).rtpSrc.maxSeq = (s.member m).rtpSrc.maxSeq

namespace TrialKept

variable {m : Slot}

theorem trans {s s' s'' : Session} (h : TrialKept m s s') (h' : TrialKept m s' s'') :
    TrialKept m s s'' where
  before hon := h.before (h'.before hon)
  ssrc hon := (h'.ssrc hon).trans (h.ssrc (h'.before hon))
  probation hon := (h'.probation hon).trans (h.probation (h'.before hon))
  maxSeq hon := (h'.maxSeq hon).trans (h.maxSeq (h'.before hon))

/-- Somebody who is not on trial afterwards. -/
theorem of_off {s s' : Session} (h : ¬ s'.OnTrial m) : TrialKept m s s' :=
  ⟨fun hon => absurd hon h, fun hon => absurd hon h, fun hon => absurd hon h,
    fun hon => absurd hon h⟩

/-- The record is the same, and nobody has joined. -/
theorem of_record {s s' : Session} (hused : m ∈ s'.usedList → m ∈ s.usedList)
    (hrecord : s'.member m = s.member m) : TrialKept m s s' := by
  refine ⟨fun hon => ⟨hused hon.used, ?_, ?_⟩, fun _ => ?_, fun _ => ?_, fun _ => ?_⟩
  · rw [← hrecord]
    exact hon.notSelf
  · rw [← hrecord]
    exact hon.heard
  all_goals rw [hrecord]

theorem of_untouched {s s' : Session} (h : Untouched m s s') : TrialKept m s s' :=
  of_record h.used.1 h.record

/-- The table is the same. -/
theorem of_table {s s' : Session} (h : s'.memberTable = s.memberTable) : TrialKept m s s' := by
  refine of_record (fun hused => ?_) ?_
  · rwa [usedList, h] at hused
  · rw [member, member, h]

theorem refl (s : Session) : TrialKept m s s := of_table rfl

theorem of_calm {s s' : Session} (h : Calm s s') : TrialKept m s s' where
  before hon := ⟨h.usedList ▸ hon.used, (h.member m).self ▸ hon.notSelf,
    (h.member m).rtpHeard ▸ hon.heard⟩
  ssrc _ := (h.member m).ssrc
  probation _ := h.probation m
  maxSeq _ := h.maxSeq m

/-- A change to a record that nobody comes on trial by. -/
theorem modifyMember (s : Session) (j : Slot) {f : RtpMember → RtpMember}
    (hself : (f (s.member j)).flags.self = (s.member j).flags.self)
    (hheard : (f (s.member j)).flags.rtpHeard = true → (s.member j).flags.rtpHeard = true)
    (hssrc : (f (s.member j)).ssrc = (s.member j).ssrc)
    (hsrc : (f (s.member j)).rtpSrc = (s.member j).rtpSrc) : TrialKept m s (s.modifyMember j f) := by
  by_cases hj : m = j
  · subst hj
    have hrecord : (s.modifyMember m f).member m = f (s.member m) := by
      rw [member_modifyMember, if_pos rfl]
    refine ⟨fun ⟨hused, hnot, hon⟩ => ⟨hused, ?_, ?_⟩, fun _ => ?_, fun _ => ?_, fun _ => ?_⟩
    · rw [← hself, ← hrecord]
      exact hnot
    · rw [hrecord] at hon
      exact hheard hon
    · rw [hrecord, hssrc]
    · rw [hrecord, hsrc]
    · rw [hrecord, hsrc]
  · refine of_record id ?_
    rw [member_modifyMember, if_neg hj]

theorem dealloc (s : Session) (j : Slot) : TrialKept m s (s.rtpSessionDeallocMember j) :=
  of_record (fun hused => ((Pool.mem_used_release _ j m).1 hused).1) rfl

theorem leaving (s : Session) {event : RtcpEvent} (hevent : event ≠ .rxNonBye)
    (flags : IntervalFlags) (pktSize : UInt32) :
    TrialKept m s (s.rtcpIntervalHandleRtcpEvent event flags pktSize) :=
  of_table (memberTable_leaving s hevent flags pktSize)

theorem byeSource (s : Session) (ssrc pktSize : UInt32) :
    TrialKept m s (s.rtcpHandleByeSource ssrc pktSize) := by
  by_cases habsent :
      ∀ j, s.rtpSessionLookupMember ssrc = some j → (s.member j).flags.byeReceived = true
  · rw [rtcpHandleByeSource_of_absent habsent]
    exact refl s
  · simp only [not_forall, Bool.not_eq_true] at habsent
    obtain ⟨j, hj, hbye⟩ := habsent
    rw [rtcpHandleByeSource_of_present hj hbye]
    have hflag := (leaving (m := m) s (show RtcpEvent.rxBye ≠ .rxNonBye by decide)
      ⟨true, (s.member j).flags.rtpHeard⟩ pktSize).trans
        (modifyMember _ j (f := RtpMember.setByeReceived) rfl id rfl rfl)
    exact hflag.trans (of_table rfl)

theorem rtpTxCount (s : Session) (payloadLen : UInt32) :
    TrialKept m s (s.rtpTxCount payloadLen) := by
  unfold Session.rtpTxCount
  split
  · exact of_table rfl
  · have hsent : TrialKept m s (s.setWeSent true) := of_table rfl
    have hflag := hsent.trans (modifyMember (s.setWeSent true) s.self (f := RtpMember.setSender)
      rfl id rfl rfl)
    exact hflag.trans (of_table rfl)

theorem senderTimedout (s : Session) (j : Slot) :
    TrialKept m s (s.rtcpIntervalSenderTimedout j) := by
  apply rtcpIntervalSenderTimedout_rule (R := TrialKept m) TrialKept.trans
  · exact fun s => modifyMember s j rfl (fun h => absurd h Bool.false_ne_true) rfl rfl
  · exact fun s => modifyMember s j rfl id rfl rfl
  · exact fun _ => of_table rfl
  · exact fun s => leaving s (by decide) _ _

theorem intervalTimeout (s : Session) : TrialKept m s s.rtcpIntervalTimeout := by
  apply rtcpIntervalTimeout_rule (R := TrialKept m) TrialKept.trans
  · exact fun s => of_calm (.drawInterval s)
  · exact fun s => of_calm (.rtcpSendReport s)
  · exact fun _ _ _ _ => of_table rfl
  · exact fun _ _ _ => of_table rfl

theorem timerCallback {s : Session} {e : TimerElem} :
    TrialKept m s (Session.timerCallback e s) := by
  cases e with
  | rtcp => exact intervalTimeout s
  | member j => exact (leaving s (by decide) _ 0).trans (dealloc _ j)
  | sender j => exact senderTimedout s j
  | leave j => exact dealloc s j
  | conflict c => exact of_table rfl

/-- A collision renames the member it is about, which is not on trial. -/
theorem ownSsrcConflict (s : Session) {j : Slot} (fromAddr : SockaddrIn)
    (hself : (s.rtpSourceConflictLookup fromAddr).1 = false → (s.member j).flags.self = true) :
    TrialKept m s (s.ownSsrcConflict j fromAddr).2 := by
  by_cases hother : j ≠ m ∨ (s.rtpSourceConflictLookup fromAddr).1 = true
  · exact of_untouched ((Untouched.frame m).ownSsrcConflict s fromAddr hother)
  · rw [not_or, not_not, Bool.not_eq_true] at hother
    obtain ⟨rfl, hlisted⟩ := hother
    refine of_off fun hon => ?_
    have hkept : ((s.ownSsrcConflict j fromAddr).2.member j).flags = (s.member j).flags := by
      simp only [Session.ownSsrcConflict, hlisted, Bool.false_eq_true, if_false]
      exact flags_changeRandomSsrc _ j j
    have hnot := hon.notSelf
    rw [hkept, hself hlisted] at hnot
    exact absurd hnot (by decide)

end TrialKept

/-! ## What has been received -/

/-- A source of a data packet is, or becomes with it, first heard as a source of data. -/
def firstHeard (s : Session) (ssrc : UInt32) : Bool :=
  match s.rtpSessionLookupMember ssrc with
  | none => true
  | some m =>
    let x := s.member m
    !x.flags.byeReceived && !x.flags.self && !x.flags.rtpHeard

/-- A data packet for `ssrc` from `fromAddr` comes from the member's recorded address. -/
def fromRecorded (s : Session) (ssrc : UInt32) (fromAddr : SockaddrIn) : Bool :=
  match s.rtpSessionLookupMember ssrc with
  | none => false
  | some m =>
    let x := s.member m
    !x.flags.byeReceived && decide (x.rtpAddr = fromAddr)

/-- The log of a source with the sequence numbers `seqs` of its own packets: it begins anew when the
    source is first heard, and packets from any other address than its recorded one are not its own. -/
def noteReceived (fromAddr : SockaddrIn) (log : UInt32 → List UInt16) (s : Session) (ssrc : UInt32)
    (seqs : List UInt16) : UInt32 → List UInt16 :=
  if s.firstHeard ssrc then Function.update log ssrc seqs
  else if s.fromRecorded ssrc fromAddr then Function.update log ssrc (log ssrc ++ seqs)
  else log

/-- The sequence numbers received from each SSRC since it was last first heard as a source of data. On
    a CSRC list a source can be first heard, but the packet is not its own. -/
def receivedHistory : PacketHistory (UInt32 → List UInt16) where
  data fromAddr log s ssrc seq := noteReceived fromAddr log s ssrc [seq]
  csrc fromAddr log s ssrc := noteReceived fromAddr log s ssrc []
  msg _ log _ _ := log
  tx log _ := log
  expire log _ := log
  fire log _ _ := log

section Note

variable {s : Session} {ssrc : UInt32} {fromAddr : SockaddrIn} {log : UInt32 → List UInt16}
  {seqs : List UInt16} {m : Slot}

theorem noteReceived_none (h : s.rtpSessionLookupMember ssrc = none) :
    noteReceived fromAddr log s ssrc seqs = Function.update log ssrc seqs := by
  simp only [noteReceived, firstHeard, h, if_true]

theorem noteReceived_leaving (h : s.rtpSessionLookupMember ssrc = some m)
    (hbye : (s.member m).flags.byeReceived = true) :
    noteReceived fromAddr log s ssrc seqs = log := by
  simp [noteReceived, firstHeard, fromRecorded, h, hbye]

theorem noteReceived_joined (h : s.rtpSessionLookupMember ssrc = some m)
    (hbye : (s.member m).flags.byeReceived = false) (hself : (s.member m).flags.self = false)
    (hnew : (s.member m).flags.rtpHeard = false) :
    noteReceived fromAddr log s ssrc seqs = Function.update log ssrc seqs := by
  simp [noteReceived, firstHeard, h, hbye, hself, hnew]

theorem firstHeard_known (h : s.rtpSessionLookupMember ssrc = some m)
    (hknown : (s.member m).flags.self = true ∨ (s.member m).flags.rtpHeard = true) :
    s.firstHeard ssrc = false := by
  rcases hknown with hself | hheard
  · simp [firstHeard, h, hself]
  · simp [firstHeard, h, hheard]

theorem noteReceived_conflict (h : s.rtpSessionLookupMember ssrc = some m)
    (hknown : (s.member m).flags.self = true ∨ (s.member m).flags.rtpHeard = true)
    (haddr : (s.member m).rtpAddr ≠ fromAddr) : noteReceived fromAddr log s ssrc seqs = log := by
  simp [noteReceived, firstHeard_known h hknown, fromRecorded, h, haddr]

theorem noteReceived_refreshed (h : s.rtpSessionLookupMember ssrc = some m)
    (hbye : (s.member m).flags.byeReceived = false)
    (hknown : (s.member m).flags.self = true ∨ (s.member m).flags.rtpHeard = true)
    (haddr : (s.member m).rtpAddr = fromAddr) :
    noteReceived fromAddr log s ssrc seqs = Function.update log ssrc (log ssrc ++ seqs) := by
  simp [noteReceived, firstHeard_known h hknown, fromRecorded, h, hbye, haddr]

end Note

/-! ## Every source stands in its trial -/

/-- SSRCs are unique, and everybody on trial stands where the log says. -/
structure Tried (log : UInt32 → List UInt16) (s : Session) : Prop where
  unique : s.UniqueSsrc
  trial : ∀ m, s.OnTrial m → Trial (log (s.member m).ssrc) (s.member m).rtpSrc

/-- Somebody whose trial is where it was. -/
theorem Tried.same {log : UInt32 → List UInt16} {s s' : Session} {m : Slot} (h : Tried log s)
    (hkept : TrialKept m s s') (hon : s'.OnTrial m) :
    Trial (log (s'.member m).ssrc) (s'.member m).rtpSrc := by
  rw [hkept.ssrc hon]
  exact (h.trial m (hkept.before hon)).congr (hkept.probation hon) (hkept.maxSeq hon)

/-- Everybody's trial is where it was. -/
theorem Tried.kept {log : UInt32 → List UInt16} {s s' : Session} (h : Tried log s)
    (hunique : s'.UniqueSsrc) (hkept : ∀ m, TrialKept m s s') : Tried log s' :=
  ⟨hunique, fun m hon => h.same (hkept m) hon⟩

/-- A session but for one slot, in which nobody has the SSRC that the log has changed for. -/
theorem Tried.other {log : UInt32 → List UInt16} {s s' : Session} {m : Slot} {ssrc : UInt32}
    (h : Tried log s) (hother : m ∈ s.usedList → (s.member m).ssrc ≠ ssrc) (seqs : List UInt16)
    (hkept : TrialKept m s s') (hon : s'.OnTrial m) :
    Trial (Function.update log ssrc seqs (s'.member m).ssrc) (s'.member m).rtpSrc := by
  have hne : (s'.member m).ssrc ≠ ssrc := by
    rw [hkept.ssrc hon]
    exact hother (hkept.before hon).used
  rw [Function.update_of_ne hne]
  exact h.same hkept hon

section Heard

variable {log : UInt32 → List UInt16} {s : Session} {ssrc : UInt32} {m j : Slot}

/-- The source is first heard with this packet, and `j` is made for it. -/
theorem Tried.created (h : Tried log s) {s' t : Session}
    (hnone : s.rtpSessionLookupMember ssrc = none)
    (halloc : s.rtpSessionAllocMember ssrc = some (j, s')) (seq : UInt16) (fromAddr : SockaddrIn)
    (hcalm : Calm (s'.rtpCreated j seq fromAddr) t) (seqs : List UInt16) (hon : t.OnTrial m) :
    Trial (Function.update log ssrc seqs (t.member m).ssrc) (t.member m).rtpSrc := by
  by_cases hj : j = m
  · subst hj
    have hrecord : (s'.rtpCreated j seq fromAddr).member j =
        rtpFirstHeard seq fromAddr (s'.member j) := Function.update_self ..
    have hsrc : ((s'.rtpCreated j seq fromAddr).member j).rtpSrc =
        (s'.member j).rtpSrc.rtpInitSeq seq true := congrArg RtpMember.rtpSrc hrecord
    have htrial := trial_rtpInitSeq (s'.member j).rtpSrc seq
      (Function.update log ssrc seqs (t.member j).ssrc)
    rw [← hsrc] at htrial
    exact htrial.congr (hcalm.probation j) (hcalm.maxSeq j)
  · refine h.other (lookup_eq_none.1 hnone m) seqs (TrialKept.trans ?_ (.of_calm hcalm)) hon
    exact .of_untouched ((Untouched.frame m).rtpCreated hj halloc seq fromAddr)

/-- The source is first heard with this packet, and `j` is there from RTCP. -/
theorem Tried.joined (h : Tried log s) (hj : s.rtpSessionLookupMember ssrc = some j) (seq : UInt16)
    (fromAddr : SockaddrIn) (seqs : List UInt16) (hon : (s.rtpJoined j seq fromAddr).OnTrial m) :
    Trial (Function.update log ssrc seqs ((s.rtpJoined j seq fromAddr).member m).ssrc)
      ((s.rtpJoined j seq fromAddr).member m).rtpSrc := by
  by_cases hjm : j = m
  · subst hjm
    have hrecord : (s.rtpJoined j seq fromAddr).member j =
        rtpFirstHeard seq fromAddr (s.member j) := Function.update_self ..
    have hsrc : ((s.rtpJoined j seq fromAddr).member j).rtpSrc =
        (s.member j).rtpSrc.rtpInitSeq seq true := congrArg RtpMember.rtpSrc hrecord
    rw [hsrc]
    exact trial_rtpInitSeq _ seq _
  · exact h.other (h.unique.other hj hjm) seqs
      (.of_untouched ((Untouched.frame m).rtpJoined hjm s seq fromAddr)) hon

/-- The source is heard again: the trial of `j` goes on. -/
theorem Tried.refreshed (h : Tried log s) (hj : s.rtpSessionLookupMember ssrc = some j)
    (hknown : (s.member j).flags.self = true ∨ (s.member j).flags.rtpHeard = true)
    (hon : (s.rtpRefreshed j).OnTrial j) :
    ((s.rtpRefreshed j).member j).ssrc = ssrc ∧
      Trial (log ssrc) ((s.rtpRefreshed j).member j).rtpSrc := by
  obtain ⟨hused, hssrc⟩ := lookup_eq_some hj
  have hrecord : (s.rtpRefreshed j).member j = (s.member j).setRtpHeard := Function.update_self ..
  have hnot := hon.notSelf
  rw [hrecord] at hnot ⊢
  have hheard : (s.member j).flags.rtpHeard = true := by
    refine hknown.resolve_left fun hself => ?_
    exact absurd (hself.symm.trans hnot) (by decide)
  have htrial := h.trial j ⟨hused, hnot, hheard⟩
  rw [hssrc] at htrial
  exact ⟨hssrc, htrial⟩

end Heard

/-- The trial of `m` after a source of a data packet has been handled, whose sequence number is checked
    next if it is accepted. -/
theorem Tried.rtpHandleSsrc {log : UInt32 → List UInt16} {s : Session} (h : Tried log s)
    (ssrc : UInt32) (seq : UInt16) (fromAddr : SockaddrIn) (csrc : Bool) (seqs : List UInt16)
    {m : Slot} (hon : (s.rtpHandleSsrc ssrc seq fromAddr csrc).2.OnTrial m) :
    let res := s.rtpHandleSsrc ssrc seq fromAddr csrc
    let log' := noteReceived fromAddr log s ssrc seqs
    Trial (log' (res.2.member m).ssrc) (res.2.member m).rtpSrc ∧ (res.1 = some m → csrc = true) ∨
      (res.1 = some m ∧ log' (res.2.member m).ssrc = log ssrc ++ seqs ∧
        Trial (log ssrc) (res.2.member m).rtpSrc) := by
  have hcase := s.rtpHandleSsrc_case ssrc seq fromAddr csrc
  generalize s.rtpHandleSsrc ssrc seq fromAddr csrc = res at hcase hon
  cases hcase with
  | tableFull _ hnone hfull =>
      rw [noteReceived_none hnone]
      exact Or.inl ⟨h.other (lookup_eq_none.1 hnone m) seqs (.of_table rfl) hon, by simp⟩
  | created j s' hnone halloc =>
      rw [noteReceived_none hnone]
      exact Or.inl ⟨h.created hnone halloc seq fromAddr (.refl _) seqs hon, by simp⟩
  | createdCsrc j s' hnone halloc =>
      rw [noteReceived_none hnone]
      refine Or.inl ⟨h.created hnone halloc seq fromAddr ?_ seqs hon, fun _ => rfl⟩
      exact .modifyMember _ j (f := fun x => x.setValidated.setCsrc)
        ⟨rfl, rfl, rfl, rfl, rfl, rfl, rfl⟩ rfl rfl
  | leaving _ j hj hbye =>
      rw [noteReceived_leaving hj hbye]
      exact Or.inl ⟨h.same (.of_table rfl) hon, by simp⟩
  | joined _ j hj hbye hself hnew =>
      rw [noteReceived_joined hj hbye hself hnew]
      exact Or.inl ⟨h.joined hj seq fromAddr seqs hon, by simp⟩
  | thirdParty _ j hj hbye hself hheard haddr =>
      rw [noteReceived_conflict hj (Or.inr hheard) haddr]
      exact Or.inl ⟨h.same (.of_table rfl) hon, by simp⟩
  | collision _ j hj hbye hself haddr err =>
      rw [noteReceived_conflict hj (Or.inl hself) haddr]
      have hkept := (TrialKept.ownSsrcConflict (m := m) s fromAddr fun _ => hself).trans
        (.of_calm (.setRtpError _ err))
      exact Or.inl ⟨h.same hkept hon, by simp⟩
  | refreshed _ j hj hbye hknown haddr =>
      rw [noteReceived_refreshed hj hbye hknown haddr]
      by_cases hjm : j = m
      · subst hjm
        obtain ⟨hname, htrial⟩ := h.refreshed hj hknown hon
        refine Or.inr ⟨rfl, ?_, htrial⟩
        show Function.update log ssrc (log ssrc ++ seqs) ((s.rtpRefreshed j).member j).ssrc = _
        rw [hname, Function.update_self]
      · have hkept : TrialKept m s (s.rtpRefreshed j) :=
          .of_untouched ((Untouched.frame m).rtpRefreshed hjm s)
        exact Or.inl ⟨h.other (h.unique.other hj hjm) _ hkept hon,
          fun hsome => absurd (Option.some.inj hsome) hjm⟩

/-! ## Runs -/

/-- A source of an RTCP packet makes the session give `m` another SSRC: `rtcp_handle_ssrc` takes the
    member with the session's SSRC for the session's own. -/
def RtcpRenames (s : Session) (ssrc : UInt32) (fromAddr : SockaddrIn) (m : Slot) : Prop :=
  s.rtpSessionLookupMember ssrc = some m ∧ (s.member m).flags.byeReceived = false ∧
    ((s.member m).flags.self = true ∨ (s.member m).flags.rtcpHeard = true) ∧
    (s.member m).rtcpAddr ≠ fromAddr ∧ ssrc = s.selfMember.ssrc ∧
    (s.rtpSourceConflictLookup fromAddr).1 = false

instance (s : Session) (ssrc : UInt32) (fromAddr : SockaddrIn) (m : Slot) :
    Decidable (s.RtcpRenames ssrc fromAddr m) := inferInstanceAs (Decidable (_ ∧ _))

/-- RTCP packets make the session give nobody but its own member another SSRC. -/
def renamesSelf : ActGuard where
  rtp _ _ _ := True
  msg fromAddr s msg := ∀ m, ∀ ssrc ∈ msg.source, s.RtcpRenames ssrc fromAddr m →
    (s.member m).flags.self = true
  tx _ _ := True
  expire _ := True
  fire _ _ := True

instance : renamesSelf.Evaluable where
  rtp _ _ _ := isTrue trivial
  msg fromAddr s msg :=
    have (m : Slot) : Decidable (∀ ssrc ∈ msg.source, s.RtcpRenames ssrc fromAddr m →
        (s.member m).flags.self = true) :=
      Option.decidableForallMem msg.source
    inferInstanceAs (Decidable (∀ m, ∀ ssrc ∈ msg.source, s.RtcpRenames ssrc fromAddr m →
      (s.member m).flags.self = true))
  tx _ _ := isTrue trivial
  expire _ := isTrue trivial
  fire _ _ := isTrue trivial

/-- A change to somebody's statistics puts nobody on trial. -/
theorem OnTrial.of_modifyMember {s : Session} {m j : Slot} {f : RtpMember → RtpMember}
    (hflags : (f (s.member j)).flags = (s.member j).flags) (h : (s.modifyMember j f).OnTrial m) :
    s.OnTrial m := by
  obtain ⟨hused, hnot, hheard⟩ := h
  have hsame : ((s.modifyMember j f).member m).flags = (s.member m).flags := by
    rw [member_modifyMember]
    split
    · rename_i hj
      rw [hflags, hj]
    · rfl
  rw [hsame] at hnot hheard
  exact ⟨hused, hnot, hheard⟩

/-- The sequence number of `j` is checked, and the trial of nobody else moves. -/
theorem Tried.checked {log : UInt32 → List UInt16} {s : Session} {j : Slot} {seq : UInt16}
    (hunique : s.UniqueSsrc)
    (hown : s.OnTrial j → ∃ before, log (s.member j).ssrc = before ++ [seq] ∧
      Trial before (s.member j).rtpSrc)
    (hothers : ∀ m, m ≠ j → s.OnTrial m → Trial (log (s.member m).ssrc) (s.member m).rtpSrc) :
    Tried log (s.modifyMember j fun x =>
      { x with rtpSrc := ((s.member j).rtpSrc.rtpUpdateSeq seq).2 }) := by
  refine ⟨(SameNames.modifyMember s j rfl).unique hunique, fun m hon => ?_⟩
  have hbefore : s.OnTrial m := hon.of_modifyMember rfl
  by_cases hm : m = j
  · subst hm
    obtain ⟨before, hlog, htrial⟩ := hown hbefore
    rw [member_modifyMember, if_pos rfl]
    show Trial (log (s.member m).ssrc) _
    rw [hlog]
    exact (htrial.update seq).1
  · rw [member_modifyMember, if_neg hm]
    exact hothers m hm hbefore

theorem Tried.rtpRxSource {log : UInt32 → List UInt16} {s : Session} (h : Tried log s)
    (hdr : RtpHdr) (arrival : UInt32) (fromAddr : SockaddrIn) :
    Tried (receivedHistory.data fromAddr log s hdr.ssrc hdr.seq)
      (s.rtpRxSource hdr arrival fromAddr).2 := by
  have hunique := unique_rtpHandleSsrc h.unique hdr.ssrc hdr.seq fromAddr false
  have hsource := fun m => h.rtpHandleSsrc (m := m) hdr.ssrc hdr.seq fromAddr false [hdr.seq]
  simp only [Session.rtpRxSource]
  generalize s.rtpHandleSsrc hdr.ssrc hdr.seq fromAddr false = res at hunique hsource
  split
  · rename_i hnone
    refine ⟨hunique, fun m hon => ?_⟩
    rcases hsource m hon with ⟨htrial, -⟩ | ⟨hsome, -⟩
    · exact htrial
    · rw [hnone] at hsome
      exact absurd hsome (by simp)
  · rename_i j hj
    have hchecked : Tried (receivedHistory.data fromAddr log s hdr.ssrc hdr.seq)
        (res.2.modifyMember j fun x =>
          { x with rtpSrc := ((res.2.member j).rtpSrc.rtpUpdateSeq hdr.seq).2 }) := by
      refine Tried.checked hunique (fun hon => ?_) fun m hm hon => ?_
      · rcases hsource j hon with ⟨-, hcsrc⟩ | ⟨-, hlog, htrial⟩
        · exact absurd (hcsrc hj) (by decide)
        · exact ⟨log hdr.ssrc, hlog, htrial⟩
      · rcases hsource m hon with ⟨htrial, -⟩ | ⟨hsome, -⟩
        · exact htrial
        · rw [hj] at hsome
          exact absurd (Option.some.inj hsome).symm hm
    have hcalm : ∀ {t}, Calm (res.2.modifyMember j fun x =>
        { x with rtpSrc := ((res.2.member j).rtpSrc.rtpUpdateSeq hdr.seq).2 }) t →
        Tried (receivedHistory.data fromAddr log s hdr.ssrc hdr.seq) t := fun hc =>
      hchecked.kept ((SameNames.of_quiet hc.toQuiet).unique hchecked.unique) fun _ => .of_calm hc
    split
    · exact hcalm (.setRtpError _ _)
    · refine hcalm (Calm.trans ?_ (.modifyMember _ j ⟨rfl, rfl, rfl, rfl, rfl, rfl, rfl⟩ rfl rfl))
      exact .modifyMember _ j ⟨rfl, rfl, rfl, rfl, rfl, rfl, rfl⟩ rfl rfl

theorem TrialKept.rtcpHandleSsrc {m : Slot} (s : Session) (ssrc : UInt32) (fromAddr : SockaddrIn)
    (pktSize : UInt32)
    (hself : ∀ j, s.RtcpRenames ssrc fromAddr j → (s.member j).flags.self = true) :
    TrialKept m s (s.rtcpHandleSsrc ssrc fromAddr pktSize).2 := by
  have hcase := s.rtcpHandleSsrc_case ssrc fromAddr pktSize
  generalize s.rtcpHandleSsrc ssrc fromAddr pktSize = res at hcase
  cases hcase with
  | tableFull | leaving | thirdParty => exact of_table rfl
  | created j s' hnone halloc =>
      by_cases hj : j = m
      · subst hj
        -- a member that RTCP creates has not been heard as a source
        refine of_off fun hon => ?_
        obtain ⟨-, -, harray, -⟩ := alloc_eq_some halloc
        have hrecord : (s'.rtcpCreated j fromAddr pktSize).member j =
            rtcpFirstHeard fromAddr (s'.member j) := Function.update_self ..
        have hheard := hon.heard
        rw [hrecord, member, harray, Function.update_self] at hheard
        exact absurd hheard Bool.false_ne_true
      · exact of_untouched ((Untouched.frame m).rtcpCreated hj halloc fromAddr pktSize)
  | joined j hj hbye hnot hnew =>
      exact (modifyMember s j (f := rtcpFirstHeard fromAddr) rfl id rfl rfl).trans (of_table rfl)
  | collision j hj hbye hknown haddr hown err =>
      exact (ownSsrcConflict s fromAddr fun hlisted =>
        hself j ⟨hj, hbye, hknown, haddr, hown, hlisted⟩).trans (of_table rfl)
  | refreshed j hj hbye hknown haddr =>
      exact (modifyMember s j (f := RtpMember.setRtcpHeard) rfl id rfl rfl).trans (of_table rfl)

theorem tried_rules : PacketRules receivedHistory Tried renamesSelf where
  calm hc h := h.kept ((SameNames.of_quiet hc.toQuiet).unique h.unique) fun _ => .of_calm hc
  data h _ := h.rtpRxSource _ _ _
  csrc {log s csrc seq fromAddr} h _ := by
    refine ⟨unique_rtpHandleSsrc h.unique csrc seq fromAddr true, fun m hon => ?_⟩
    rcases h.rtpHandleSsrc csrc seq fromAddr true [] hon with ⟨htrial, -⟩ | ⟨-, hlog, htrial⟩
    · exact htrial
    · rw [List.append_nil] at hlog
      rw [← hlog] at htrial
      exact htrial
  rtcpSource {log s ssrc fromAddr pktSize msg} h hg hsource :=
    h.kept (unique_rtcpHandleSsrc h.unique ssrc fromAddr pktSize) fun _ =>
      .rtcpHandleSsrc s ssrc fromAddr pktSize fun j => hg j ssrc hsource
  byeSource {log s ssrc fromAddr pktSize} h _ :=
    h.kept ((sameNames_byeSource s ssrc pktSize).unique h.unique) fun _ => .byeSource s ssrc pktSize
  txCount {log s payloadLen ncsrc} h _ :=
    h.kept ((sameNames_txCount s payloadLen).unique h.unique) fun _ => .rtpTxCount s payloadLen
  expire h _ := h.kept ((SameNames.of_eq rfl).unique h.unique) fun _ => .of_table rfl
  fire {log s e rest} htop h _ := by
    have hpop : Tried log (s.setTimer s.softTimer.popTimeout) :=
      h.kept ((SameNames.of_eq rfl).unique h.unique) fun _ => .of_table rfl
    exact hpop.kept (unique_rules.fire htop h.unique trivial) fun _ => .timerCallback

/-- A session starts with nobody on trial. -/
theorem tried_rtpSessionInit (mem : Session) (config : RtpSessionConfig) :
    Tried (fun _ => []) (mem.rtpSessionInit config) := by
  refine ⟨unique_rtpSessionInit mem config, fun m hon => ?_⟩
  by_cases hm : m = (mem.rtpSessionInit config).self
  · obtain ⟨-, hflag, -⟩ := (kept_rtpSessionInit mem config).1.hasSelf
    have hself : (mem.rtpSessionInit config).selfMember.flags.self = true := hflag
    rw [selfMember, ← hm, hon.notSelf] at hself
    exact absurd hself Bool.false_ne_true
  · exact absurd hon.used (alone_rtpSessionInit mem config hm)

/-- The sequence numbers received in a run. -/
def received (mem : Session) (config : RtpSessionConfig) (ops : List Op) : UInt32 → List UInt16 :=
  receivedHistory.run (fun _ => []) (mem.rtpSessionInit config) ops

theorem tried_run {mem : Session} {config : RtpSessionConfig} {ops : List Op}
    (hg : Runs.Guarded step renamesSelf.admits (mem.rtpSessionInit config) ops) :
    Tried (received mem config ops) (runSession mem config ops) :=
  tried_rules.run hg (tried_rtpSessionInit mem config)

end Session

/-! ## The session's own member -/

/-- Nobody in the table but the session's own slot carries the flag of it. -/
def Ledger.SelfAlone (l : Ledger) : Prop :=
  ∀ m, (l.entry m).used = true → (l.entry m).self = true → m = l.self

theorem Ledger.SelfAlone.put {l : Ledger} (h : l.SelfAlone) {m : Slot} {e : Entry}
    (he : e.used = true → e.self = true → m = l.self) : (l.put m e).SelfAlone := by
  intro j
  by_cases hj : j = m
  · subst hj
    rw [Ledger.entry_put_self]
    exact he
  · rw [Ledger.entry_put_of_ne l hj]
    exact h j

theorem Ledger.SelfAlone.apply {l : Ledger} (h : l.SelfAlone) {e : Ledger.Event} :
    (l.apply e).SelfAlone := by
  cases e with
  | idle => exact h
  | join m sending => exact h.put fun _ hself => absurd hself Bool.false_ne_true
  | hear m data => exact h.put (h m)
  | speak m => exact h.put (h m)
  | quit m => exact h.put (h m)
  | transmit => exact h.put (h l.self)
  | memberExpired m => exact h.put fun hused => absurd hused Bool.false_ne_true
  | senderExpired m => exact h.put (h m)
  | leaveExpired m => exact h.put fun hused => absurd hused Bool.false_ne_true

namespace Session

theorem selfAlone_runSession (mem : Session) (config : RtpSessionConfig) (ops : List Op) :
    (runSession mem config ops).ledger.SelfAlone := by
  refine (ledger_rules fun h _ => h.apply).run_any (fun m hused _ => ?_) ops
  by_contra hm
  exact alone_rtpSessionInit mem config hm (of_decide_eq_true hused)

end Session

end Prtp
