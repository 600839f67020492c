import Prtp.SlotFrames
import Prtp.UniqueSsrc

set_option autoImplicit false

/-! # Packets from somebody else's address

A member is known by the address its packets came from. Data packets from any other address leave it
alone. RTCP packets do too, except that a BYE is taken from anybody. -/

namespace Prtp

open ByteReader

namespace Session

/-- `m` is exactly as it was: its record, its place in the table, and which of its timers run until
    when. -/
structure Untouched (m : Slot) (s s' : Session) : Prop where
  record : s'.member m = s.member m
  used : m ∈ s'.usedList ↔ m ∈ s.usedList
  running : ∀ e ∈ timersOf m, (s'.softTimer.Running e ↔ s.softTimer.Running e)
  due : ∀ e ∈ timersOf m, s'.softTimer.elemTick e = s.softTimer.elemTick e

namespace Untouched

variable {m : Slot}

theorem refl (s : Session) : Untouched m s s :=
  ⟨rfl, Iff.rfl, fun _ _ => Iff.rfl, fun _ _ => rfl⟩

theorem trans {s s' s'' : Session} (h : Untouched m s s') (h' : Untouched m s' s'') :
    Untouched m s s'' where
  record := h'.record.trans h.record
  used := h'.used.trans h.used
  running e he := (h'.running e he).trans (h.running e he)
  due e he := (h'.due e he).trans (h.due e he)

/-- Neither the table nor the wheel has changed. -/
theorem of_eq {s s' : Session} (htable : s'.memberTable = s.memberTable)
    (htimer : s'.softTimer = s.softTimer) : Untouched m s s' := by
  refine ⟨?_, ?_, ?_, ?_⟩
  · rw [member, member, htable]
  · rw [usedList, usedList, htable]
  · intro e _
    rw [htimer]
  · intro e _
    rw [htimer]

/-- Whatever is not about `m` leaves it untouched. -/
theorem frame (m : Slot) : SlotFrame m (Untouched m) where
  trans := trans
  same := of_eq
  modify s j f hne := by
    refine ⟨?_, Iff.rfl, fun _ _ => Iff.rfl, fun _ _ => rfl⟩
    rw [member_modifyMember, if_neg (Ne.symm hne)]
  add s x d hx := by
    have hne : ∀ e ∈ timersOf m, e ≠ x := fun e he hex => hx (hex ▸ he)
    refine ⟨rfl, Iff.rfl, fun e he => ?_, fun e he => ?_⟩
    · rw [softTimerAdd, setTimer, SoftTimer.running_add, or_iff_left (hne e he)]
    · exact SoftTimer.elemTick_add_of_ne _ _ (hne e he)
  del s x hx := by
    have hne : ∀ e ∈ timersOf m, e ≠ x := fun e he hex => hx (hex ▸ he)
    refine ⟨rfl, Iff.rfl, fun e he => ?_, fun e he => rfl⟩
    rw [softTimerDel, setTimer, SoftTimer.running_del, and_iff_left (hne e he)]
  pop {s x rest} htop hx := by
    have hne : ∀ e ∈ timersOf m, e ≠ x := fun e he hex => hx (hex ▸ he)
    refine ⟨rfl, Iff.rfl, fun e he => ?_, fun e he => rfl⟩
    rw [setTimer, SoftTimer.running_popTimeout htop, and_iff_left (hne e he)]
  alloc {s s' ssrc j} halloc hne := by
    obtain ⟨hfree, hused, harray, htimer, -⟩ := alloc_eq_some halloc
    refine ⟨?_, ?_, ?_, ?_⟩
    · rw [member, harray, Function.update_of_ne (Ne.symm hne), member]
    · rw [hused, List.mem_append, List.mem_singleton, or_iff_left (Ne.symm hne)]
    · intro e _
      rw [htimer]
    · intro e _
      rw [htimer]
  free s j hne := by
    refine ⟨rfl, ?_, fun _ _ => Iff.rfl, fun _ _ => rfl⟩
    exact (Pool.mem_used_release _ j m).trans (and_iff_left (Ne.symm hne))

theorem foldl {α : Type} {f : Session → α → Session} (hf : ∀ s a, Untouched m s (f s a))
    (s : Session) (l : List α) : Untouched m s (l.foldl f s) :=
  Runs.run_invariant (fun t a ht => ht.trans (hf t a)) (.refl s) l

end Untouched

/-! ## Data packets -/

/-- A source of a data packet from another address does not touch `m`, nor is it accepted as `m`. -/
theorem rtpHandleSsrc_untouched {s : Session} {m : Slot} {fromAddr : SockaddrIn}
    (hm : m ∈ s.usedList) (hself : (s.member m).flags.self = false)
    (hheard : (s.member m).flags.rtpHeard = true) (haddr : fromAddr ≠ (s.member m).rtpAddr)
    (ssrc : UInt32) (seq : UInt16) (csrc : Bool) :
    Untouched m s (s.rtpHandleSsrc ssrc seq fromAddr csrc).2 ∧
      (s.rtpHandleSsrc ssrc seq fromAddr csrc).1 ≠ some m := by
  have hframe := Untouched.frame m
  have hcase := s.rtpHandleSsrc_case ssrc seq fromAddr csrc
  generalize s.rtpHandleSsrc ssrc seq fromAddr csrc = res at hcase
  have hnew : ∀ {j s'}, s.rtpSessionAllocMember ssrc = some (j, s') → j ≠ m := by
    rintro j s' halloc rfl
    exact (alloc_eq_some halloc).1 hm
  cases hcase with
  | tableFull | leaving | thirdParty => exact ⟨hframe.setRtpError s _, by simp⟩
  | created j s' hnone halloc =>
      exact ⟨hframe.rtpCreated (hnew halloc) halloc seq fromAddr, by simp⟩
  | createdCsrc j s' hnone halloc =>
      have hne := hnew halloc
      exact ⟨(hframe.rtpCreated hne halloc seq fromAddr).trans
        (hframe.modify _ (fun x => x.setValidated.setCsrc) hne), by simpa using hne⟩
  | joined _ j hj hbye hnotself hunheard =>
      -- `m` was heard before
      have hne : j ≠ m := by
        rintro rfl
        rw [hheard] at hunheard
        exact absurd hunheard (by decide)
      exact ⟨hframe.rtpJoined hne s seq fromAddr, by simp⟩
  | collision _ j hj hbye hown hother err =>
      have hne : j ≠ m := by
        rintro rfl
        rw [hself] at hown
        exact absurd hown (by decide)
      exact ⟨(hframe.ownSsrcConflict s fromAddr (Or.inl hne)).trans (hframe.setRtpError _ _), by simp⟩
  | refreshed _ j hj hbye hknown hsame =>
      have hne : j ≠ m := by
        rintro rfl
        exact haddr hsame.symm
      exact ⟨hframe.rtpRefreshed hne s, by simpa using hne⟩

section Data

variable {s : Session} {m : Slot} {fromAddr : SockaddrIn} (hm : m ∈ s.usedList)
  (hself : (s.member m).flags.self = false) (hheard : (s.member m).flags.rtpHeard = true)
  (haddr : fromAddr ≠ (s.member m).rtpAddr)

include hm hself hheard haddr

theorem rtpRxSource_untouched (hdr : RtpHdr) (arrival : UInt32) :
    Untouched m s (s.rtpRxSource hdr arrival fromAddr).2 := by
  obtain ⟨hsrc, hnot⟩ := rtpHandleSsrc_untouched hm hself hheard haddr hdr.ssrc hdr.seq false
  simp only [rtpRxSource]
  split
  · exact hsrc
  · rename_i j hj
    have hne : j ≠ m := fun hjm => hnot (hjm ▸ hj)
    have hmodify := fun t f => (Untouched.frame m).modify t f hne
    split
    · exact (hsrc.trans (hmodify _ _)).trans ((Untouched.frame m).setRtpError _ _)
    · exact ((hsrc.trans (hmodify _ _)).trans (hmodify _ _)).trans (hmodify _ _)

theorem rtpHandleCsrc_untouched (seq : UInt16) (rtpTs arrival csrc : UInt32) :
    Untouched m s (rtpHandleCsrc seq fromAddr rtpTs arrival s csrc) := by
  obtain ⟨hsrc, hnot⟩ := rtpHandleSsrc_untouched hm hself hheard haddr csrc seq true
  simp only [rtpHandleCsrc]
  split
  · exact hsrc
  · rename_i j hj
    have hne : j ≠ m := fun hjm => hnot (hjm ▸ hj)
    exact hsrc.trans ((Untouched.frame m).modify _ _ hne)

omit hm hself hheard haddr in
/-- What holds of `m` in a session holds in every session in which it is untouched. -/
theorem Untouched.data_hyps {t : Session} (h : Untouched m s t) (hm : m ∈ s.usedList)
    (hself : (s.member m).flags.self = false) (hheard : (s.member m).flags.rtpHeard = true)
    (haddr : fromAddr ≠ (s.member m).rtpAddr) :
    m ∈ t.usedList ∧ (t.member m).flags.self = false ∧ (t.member m).flags.rtpHeard = true ∧
      fromAddr ≠ (t.member m).rtpAddr := by
  rw [h.record]
  exact ⟨h.used.2 hm, hself, hheard, haddr⟩

/-- A data packet of any content from another address does not touch `m`. -/
theorem rtpRx_untouched (pkt : ByteMem) (len : UInt32) :
    Untouched m s ((s.rtpRx len fromAddr).val pkt) := by
  apply rtpRx_rule History.none.packets (P := fun _ => Untouched m s) (x := ())
    (G := ActGuard.any.rtp fromAddr)
  · exact .of_eq rfl rfl
  · exact fun _ _ _ ht => ht.trans (.of_eq rfl rfl)
  · intro _ t hdr arrival ht _
    obtain ⟨hmt, hselft, hheardt, haddrt⟩ := ht.data_hyps hm hself hheard haddr
    exact ht.trans (rtpRxSource_untouched hmt hselft hheardt haddrt hdr arrival)
  · intro _ t seq rtpTs arrival csrc ht _
    obtain ⟨hmt, hselft, hheardt, haddrt⟩ := ht.data_hyps hm hself hheard haddr
    exact ht.trans (rtpHandleCsrc_untouched hmt hselft hheardt haddrt seq rtpTs arrival csrc)
  · exact fun _ _ _ ht => ht.trans (.of_eq rfl rfl)
  · exact ActGuard.any_admits s (.rxRtp pkt len fromAddr)

end Data

/-! ## RTCP packets -/

/-- A member that was heard by RTCP from an address other than `fromAddr`. -/
structure Bystander (m : Slot) (fromAddr : SockaddrIn) (s : Session) : Prop where
  used : m ∈ s.usedList
  notSelf : (s.member m).flags.self = false
  heard : (s.member m).flags.rtcpHeard = true
  addr : fromAddr ≠ (s.member m).rtcpAddr

theorem Bystander.of_untouched {m : Slot} {fromAddr : SockaddrIn} {s s' : Session}
    (hb : Bystander m fromAddr s) (h : Untouched m s s') : Bystander m fromAddr s' := by
  refine ⟨h.used.2 hb.used, ?_, ?_, ?_⟩
  · rw [h.record]; exact hb.notSelf
  · rw [h.record]; exact hb.heard
  · rw [h.record]; exact hb.addr

/-- The address is in the conflict table. -/
def conflictListed (s : Session) (addr : SockaddrIn) : Bool := (s.rtpSourceConflictLookup addr).1

theorem conflictListed_congr {s s' : Session} (h : s'.srcConflict = s.srcConflict)
    (addr : SockaddrIn) : s'.conflictListed addr = s.conflictListed addr := by
  simp only [conflictListed, rtpSourceConflictLookup,
    RtpSourceConflictTable.rtpSourceConflictLookup, h]
  split <;> rfl

/-- A collision with a listed address is a lookup of it. -/
theorem ownSsrcConflict_listed {s : Session} {fromAddr : SockaddrIn}
    (h : s.conflictListed fromAddr = true) (j : Slot) :
    (s.ownSsrcConflict j fromAddr).2 = (s.rtpSourceConflictLookup fromAddr).2 := by
  rw [conflictListed] at h
  simp only [ownSsrcConflict]
  rw [if_pos h]

/-- A collision with the session's SSRC cannot hit `m`: it is leaving, it has another SSRC, or the
    address is known for its collisions already. -/
def Spared (m : Slot) (fromAddr : SockaddrIn) (s : Session) : Prop :=
  (s.member m).flags.byeReceived = true ∨ (s.member m).ssrc ≠ s.selfMember.ssrc ∨
    s.conflictListed fromAddr = true

instance (m : Slot) (fromAddr : SockaddrIn) (s : Session) : Decidable (Spared m fromAddr s) :=
  inferInstanceAs (Decidable (_ ∨ _ ∨ _))

/-- A source of an RTCP packet from another address does not touch `m`, nor is it accepted as `m`. -/
theorem rtcpHandleSsrc_untouched {s : Session} {m : Slot} {fromAddr : SockaddrIn} {ssrc : UInt32}
    (hb : Bystander m fromAddr s) (hspared : Spared m fromAddr s ∨ ssrc ≠ (s.member m).ssrc)
    (pktSize : UInt32) :
    Untouched m s (s.rtcpHandleSsrc ssrc fromAddr pktSize).2 ∧
      (s.rtcpHandleSsrc ssrc fromAddr pktSize).1 ≠ some m := by
  have hframe := Untouched.frame m
  have hcase := s.rtcpHandleSsrc_case ssrc fromAddr pktSize
  generalize s.rtcpHandleSsrc ssrc fromAddr pktSize = res at hcase
  cases hcase with
  | tableFull | leaving | thirdParty => exact ⟨hframe.setRtcpError s _, by simp⟩
  | created j s' hnone halloc =>
      have hne : j ≠ m := by
        rintro rfl
        exact (alloc_eq_some halloc).1 hb.used
      exact ⟨hframe.rtcpCreated hne halloc fromAddr pktSize, by simpa using hne⟩
  | joined j hj hbye hnotself hnew =>
      have hne : j ≠ m := by
        rintro rfl
        rw [hb.heard] at hnew
        exact absurd hnew (by decide)
      exact ⟨hframe.rtcpJoined hne s fromAddr, by simpa using hne⟩
  | collision j hj hbye hknown haddr hown err =>
      have hclear : j ≠ m ∨ s.conflictListed fromAddr = true := by
        by_cases hne : j = m
        · -- `m` itself is the member with the session's SSRC
          subst hne
          have hssrc := (lookup_eq_some hj).2
          rcases hspared with (hleft | hother | hlisted) | hname
          · rw [hleft] at hbye
            exact absurd hbye (by decide)
          · exact absurd (hssrc.trans hown) hother
          · exact Or.inr hlisted
          · exact absurd hssrc.symm hname
        · exact Or.inl hne
      exact ⟨(hframe.ownSsrcConflict s fromAddr hclear).trans (hframe.setRtcpError _ _), by simp⟩
  | refreshed j hj hbye hknown hsame =>
      have hne : j ≠ m := by
        rintro rfl
        exact hb.addr hsame.symm
      exact ⟨hframe.rtcpRefreshed hne s pktSize, by simpa using hne⟩

theorem acceptMsg_untouched {m j : Slot} (hne : j ≠ m) (s : Session) (msg : RtcpMsg) :
    Untouched m s (s.acceptMsg j msg) := by
  have hmodify := fun t f => (Untouched.frame m).modify t f hne
  have hblocks : ∀ ssrc blocks (s : Session), Untouched m s (reportBlocks ssrc blocks s) :=
    fun ssrc blocks s => .foldl (f := fun s block => s.emit (.rrRpt ssrc block))
      (fun s _ => .of_eq rfl rfl) s blocks
  cases msg with
  | sr ssrc ntp rtpTs psent osent blocks sub =>
      have hrecord : Untouched m s (s.recordSr j ntp rtpTs psent osent) := by
        simp only [recordSr]
        have hclock : ∀ t : Session, Untouched m t t.ntpTsNow.2 := fun _ => .of_eq rfl rfl
        refine .trans ?_ (hmodify _ _)
        exact (hmodify s _).trans (hclock _)
      exact (hrecord.trans (hblocks _ _ _)).trans (.of_eq rfl rfl)
  | rr ssrc blocks => exact hblocks _ _ _
  | sdes ssrc cnames => exact .foldl (fun s _ => hmodify s _) s cnames
  | bye ssrc => exact .refl s

/-- A BYE that does not name `m`, or comes after `m` has left, does not touch it. -/
theorem byeSource_untouched {s : Session} {m : Slot} {ssrc : UInt32}
    (h : (s.member m).flags.byeReceived = true ∨ ssrc ≠ (s.member m).ssrc) (pktSize : UInt32) :
    Untouched m s (s.rtcpHandleByeSource ssrc pktSize) := by
  by_cases habsent :
      ∀ j, s.rtpSessionLookupMember ssrc = some j → (s.member j).flags.byeReceived = true
  · rw [rtcpHandleByeSource_of_absent habsent]
    exact .refl s
  · simp only [not_forall, Bool.not_eq_true] at habsent
    obtain ⟨j, hj, hbye⟩ := habsent
    have hne : j ≠ m := by
      rintro rfl
      rcases h with hleft | hname
      · rw [hleft] at hbye
        exact absurd hbye (by decide)
      · exact hname (lookup_eq_some hj).2.symm
    rw [rtcpHandleByeSource_of_present hj hbye]
    have hbyeEvent : RtcpEvent.rxBye ≠ .rxNonBye := by decide
    exact ((Untouched.frame m).leaving s hbyeEvent _ _).trans ((Untouched.frame m).leaveOn hne _)

/-- One message of an RTCP packet from another address. -/
theorem handleMsg_untouched {s : Session} {m : Slot} {fromAddr : SockaddrIn} {msg : RtcpMsg}
    (hb : Bystander m fromAddr s)
    (hsource : Spared m fromAddr s ∨ msg.source ≠ some (s.member m).ssrc)
    (hbye : (s.member m).flags.byeReceived = true ∨ msg ≠ .bye (s.member m).ssrc) (len : UInt32) :
    Untouched m s (handleMsg fromAddr len s msg) := by
  have hssrc : ∀ ssrc, msg.source = some ssrc →
      Untouched m s (s.rtcpHandleSsrc ssrc fromAddr len).2 ∧
        (s.rtcpHandleSsrc ssrc fromAddr len).1 ≠ some m := fun ssrc hssrc =>
    rtcpHandleSsrc_untouched hb (hsource.imp_right fun hname heq => hname (by rw [hssrc, heq])) len
  apply handleMsg_rule
  · intro ssrc hsrc _
    exact (hssrc ssrc hsrc).1
  · intro ssrc j hsrc hj
    have hne : j ≠ m := fun hjm => (hssrc ssrc hsrc).2 (hjm ▸ hj)
    exact (hssrc ssrc hsrc).1.trans (acceptMsg_untouched hne _ _)
  · rintro ssrc rfl
    exact byeSource_untouched (hbye.imp_right fun hname heq => hname (by rw [heq])) len

/-- The session's SSRC stays what it is, or becomes one that nobody in the table has. -/
def KeepsName (s s' : Session) : Prop :=
  s'.selfMember.ssrc = s.selfMember.ssrc ∨
    ∀ i ∈ s.usedList, (s.member i).ssrc ≠ s'.selfMember.ssrc

theorem keepsName_of_sameNames {s s' : Session} (h : SameNames s s') (hself : s'.self = s.self) :
    KeepsName s s' := by
  refine Or.inl ?_
  rw [selfMember, hself, h.ssrc, selfMember]

theorem keepsName_changeRandomSsrc (s : Session) (m : Slot) :
    KeepsName s (s.rtpMemberTableChangeRandomSsrc m) := by
  unfold rtpMemberTableChangeRandomSsrc
  split
  · exact Or.inl rfl
  · rename_i ssrc draws hdraw
    have hunused := lookup_eq_none.1 (drawUnusedSsrc_eq_some hdraw : s.rtpSessionLookupMember _ = _)
    by_cases hm : s.self = m
    · refine Or.inr fun i hi => ?_
      rw [selfMember, member_modifyMember]
      simpa [modifyMember, setMember, hm] using hunused i hi
    · refine Or.inl ?_
      rw [selfMember, member_modifyMember]
      simp [modifyMember, setMember, hm]
      rfl

theorem keepsName_rtcpHandleSsrc (s : Session) (ssrc : UInt32) (fromAddr : SockaddrIn)
    (pktSize : UInt32) : KeepsName s (s.rtcpHandleSsrc ssrc fromAddr pktSize).2 := by
  have hcase := s.rtcpHandleSsrc_case ssrc fromAddr pktSize
  generalize s.rtcpHandleSsrc ssrc fromAddr pktSize = res at hcase
  cases hcase with
  | tableFull | leaving | thirdParty => exact Or.inl rfl
  | created j s' hnone halloc =>
      obtain ⟨-, -, harray, -, -, hself, -⟩ := alloc_eq_some halloc
      have hssrc : (s'.rtcpCreated j fromAddr pktSize).selfMember.ssrc = s'.selfMember.ssrc :=
        (SameNames.trans (.modifyMember s' j (f := rtcpFirstHeard fromAddr) rfl)
          (.of_eq rfl)).ssrc s'.self
      rw [KeepsName, hssrc, selfMember, hself, member, harray]
      by_cases hj : s.self = j
      · refine Or.inr fun i hi => ?_
        rw [hj, Function.update_self]
        exact lookup_eq_none.1 hnone i hi
      · rw [Function.update_of_ne hj]
        exact Or.inl rfl
  | joined j hj hbye hself hnew =>
      exact keepsName_of_sameNames (SameNames.trans
        (.modifyMember s j (f := rtcpFirstHeard fromAddr) rfl) (.of_eq rfl)) rfl
  | collision j hj hbye hknown haddr hown err =>
      simp only [ownSsrcConflict]
      split
      · exact Or.inl rfl
      · exact keepsName_changeRandomSsrc _ j
  | refreshed j hj hbye hknown hsame =>
      exact keepsName_of_sameNames (SameNames.trans
        (.modifyMember s j (f := RtpMember.setRtcpHeard) rfl) (.of_eq rfl)) rfl

/-- Packets from a listed address leave the conflict table as it is. -/
theorem srcConflict_rtcpHandleSsrc {s : Session} {fromAddr : SockaddrIn}
    (hlisted : s.conflictListed fromAddr = true) (ssrc pktSize : UInt32) :
    (s.rtcpHandleSsrc ssrc fromAddr pktSize).2.srcConflict = s.srcConflict := by
  have hcase := s.rtcpHandleSsrc_case ssrc fromAddr pktSize
  generalize s.rtcpHandleSsrc ssrc fromAddr pktSize = res at hcase
  cases hcase with
  | tableFull | leaving | thirdParty | joined | refreshed => rfl
  | created j s' hnone halloc =>
      obtain ⟨-, -, -, -, -, -, hconflict⟩ := alloc_eq_some halloc
      exact hconflict
  | collision j hj hbye hknown haddr hown err =>
      show (s.ownSsrcConflict j fromAddr).2.srcConflict = s.srcConflict
      rw [ownSsrcConflict_listed hlisted]
      rfl

theorem spared_of {s s' : Session} {m : Slot} {fromAddr : SockaddrIn} (hb : Bystander m fromAddr s)
    (h : Spared m fromAddr s) (huntouched : Untouched m s s') (hname : KeepsName s s')
    (hconflict : s.conflictListed fromAddr = true → s'.srcConflict = s.srcConflict) :
    Spared m fromAddr s' := by
  rw [Spared, huntouched.record]
  rcases h with hleft | hother | hlisted
  · exact Or.inl hleft
  · rcases hname with hsame | hfresh
    · rw [hsame]
      exact Or.inr (Or.inl hother)
    · exact Or.inr (Or.inl (hfresh m hb.used))
  · refine Or.inr (Or.inr ?_)
    rw [conflictListed_congr (hconflict hlisted), hlisted]

theorem self_leaving (s : Session) {event : RtcpEvent} (hevent : event ≠ .rxNonBye)
    (flags : IntervalFlags) (pktSize : UInt32) :
    (s.rtcpIntervalHandleRtcpEvent event flags pktSize).self = s.self ∧
      (s.rtcpIntervalHandleRtcpEvent event flags pktSize).srcConflict = s.srcConflict := by
  rw [rtcpEvent_leaving s hevent]
  split
  · exact ⟨rfl, rfl⟩
  · exact ⟨rfl, rfl⟩

theorem self_byeSource (s : Session) (ssrc pktSize : UInt32) :
    (s.rtcpHandleByeSource ssrc pktSize).self = s.self ∧
      (s.rtcpHandleByeSource ssrc pktSize).srcConflict = s.srcConflict := by
  by_cases habsent :
      ∀ m, s.rtpSessionLookupMember ssrc = some m → (s.member m).flags.byeReceived = true
  · rw [rtcpHandleByeSource_of_absent habsent]
    exact ⟨rfl, rfl⟩
  · simp only [not_forall, Bool.not_eq_true] at habsent
    obtain ⟨m, hm, hbye⟩ := habsent
    rw [rtcpHandleByeSource_of_present hm hbye]
    exact s.self_leaving (by decide) _ _

/-- A member that is spared a message is spared the next. -/
theorem spared_handleMsg {s : Session} {m : Slot} {fromAddr : SockaddrIn} {msg : RtcpMsg}
    (hb : Bystander m fromAddr s) (h : Spared m fromAddr s)
    (hbye : (s.member m).flags.byeReceived = true ∨ msg ≠ .bye (s.member m).ssrc) (len : UInt32) :
    Spared m fromAddr (handleMsg fromAddr len s msg) := by
  have hkeeps : KeepsName s (handleMsg fromAddr len s msg) ∧ (s.conflictListed fromAddr = true →
      (handleMsg fromAddr len s msg).srcConflict = s.srcConflict) := by
    refine handleMsg_rule (P := fun t => KeepsName s t ∧
      (s.conflictListed fromAddr = true → t.srcConflict = s.srcConflict)) ?_ ?_ ?_
    · intro ssrc _ _
      exact ⟨s.keepsName_rtcpHandleSsrc ssrc fromAddr len,
        fun hlisted => srcConflict_rtcpHandleSsrc hlisted ssrc len⟩
    · intro ssrc j _ _
      have hquiet := Quiet.acceptMsg (s.rtcpHandleSsrc ssrc fromAddr len).2 j msg
      refine ⟨?_, fun hlisted =>
        hquiet.srcConflict.trans (srcConflict_rtcpHandleSsrc hlisted ssrc len)⟩
      rw [KeepsName, hquiet.selfMember.ssrc]
      exact s.keepsName_rtcpHandleSsrc ssrc fromAddr len
    · rintro ssrc rfl
      obtain ⟨hself, hconflict⟩ := s.self_byeSource ssrc len
      exact ⟨keepsName_of_sameNames (sameNames_byeSource s ssrc len) hself, fun _ => hconflict⟩
  exact spared_of hb h (handleMsg_untouched hb (Or.inl h) hbye len) hkeeps.1 hkeeps.2

/-- A packet's messages, where none is a BYE for `m` and `m` is safe from collisions. -/
theorem handleMsgs_untouched {s : Session} {m : Slot} {fromAddr : SockaddrIn} {msgs : List RtcpMsg}
    (hb : Bystander m fromAddr s)
    (hsource : Spared m fromAddr s ∨ ∀ msg ∈ msgs, msg.source ≠ some (s.member m).ssrc)
    (hbye : (s.member m).flags.byeReceived = true ∨ ∀ msg ∈ msgs, msg ≠ .bye (s.member m).ssrc)
    (len : UInt32) : Untouched m s (Runs.run (handleMsg fromAddr len) s msgs) := by
  induction msgs generalizing s with
  | nil => exact .refl s
  | cons msg msgs ih =>
      have hbye' : (s.member m).flags.byeReceived = true ∨ msg ≠ .bye (s.member m).ssrc :=
        hbye.imp_right fun h => h msg (List.mem_cons_self ..)
      have hone := handleMsg_untouched hb
        (hsource.imp_right fun h => h msg (List.mem_cons_self ..)) hbye' len
      refine hone.trans (ih (hb.of_untouched hone) ?_ ?_)
      · rw [hone.record]
        exact hsource.imp (fun h => spared_handleMsg hb h hbye' len)
          fun h x hx => h x (List.mem_cons_of_mem _ hx)
      · rw [hone.record]
        exact hbye.imp_right fun h x hx => h x (List.mem_cons_of_mem _ hx)

/-- A BYE that names a present member sets its BYE flag, whoever sent it. -/
theorem bye_flags {s : Session} {m : Slot} (hunique : s.UniqueSsrc) (hm : m ∈ s.usedList)
    (hbye : (s.member m).flags.byeReceived = false) (pktSize : UInt32) :
    (s.rtcpHandleByeSource (s.member m).ssrc pktSize).member m = (s.member m).setByeReceived ∧
      m ∈ (s.rtcpHandleByeSource (s.member m).ssrc pktSize).usedList := by
  rw [rtcpHandleByeSource_of_present (hunique.lookup hm) hbye]
  have htable := memberTable_leaving s (show RtcpEvent.rxBye ≠ .rxNonBye by decide)
    ⟨true, (s.member m).flags.rtpHeard⟩ pktSize
  have hevent := SameNames.of_eq htable
  refine ⟨?_, ?_⟩
  · show ((s.rtcpIntervalHandleRtcpEvent .rxBye ⟨true, (s.member m).flags.rtpHeard⟩
      pktSize).modifyMember m RtpMember.setByeReceived).member m = _
    rw [member_modifyMember, if_pos rfl, member, htable]
    rfl
  · show m ∈ (s.rtcpIntervalHandleRtcpEvent .rxBye ⟨true, (s.member m).flags.rtpHeard⟩
      pktSize).memberTable.pool.used
    rw [htable]
    exact hm

/-- After a packet with a BYE for `m` in it, `m` is leaving. -/
theorem handleMsgs_bye {s : Session} {m : Slot} {fromAddr : SockaddrIn} {msgs : List RtcpMsg}
    (hunique : s.UniqueSsrc) (hb : Bystander m fromAddr s) (hspared : Spared m fromAddr s)
    (hmem : .bye (s.member m).ssrc ∈ msgs) (len : UInt32) :
    ((Runs.run (handleMsg fromAddr len) s msgs).member m).flags.byeReceived = true := by
  induction msgs generalizing s with
  | nil => simp at hmem
  | cons msg msgs ih =>
      rw [Runs.run_cons]
      by_cases hleft : (s.member m).flags.byeReceived = true
      · have hrest : Untouched m s (Runs.run (handleMsg fromAddr len) s (msg :: msgs)) :=
          handleMsgs_untouched hb (Or.inl hspared) (Or.inl hleft) len
        rw [Runs.run_cons] at hrest
        rw [hrest.record]
        exact hleft
      · rw [Bool.not_eq_true] at hleft
        by_cases hmsg : msg = .bye (s.member m).ssrc
        · subst hmsg
          obtain ⟨hflag, hused⟩ := bye_flags hunique hb.used hleft len
          have hb' : Bystander m fromAddr (s.rtcpHandleByeSource (s.member m).ssrc len) := by
            refine ⟨hused, ?_, ?_, ?_⟩
            · rw [hflag]; exact hb.notSelf
            · rw [hflag]; exact hb.heard
            · rw [hflag]; exact hb.addr
          have hgone : ((s.rtcpHandleByeSource (s.member m).ssrc len).member
              m).flags.byeReceived = true := by
            rw [hflag]
            rfl
          have hrest : Untouched m _ (Runs.run (handleMsg fromAddr len)
              (s.rtcpHandleByeSource (s.member m).ssrc len) msgs) :=
            handleMsgs_untouched hb' (Or.inl (Or.inl hgone)) (Or.inl hgone) len
          show ((Runs.run (handleMsg fromAddr len)
            (s.rtcpHandleByeSource (s.member m).ssrc len) msgs).member m).flags.byeReceived = true
          rw [hrest.record]
          exact hgone
        · have hone := handleMsg_untouched hb (Or.inl hspared) (Or.inr hmsg) len
          have hmem' : .bye (s.member m).ssrc ∈ msgs :=
            (List.mem_cons.1 hmem).resolve_left (Ne.symm hmsg)
          apply ih (unique_rules.handleMsg hunique trivial) (hb.of_untouched hone)
            (spared_handleMsg hb hspared (Or.inr hmsg) len)
          rw [hone.record]
          exact hmem'

/-- What keeps `m` out of reach of a packet: it is leaving already, or the packet has no BYE for it
    and cannot collide with it over the session's SSRC. -/
def SparedByPacket (s : Session) (m : Slot) (pkt : ByteMem) (len : UInt32)
    (fromAddr : SockaddrIn) : Prop :=
  (s.member m).flags.byeReceived = true ∨
    (∀ msg ∈ rtcpMsgs pkt len, msg ≠ .bye (s.member m).ssrc) ∧
      ((s.member m).ssrc ≠ s.selfMember.ssrc ∨ s.conflictListed fromAddr = true ∨
        ∀ msg ∈ rtcpMsgs pkt len, msg.source ≠ some (s.member m).ssrc)

theorem rtcpRx_untouched {s : Session} {m : Slot} {fromAddr : SockaddrIn}
    (hb : Bystander m fromAddr s) {pkt : ByteMem} {len : UInt32}
    (h : s.SparedByPacket m pkt len fromAddr) :
    Untouched m s ((s.rtcpRx len fromAddr).val pkt) := by
  rw [val_rtcpRx]
  split
  · have hstart : Untouched m s (s.setRtcpError .noError) := .of_eq rfl rfl
    refine hstart.trans (handleMsgs_untouched (hb.of_untouched hstart) ?_ ?_ len)
    · rcases h with hleft | ⟨-, hother | hlisted | hnone⟩
      · exact Or.inl (Or.inl hleft)
      · exact Or.inl (Or.inr (Or.inl hother))
      · exact Or.inl (Or.inr (Or.inr hlisted))
      · exact Or.inr hnone
    · exact h.imp_right fun h => h.1
  · exact .of_eq rfl rfl

theorem sparedByPacket_of_untouched {s : Session} {m : Slot} {fromAddr : SockaddrIn}
    (hunique : s.UniqueSsrc) (hb : Bystander m fromAddr s)
    (hother : (s.member m).ssrc ≠ s.selfMember.ssrc) {pkt : ByteMem} {len : UInt32}
    (h : Untouched m s ((s.rtcpRx len fromAddr).val pkt)) :
    s.SparedByPacket m pkt len fromAddr := by
  by_cases hleft : (s.member m).flags.byeReceived = true
  · exact Or.inl hleft
  · refine Or.inr ⟨?_, Or.inl hother⟩
    rintro msg hmem rfl
    -- the packet has messages, so it was accepted
    have haccepted : (rtcpCheckPkt len).val pkt = .noError := by
      by_contra hrejected
      rw [rtcpMsgs, if_neg hrejected] at hmem
      simp at hmem
    rw [val_rtcpRx, if_pos haccepted] at h
    have hstart : Untouched m s (s.setRtcpError .noError) := .of_eq rfl rfl
    have hgone := handleMsgs_bye (s := s.setRtcpError .noError) hunique (hb.of_untouched hstart)
      (Or.inr (Or.inl hother)) hmem len
    rw [h.record] at hgone
    exact hleft hgone

/-! ## Every reachable session -/

/-- Packets from another address leave a member of a reachable session alone: data packets always,
    RTCP packets as long as they spare it. While no other member has the session's SSRC, they spare
    it exactly when they do not flag it BYE. -/
theorem member_keeps_from_others (mem : Session) (config : RtpSessionConfig) (ops : List Op)
    {m : Slot} (hm : m ∈ (runSession mem config ops).usedList)
    (hself : ((runSession mem config ops).member m).flags.self = false) :
    (((runSession mem config ops).member m).flags.rtpHeard = true →
      ∀ pkt len fromAddr, fromAddr ≠ ((runSession mem config ops).member m).rtpAddr →
        Untouched m (runSession mem config ops)
          (step (runSession mem config ops) (.rxRtp pkt len fromAddr))) ∧
    (((runSession mem config ops).member m).flags.rtcpHeard = true →
      ∀ pkt len fromAddr, fromAddr ≠ ((runSession mem config ops).member m).rtcpAddr →
        ((runSession mem config ops).SparedByPacket m pkt len fromAddr →
          Untouched m (runSession mem config ops)
            (step (runSession mem config ops) (.rxRtcp pkt len fromAddr))) ∧
        (((runSession mem config ops).member m).ssrc ≠
            (runSession mem config ops).selfMember.ssrc →
          Untouched m (runSession mem config ops)
            (step (runSession mem config ops) (.rxRtcp pkt len fromAddr)) →
          (runSession mem config ops).SparedByPacket m pkt len fromAddr)) := by
  have hunique := unique_runSession mem config ops
  generalize runSession mem config ops = s at hm hself hunique
  refine ⟨?_, ?_⟩
  · intro hheard pkt len fromAddr haddr
    exact rtpRx_untouched hm hself hheard haddr pkt len
  · intro hheard pkt len fromAddr haddr
    have hb : Bystander m fromAddr s := ⟨hm, hself, hheard, haddr⟩
    exact ⟨fun hspared => rtcpRx_untouched hb hspared,
      fun hother huntouched => sparedByPacket_of_untouched hunique hb hother huntouched⟩

/-- SSRC 9 is heard from port 7; a RR from it and a BYE for SSRC 5 from port 8 leave it alone. -/
theorem member_keeps_from_other_bye :
    Untouched 1
      (runSession (zeroed (.still .zero)) (plainConfig 1000 4) [.rxRtcp (rrFrom 9) 8 (.ofPort 7)])
      (step (runSession (zeroed (.still .zero)) (plainConfig 1000 4)
        [.rxRtcp (rrFrom 9) 8 (.ofPort 7)]) (.rxRtcp (byeFor 5) 16 (.ofPort 8))) := by
  have hkeeps := member_keeps_from_others (zeroed (.still .zero)) (plainConfig 1000 4)
    [.rxRtcp (rrFrom 9) 8 (.ofPort 7)] (m := 1) (by decide +kernel) (by decide +kernel)
  refine (hkeeps.2 (by decide +kernel) (byeFor 5) 16 (.ofPort 8) (by decide +kernel)).1 ?_
  exact Or.inr ⟨by decide +kernel, Or.inl (by decide +kernel)⟩

/-- SSRC 9 is heard from port 7, and a BYE for it from port 8 is taken. -/
theorem bye_from_other_address :
    ¬ ∀ (mem : Session) (config : RtpSessionConfig) (ops : List Op) (m : Slot),
      m ∈ (runSession mem config ops).usedList →
      ((runSession mem config ops).member m).flags.self = false →
      ((runSession mem config ops).member m).flags.rtcpHeard = true →
      ∀ pkt len fromAddr, fromAddr ≠ ((runSession mem config ops).member m).rtcpAddr →
        Untouched m (runSession mem config ops)
          (step (runSession mem config ops) (.rxRtcp pkt len fromAddr)) := by
  intro h
  have hrecord := (h (zeroed (.still .zero)) (plainConfig 1000 4)
    [.rxRtcp (rrFrom 9) 8 (.ofPort 7)] 1 (by decide +kernel) (by decide +kernel) (by decide +kernel)
    (byeFor 9) 16 (.ofPort 8) (by decide +kernel)).record
  have hflag := congrArg (fun x : RtpMember => x.flags.byeReceived) hrecord
  revert hflag
  decide +kernel

end Session

end Prtp
