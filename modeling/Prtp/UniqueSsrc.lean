import Prtp.Schedule

set_option autoImplicit false

/-! # SSRCs are unique in the table

`rtp_member_table_change_random_ssrc` says that an allocated SSRC must be unique across the entire
table. It is, in every reachable state: a member is created only if the lookup of its SSRC fails, and
a collision draws until the lookup fails. -/

namespace Prtp

namespace Session

/-- No two members in the table have the same SSRC. -/
def UniqueSsrc (s : Session) : Prop :=
  ∀ i ∈ s.usedList, ∀ j ∈ s.usedList, (s.member i).ssrc = (s.member j).ssrc → i = j

/-- A member in the table is the one its SSRC is looked up as. -/
theorem UniqueSsrc.lookup {s : Session} (h : s.UniqueSsrc) {m : Slot} (hm : m ∈ s.usedList) :
    s.rtpSessionLookupMember (s.member m).ssrc = some m := by
  cases hlookup : s.rtpSessionLookupMember (s.member m).ssrc with
  | none => exact absurd rfl (lookup_eq_none.1 hlookup m hm)
  | some j =>
      obtain ⟨hj, hssrc⟩ := lookup_eq_some hlookup
      rw [h j hj m hm hssrc]

/-- A member other than the one an SSRC is looked up as has another SSRC. -/
theorem UniqueSsrc.other {s : Session} (h : s.UniqueSsrc) {ssrc : UInt32} {m j : Slot}
    (hj : s.rtpSessionLookupMember ssrc = some j) (hne : j ≠ m) (hm : m ∈ s.usedList) :
    (s.member m).ssrc ≠ ssrc := by
  intro hssrc
  obtain ⟨hused, hname⟩ := lookup_eq_some hj
  exact hne (h j hused m hm (hname.trans hssrc.symm))

/-- Nobody is added to the table and nobody in it is renamed. -/
structure SameNames (s s' : Session) : Prop where
  used : ∀ m ∈ s'.usedList, m ∈ s.usedList
  ssrc : ∀ m, (s'.member m).ssrc = (s.member m).ssrc

theorem SameNames.unique {s s' : Session} (h : SameNames s s') (hs : s.UniqueSsrc) :
    s'.UniqueSsrc := by
  intro i hi j hj hssrc
  rw [h.ssrc, h.ssrc] at hssrc
  exact hs i (h.used i hi) j (h.used j hj) hssrc

theorem SameNames.trans {s s' s'' : Session} (h : SameNames s s') (h' : SameNames s' s'') :
    SameNames s s'' :=
  ⟨fun m hm => h.used m (h'.used m hm), fun m => (h'.ssrc m).trans (h.ssrc m)⟩

/-- The table is the same. -/
theorem SameNames.of_eq {s s' : Session} (h : s'.memberTable = s.memberTable) : SameNames s s' := by
  refine ⟨fun m hm => ?_, fun m => ?_⟩
  · rwa [usedList, h] at hm
  · rw [member, member, h]

theorem SameNames.of_quiet {s s' : Session} (h : Quiet s s') : SameNames s s' :=
  ⟨fun _ hm => h.usedList ▸ hm, fun m => (h.member m).ssrc⟩

theorem SameNames.modifyMember (s : Session) (m : Slot) {f : RtpMember → RtpMember}
    (hf : (f (s.member m)).ssrc = (s.member m).ssrc) : SameNames s (s.modifyMember m f) := by
  refine ⟨fun j hj => hj, fun j => ?_⟩
  rw [member_modifyMember]
  split
  · rename_i h
    rw [hf, h]
  · rfl

theorem SameNames.dealloc (s : Session) (m : Slot) : SameNames s (s.rtpSessionDeallocMember m) :=
  ⟨fun j hj => ((Pool.mem_used_release _ m j).1 hj).1, fun _ => rfl⟩

/-- A leaving member's event changes counters and the interval timer. -/
theorem memberTable_leaving (s : Session) {event : RtcpEvent} (hevent : event ≠ .rxNonBye)
    (flags : IntervalFlags) (pktSize : UInt32) :
    (s.rtcpIntervalHandleRtcpEvent event flags pktSize).memberTable = s.memberTable := by
  rw [rtcpEvent_leaving s hevent]
  split
  · rfl
  · rfl

theorem unique_alloc {s s' : Session} {ssrc : UInt32} {m : Slot} (hs : s.UniqueSsrc)
    (hnone : s.rtpSessionLookupMember ssrc = none)
    (h : s.rtpSessionAllocMember ssrc = some (m, s')) : s'.UniqueSsrc := by
  obtain ⟨hfree, hused, harray, -⟩ := alloc_eq_some h
  rw [lookup_eq_none] at hnone
  have hold : ∀ j ∈ s.usedList, (s'.member j).ssrc = (s.member j).ssrc := by
    intro j hj
    have hne : j ≠ m := fun hjm => hfree (hjm ▸ hj)
    rw [member, harray, Function.update_of_ne hne, member]
  have hnew : (s'.member m).ssrc = ssrc := by
    rw [member, harray, Function.update_self]
    rfl
  intro i hi j hj hssrc
  rw [hused, List.mem_append, List.mem_singleton] at hi hj
  rcases hi with hi | rfl <;> rcases hj with hj | rfl
  · rw [hold i hi, hold j hj] at hssrc
    exact hs i hi j hj hssrc
  · rw [hold i hi, hnew] at hssrc
    exact absurd hssrc (hnone i hi)
  · rw [hold j hj, hnew] at hssrc
    exact absurd hssrc.symm (hnone j hj)
  · rfl

/-- What the loop draws is in nobody's use. -/
theorem drawUnusedSsrc_eq_some {mt : RtpMemberTable} {draws draws' : List UInt32} {ssrc : UInt32}
    (h : mt.drawUnusedSsrc draws = some (ssrc, draws')) : mt.rtpMemberTableLookup ssrc = none := by
  induction draws with
  | nil => exact absurd h (by simp [RtpMemberTable.drawUnusedSsrc])
  | cons d draws ih =>
      rw [RtpMemberTable.drawUnusedSsrc] at h
      split at h
      · rename_i hunused
        simp only [Option.some.injEq, Prod.mk.injEq] at h
        exact h.1 ▸ hunused
      · exact ih h

theorem unique_changeRandomSsrc {s : Session} (hs : s.UniqueSsrc) (m : Slot) :
    (s.rtpMemberTableChangeRandomSsrc m).UniqueSsrc := by
  unfold rtpMemberTableChangeRandomSsrc
  split
  · exact hs
  · rename_i ssrc draws hdraw
    have hunused : ∀ j ∈ s.usedList, (s.member j).ssrc ≠ ssrc :=
      lookup_eq_none.1 (drawUnusedSsrc_eq_some hdraw)
    intro i hi j hj hssrc
    rw [member_modifyMember, member_modifyMember] at hssrc
    split at hssrc <;> split at hssrc
    · rename_i him hjm
      rw [him, hjm]
    · exact absurd hssrc.symm (hunused j hj)
    · exact absurd hssrc (hunused i hi)
    · exact hs i hi j hj hssrc

theorem unique_ownSsrcConflict {s : Session} (hs : s.UniqueSsrc) (m : Slot)
    (fromAddr : SockaddrIn) : (s.ownSsrcConflict m fromAddr).2.UniqueSsrc := by
  have hlookup : (s.rtpSourceConflictLookup fromAddr).2.UniqueSsrc :=
    (SameNames.of_eq rfl).unique hs
  have hadd : ((s.rtpSourceConflictLookup fromAddr).2.rtpSourceConflictAdd fromAddr).UniqueSsrc :=
    (SameNames.of_eq rfl).unique hlookup
  simp only [ownSsrcConflict]
  split
  · exact hlookup
  · exact unique_changeRandomSsrc hadd m

theorem unique_rtpHandleSsrc {s : Session} (hs : s.UniqueSsrc) (ssrc : UInt32) (seq : UInt16)
    (fromAddr : SockaddrIn) (csrc : Bool) :
    (s.rtpHandleSsrc ssrc seq fromAddr csrc).2.UniqueSsrc := by
  have hcase := s.rtpHandleSsrc_case ssrc seq fromAddr csrc
  generalize s.rtpHandleSsrc ssrc seq fromAddr csrc = res at hcase
  cases hcase with
  | tableFull | leaving | thirdParty => exact hs
  | created m s' hnone halloc =>
      have hfill := SameNames.modifyMember s' m (f := rtpFirstHeard seq fromAddr) rfl
      exact (hfill.trans (.of_eq rfl)).unique (unique_alloc hs hnone halloc)
  | createdCsrc m s' hnone halloc =>
      have hfill := SameNames.modifyMember s' m (f := rtpFirstHeard seq fromAddr) rfl
      have hcreated : SameNames s' (s'.rtpCreated m seq fromAddr) := hfill.trans (.of_eq rfl)
      exact (hcreated.trans (.modifyMember _ m rfl)).unique (unique_alloc hs hnone halloc)
  | joined _ m hm hbye hself hnew =>
      have hfill := SameNames.modifyMember s m (f := rtpFirstHeard seq fromAddr) rfl
      exact (hfill.trans (.of_eq rfl)).unique hs
  | collision _ m hm hbye hself haddr err => exact unique_ownSsrcConflict hs m fromAddr
  | refreshed _ m hm hbye hknown haddr =>
      have hheard := SameNames.modifyMember s m (f := RtpMember.setRtpHeard) rfl
      exact (hheard.trans (.of_eq rfl)).unique hs

theorem unique_rtcpHandleSsrc {s : Session} (hs : s.UniqueSsrc) (ssrc : UInt32)
    (fromAddr : SockaddrIn) (pktSize : UInt32) :
    (s.rtcpHandleSsrc ssrc fromAddr pktSize).2.UniqueSsrc := by
  have hcase := s.rtcpHandleSsrc_case ssrc fromAddr pktSize
  generalize s.rtcpHandleSsrc ssrc fromAddr pktSize = res at hcase
  cases hcase with
  | tableFull | leaving | thirdParty => exact hs
  | created m s' hnone halloc =>
      have hfill := SameNames.modifyMember s' m (f := rtcpFirstHeard fromAddr) rfl
      exact (hfill.trans (.of_eq rfl)).unique (unique_alloc hs hnone halloc)
  | joined m hm hbye hself hnew =>
      have hfill := SameNames.modifyMember s m (f := rtcpFirstHeard fromAddr) rfl
      exact (hfill.trans (.of_eq rfl)).unique hs
  | collision m hm hbye hknown haddr hown err => exact unique_ownSsrcConflict hs m fromAddr
  | refreshed m hm hbye hknown haddr =>
      have hheard := SameNames.modifyMember s m (f := RtpMember.setRtcpHeard) rfl
      exact (hheard.trans (.of_eq rfl)).unique hs

theorem sameNames_byeSource (s : Session) (ssrc pktSize : UInt32) :
    SameNames s (s.rtcpHandleByeSource ssrc pktSize) := by
  by_cases habsent :
      ∀ m, s.rtpSessionLookupMember ssrc = some m → (s.member m).flags.byeReceived = true
  · rw [rtcpHandleByeSource_of_absent habsent]
    exact .of_eq rfl
  · simp only [not_forall, Bool.not_eq_true] at habsent
    obtain ⟨m, hm, hbye⟩ := habsent
    rw [rtcpHandleByeSource_of_present hm hbye]
    have hevent : SameNames s (s.rtcpIntervalHandleRtcpEvent .rxBye
        ⟨true, (s.member m).flags.rtpHeard⟩ pktSize) :=
      .of_eq (memberTable_leaving s (by decide) _ _)
    exact (hevent.trans (.modifyMember _ m rfl)).trans (.of_eq rfl)

theorem sameNames_txCount (s : Session) (payloadLen : UInt32) :
    SameNames s (s.rtpTxCount payloadLen) := by
  unfold rtpTxCount
  split
  · exact .of_eq rfl
  · have hflag := SameNames.modifyMember (s.setWeSent true) s.self (f := RtpMember.setSender) rfl
    have hsent : SameNames s (s.setWeSent true) := .of_eq rfl
    exact (hsent.trans hflag).trans (.of_eq rfl)

theorem sameNames_senderTimedout (s : Session) (m : Slot) :
    SameNames s (s.rtcpIntervalSenderTimedout m) := by
  apply rtcpIntervalSenderTimedout_rule (R := SameNames) SameNames.trans
  · exact fun s => .modifyMember s m rfl
  · exact fun s => .modifyMember s m rfl
  · exact fun _ => .of_eq rfl
  · exact fun s => .of_eq (memberTable_leaving s (by decide) _ _)

theorem sameNames_intervalTimeout (s : Session) : SameNames s s.rtcpIntervalTimeout := by
  apply rtcpIntervalTimeout_rule (R := SameNames) SameNames.trans
  · exact fun s => .of_quiet (.drawInterval s)
  · exact fun s => .of_quiet (.rtcpSendReport s)
  · exact fun _ _ _ _ => .of_eq rfl
  · exact fun _ _ _ => .of_eq rfl

theorem unique_rules : ActRules UniqueSsrc .any where
  quiet h hP := (SameNames.of_quiet h).unique hP
  rtpSource hP _ := unique_rtpHandleSsrc hP _ _ _ _
  rtcpSource hP _ _ := unique_rtcpHandleSsrc hP _ _ _
  byeSource hP _ := (sameNames_byeSource _ _ _).unique hP
  txCount hP _ := (sameNames_txCount _ _).unique hP
  expire hP _ := (SameNames.of_eq rfl).unique hP
  fire {s e rest} htop hP _ := by
    have hpop : (s.setTimer s.softTimer.popTimeout).UniqueSsrc := (SameNames.of_eq rfl).unique hP
    cases e with
    | rtcp => exact (sameNames_intervalTimeout _).unique hpop
    | member m =>
        have hevent := SameNames.of_eq (memberTable_leaving (s.setTimer s.softTimer.popTimeout)
          (show RtcpEvent.timeout ≠ .rxNonBye by decide)
          ⟨true, ((s.setTimer s.softTimer.popTimeout).member m).flags.rtpHeard⟩ 0)
        exact (hevent.trans (.dealloc _ m)).unique hpop
    | sender m => exact (sameNames_senderTimedout _ m).unique hpop
    | leave m => exact (SameNames.dealloc _ m).unique hpop
    | conflict c => exact hpop

theorem unique_rtpSessionInit (mem : Session) (config : RtpSessionConfig) :
    (mem.rtpSessionInit config).UniqueSsrc := by
  have hblank : (mem.rtpSessionBlank config).usedList = [] := rfl
  rw [rtpSessionInit_eq]
  generalize mem.rtpSessionBlank config = s at hblank
  have hempty : s.UniqueSsrc := by
    intro i hi
    rw [hblank] at hi
    exact absurd hi (by simp)
  have hnone : s.rtpRandom32.2.rtpSessionLookupMember s.rtpRandom32.1 = none := by
    rw [lookup_eq_none]
    intro m hm
    have hm' : m ∈ s.usedList := hm
    rw [hblank] at hm'
    exact absurd hm' (by simp)
  have hself : (s.rtpSessionInitSelf config).UniqueSsrc := by
    simp only [rtpSessionInitSelf]
    cases halloc : s.rtpRandom32.2.rtpSessionAllocMember s.rtpRandom32.1 with
    | none => exact hempty
    | some p =>
        have hunique := unique_alloc (s := s.rtpRandom32.2) hempty hnone halloc
        have hflag : SameNames p.2 { p.2 with self := p.1 } := .of_eq rfl
        exact (hflag.trans (.modifyMember _ p.1 rfl)).unique hunique
  exact (SameNames.of_eq rfl).unique hself

/-- SSRCs are unique in the table of every reachable session. -/
theorem unique_runSession (mem : Session) (config : RtpSessionConfig) (ops : List Op) :
    (runSession mem config ops).UniqueSsrc :=
  unique_rules.run_any (unique_rtpSessionInit mem config) ops

end Session

end Prtp
