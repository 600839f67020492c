import Prtp.Membership
import Prtp.UniqueSsrc

set_option autoImplicit false

/-! # The member table over whole runs

`free_list` and `used_list` share out the slots between them whatever is done to them, and no two
members in the table have the same SSRC. `num_members` is right as long as nobody is removed twice,
which takes the timers to be in order. -/

namespace Prtp

namespace Session

/-- `num_members` is the length of `used_list`. -/
def SizeKept (s : Session) : Prop :=
  s.memberTable.numMembers = UInt32.ofNat s.usedList.length

/-- The queues and the counter are the same. -/
structure SameSlots (s s' : Session) : Prop where
  pool : s'.memberTable.pool = s.memberTable.pool
  numMembers : s'.memberTable.numMembers = s.memberTable.numMembers

namespace SameSlots

theorem trans {s s' s'' : Session} (h : SameSlots s s') (h' : SameSlots s' s'') :
    SameSlots s s'' :=
  ⟨h'.pool.trans h.pool, h'.numMembers.trans h.numMembers⟩

theorem of_eq {s s' : Session} (h : s'.memberTable = s.memberTable) : SameSlots s s' := by
  constructor <;> rw [h]

theorem of_quiet {s s' : Session} (h : Quiet s s') : SameSlots s s' := ⟨h.pool, h.numMembers⟩

theorem modifyMember (s : Session) (m : Slot) (f : RtpMember → RtpMember) :
    SameSlots s (s.modifyMember m f) := ⟨rfl, rfl⟩

theorem sizeKept {s s' : Session} (h : SameSlots s s') (hs : s.SizeKept) : s'.SizeKept := by
  rw [SizeKept, usedList, h.pool, h.numMembers]
  exact hs

theorem ownSsrcConflict (s : Session) (m : Slot) (fromAddr : SockaddrIn) :
    SameSlots s (s.ownSsrcConflict m fromAddr).2 := by
  simp only [Session.ownSsrcConflict, rtpMemberTableChangeRandomSsrc]
  split
  · exact of_eq rfl
  · split <;> exact ⟨rfl, rfl⟩

theorem leaving (s : Session) {event : RtcpEvent} (hevent : event ≠ .rxNonBye)
    (flags : IntervalFlags) (pktSize : UInt32) :
    SameSlots s (s.rtcpIntervalHandleRtcpEvent event flags pktSize) :=
  of_eq (memberTable_leaving s hevent flags pktSize)

theorem byeSource (s : Session) (ssrc pktSize : UInt32) :
    SameSlots s (s.rtcpHandleByeSource ssrc pktSize) := by
  have hevent : RtcpEvent.rxBye ≠ .rxNonBye := by decide
  by_cases habsent :
      ∀ m, s.rtpSessionLookupMember ssrc = some m → (s.member m).flags.byeReceived = true
  · rw [rtcpHandleByeSource_of_absent habsent]
    exact of_eq rfl
  · simp only [not_forall, Bool.not_eq_true] at habsent
    obtain ⟨m, hm, hbye⟩ := habsent
    rw [rtcpHandleByeSource_of_present hm hbye]
    exact (leaving s hevent _ _).trans ⟨rfl, rfl⟩

theorem rtpTxCount (s : Session) (payloadLen : UInt32) : SameSlots s (s.rtpTxCount payloadLen) := by
  unfold Session.rtpTxCount
  split <;> exact ⟨rfl, rfl⟩

theorem senderTimedout (s : Session) (m : Slot) :
    SameSlots s (s.rtcpIntervalSenderTimedout m) := by
  apply rtcpIntervalSenderTimedout_rule (R := SameSlots) SameSlots.trans
  · exact fun s => modifyMember s m _
  · exact fun s => modifyMember s m _
  · exact fun _ => of_eq rfl
  · exact fun s => leaving s (by decide) _ _

theorem intervalTimeout (s : Session) : SameSlots s s.rtcpIntervalTimeout := by
  apply rtcpIntervalTimeout_rule (R := SameSlots) SameSlots.trans
  · exact fun s => of_quiet (.drawInterval s)
  · exact fun s => of_quiet (.rtcpSendReport s)
  · exact fun _ _ _ _ => of_eq rfl
  · exact fun _ _ _ => of_eq rfl

end SameSlots

theorem sizeKept_alloc {s s' : Session} {ssrc : UInt32} {m : Slot} (hs : s.SizeKept)
    (h : s.rtpSessionAllocMember ssrc = some (m, s')) : s'.SizeKept := by
  rw [rtpSessionAllocMember, RtpMemberTable.rtpMemberTableAllocMember] at h
  cases htake : s.memberTable.pool.take with
  | none =>
      rw [htake] at h
      exact absurd h (by simp)
  | some p =>
      obtain ⟨-, hused⟩ := Pool.take_eq_some htake
      simp only [htake, Option.some.injEq, Prod.mk.injEq] at h
      rw [← h.2]
      show s.memberTable.numMembers + 1 = UInt32.ofNat p.2.used.length
      rw [hused, List.length_append, List.length_singleton, UInt32.ofNat_add, hs]
      rfl

/-- Removing a member that is in the table. -/
theorem sizeKept_dealloc {s : Session} {m : Slot} (hs : s.SizeKept) (hm : m ∈ s.usedList) :
    (s.rtpSessionDeallocMember m).SizeKept := by
  have hlength : s.usedList.length = (s.usedList.erase m).length + 1 :=
    (List.length_erase_add_one hm).symm
  show s.memberTable.numMembers - 1 = UInt32.ofNat (s.usedList.erase m).length
  rw [hs, hlength, UInt32.ofNat_add]
  simp

theorem sizeKept_rtpHandleSsrc {s : Session} (hs : s.SizeKept) (ssrc : UInt32) (seq : UInt16)
    (fromAddr : SockaddrIn) (csrc : Bool) :
    (s.rtpHandleSsrc ssrc seq fromAddr csrc).2.SizeKept := by
  have hcase := s.rtpHandleSsrc_case ssrc seq fromAddr csrc
  generalize s.rtpHandleSsrc ssrc seq fromAddr csrc = res at hcase
  cases hcase with
  | tableFull | leaving | thirdParty => exact hs
  | created m s' hnone halloc | createdCsrc m s' hnone halloc =>
      have hnew := sizeKept_alloc hs halloc
      exact SameSlots.sizeKept (s := s') ⟨rfl, rfl⟩ hnew
  | joined _ m hm hbye hself hnew => exact SameSlots.sizeKept ⟨rfl, rfl⟩ hs
  | collision _ m hm hbye hself haddr err =>
      exact (SameSlots.ownSsrcConflict s m fromAddr).sizeKept hs
  | refreshed _ m hm hbye hknown haddr => exact SameSlots.sizeKept ⟨rfl, rfl⟩ hs

theorem sizeKept_rtcpHandleSsrc {s : Session} (hs : s.SizeKept) (ssrc : UInt32)
    (fromAddr : SockaddrIn) (pktSize : UInt32) :
    (s.rtcpHandleSsrc ssrc fromAddr pktSize).2.SizeKept := by
  have hcase := s.rtcpHandleSsrc_case ssrc fromAddr pktSize
  generalize s.rtcpHandleSsrc ssrc fromAddr pktSize = res at hcase
  cases hcase with
  | tableFull | leaving | thirdParty => exact hs
  | created m s' hnone halloc =>
      have hnew := sizeKept_alloc hs halloc
      exact SameSlots.sizeKept (s := s') ⟨rfl, rfl⟩ hnew
  | joined m hm hbye hself hnew => exact SameSlots.sizeKept ⟨rfl, rfl⟩ hs
  | collision m hm hbye hknown haddr hown err =>
      exact (SameSlots.ownSsrcConflict s m fromAddr).sizeKept hs
  | refreshed m hm hbye hknown haddr => exact SameSlots.sizeKept ⟨rfl, rfl⟩ hs

/-- A timer whose expiry removes a member runs for nobody but members in the table. -/
theorem InOrder.used_of_running {s : Session} (h : s.InOrder) {m : Slot}
    (hrun : s.softTimer.Running (.member m) ∨ s.softTimer.Running (.leave m)) : m ∈ s.usedList := by
  have hother : m ≠ s.self := by
    rintro rfl
    exact hrun.elim h.not_running.1 h.not_running.2
  obtain ⟨hmem, -, hlv⟩ := running_of_remote (h.1.remote m hother)
  rcases hrun with hrun | hrun
  · exact (hmem.1 hrun).1
  · exact (hlv.1 hrun).1

theorem sizeKept_rules : ActRules (fun s => s.InOrder ∧ s.SizeKept) selfUnnamed where
  quiet h hP := ⟨selfUnnamed_rules.quiet h hP.1, (SameSlots.of_quiet h).sizeKept hP.2⟩
  rtpSource hP hg :=
    ⟨selfUnnamed_rules.rtpSource hP.1 hg, sizeKept_rtpHandleSsrc hP.2 _ _ _ _⟩
  rtcpSource hP hg hsource :=
    ⟨selfUnnamed_rules.rtcpSource hP.1 hg hsource, sizeKept_rtcpHandleSsrc hP.2 _ _ _⟩
  byeSource hP hg :=
    ⟨selfUnnamed_rules.byeSource hP.1 hg, (SameSlots.byeSource _ _ _).sizeKept hP.2⟩
  txCount hP hg := ⟨selfUnnamed_rules.txCount hP.1 hg, (SameSlots.rtpTxCount _ _).sizeKept hP.2⟩
  expire hP hg := ⟨selfUnnamed_rules.expire hP.1 hg, hP.2⟩
  fire {s e rest} htop hP hg := by
    refine ⟨selfUnnamed_rules.fire htop hP.1 hg, ?_⟩
    have hpop : (s.setTimer s.softTimer.popTimeout).SizeKept := hP.2
    have hrun : s.softTimer.Running e := Or.inr (by rw [htop]; exact List.mem_cons_self ..)
    cases e with
    | rtcp => exact (SameSlots.intervalTimeout _).sizeKept hpop
    | member m =>
        have hused : m ∈ s.usedList := hP.1.used_of_running (Or.inl hrun)
        have hevent := SameSlots.leaving (s.setTimer s.softTimer.popTimeout)
          (show RtcpEvent.timeout ≠ .rxNonBye by decide)
          ⟨true, ((s.setTimer s.softTimer.popTimeout).member m).flags.rtpHeard⟩ 0
        refine sizeKept_dealloc (hevent.sizeKept hpop) ?_
        rw [usedList, hevent.pool]
        exact hused
    | sender m => exact (SameSlots.senderTimedout _ m).sizeKept hpop
    | leave m => exact sizeKept_dealloc hpop (hP.1.used_of_running (Or.inr hrun))
    | conflict c => exact hpop

theorem sizeKept_rtpSessionInit (mem : Session) (config : RtpSessionConfig) :
    (mem.rtpSessionInit config).SizeKept := by
  have hblank : (mem.rtpSessionBlank config).SizeKept := rfl
  rw [rtpSessionInit_eq]
  generalize mem.rtpSessionBlank config = s at hblank
  have hself : (s.rtpSessionInitSelf config).SizeKept := by
    simp only [rtpSessionInitSelf]
    cases halloc : s.rtpRandom32.2.rtpSessionAllocMember s.rtpRandom32.1 with
    | none => exact hblank
    | some p =>
        have halloc' := sizeKept_alloc (s := s.rtpRandom32.2) hblank halloc
        exact SameSlots.sizeKept ⟨rfl, rfl⟩ halloc'
  exact SameSlots.sizeKept (.of_eq rfl) hself

/-- Every slot is on exactly one of the two lists, once; `num_members` is the length of `used_list`;
    the SSRCs on it are distinct, and each is looked up as the one member that has it. -/
structure TableOrdered (s : Session) : Prop where
  once : ∀ m, (s.usedList ++ s.freeList).count m = 1
  numMembers : s.memberTable.numMembers.toNat = s.usedList.length
  distinct : (s.usedList.map fun m => (s.member m).ssrc).Nodup
  lookup : ∀ ssrc m,
    s.rtpSessionLookupMember ssrc = some m ↔ m ∈ s.usedList ∧ (s.member m).ssrc = ssrc

theorem tableOrdered {s : Session} (hsize : s.SizeKept) (hunique : s.UniqueSsrc) :
    s.TableOrdered where
  once m := by
    have hperm : (s.usedList ++ s.freeList).Perm (s.freeList ++ s.usedList) := List.perm_append_comm
    rw [hperm.count_eq]
    exact s.memberTable.pool.count_eq_one m
  numMembers := by
    have hle : s.usedList.length ≤ rtpConfigMaxMembersPerSession := by
      have hcard := s.memberTable.pool.used_nodup.length_le_card
      rwa [Fintype.card_fin] at hcard
    rw [hsize]
    exact UInt32.toNat_ofNat_of_lt' (Nat.lt_of_le_of_lt hle (by decide))
  distinct := s.memberTable.pool.used_nodup.map_on fun i hi j hj hssrc => hunique i hi j hj hssrc
  lookup ssrc m := by
    refine ⟨lookup_eq_some, ?_⟩
    rintro ⟨hm, rfl⟩
    exact hunique.lookup hm

/-- In every run in which nobody speaks in the session's name, the member table stays in order. -/
theorem tableOrdered_run (mem : Session) (config : RtpSessionConfig) (ops : List Op)
    (hg : Runs.Guarded step selfUnnamed.admits (mem.rtpSessionInit config) ops) :
    (runSession mem config ops).TableOrdered :=
  tableOrdered
    (sizeKept_rules.run hg ⟨kept_rtpSessionInit mem config, sizeKept_rtpSessionInit mem config⟩).2
    (unique_runSession mem config ops)

/-- A session with SSRC 2 hears SSRC 5, collides with another SSRC 2, and sees SSRC 5 leave. -/
theorem tableOrdered_collision_bye :
    (runSession (zeroed (.still .zero)) (plainConfig 1000 4)
      (.rxRtp (rtpFrom 5) 12 (.ofPort 7) :: .rxRtp (rtpFrom 2) 12 (.ofPort 8) ::
        .rxRtcp (byeFor 5) 16 (.ofPort 7) :: List.replicate 31 .tick)).TableOrdered :=
  tableOrdered_run _ _ _ (by decide +kernel)

end Session

end Prtp
