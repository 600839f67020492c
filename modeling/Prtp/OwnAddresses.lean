import Prtp.Membership
import Prtp.UniqueSsrc

set_option autoImplicit false

/-! # A session that nobody else's packets reach under its own address

The addresses a session has recorded for itself are those of its configuration, and stay so as long as it
is in its own table. Packets that come from other addresses than these are therefore never taken for the
session's own, and a run in which all packets do, and none contains a BYE, is one in which nobody speaks
in the session's name. -/

namespace Prtp

open ByteReader

namespace Session

/-! ## Where a member lives -/

/-- The slot `m` has the addresses it had, in a session with the same configuration and own slot. -/
structure SameHome (m : Slot) (s s' : Session) : Prop where
  config : s'.config = s.config
  self : s'.self = s.self
  rtpAddr : (s'.member m).rtpAddr = (s.member m).rtpAddr
  rtcpAddr : (s'.member m).rtcpAddr = (s.member m).rtcpAddr

namespace SameHome

variable {m : Slot}

theorem trans {s s' s'' : Session} (h : SameHome m s s') (h' : SameHome m s' s'') :
    SameHome m s s'' where
  config := h'.config.trans h.config
  self := h'.self.trans h.self
  rtpAddr := h'.rtpAddr.trans h.rtpAddr
  rtcpAddr := h'.rtcpAddr.trans h.rtcpAddr

theorem of_table {s s' : Session} (hconfig : s'.config = s.config) (hself : s'.self = s.self)
    (htable : s'.memberTable = s.memberTable) : SameHome m s s' := by
  have hmember : s'.member m = s.member m := by rw [member, member, htable]
  exact ⟨hconfig, hself, by rw [hmember], by rw [hmember]⟩

theorem of_quiet {s s' : Session} (h : Quiet s s') : SameHome m s s' :=
  ⟨h.config, h.self, (h.member m).rtpAddr, (h.member m).rtcpAddr⟩

/-- A record is changed that is not that of `m`, or not in its addresses. -/
theorem modifyMember (s : Session) (j : Slot) {f : RtpMember → RtpMember}
    (hf : j = m → (f (s.member m)).rtpAddr = (s.member m).rtpAddr ∧
      (f (s.member m)).rtcpAddr = (s.member m).rtcpAddr) : SameHome m s (s.modifyMember j f) := by
  by_cases hj : j = m
  · subst hj
    have hmember := s.member_modifyMember_self j f
    exact ⟨rfl, rfl, by rw [hmember, (hf rfl).1], by rw [hmember, (hf rfl).2]⟩
  · have hmember := s.member_modifyMember_of_ne (Ne.symm hj) f
    exact ⟨rfl, rfl, by rw [hmember], by rw [hmember]⟩

theorem alloc {s s' : Session} {ssrc : UInt32} {j : Slot}
    (halloc : s.rtpSessionAllocMember ssrc = some (j, s')) (hne : j ≠ m) : SameHome m s s' := by
  have hmember : s'.member m = s.member m := by
    rw [member, (alloc_eq_some halloc).2.2.1, Function.update_of_ne (Ne.symm hne), member]
  obtain ⟨-, -, -, -, -, hself, -⟩ := alloc_eq_some halloc
  refine ⟨?_, hself, by rw [hmember], by rw [hmember]⟩
  rw [rtpSessionAllocMember] at halloc
  split at halloc
  · exact absurd halloc (by simp)
  · rw [Option.some_inj, Prod.mk.injEq] at halloc
    rw [← halloc.2]
    rfl

theorem changeRandomSsrc (s : Session) (j : Slot) :
    SameHome m s (s.rtpMemberTableChangeRandomSsrc j) := by
  unfold rtpMemberTableChangeRandomSsrc
  split
  · exact of_table rfl rfl rfl
  · refine SameHome.trans ?_ (modifyMember _ j fun _ => ⟨rfl, rfl⟩)
    exact of_table rfl rfl rfl

theorem ownSsrcConflict (s : Session) (j : Slot) (fromAddr : SockaddrIn) :
    SameHome m s (s.ownSsrcConflict j fromAddr).2 := by
  simp only [Session.ownSsrcConflict]
  split
  · exact of_table rfl rfl rfl
  · have hadd : SameHome m s
        ((s.rtpSourceConflictLookup fromAddr).2.rtpSourceConflictAdd fromAddr) :=
      of_table rfl rfl rfl
    exact (hadd.trans (changeRandomSsrc _ j)).trans (of_table rfl rfl rfl)

/-- Handling a source of a data packet moves nobody who is in the table as the session itself. -/
theorem rtpHandleSsrc {s : Session} (hm : m ∈ s.usedList) (hself : (s.member m).flags.self = true)
    (ssrc : UInt32) (seq : UInt16) (fromAddr : SockaddrIn) (csrc : Bool) :
    SameHome m s (s.rtpHandleSsrc ssrc seq fromAddr csrc).2 := by
  have hnew : ∀ {j s'}, s.rtpSessionAllocMember ssrc = some (j, s') → j ≠ m := by
    rintro j s' halloc rfl
    exact (alloc_eq_some halloc).1 hm
  have hcase := s.rtpHandleSsrc_case ssrc seq fromAddr csrc
  generalize s.rtpHandleSsrc ssrc seq fromAddr csrc = res at hcase
  have hcreated : ∀ {j s'}, s.rtpSessionAllocMember ssrc = some (j, s') →
      SameHome m s (s'.rtpCreated j seq fromAddr) := by
    intro j s' halloc
    have hrecord := modifyMember (m := m) s' j (f := rtpFirstHeard seq fromAddr)
      fun h => absurd h (hnew halloc)
    exact ((alloc halloc (hnew halloc)).trans hrecord).trans (of_table rfl rfl rfl)
  cases hcase with
  | tableFull | leaving | thirdParty => exact of_table rfl rfl rfl
  | created j s' hnone halloc => exact hcreated halloc
  | createdCsrc j s' hnone halloc =>
      exact (hcreated halloc).trans
        (modifyMember (s'.rtpCreated j seq fromAddr) j (f := fun x => x.setValidated.setCsrc)
          fun _ => ⟨rfl, rfl⟩)
  | joined _ j hj hbye hother =>
      have hne : j ≠ m := by
        rintro rfl
        rw [hself] at hother
        exact absurd hother (by decide)
      exact (modifyMember s j (f := rtpFirstHeard seq fromAddr) fun h => absurd h hne).trans
        (of_table rfl rfl rfl)
  | collision _ j hj hbye hown haddr err =>
      exact (ownSsrcConflict s j fromAddr).trans (of_table rfl rfl rfl)
  | refreshed _ j hj =>
      exact (modifyMember s j (f := RtpMember.setRtpHeard) fun _ => ⟨rfl, rfl⟩).trans
        (of_table rfl rfl rfl)

theorem rtcpHandleSsrc {s : Session} (hm : m ∈ s.usedList) (hself : (s.member m).flags.self = true)
    (ssrc : UInt32) (fromAddr : SockaddrIn) (pktSize : UInt32) :
    SameHome m s (s.rtcpHandleSsrc ssrc fromAddr pktSize).2 := by
  have hcase := s.rtcpHandleSsrc_case ssrc fromAddr pktSize
  generalize s.rtcpHandleSsrc ssrc fromAddr pktSize = res at hcase
  cases hcase with
  | tableFull | leaving | thirdParty => exact of_table rfl rfl rfl
  | created j s' hnone halloc =>
      have hne : j ≠ m := by
        rintro rfl
        exact (alloc_eq_some halloc).1 hm
      have hrecord := modifyMember (m := m) s' j (f := rtcpFirstHeard fromAddr)
        fun h => absurd h hne
      exact ((alloc halloc hne).trans hrecord).trans (of_table rfl rfl rfl)
  | joined j hj hbye hother =>
      have hne : j ≠ m := by
        rintro rfl
        rw [hself] at hother
        exact absurd hother (by decide)
      exact (modifyMember s j (f := rtcpFirstHeard fromAddr) fun h => absurd h hne).trans
        (of_table rfl rfl rfl)
  | collision j hj hbye hknown haddr hown err =>
      exact (ownSsrcConflict s j fromAddr).trans (of_table rfl rfl rfl)
  | refreshed j hj =>
      exact (modifyMember s j (f := RtpMember.setRtcpHeard) fun _ => ⟨rfl, rfl⟩).trans
        (of_table rfl rfl rfl)

theorem leaving (s : Session) {event : RtcpEvent} (hevent : event ≠ .rxNonBye)
    (flags : IntervalFlags) (pktSize : UInt32) :
    SameHome m s (s.rtcpIntervalHandleRtcpEvent event flags pktSize) := by
  rw [rtcpEvent_leaving s hevent]
  split
  · exact of_table rfl rfl rfl
  · exact of_table rfl rfl rfl

theorem rtcpHandleByeSource (s : Session) (ssrc pktSize : UInt32) :
    SameHome m s (s.rtcpHandleByeSource ssrc pktSize) := by
  simp only [Session.rtcpHandleByeSource]
  split
  · exact of_table rfl rfl rfl
  · split
    · exact of_table rfl rfl rfl
    · rename_i j _ _
      have hevent := leaving (m := m) s (show RtcpEvent.rxBye ≠ .rxNonBye by decide)
        ⟨true, (s.member j).flags.rtpHeard⟩ pktSize
      exact (hevent.trans (modifyMember _ j (f := RtpMember.setByeReceived) fun _ => ⟨rfl, rfl⟩)).trans
        (of_table rfl rfl rfl)

theorem rtpTxCount (s : Session) (payloadLen : UInt32) : SameHome m s (s.rtpTxCount payloadLen) := by
  unfold Session.rtpTxCount
  split
  · exact of_table rfl rfl rfl
  · have hsent : SameHome m s (s.setWeSent true) := of_table rfl rfl rfl
    exact (hsent.trans (modifyMember _ s.self (f := RtpMember.setSender) fun _ => ⟨rfl, rfl⟩)).trans
      (of_table rfl rfl rfl)

theorem timerCallback (e : TimerElem) (s : Session) : SameHome m s (timerCallback e s) := by
  cases e with
  | rtcp =>
      apply rtcpIntervalTimeout_rule (R := SameHome m) trans
      · exact fun s => of_quiet (.drawInterval s)
      · exact fun s => of_quiet (.rtcpSendReport s)
      · exact fun _ _ _ _ => of_table rfl rfl rfl
      · exact fun _ _ _ => of_table rfl rfl rfl
  | member j => exact (leaving s (by decide) _ 0).trans ⟨rfl, rfl, rfl, rfl⟩
  | sender j =>
      apply rtcpIntervalSenderTimedout_rule (R := SameHome m) trans
      · exact fun s => modifyMember s j fun _ => ⟨rfl, rfl⟩
      · exact fun s => modifyMember s j fun _ => ⟨rfl, rfl⟩
      · exact fun _ => of_table rfl rfl rfl
      · exact fun s => leaving s (by decide) _ 0
  | leave j => exact ⟨rfl, rfl, rfl, rfl⟩
  | conflict c => exact of_table rfl rfl rfl

end SameHome

/-! ## The session itself -/

/-- The session has the given configuration, and its own member the addresses of it. -/
structure AtHome (s : Session) (cfg : RtpSessionConfig) : Prop where
  config : s.config = cfg
  rtpAddr : s.selfMember.rtpAddr = cfg.rtpAddr
  rtcpAddr : s.selfMember.rtcpAddr = cfg.rtcpAddr

theorem AtHome.same {cfg : RtpSessionConfig} {s s' : Session} (h : s.AtHome cfg)
    (hsame : SameHome s.self s s') : s'.AtHome cfg where
  config := hsame.config.trans h.config
  rtpAddr := by
    rw [selfMember, hsame.self, hsame.rtpAddr]
    exact h.rtpAddr
  rtcpAddr := by
    rw [selfMember, hsame.self, hsame.rtcpAddr]
    exact h.rtcpAddr

theorem InOrder.self_used {s : Session} (h : s.InOrder) :
    s.self ∈ s.usedList ∧ (s.member s.self).flags.self = true :=
  ⟨of_decide_eq_true h.1.hasSelf.1, h.1.hasSelf.2.1⟩

/-- No packet comes from an address of the configuration, and none contains a BYE. Transmits fit
    `rtp_pkt`. -/
def abroad (config : RtpSessionConfig) : ActGuard where
  rtp fromAddr _ _ := fromAddr ≠ config.rtpAddr
  msg fromAddr _ msg := fromAddr ≠ config.rtcpAddr ∧ msg.source ≠ none
  tx := TxFits
  expire _ := True
  fire _ _ := True

/-- Under that guard a session that is at home keeps the guard under which nobody speaks in its
    name. -/
theorem AtHome.unnamed {config : RtpSessionConfig} {s : Session} (h : s.AtHome config) :
    (∀ {fromAddr ssrc}, (abroad config).rtp fromAddr s ssrc → selfUnnamed.rtp fromAddr s ssrc) ∧
      ∀ {fromAddr msg}, (abroad config).msg fromAddr s msg → selfUnnamed.msg fromAddr s msg := by
  refine ⟨fun {fromAddr ssrc} hg haddr => ?_, fun {fromAddr msg} hg => ?_⟩
  · exact absurd (haddr.trans h.rtpAddr) hg
  · cases msg with
    | bye ssrc => exact absurd rfl hg.2
    | sr | rr | sdes => exact fun haddr => absurd (haddr.trans h.rtcpAddr) hg.1

theorem atHome_rules (config : RtpSessionConfig) :
    ActRules (fun s => s.InOrder ∧ s.AtHome config) (abroad config) where
  quiet h hP := ⟨selfUnnamed_rules.quiet h hP.1, hP.2.same (.of_quiet h)⟩
  rtpSource hP hg := by
    obtain ⟨hused, hself⟩ := hP.1.self_used
    exact ⟨selfUnnamed_rules.rtpSource hP.1 (hP.2.unnamed.1 hg),
      hP.2.same (.rtpHandleSsrc hused hself _ _ _ _)⟩
  rtcpSource hP hg hsource := by
    obtain ⟨hused, hself⟩ := hP.1.self_used
    exact ⟨selfUnnamed_rules.rtcpSource hP.1 (hP.2.unnamed.2 hg) hsource,
      hP.2.same (.rtcpHandleSsrc hused hself _ _ _)⟩
  byeSource hP hg :=
    ⟨selfUnnamed_rules.byeSource hP.1 (hP.2.unnamed.2 hg), hP.2.same (.rtcpHandleByeSource _ _ _)⟩
  txCount hP hg := ⟨selfUnnamed_rules.txCount hP.1 hg, hP.2.same (.rtpTxCount _ _)⟩
  expire hP _ := ⟨selfUnnamed_rules.expire hP.1 trivial, hP.2.same (.of_table rfl rfl rfl)⟩
  fire {s e rest} htop hP _ := by
    have hpop : (s.setTimer s.softTimer.popTimeout).AtHome config :=
      hP.2.same (.of_table rfl rfl rfl)
    exact ⟨selfUnnamed_rules.fire htop hP.1 trivial, hpop.same (.timerCallback _ _)⟩

theorem atHome_rtpSessionInit (mem : Session) (config : RtpSessionConfig) :
    (mem.rtpSessionInit config).AtHome config := by
  have hblank := blank_rtpSessionBlank mem config
  have hconfig : (mem.rtpSessionBlank config).config = config := rfl
  rw [rtpSessionInit_eq]
  generalize mem.rtpSessionBlank config = s at hblank hconfig
  obtain ⟨m, rest, hfree⟩ := List.exists_cons_of_ne_nil hblank.free
  obtain ⟨s', halloc⟩ := rtpSessionAllocMember_of_free (s := s.rtpRandom32.2) s.rtpRandom32.1 hfree
  have hself : (s.rtpSessionInitSelf config).AtHome config := by
    have hconfig' : s'.config = config := by
      rw [rtpSessionAllocMember] at halloc
      split at halloc
      · exact absurd halloc (by simp)
      · rw [Option.some_inj, Prod.mk.injEq] at halloc
        rw [← halloc.2]
        exact hconfig
    simp only [rtpSessionInitSelf, halloc]
    refine ⟨hconfig', ?_, ?_⟩
    · show ((modifyMember _ m _).member m).rtpAddr = _
      rw [member_modifyMember_self]
    · show ((modifyMember _ m _).member m).rtcpAddr = _
      rw [member_modifyMember_self]
  exact hself.same (.of_table rfl rfl rfl)

end Session

end Prtp
