import Prtp.SessionLedger

set_option autoImplicit false

/-! # Members and senders over whole runs

What holds of the table, the timers and the two counters after every run, as long as nobody speaks in
the session's own name: its own member stays in the table, `members` counts the table and each timer
runs exactly when it should. `senders` stays right under the weaker condition that the session's
sender timer never expires while the session is not sending. -/

namespace Prtp

open Ledger (Event)

namespace Session

/-! ## Initialisation -/

theorem rtpSessionAllocMember_of_free {s : Session} {m : Slot} {rest : List Slot} (ssrc : UInt32)
    (h : s.freeList = m :: rest) : ∃ s', s.rtpSessionAllocMember ssrc = some (m, s') := by
  cases halloc : s.rtpSessionAllocMember ssrc with
  | none =>
      rw [rtpSessionAllocMember_eq_none.1 halloc] at h
      exact absurd h (by simp)
  | some p =>
      obtain ⟨j, s'⟩ := p
      rw [rtpSessionAllocMember, RtpMemberTable.rtpMemberTableAllocMember] at halloc
      cases htake : s.memberTable.pool.take with
      | none =>
          rw [htake] at halloc
          exact absurd halloc (by simp)
      | some q =>
          obtain ⟨hfree, -⟩ : s.memberTable.pool.free = q.1 :: q.2.free ∧ _ :=
            Pool.take_eq_some htake
          rw [htake] at halloc
          simp only [Option.some.injEq, Prod.mk.injEq] at halloc
          have hhead := h.symm.trans hfree
          rw [List.cons.injEq] at hhead
          exact ⟨s', by rw [← halloc.1, hhead.1]⟩

/-- An empty table whose timers all stand still. -/
structure Blank (s : Session) : Prop where
  used : s.usedList = []
  free : s.freeList ≠ []
  idle : ∀ e, s.isSoftTimerRunning e = false

theorem Blank.entry {s : Session} (h : Blank s) (m : Slot) :
    (s.ledger.entry m).Remote ∧ (s.ledger.entry m).used = false ∧
      (s.ledger.entry m).memberTe = false ∧ (s.ledger.entry m).senderTe = false ∧
        (s.ledger.entry m).leaveTe = false := by
  have hentry : s.ledger.entry m =
      { s.ledger.entry m with
        used := false, memberTe := false, senderTe := false, leaveTe := false } := by
    simp [ledger, entryOf, h.used, h.idle]
  rw [hentry]
  exact ⟨Ledger.Kept.remote_vacate (s.ledger.entry m), rfl, rfl, rfl, rfl⟩

/-- The session's own member takes a slot of the empty table. -/
theorem ledger_rtpSessionInitSelf {s : Session} (h : Blank s) (config : RtpSessionConfig) :
    ∃ m, (s.rtpSessionInitSelf config).ledger =
      { s.ledger.put m ⟨true, true, false, false, false, false, false⟩ with self := m } := by
  obtain ⟨m, rest, hfree⟩ := List.exists_cons_of_ne_nil h.free
  obtain ⟨s', halloc⟩ := rtpSessionAllocMember_of_free (s := s.rtpRandom32.2) s.rtpRandom32.1 hfree
  obtain ⟨-, hledger⟩ := ledger_alloc halloc
  obtain ⟨-, -, hmem, hsnd, hlv⟩ := h.entry m
  have hsame : s.rtpRandom32.2.ledger = s.ledger := rfl
  rw [hsame] at hledger
  refine ⟨m, ?_⟩
  have hinit : s.rtpSessionInitSelf config =
      { s' with self := m }.modifyMember m fun x =>
        { rtpMemberSetCname x.setSelf (config.cname.slice 0 config.cnameLen.toNat) with
          rtpAddr := config.rtpAddr, rtcpAddr := config.rtcpAddr } := by
    simp only [rtpSessionInitSelf, halloc]
  have hentry : s'.entryOf m = ⟨true, false, false, false, false, false, false⟩ := by
    have hput := congrArg (fun l : Ledger => l.entry m) hledger
    simp only [Ledger.entry_put_self, hmem, hsnd, hlv] at hput
    exact hput
  have hbye : (member { s' with self := m } m).flags.byeReceived = false :=
    congrArg Entry.bye hentry
  have hheard : (member { s' with self := m } m).flags.rtpHeard = false :=
    congrArg Entry.heard hentry
  rw [hinit, ledger_modifyMember]
  have hflags : ({ s' with self := m } : Session).entryOf m = s'.entryOf m := rfl
  have hbase : ({ s' with self := m } : Session).ledger = { s'.ledger with self := m } := rfl
  rw [hflags, hbase, hledger, hentry]
  refine Ledger.ext ?_ rfl rfl rfl rfl
  simp [Ledger.put, rtpMemberSetCname, RtpMember.setSelf, hbye, hheard]

/-- The counters start from the session itself. -/
theorem ledger_rtcpInit (s : Session) :
    s.rtcpInit.ledger = { s.ledger with members := 1, senders := 0, weSent := false } := by
  rw [rtcpInit, ledger_schedule, (Quiet.drawInterval _).ledger]
  rfl

theorem blank_rtpSessionBlank (mem : Session) (config : RtpSessionConfig) :
    Blank (mem.rtpSessionBlank config) where
  used := rfl
  free := by
    have hfree : (mem.rtpSessionBlank config).freeList = List.finRange _ := rfl
    rw [hfree]
    decide
  idle e := decide_eq_false (SoftTimer.not_running_init mem.softTimer 100 e)

/-- A session starts with its ledger kept and its own timers in order. -/
theorem kept_rtpSessionInit (mem : Session) (config : RtpSessionConfig) :
    (mem.rtpSessionInit config).ledger.Kept ∧ (mem.rtpSessionInit config).ledger.OwnTimers := by
  have hblank := blank_rtpSessionBlank mem config
  obtain ⟨m, hledger⟩ := ledger_rtpSessionInitSelf hblank config
  rw [rtpSessionInit_eq, ledger_rtcpInit, hledger]
  generalize mem.rtpSessionBlank config = s at hblank
  have hnone : tally (fun _ : Slot => false) = 0 := by simp [tally]
  have hpresent : s.ledger.present = fun _ => false := by
    funext j
    obtain ⟨-, hused, -⟩ := hblank.entry j
    simp [Ledger.present, Entry.present, hused]
  refine ⟨⟨?_, ?_, ?_, ?_⟩, ⟨?_, ?_, ?_⟩⟩
  · simp [Ledger.HasSelf]
  · intro j hj
    obtain ⟨hremote, -⟩ := hblank.entry j
    rwa [← Ledger.entry_put_of_ne s.ledger hj ⟨true, true, false, false, false, false, false⟩]
      at hremote
  · have htally := Ledger.tally_present_put s.ledger m
      ⟨true, true, false, false, false, false, false⟩
    rw [hpresent, hnone] at htally
    obtain ⟨-, hused, -⟩ := hblank.entry m
    have hone : tally
        (s.ledger.put m ⟨true, true, false, false, false, false, false⟩).present = 1 := by
      simpa [Entry.present, hused] using htally
    exact (congrArg UInt32.ofNat hone).symm
  · have hsending : Ledger.sending
        { s.ledger.put m ⟨true, true, false, false, false, false, false⟩ with
          self := m, members := 1, senders := 0, weSent := false } = fun _ => false := by
      funext j
      by_cases hj : j = m
      · simp [Ledger.sending, hj]
      · obtain ⟨-, hused, -⟩ := hblank.entry j
        simp [Ledger.sending, hj, Ledger.entry_put_of_ne s.ledger hj, Entry.sending, Entry.present,
          hused]
    rw [hsending, hnone]
    rfl
  · simp
  · simp
  · simp

/-- A session starts alone in its table. -/
theorem alone_rtpSessionInit (mem : Session) (config : RtpSessionConfig) {m : Slot}
    (hm : m ≠ (mem.rtpSessionInit config).self) : m ∉ (mem.rtpSessionInit config).usedList := by
  have hblank := blank_rtpSessionBlank mem config
  obtain ⟨i, hself⟩ := ledger_rtpSessionInitSelf hblank config
  have hledger : (mem.rtpSessionInit config).ledger =
      { ((mem.rtpSessionBlank config).ledger.put i
        ⟨true, true, false, false, false, false, false⟩) with
        self := i, members := 1, senders := 0, weSent := false } := by
    rw [rtpSessionInit_eq, ledger_rtcpInit, hself]
  have hi : (mem.rtpSessionInit config).self = i := congrArg Ledger.self hledger
  have hentry := congrArg (fun l : Ledger => (l.entry m).used) hledger
  rw [hi] at hm
  have hused := Ledger.entry_put_of_ne (mem.rtpSessionBlank config).ledger hm
    ⟨true, true, false, false, false, false, false⟩
  have hother := congrArg Entry.used hused
  exact of_decide_eq_false (hentry.trans (hother.trans (hblank.entry m).2.1))

/-! ## Guarded runs -/

/-- Nobody speaks in the session's own name: no BYE names its SSRC, and no packet from its own
    address, as recorded for the channel, gives it as a source. Transmits fit `rtp_pkt` or are rejected. -/
def selfUnnamed : ActGuard where
  rtp fromAddr s ssrc := fromAddr = s.selfMember.rtpAddr → ssrc ≠ s.selfMember.ssrc
  msg fromAddr s
    | .bye ssrc => ssrc ≠ s.selfMember.ssrc
    | .sr ssrc .. | .rr ssrc _ | .sdes ssrc _ =>
        fromAddr = s.selfMember.rtcpAddr → ssrc ≠ s.selfMember.ssrc
  tx := TxFits
  expire _ := True
  fire _ _ := True

instance : selfUnnamed.Evaluable where
  rtp _ _ _ := inferInstanceAs (Decidable (_ → _))
  msg _ _
    | .bye _ => inferInstanceAs (Decidable (_ ≠ _))
    | .sr .. | .rr _ _ | .sdes _ _ => inferInstanceAs (Decidable (_ → _))
  tx _ _ := inferInstanceAs (Decidable (TxFits _ _))
  expire _ := isTrue trivial
  fire _ _ := isTrue trivial

theorem selfUnnamed_source {fromAddr : SockaddrIn} {s : Session} {msg : RtcpMsg} {ssrc : UInt32}
    (hg : selfUnnamed.msg fromAddr s msg) (hsource : msg.source = some ssrc)
    (haddr : fromAddr = s.selfMember.rtcpAddr) : ssrc ≠ s.selfMember.ssrc := by
  cases msg with
  | bye _ => simp [RtcpMsg.source] at hsource
  | sr | rr | sdes =>
      simp only [RtcpMsg.source, Option.some.injEq] at hsource
      exact hsource ▸ hg haddr

/-- What every event on a ledger keeps holds of the ledger of every session. -/
theorem ledger_rules {Q : Ledger → Prop}
    (happly : ∀ {l e}, Q l → l.Enabled e → Q (l.apply e)) : ActRules (fun s => Q s.ledger) .any := by
  have hmoves : ∀ {s s' : Session} {e : Ledger.Event}, Q s.ledger → s.Moves e s' →
      Q s'.ledger := by
    intro s s' e h hmoves
    rw [hmoves.2]
    exact happly h hmoves.1
  constructor
  case quiet =>
    intro s s' h hP
    rwa [h.ledger]
  case rtpSource =>
    intro s ssrc seq fromAddr csrc hP _
    obtain ⟨e, h, -⟩ := s.rtpHandleSsrc_moves ssrc seq fromAddr csrc
    exact hmoves hP h
  case rtcpSource =>
    intro s ssrc fromAddr pktSize msg hP _ _
    obtain ⟨e, h, -⟩ := s.rtcpHandleSsrc_moves ssrc fromAddr pktSize
    exact hmoves hP h
  case byeSource =>
    intro s ssrc fromAddr pktSize hP _
    rcases s.rtcpHandleByeSource_moves ssrc pktSize with h | ⟨m, -, h⟩
    · exact hmoves hP h
    · exact hmoves hP h
  case txCount => exact fun hP _ => hmoves hP (rtpTxCount_moves _ _)
  case expire =>
    intro s hP _
    rwa [ledger_expire]
  case fire => exact fun htop hP _ => hmoves hP (fire_moves htop)

/-- The ledger is kept, and the session's own timers are in order. -/
def InOrder (s : Session) : Prop := s.ledger.Kept ∧ s.ledger.OwnTimers

theorem InOrder.moves {s s' : Session} (h : s.InOrder) {e : Event} (hmoves : s.Moves e s')
    (hhear : ∀ data, e ≠ .hear s.self data) (hquit : e ≠ .quit s.self) : s'.InOrder := by
  obtain ⟨hkept, hown⟩ := h
  obtain ⟨henabled, hledger⟩ := hmoves
  obtain ⟨hself, hown'⟩ := hown.apply hkept henabled hhear hquit
  rw [InOrder, hledger]
  refine ⟨hkept.apply henabled hself ?_, hown'⟩
  rintro rfl
  -- its sender timer runs only while it sends
  exact hown.senderTe.symm.trans henabled

/-- An event of a packet that names the session only from a foreign address is not about it. -/
theorem InOrder.packet_moves {s s' : Session} (h : s.InOrder) {e : Event} (hmoves : s.Moves e s')
    {addr : RtpMember → SockaddrIn} {fromAddr : SockaddrIn} {ssrc : UInt32}
    (hevent : s.PacketEvent addr fromAddr ssrc e)
    (hother : fromAddr = addr s.selfMember → ssrc ≠ s.selfMember.ssrc) : s'.InOrder := by
  apply h.moves hmoves
  · rintro data rfl
    obtain ⟨hssrc, haddr⟩ := hevent
    have hflag : s.selfMember.flags.self = true := h.1.hasSelf.2.1
    exact hother (haddr hflag).symm hssrc.symm
  · rintro rfl
    exact hevent

theorem selfUnnamed_rules : ActRules InOrder selfUnnamed where
  quiet h hP := by
    rw [InOrder, h.ledger]
    exact hP
  rtpSource {s ssrc seq fromAddr csrc} hP hg := by
    obtain ⟨e, hmoves, hevent⟩ := s.rtpHandleSsrc_moves ssrc seq fromAddr csrc
    exact hP.packet_moves hmoves hevent hg
  rtcpSource {s ssrc fromAddr pktSize msg} hP hg hsource := by
    obtain ⟨e, hmoves, hevent⟩ := s.rtcpHandleSsrc_moves ssrc fromAddr pktSize
    exact hP.packet_moves hmoves hevent (selfUnnamed_source hg hsource)
  byeSource {s ssrc fromAddr pktSize} hP hg := by
    rcases s.rtcpHandleByeSource_moves ssrc pktSize with hmoves | ⟨m, hm, hmoves⟩
    · exact hP.moves hmoves (by simp) (by simp)
    · apply hP.moves hmoves (by simp)
      rintro hquit
      obtain rfl : m = s.self := by simpa using hquit
      exact hg (lookup_eq_some hm).2.symm
  txCount {s payloadLen ncsrc} hP hg := hP.moves (s.rtpTxCount_moves payloadLen) (by simp) (by simp)
  expire {s} hP hg := by
    rw [InOrder, ledger_expire]
    exact hP
  fire {s e rest} htop hP hg := by
    apply hP.moves (fire_moves htop)
    · intro data
      cases e <;> simp [expiryEvent]
    · cases e <;> simp [expiryEvent]

/-- An initialised session is in order after every run in which nobody speaks in its name. -/
theorem inOrder_run {mem : Session} {config : RtpSessionConfig} {ops : List Op}
    (hg : Runs.Guarded step selfUnnamed.admits (mem.rtpSessionInit config) ops) :
    (runSession mem config ops).InOrder :=
  selfUnnamed_rules.run hg (kept_rtpSessionInit mem config)

/-! ## The session's own member -/

/-- The session's own member is in the table and has not left, neither of the timers whose expiry
    frees a member runs for it, and no expiry of the next tick frees it. -/
structure SelfAllocated (s : Session) : Prop where
  used : s.self ∈ s.usedList
  notFree : s.self ∉ s.freeList
  notBye : s.selfMember.flags.byeReceived = false
  memberTe : ¬ s.softTimer.Running (.member s.self)
  leaveTe : ¬ s.softTimer.Running (.leave s.self)
  expiry : ∀ p ∈ s.tickFirings, p.1 ≠ .member p.2.self ∧ p.1 ≠ .leave p.2.self

theorem InOrder.not_running {s : Session} (h : s.InOrder) :
    ¬ s.softTimer.Running (.member s.self) ∧ ¬ s.softTimer.Running (.leave s.self) :=
  ⟨of_decide_eq_false h.2.memberTe, of_decide_eq_false h.2.leaveTe⟩

theorem InOrder.selfAllocated {s : Session} (h : s.InOrder) : s.SelfAllocated := by
  obtain ⟨hused, -, hbye⟩ := h.1.hasSelf
  have hmem : s.self ∈ s.usedList := of_decide_eq_true hused
  refine ⟨hmem, fun hfree => (s.mem_freeList_iff _).1 hfree hmem, hbye, h.not_running.1,
    h.not_running.2, fun p hp => ?_⟩
  obtain ⟨t, rest, ht, htop, hpop⟩ := selfUnnamed_rules.firings h trivial (fun _ _ => trivial) p hp
  -- what fires was running until it was popped
  have hrun : t.softTimer.Running p.1 := Or.inr (by rw [htop]; exact List.mem_cons_self ..)
  have hself : p.2.self = t.self := by rw [hpop]; rfl
  rw [hself]
  constructor
  · intro hp1
    exact ht.not_running.1 (hp1 ▸ hrun)
  · intro hp1
    exact ht.not_running.2 (hp1 ▸ hrun)

/-- The session's own member stays allocated through every run in which nobody speaks in its
    name. -/
theorem selfAllocated_run (mem : Session) (config : RtpSessionConfig) (ops : List Op)
    (hg : Runs.Guarded step selfUnnamed.admits (mem.rtpSessionInit config) ops) :
    (runSession mem config ops).SelfAllocated :=
  (inOrder_run hg).selfAllocated

/-- A session with SSRC 2, through a data packet from SSRC 5, a BYE for it and a tick. -/
theorem selfAllocated_rtp_bye_tick :
    (runSession (zeroed (.still .zero)) (plainConfig 1000 4)
      [.rxRtp (rtpFrom 5) 12 (.ofPort 7), .rxRtcp (byeFor 5) 16 (.ofPort 8), .tick]).SelfAllocated :=
  selfAllocated_run _ _ _ (by decide +kernel)

/-- A BYE from anybody that names the session's SSRC marks its own member as leaving. -/
theorem bye_from_anybody_flags_self :
    ¬ ∀ (mem : Session) (config : RtpSessionConfig) (ops : List Op),
      (runSession mem config ops).SelfAllocated := by
  intro h
  have hbye := (h (zeroed (.still .zero)) (plainConfig 1000 4)
    [.rxRtcp (byeFor 2) 16 (.ofPort 7)]).notBye
  exact absurd hbye (by decide +kernel)

/-! ## The table, the timers and `members` -/

/-- `members` counts the members that have not left, and of every slot exactly those timers run that
    its state calls for. -/
structure MembershipKept (s : Session) : Prop where
  members : s.rtcpVar.members.toNat =
    (s.usedList.filter fun m => !(s.member m).flags.byeReceived).length
  leaving : ∀ m ∈ s.usedList, m ≠ s.self → (s.member m).flags.byeReceived = true →
    s.softTimer.Running (.leave m) ∧ ¬ s.softTimer.Running (.member m) ∧
      ¬ s.softTimer.Running (.sender m)
  present : ∀ m ∈ s.usedList, m ≠ s.self → (s.member m).flags.byeReceived = false →
    s.softTimer.Running (.member m) ∧ ¬ s.softTimer.Running (.leave m) ∧
      (s.softTimer.Running (.sender m) ↔ (s.member m).flags.rtpHeard = true)
  own : (s.softTimer.Running (.sender s.self) ↔ s.rtcpVar.weSent = true) ∧
    ¬ s.softTimer.Running (.member s.self) ∧ ¬ s.softTimer.Running (.leave s.self)
  free : ∀ m ∈ s.freeList, ¬ s.softTimer.Running (.member m) ∧ ¬ s.softTimer.Running (.sender m) ∧
    ¬ s.softTimer.Running (.leave m)

/-- Counting slots along `used_list`. -/
theorem tally_eq_usedList (s : Session) {p q : Slot → Bool}
    (hp : ∀ m, p m = (decide (m ∈ s.usedList) && q m)) :
    tally p = (s.usedList.filter q).length := by
  rw [tally_eq_length_filter s.memberTable.pool.used_nodup (p := p)]
  · congr 1
    apply List.filter_congr
    intro m hm
    have hused : m ∈ s.usedList := hm
    simp [hp, hused]
  · intro m hm
    rw [hp, Bool.and_eq_true] at hm
    exact of_decide_eq_true hm.1

theorem tally_slots_le (p : Slot → Bool) : tally p ≤ rtpConfigMaxMembersPerSession :=
  (tally_le_card p).trans (Nat.le_of_eq (Fintype.card_fin _))

theorem toNat_ofNat_tally (p : Slot → Bool) : (UInt32.ofNat (tally p)).toNat = tally p :=
  UInt32.toNat_ofNat_of_lt' (Nat.lt_of_le_of_lt (tally_slots_le p) (by decide))

/-- The timers of another participant's slot, told by the table and its flags. -/
theorem running_of_remote {s : Session} {m : Slot} (h : (s.ledger.entry m).Remote) :
    (s.softTimer.Running (.member m) ↔
        m ∈ s.usedList ∧ (s.member m).flags.byeReceived = false) ∧
      (s.softTimer.Running (.sender m) ↔
        (m ∈ s.usedList ∧ (s.member m).flags.byeReceived = false) ∧
          (s.member m).flags.rtpHeard = true) ∧
      (s.softTimer.Running (.leave m) ↔
        m ∈ s.usedList ∧ (s.member m).flags.byeReceived = true) := by
  have hmem : s.isSoftTimerRunning (.member m) =
      (decide (m ∈ s.usedList) && !(s.member m).flags.byeReceived) := h.memberTe
  have hsnd : s.isSoftTimerRunning (.sender m) =
      (decide (m ∈ s.usedList) && !(s.member m).flags.byeReceived && (s.member m).flags.rtpHeard) :=
    h.senderTe
  have hlv : s.isSoftTimerRunning (.leave m) =
      (decide (m ∈ s.usedList) && (s.member m).flags.byeReceived) := h.leaveTe
  have hrun : ∀ e, s.softTimer.Running e ↔ s.isSoftTimerRunning e = true := fun e => by
    simp [isSoftTimerRunning, SoftTimer.isSoftTimerRunning]
  rw [hrun, hrun, hrun, hmem, hsnd, hlv]
  simp

theorem InOrder.membershipKept {s : Session} (h : s.InOrder) : s.MembershipKept where
  members := by
    have hmembers : s.rtcpVar.members = UInt32.ofNat (tally s.ledger.present) := h.1.members
    rw [hmembers, toNat_ofNat_tally]
    exact tally_eq_usedList s fun m => rfl
  leaving m hm hother hbye := by
    obtain ⟨hmem, hsnd, hlv⟩ := running_of_remote (h.1.remote m hother)
    rw [hmem, hsnd, hlv]
    simp [hm, hbye]
  present m hm hother hbye := by
    obtain ⟨hmem, hsnd, hlv⟩ := running_of_remote (h.1.remote m hother)
    rw [hmem, hsnd, hlv]
    simp [hm, hbye]
  own := by
    have hsnd : s.isSoftTimerRunning (.sender s.self) = s.rtcpVar.weSent := h.2.senderTe
    refine ⟨?_, h.not_running⟩
    rw [← hsnd]
    simp [isSoftTimerRunning, SoftTimer.isSoftTimerRunning]
  free m hm := by
    have hfree := (s.mem_freeList_iff m).1 hm
    have hother : m ≠ s.self := by
      rintro rfl
      exact hfree (of_decide_eq_true h.1.hasSelf.1)
    obtain ⟨hmem, hsnd, hlv⟩ := running_of_remote (h.1.remote m hother)
    rw [hmem, hsnd, hlv]
    simp [hfree]

/-- In every run in which nobody speaks in the session's name, `members` counts the table and every
    timer runs exactly when it should. -/
theorem membershipKept_run (mem : Session) (config : RtpSessionConfig) (ops : List Op)
    (hg : Runs.Guarded step selfUnnamed.admits (mem.rtpSessionInit config) ops) :
    (runSession mem config ops).MembershipKept :=
  (inOrder_run hg).membershipKept

/-- A session that sends and hears SSRC 5 send, until the sender timers of both have expired. -/
theorem membershipKept_senders_expired :
    (runSession (zeroed (.still .zero)) (plainConfig 1000 4)
      (.rxRtp (rtpFrom 5) 12 (.ofPort 7) :: .tx (fun _ => 0) 20 0 (fun _ => 0) 0 ::
        List.replicate 50 .tick)).MembershipKept :=
  membershipKept_run _ _ _ (by decide +kernel)

/-! ## `senders` -/

/-- Transmits fit `rtp_pkt`, and the session's sender timer does not expire while it is not
    sending. -/
def selfSendsUntilTimeout : ActGuard where
  rtp _ _ _ := True
  msg _ _ _ := True
  tx := TxFits
  expire _ := True
  fire e s := e = .sender s.self → s.rtcpVar.weSent = true

instance : selfSendsUntilTimeout.Evaluable where
  rtp _ _ _ := isTrue trivial
  msg _ _ _ := isTrue trivial
  tx _ _ := inferInstanceAs (Decidable (TxFits _ _))
  expire _ := isTrue trivial
  fire _ _ := inferInstanceAs (Decidable (_ → _))

/-- As long as the session is on its own ledger, the ledger is kept. -/
def KeptWhileOwn (s : Session) : Prop := s.ledger.HasSelf → s.ledger.Kept

theorem KeptWhileOwn.moves {s s' : Session} (h : s.KeptWhileOwn) {e : Event} (hmoves : s.Moves e s')
    (hsend : e = .senderExpired s.self → s.rtcpVar.weSent = true) : s'.KeptWhileOwn := by
  obtain ⟨henabled, hledger⟩ := hmoves
  rw [KeptWhileOwn, hledger]
  intro hself
  by_cases hown : s.ledger.HasSelf
  · exact (h hown).apply henabled hself hsend
  · exact absurd hself (Ledger.not_hasSelf_apply hown henabled)

theorem not_senderExpired_of_packetEvent {s : Session} {addr : RtpMember → SockaddrIn}
    {fromAddr : SockaddrIn} {ssrc : UInt32} {e : Event} (h : s.PacketEvent addr fromAddr ssrc e)
    (m : Slot) : e ≠ .senderExpired m := by
  rintro rfl
  exact h

theorem selfSendsUntilTimeout_rules : ActRules KeptWhileOwn selfSendsUntilTimeout where
  quiet h hP := by
    rw [KeptWhileOwn, h.ledger]
    exact hP
  rtpSource {s ssrc seq fromAddr csrc} hP hg := by
    obtain ⟨e, hmoves, hevent⟩ := s.rtpHandleSsrc_moves ssrc seq fromAddr csrc
    exact hP.moves hmoves fun h => absurd h (not_senderExpired_of_packetEvent hevent _)
  rtcpSource {s ssrc fromAddr pktSize msg} hP hg hsource := by
    obtain ⟨e, hmoves, hevent⟩ := s.rtcpHandleSsrc_moves ssrc fromAddr pktSize
    exact hP.moves hmoves fun h => absurd h (not_senderExpired_of_packetEvent hevent _)
  byeSource {s ssrc fromAddr pktSize} hP hg := by
    rcases s.rtcpHandleByeSource_moves ssrc pktSize with hmoves | ⟨m, hm, hmoves⟩
    · exact hP.moves hmoves (by simp)
    · exact hP.moves hmoves (by simp)
  txCount {s payloadLen ncsrc} hP hg := hP.moves (s.rtpTxCount_moves payloadLen) (by simp)
  expire {s} hP hg := by
    rw [KeptWhileOwn, ledger_expire]
    exact hP
  fire {s e rest} htop hP hg := by
    apply hP.moves (fire_moves htop)
    intro hexpired
    cases e with
    | sender m =>
        obtain rfl : m = s.self := by simpa [expiryEvent] using hexpired
        exact hg rfl
    | rtcp | member | leave | conflict => simp [expiryEvent] at hexpired

/-- The session's own member is allocated (in its slot, not in a slot that was freed and given to
    another) and not flagged BYE. -/
def SelfPresent (s : Session) : Prop :=
  s.self ∈ s.usedList ∧ s.selfMember.flags.self = true ∧ s.selfMember.flags.byeReceived = false

instance (s : Session) : Decidable s.SelfPresent := inferInstanceAs (Decidable (_ ∧ _ ∧ _))

/-- `senders` counts the others that are heard sending and have not left, and the session if it
    sends; so it has not wrapped. -/
def SendersCounted (s : Session) : Prop :=
  (s.rtcpVar.senders.toNat =
    (s.usedList.filter fun m =>
      decide (m ≠ s.self) && (s.member m).flags.rtpHeard &&
        !(s.member m).flags.byeReceived).length +
      if s.rtcpVar.weSent then 1 else 0) ∧
    s.rtcpVar.senders.toNat ≤ rtpConfigMaxMembersPerSession

instance (s : Session) : Decidable s.SendersCounted := inferInstanceAs (Decidable (_ ∧ _))

theorem sendersCounted_of_kept {s : Session} (h : s.ledger.Kept) : s.SendersCounted := by
  have hsenders : s.rtcpVar.senders = UInt32.ofNat (tally s.ledger.sending) := h.senders
  -- the session's own answer is `we_sent`; everybody else's is on `used_list`
  have hsplit : s.ledger.sending =
      Function.update (fun m => decide (m ≠ s.self) && (s.ledger.entry m).sending) s.self
        s.rtcpVar.weSent := by
    funext m
    by_cases hm : m = s.self
    · subst hm
      rw [Function.update_self]
      exact if_pos rfl
    · rw [Function.update_of_ne hm, decide_eq_true hm, Bool.true_and]
      exact if_neg hm
  have htally := tally_update (fun m => decide (m ≠ s.self) && (s.ledger.entry m).sending) s.self
    s.rtcpVar.weSent
  rw [← hsplit] at htally
  have hothers := tally_eq_usedList s
    (p := fun m => decide (m ≠ s.self) && (s.ledger.entry m).sending)
    (q := fun m => decide (m ≠ s.self) && (s.member m).flags.rtpHeard &&
      !(s.member m).flags.byeReceived) (fun m => by
        simp only [ledger, entryOf, Entry.sending, Entry.present]
        ac_rfl)
  rw [SendersCounted, hsenders, toNat_ofNat_tally, ← hothers]
  refine ⟨?_, tally_slots_le _⟩
  simpa [Bool.toNat, cond_eq_ite] using htally

/-- In every run in which the session's sender timer expires only while the session sends, `senders`
    is right in every state in which the session is still in its own table. -/
theorem sendersCounted_run (mem : Session) (config : RtpSessionConfig) (ops : List Op)
    (hg : Runs.Guarded step selfSendsUntilTimeout.admits (mem.rtpSessionInit config) ops)
    (hself : (runSession mem config ops).SelfPresent) :
    (runSession mem config ops).SendersCounted := by
  have hkept : (runSession mem config ops).KeptWhileOwn :=
    selfSendsUntilTimeout_rules.run hg fun _ => (kept_rtpSessionInit mem config).1
  obtain ⟨hused, hflag, hbye⟩ := hself
  exact sendersCounted_of_kept (hkept ⟨decide_eq_true hused, hflag, hbye⟩)

/-- A session that sends and then hears its own packet come back, until its sender timer has
    expired. -/
theorem sendersCounted_loopback :
    (runSession (zeroed (.still .zero)) (plainConfig 1000 4)
      (.tx (fun _ => 0) 20 0 (fun _ => 0) 0 :: .rxRtp (rtpFrom 2) 12 (.ofPort 100) ::
        List.replicate 50 .tick)).SendersCounted :=
  sendersCounted_run _ _ _ (by decide +kernel) (by decide +kernel)

/-- A session that has sent nothing hears its own SSRC from its own address. Five seconds later
    `senders` wraps below zero. -/
theorem senders_wraps_after_echo :
    ¬ ∀ (mem : Session) (config : RtpSessionConfig) (ops : List Op),
      (runSession mem config ops).SelfPresent → (runSession mem config ops).SendersCounted := by
  intro h
  have hcounted := h (zeroed (.still .zero)) (plainConfig 1000 4)
    (.rxRtp (rtpFrom 2) 12 (.ofPort 100) :: List.replicate 50 .tick) (by decide +kernel)
  exact absurd hcounted (by decide +kernel)

end Session

end Prtp
