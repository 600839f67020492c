import Prtp.Frames

set_option autoImplicit false

/-! # RTCP scheduling over whole runs

When the next report is due depends on the clock, on `tp`, `tn` and `pmembers`, and on reverse
reconsideration keeping them in step with `members`. Most acts leave all of these alone; a member
that leaves or times out, and the interval timer itself, are the two that do not. -/

namespace Prtp

namespace Session

/-! ## What moves the schedule -/

/-- The clock and the variables of the schedule are the same. -/
structure SameSchedule (s s' : Session) : Prop where
  tick : s'.softTimer.tick = s.softTimer.tick
  tickRate : s'.softTimer.tickRate = s.softTimer.tickRate
  tp : s'.rtcpVar.tp = s.rtcpVar.tp
  tn : s'.rtcpVar.tn = s.rtcpVar.tn
  pmembers : s'.rtcpVar.pmembers = s.rtcpVar.pmembers
  tnMembers : s'.rtcpVar.tnMembers = s.rtcpVar.tnMembers

namespace SameSchedule

theorem refl (s : Session) : SameSchedule s s := ⟨rfl, rfl, rfl, rfl, rfl, rfl⟩

theorem trans {s s' s'' : Session} (h : SameSchedule s s') (h' : SameSchedule s' s'') :
    SameSchedule s s'' where
  tick := h'.tick.trans h.tick
  tickRate := h'.tickRate.trans h.tickRate
  tp := h'.tp.trans h.tp
  tn := h'.tn.trans h.tn
  pmembers := h'.pmembers.trans h.pmembers
  tnMembers := h'.tnMembers.trans h.tnMembers

theorem currentTime {s s' : Session} (h : SameSchedule s s') :
    s'.rtcpCurrentTime = s.rtcpCurrentTime := by
  simp only [rtcpCurrentTime, SoftTimer.softTimerGetTickTime, h.tick, h.tickRate]

theorem of_quiet {s s' : Session} (h : Quiet s s') : SameSchedule s s' := by
  obtain ⟨htimer, -, -, hvar, -⟩ := h
  exact ⟨by rw [htimer], by rw [htimer], by rw [hvar], by rw [hvar], by rw [hvar], by rw [hvar]⟩

theorem softTimerAdd (s : Session) (e : TimerElem) (d : Int) :
    SameSchedule s (s.softTimerAdd e d) :=
  ⟨SoftTimer.tick_add .., SoftTimer.tickRate_add .., rfl, rfl, rfl, rfl⟩

theorem softTimerDel (s : Session) (e : TimerElem) : SameSchedule s (s.softTimerDel e) :=
  ⟨rfl, rfl, rfl, rfl, rfl, rfl⟩

theorem modifyMember (s : Session) (m : Slot) (f : RtpMember → RtpMember) :
    SameSchedule s (s.modifyMember m f) :=
  ⟨rfl, rfl, rfl, rfl, rfl, rfl⟩

/-- Nothing but scheduling moves the schedule. -/
theorem frame : Frame SameSchedule where
  trans := trans
  quiet := of_quiet
  add s e d _ := softTimerAdd s e d
  del s e _ := softTimerDel s e
  table _ _ := ⟨rfl, rfl, rfl, rfl, rfl, rfl⟩
  conflicts _ _ := ⟨rfl, rfl, rfl, rfl, rfl, rfl⟩
  counts _ _ _ _ _ := ⟨rfl, rfl, rfl, rfl, rfl, rfl⟩

theorem popTimeout (s : Session) : SameSchedule s (s.setTimer s.softTimer.popTimeout) :=
  ⟨rfl, rfl, rfl, rfl, rfl, rfl⟩

end SameSchedule

/-! ## Leaving members -/

/-- What reverse reconsideration does to the schedule of `s` when `members` has become `n`: `tn` and
    `tp` move towards now, and the interval timer runs until the new `tn`. -/
structure Rescheduled (s s' : Session) (n : UInt32) : Prop where
  tn : s'.rtcpVar.tn = s.rtcpVar.tn.map fun tn =>
    s.rtcpCurrentTime + (n.toNat : ℚ) / s.rtcpVar.pmembers.toNat * (tn - s.rtcpCurrentTime)
  tp : s'.rtcpVar.tp = s.rtcpCurrentTime -
    (n.toNat : ℚ) / s.rtcpVar.pmembers.toNat * (s.rtcpCurrentTime - s.rtcpVar.tp)
  members : s'.rtcpVar.members = n
  pmembers : s'.rtcpVar.pmembers = n
  tnMembers : s'.rtcpVar.tnMembers = n
  tick : s'.softTimer.tick = s.softTimer.tick
  tickRate : s'.softTimer.tickRate = s.softTimer.tickRate
  running : s'.softTimer.Running .rtcp
  due : s'.softTimer.elemTick .rtcp =
    s.softTimer.tick +
      s.softTimer.getSoftTickFromMilsec (rtcpIntervalCalDeltaInMs s.rtcpCurrentTime s'.rtcpVar.tn)

theorem reverseReconsider_rescheduled (s : Session) :
    Rescheduled s s.reverseReconsider s.rtcpVar.members where
  tn := rfl
  tp := rfl
  members := rfl
  pmembers := rfl
  tnMembers := rfl
  tick := SoftTimer.tick_add ..
  tickRate := SoftTimer.tickRate_add ..
  running := (SoftTimer.running_add ..).2 (Or.inr rfl)
  due := by
    have hstopped : ¬ (s.softTimer.softTimerDel .rtcp).Running .rtcp := fun h =>
      ((SoftTimer.running_del ..).1 h).2 rfl
    exact SoftTimer.elemTick_add_self _ _ hstopped

/-- A member that leaves or times out moves the schedule if `members` falls below `pmembers`, and
    only then. -/
theorem leaving_schedule (s : Session) {event : RtcpEvent} (hevent : event ≠ .rxNonBye)
    (flags : IntervalFlags) (pktSize : UInt32) :
    ((s.countOff flags).rtcpVar.members < s.rtcpVar.pmembers ∧
        Rescheduled s (s.rtcpIntervalHandleRtcpEvent event flags pktSize)
          (s.countOff flags).rtcpVar.members) ∨
      (¬ (s.countOff flags).rtcpVar.members < s.rtcpVar.pmembers ∧
        SameSchedule s (s.rtcpIntervalHandleRtcpEvent event flags pktSize)) := by
  rw [rtcpEvent_leaving s hevent]
  split
  · rename_i hless
    obtain ⟨htn, htp, hm, hpm, htm, htick, hrate, hrun, hdue⟩ :=
      reverseReconsider_rescheduled (s.countOff flags)
    -- counting off moves nothing the schedule is computed from
    exact Or.inl ⟨hless, htn, htp, hm, hpm, htm, htick, hrate, hrun, hdue⟩
  · rename_i hless
    exact Or.inr ⟨hless, SameSchedule.frame.countOff s flags⟩

/-- A present member's BYE is its event followed by its own record and timers. -/
def leaveOn (s : Session) (m : Slot) : Session :=
  (((s.modifyMember m RtpMember.setByeReceived).rtpTimersSenderStop m).rtpTimersMemberStop
    m).rtpTimersLeaveStart m

theorem rtcpHandleByeSource_of_present {s : Session} {ssrc : UInt32} {m : Slot}
    (hm : s.rtpSessionLookupMember ssrc = some m) (hbye : (s.member m).flags.byeReceived = false)
    (pktSize : UInt32) :
    s.rtcpHandleByeSource ssrc pktSize =
      (s.rtcpIntervalHandleRtcpEvent .rxBye ⟨true, (s.member m).flags.rtpHeard⟩
        pktSize).leaveOn m := by
  simp only [rtcpHandleByeSource, hm, hbye]
  rfl

theorem rtcpHandleByeSource_of_absent {s : Session} {ssrc : UInt32}
    (h : ∀ m, s.rtpSessionLookupMember ssrc = some m → (s.member m).flags.byeReceived = true)
    (pktSize : UInt32) : s.rtcpHandleByeSource ssrc pktSize = s := by
  unfold rtcpHandleByeSource
  split
  · rfl
  · rename_i m hm
    rw [if_pos (h m hm)]

theorem Frame.leaveOn {R : Session → Session → Prop} (h : Frame R) (s : Session) (m : Slot) :
    R s (s.leaveOn m) := by
  have hrecord := h.modifyMember s m RtpMember.setByeReceived
  have hsender := h.trans hrecord (h.del _ (e := .sender m) (by simp))
  have hmember := h.trans hsender (h.del _ (e := .member m) (by simp))
  exact h.trans hmember (h.leaveStart _ m)

/-- Where a BYE goes: nowhere, or to the leaving of a present member. -/
theorem Frame.byeSource {R : Session → Session → Prop} (h : Frame R) (s : Session)
    (ssrc pktSize : UInt32) :
    R s (s.rtcpHandleByeSource ssrc pktSize) ∨
      ∃ flags, R (s.rtcpIntervalHandleRtcpEvent .rxBye flags pktSize)
        (s.rtcpHandleByeSource ssrc pktSize) := by
  by_cases habsent :
      ∀ m, s.rtpSessionLookupMember ssrc = some m → (s.member m).flags.byeReceived = true
  · rw [rtcpHandleByeSource_of_absent habsent]
    exact Or.inl (h.refl s)
  · simp only [not_forall, Bool.not_eq_true] at habsent
    obtain ⟨m, hm, hbye⟩ := habsent
    rw [rtcpHandleByeSource_of_present hm hbye]
    exact Or.inr ⟨_, h.leaveOn _ m⟩

theorem Frame.memberTimedout {R : Session → Session → Prop} (h : Frame R) (s : Session)
    (m : Slot) :
    R (s.rtcpIntervalHandleRtcpEvent .timeout ⟨true, (s.member m).flags.rtpHeard⟩ 0)
      (s.rtcpIntervalMemberTimedout m) :=
  h.dealloc _ m

/-- A sender's timeout counts it off `senders`, in a session with the same schedule. -/
theorem Frame.senderTimedout {R : Session → Session → Prop} (h : Frame R) (s : Session)
    (m : Slot) :
    ∃ s', R s s' ∧
      s.rtcpIntervalSenderTimedout m = s'.rtcpIntervalHandleRtcpEvent .timeout ⟨false, true⟩ 0 := by
  have hheard := h.modifyMember s m RtpMember.clearRtpHeard
  unfold rtcpIntervalSenderTimedout
  refine ⟨_, ?_, rfl⟩
  split
  · have hsender := h.trans hheard (h.modifyMember _ m RtpMember.clearSender)
    exact h.trans hsender (h.counts _ _ _ _ _)
  · exact hheard

/-- A property of the schedule has to survive a leaving member, the advance of the wheel and the
    interval timer. -/
theorem ActRules.of_schedule {P : Session → Prop} {g : ActGuard}
    (hsame : ∀ {s s'}, SameSchedule s s' → P s → P s')
    (hleave : ∀ {s event flags pktSize}, event ≠ .rxNonBye → P s →
      P (s.rtcpIntervalHandleRtcpEvent event flags pktSize))
    (hexpire : ∀ {s}, P s → g.expire s → P (s.setTimer s.softTimer.expire))
    (hrtcp : ∀ {s}, P s → g.fire .rtcp s → P s.rtcpIntervalTimeout) : ActRules P g where
  quiet h hP := hsame (.of_quiet h) hP
  rtpSource hP _ := hsame (SameSchedule.frame.rtpHandleSsrc _ _ _ _ _) hP
  rtcpSource hP _ _ := hsame (SameSchedule.frame.rtcpHandleSsrc _ _ _ _) hP
  byeSource {s ssrc fromAddr pktSize} hP _ := by
    rcases SameSchedule.frame.byeSource s ssrc pktSize with h | ⟨flags, h⟩
    · exact hsame h hP
    · exact hsame h (hleave (by decide) hP)
  txCount hP _ := hsame (SameSchedule.frame.rtpTxCount _ _) hP
  expire := hexpire
  fire {s e rest} htop hP hg := by
    have hpop := hsame (.popTimeout s) hP
    cases e with
    | rtcp => exact hrtcp hpop hg
    | member m => exact hsame (SameSchedule.frame.memberTimedout _ m) (hleave (by decide) hpop)
    | sender m =>
        obtain ⟨s', hs', heq⟩ := SameSchedule.frame.senderTimedout
          (s.setTimer s.softTimer.popTimeout) m
        show P (rtcpIntervalSenderTimedout _ m)
        rw [heq]
        exact hleave (by decide) (hsame hs' hpop)
    | leave m => exact hsame (SameSchedule.frame.dealloc _ m) hpop
    | conflict c =>
        exact hsame (s := s.setTimer s.softTimer.popTimeout) ⟨rfl, rfl, rfl, rfl, rfl, rfl⟩ hpop

/-! ## Reverse reconsideration -/

/-- What follows a leaving member's event in the same call leaves the new schedule as it is. -/
theorem Rescheduled.of_same {s s' s'' : Session} {n : UInt32} (h : Rescheduled s s' n)
    (hsame : SameSchedule s' s'') (hmembers : s''.rtcpVar.members = s'.rtcpVar.members)
    (hrun : s'.softTimer.Running .rtcp → s''.softTimer.Running .rtcp)
    (hdue : s''.softTimer.elemTick .rtcp = s'.softTimer.elemTick .rtcp) : Rescheduled s s'' n where
  tn := hsame.tn.trans h.tn
  tp := hsame.tp.trans h.tp
  members := hmembers.trans h.members
  pmembers := hsame.pmembers.trans h.pmembers
  tnMembers := hsame.tnMembers.trans h.tnMembers
  tick := hsame.tick.trans h.tick
  tickRate := hsame.tickRate.trans h.tickRate
  running := hrun h.running
  due := by
    rw [hdue, hsame.tn]
    exact h.due

/-- A BYE that brings `members` below `pmembers` reschedules. -/
theorem byeSource_rescheduled {s : Session} {ssrc pktSize : UInt32} {m : Slot}
    (hm : s.rtpSessionLookupMember ssrc = some m) (hbye : (s.member m).flags.byeReceived = false)
    (hless : s.rtcpVar.members - 1 < s.rtcpVar.pmembers) :
    Rescheduled s (s.rtcpHandleByeSource ssrc pktSize) (s.rtcpVar.members - 1) := by
  have hevent : RtcpEvent.rxBye ≠ .rxNonBye := by decide
  rcases s.leaving_schedule hevent ⟨true, (s.member m).flags.rtpHeard⟩ pktSize with h | h
  · rw [rtcpHandleByeSource_of_present hm hbye]
    refine h.2.of_same (SameSchedule.frame.leaveOn _ m) rfl ?_ ?_
    · intro hrun
      refine (SoftTimer.running_add ..).2 (Or.inl ?_)
      exact (SoftTimer.running_del ..).2 ⟨(SoftTimer.running_del ..).2 ⟨hrun, by simp⟩, by simp⟩
    · exact SoftTimer.elemTick_add_of_ne _ _ (by simp)
  · exact absurd hless h.1

/-- A member timeout that brings `members` below `pmembers` reschedules. -/
theorem memberTimedout_rescheduled {s : Session} (m : Slot)
    (hless : s.rtcpVar.members - 1 < s.rtcpVar.pmembers) :
    Rescheduled s (s.rtcpIntervalMemberTimedout m) (s.rtcpVar.members - 1) := by
  have hevent : RtcpEvent.timeout ≠ .rxNonBye := by decide
  rcases s.leaving_schedule hevent ⟨true, (s.member m).flags.rtpHeard⟩ 0 with h | h
  · refine h.2.of_same (SameSchedule.frame.memberTimedout s m) rfl ?_ rfl
    intro hrun
    exact (SoftTimer.running_del ..).2 ⟨(SoftTimer.running_del ..).2
      ⟨(SoftTimer.running_del ..).2 ⟨hrun, by simp⟩, by simp⟩, by simp⟩
  · exact absurd hless h.1

/-- `pmembers` is the value `members` had when `tn` was last computed. -/
def PmembersKept (s : Session) : Prop := s.rtcpVar.pmembers = s.rtcpVar.tnMembers

instance (s : Session) : Decidable s.PmembersKept := inferInstanceAs (Decidable (_ = _))

/-- The interval timer expires only while `members` is what it was at the last scheduling. -/
def steadyAtExpiry : ActGuard where
  rtp _ _ _ := True
  msg _ _ _ := True
  tx := TxFits
  expire _ := True
  fire e s := e = .rtcp → s.rtcpVar.members = s.rtcpVar.pmembers

instance : steadyAtExpiry.Evaluable where
  rtp _ _ _ := isTrue trivial
  msg _ _ _ := isTrue trivial
  tx _ _ := inferInstanceAs (Decidable (TxFits _ _))
  expire _ := isTrue trivial
  fire _ _ := inferInstanceAs (Decidable (_ → _))

/-- The interval timer recomputes `tn` and leaves `pmembers` as it is. -/
theorem pmembers_intervalTimeout (s : Session) :
    s.rtcpIntervalTimeout.rtcpVar.pmembers = s.rtcpVar.pmembers ∧
      s.rtcpIntervalTimeout.rtcpVar.tnMembers = s.rtcpVar.members := by
  have hdraw := (Quiet.drawInterval s).rtcpVar
  simp only [rtcpIntervalTimeout]
  split
  · have hsend := ((Quiet.rtcpSendReport s.drawInterval.2).rtcpVar).trans hdraw
    have hpm := congrArg RtcpControlVar.pmembers hsend
    have hm := congrArg RtcpControlVar.members hsend
    exact ⟨hpm, hm⟩
  · exact ⟨rfl, rfl⟩

theorem steadyAtExpiry_rules : ActRules PmembersKept steadyAtExpiry := by
  apply ActRules.of_schedule
  · intro s s' h hP
    rw [PmembersKept, h.pmembers, h.tnMembers]
    exact hP
  · intro s event flags pktSize hevent hP
    rcases s.leaving_schedule hevent flags pktSize with ⟨-, h⟩ | ⟨-, h⟩
    · exact h.pmembers.trans h.tnMembers.symm
    · rw [PmembersKept, h.pmembers, h.tnMembers]
      exact hP
  · exact fun hP _ => hP
  · intro s hP hg
    obtain ⟨hpm, htm⟩ := s.pmembers_intervalTimeout
    rw [PmembersKept, hpm, htm]
    exact (hg rfl).symm

theorem pmembersKept_rtpSessionInit (mem : Session) (config : RtpSessionConfig) :
    (mem.rtpSessionInit config).PmembersKept := rfl

/-- Whenever `op` makes a BYE or a member timeout bring `members` below its value at the last
    scheduling, the session reschedules. -/
def Reconsiders (s : Session) : Op → Prop
  | .rxRtcp pkt len fromAddr =>
      ∀ msgs ssrc, msgs ++ [.bye ssrc] <+: rtcpMsgs pkt len →
        let t := Runs.run (handleMsg fromAddr len) (s.setRtcpError .noError) msgs
        ∀ m, t.rtpSessionLookupMember ssrc = some m → (t.member m).flags.byeReceived = false →
          t.rtcpVar.members - 1 < t.rtcpVar.tnMembers →
          Rescheduled t (handleMsg fromAddr len t (.bye ssrc)) (t.rtcpVar.members - 1)
  | .tick =>
      ∀ p ∈ s.tickFirings, ∀ m, p.1 = .member m →
        p.2.rtcpVar.members - 1 < p.2.rtcpVar.tnMembers →
        Rescheduled p.2 (timerCallback p.1 p.2) (p.2.rtcpVar.members - 1)
  | .rxRtp .. | .tx .. => True

theorem PmembersKept.reconsiders {s : Session} (h : s.PmembersKept) {op : Op}
    (hg : steadyAtExpiry.admits s op) : s.Reconsiders op := by
  cases op with
  | rxRtp | tx => trivial
  | rxRtcp pkt len fromAddr =>
      intro msgs ssrc _ t m hm hbye hless
      have hstep : ∀ s msg, PmembersKept s → (handleMsg fromAddr len s msg).PmembersKept :=
        fun s msg hP => steadyAtExpiry_rules.handleMsg hP trivial
      have hstart : (s.setRtcpError .noError).PmembersKept := h
      have ht : t.PmembersKept := Runs.run_invariant hstep hstart msgs
      rw [← ht] at hless
      exact byeSource_rescheduled hm hbye hless
  | tick =>
      intro p hp m hmem hless
      obtain ⟨t, rest, ht, -, hpop⟩ := steadyAtExpiry_rules.firings h hg.1 hg.2 p hp
      have hP : p.2.PmembersKept := by
        rw [hpop]
        exact ht
      rw [← hP] at hless
      rw [hmem]
      exact memberTimedout_rescheduled m hless

/-- In every run in which the interval timer expires only while `members` equals `pmembers`,
    `pmembers` stays the value of `members` when `tn` was last computed, and every admitted call
    reschedules when it should. -/
theorem pmembersKept_run (mem : Session) (config : RtpSessionConfig) (ops : List Op)
    (hg : Runs.Guarded step steadyAtExpiry.admits (mem.rtpSessionInit config) ops) :
    (runSession mem config ops).PmembersKept ∧
      ∀ op, steadyAtExpiry.admits (runSession mem config ops) op →
        (runSession mem config ops).Reconsiders op := by
  have hkept : (runSession mem config ops).PmembersKept :=
    steadyAtExpiry_rules.run hg (pmembersKept_rtpSessionInit mem config)
  exact ⟨hkept, fun op hop => hkept.reconsiders hop⟩

/-- A session that has heard SSRC 9 come and go before its interval timer expired. -/
def hadCompany : Session :=
  runSession (zeroed (.still .zero)) (plainConfig 1000 4)
    (.rxRtcp (byeFor 9) 16 (.ofPort 7) :: List.replicate 12 .tick)

/-- It is alone again, and has just handled the first message of a packet, a RR from SSRC 9. -/
def heardAgain : Session := handleMsg (.ofPort 7) 16 (hadCompany.setRtcpError .noError) (.rr 9 [])

/-- When the packet goes on with a BYE in its own name it reschedules. -/
theorem pmembersKept_hadCompany :
    hadCompany.PmembersKept ∧ Rescheduled heardAgain (handleMsg (.ofPort 7) 16 heardAgain (.bye 2)) 0 := by
  obtain ⟨hkept, hreconsiders⟩ := pmembersKept_run (zeroed (.still .zero)) (plainConfig 1000 4)
    (.rxRtcp (byeFor 9) 16 (.ofPort 7) :: List.replicate 12 .tick) (by decide +kernel)
  have hbye : Rescheduled heardAgain (handleMsg (.ofPort 7) 16 heardAgain (.bye 2))
      (heardAgain.rtcpVar.members - 1) :=
    hreconsiders (.rxRtcp (byeFor 2) 16 (.ofPort 7)) (by decide +kernel) [.rr 9 []] 2 (by decide +kernel) 0
      (by decide +kernel) (by decide +kernel) (by decide +kernel)
  have hleft : heardAgain.rtcpVar.members - 1 = 0 := by decide +kernel
  rw [hleft] at hbye
  exact ⟨hkept, hbye⟩

/-- A session that hears SSRC 9 come and stay: the interval timer recomputes `tn` for two members
    and leaves `pmembers` at one. -/
theorem pmembers_stays_after_expiry :
    ¬ ∀ (mem : Session) (config : RtpSessionConfig) (ops : List Op),
      (runSession mem config ops).PmembersKept := by
  intro h
  have hkept := h (zeroed (.still .zero)) (plainConfig 1000 4)
    (.rxRtcp (rrFrom 9) 8 (.ofPort 7) :: List.replicate 11 .tick)
  exact absurd hkept (by decide +kernel)

end Session

end Prtp
