import Prtp.Clock

set_option autoImplicit false

/-! # The wheel of a session

Whatever a session does, its wheel counts at 100 ms and no running timer is overdue: every delay the
code asks for is at least one tick, and a tick runs all the callbacks it owes. So what a timer has left
is set when it is started and goes down by one a tick. -/

namespace Prtp

open SoftTimer (Milsec)

namespace Session

/-- A delay in ticks of 100 ms. -/
theorem toNat_getSoftTick {timer : SoftTimer TimerElem} (hrate : timer.tickRate = 100)
    (d : Milsec) : (timer.getSoftTickFromMilsec d).toNat = d.1.toNat ⌈/⌉ 100 := by
  rw [SoftTimer.getSoftTickFromMilsec_eq timer (by rw [hrate]; decide) d.2.1 d.2.2, hrate]
  rfl

theorem toNat_getSoftTick_pos {timer : SoftTimer TimerElem} (hrate : timer.tickRate = 100)
    (d : Milsec) : 0 < (timer.getSoftTickFromMilsec d).toNat := by
  rw [toNat_getSoftTick hrate]
  have hd := d.2.1
  exact SoftTimer.ceilDiv_pos (by omega) (by decide)

theorem intervalDelta_bounds (tc : ℚ) (tn : Option ℚ) :
    1 ≤ rtcpIntervalCalDeltaInMs tc tn ∧ rtcpIntervalCalDeltaInMs tc tn < 2 ^ 31 := by
  have hclamp : ∀ n : Int, n < 2 ^ 31 →
      1 ≤ (if n ≤ 0 then 1 else n) ∧ (if n ≤ 0 then 1 else n) < 2 ^ 31 := by
    intro n hn
    split <;> omega
  cases tn with
  | none => exact hclamp 0 (by decide)
  | some tn => exact hclamp _ (Int32.toInt_lt _)

/-- The delay `rtcp_interval_schedule` asks for. -/
def intervalDelay (tc : ℚ) (tn : Option ℚ) : Milsec := ⟨_, intervalDelta_bounds tc tn⟩

/-- The interval timer starts itself again. -/
theorem softTimer_intervalTimeout (s : Session) : ∃ tc tn,
    s.rtcpIntervalTimeout.softTimer = s.softTimer.softTimerAdd .rtcp (intervalDelay tc tn) := by
  have hdraw := (Quiet.drawInterval s).timer
  simp only [rtcpIntervalTimeout]
  split
  · have hsend := ((Quiet.drawInterval s).trans (.rtcpSendReport s.drawInterval.2)).timer
    rw [← hsend]
    exact ⟨_, _, rfl⟩
  · rw [← hdraw]
    exact ⟨_, _, rfl⟩

/-- A leaving member restarts the interval timer or leaves the wheel alone. -/
theorem softTimer_leaving (s : Session) {event : RtcpEvent} (hevent : event ≠ .rxNonBye)
    (flags : IntervalFlags) (pktSize : UInt32) :
    (s.rtcpIntervalHandleRtcpEvent event flags pktSize).softTimer = s.softTimer ∨ ∃ tc tn,
      (s.rtcpIntervalHandleRtcpEvent event flags pktSize).softTimer =
        (s.softTimer.softTimerDel .rtcp).softTimerAdd .rtcp (intervalDelay tc tn) := by
  rw [rtcpEvent_leaving s hevent]
  split
  · exact Or.inr ⟨_, _, rfl⟩
  · exact Or.inl rfl

/-- How many ticks a timer of the session has left. -/
def ticksLeft (s : Session) (e : TimerElem) : Option ℕ := s.softTimer.remaining e

/-! ## No timer is overdue -/

/-- The wheel counts at 100 ms, and a timer with no tick left is about to fire. -/
structure WheelKept (s : Session) : Prop where
  rate : s.softTimer.tickRate = 100
  ahead : s.softTimer.Ahead

namespace WheelKept

theorem of_timer {s s' : Session} (h : s'.softTimer = s.softTimer) (hs : s.WheelKept) :
    s'.WheelKept :=
  ⟨by rw [h]; exact hs.rate, by rw [h]; exact hs.ahead⟩

theorem add {s : Session} (hs : s.WheelKept) (e : TimerElem) (d : Milsec) :
    (s.softTimerAdd e d).WheelKept :=
  ⟨(SoftTimer.tickRate_add ..).trans hs.rate, hs.ahead.add e (toNat_getSoftTick_pos hs.rate d)⟩

theorem del {s : Session} (hs : s.WheelKept) (e : TimerElem) : (s.softTimerDel e).WheelKept :=
  ⟨hs.rate, hs.ahead.del e⟩

theorem frame : Frame fun s s' => s.WheelKept → s'.WheelKept where
  trans h h' hs := h' (h hs)
  quiet h := of_timer h.timer
  add _ e d _ hs := hs.add e d
  del _ e _ hs := hs.del e
  table _ _ := of_timer rfl
  conflicts _ _ := of_timer rfl
  counts _ _ _ _ _ := of_timer rfl

theorem leaving {s : Session} (hs : s.WheelKept) {event : RtcpEvent} (hevent : event ≠ .rxNonBye)
    (flags : IntervalFlags) (pktSize : UInt32) :
    (s.rtcpIntervalHandleRtcpEvent event flags pktSize).WheelKept := by
  rcases s.softTimer_leaving hevent flags pktSize with h | ⟨tc, tn, h⟩
  · exact of_timer h hs
  · exact of_timer h ((hs.del .rtcp).add .rtcp (intervalDelay tc tn))

theorem intervalTimeout {s : Session} (hs : s.WheelKept) : s.rtcpIntervalTimeout.WheelKept := by
  obtain ⟨tc, tn, h⟩ := s.softTimer_intervalTimeout
  exact of_timer h (hs.add .rtcp (intervalDelay tc tn))

end WheelKept

/-- What a relation has to survive, besides the changes of a frame, to hold across every callback. -/
theorem Frame.timerCallback {R : Session → Session → Prop} (h : Frame R)
    (hleave : ∀ s {event : RtcpEvent} flags pktSize, event ≠ .rxNonBye →
      R s (s.rtcpIntervalHandleRtcpEvent event flags pktSize))
    (hrtcp : ∀ s, R s s.rtcpIntervalTimeout) (e : TimerElem) (s : Session) :
    R s (timerCallback e s) := by
  cases e with
  | rtcp => exact hrtcp s
  | member m => exact h.trans (hleave s _ 0 (by decide)) (h.memberTimedout s m)
  | sender m =>
      obtain ⟨s', hs', heq⟩ := h.senderTimedout s m
      show R s (s.rtcpIntervalSenderTimedout m)
      rw [heq]
      exact h.trans hs' (hleave s' _ 0 (by decide))
  | leave m => exact h.dealloc s m
  | conflict c => exact h.conflicts s _

/-- A relation that survives these is a rule for what it carries along. -/
theorem Frame.actRules {P : Session → Prop} (h : Frame fun s s' => P s → P s')
    (hleave : ∀ s {event : RtcpEvent} flags pktSize, event ≠ .rxNonBye → P s →
      P (s.rtcpIntervalHandleRtcpEvent event flags pktSize))
    (hrtcp : ∀ s, P s → P s.rtcpIntervalTimeout) (hpop : ∀ {s e rest},
      s.softTimer.timeoutList = e :: rest → P s → P (s.setTimer s.softTimer.popTimeout))
    {G : Session → Prop} (hexpire : ∀ {s}, P s → G s → P (s.setTimer s.softTimer.expire)) :
    ActRules P { ActGuard.any with expire := G } where
  quiet hq hP := h.quiet hq hP
  rtpSource hP _ := h.rtpHandleSsrc _ _ _ _ _ hP
  rtcpSource hP _ _ := h.rtcpHandleSsrc _ _ _ _ hP
  byeSource {s ssrc fromAddr pktSize} hP _ := by
    rcases h.byeSource s ssrc pktSize with hsame | ⟨flags, hsame⟩
    · exact hsame hP
    · exact hsame (hleave s flags pktSize (by decide) hP)
  txCount hP _ := h.rtpTxCount _ _ hP
  expire := hexpire
  fire htop hP _ := h.timerCallback hleave hrtcp _ _ (hpop htop hP)

theorem wheelKept_rules :
    ActRules WheelKept { ActGuard.any with expire := fun s => s.softTimer.timeoutList = [] } :=
  WheelKept.frame.actRules (fun _ _ _ _ hevent hs => hs.leaving hevent _ _)
    (fun _ hs => hs.intervalTimeout) (fun htop hs => ⟨hs.rate, hs.ahead.popTimeout htop⟩)
    (fun hs hempty => ⟨hs.rate, hs.ahead.expire hempty⟩)

/-! ## Every callback owed is run -/

theorem shrinkFrame : Frame fun s s' =>
    s'.softTimer.timeoutList.length ≤ s.softTimer.timeoutList.length where
  trans h h' := h'.trans h
  quiet h := by rw [h.timer]
  add s e d _ := by
    have hsame : (s.softTimerAdd e d).softTimer.timeoutList = s.softTimer.timeoutList :=
      SoftTimer.timeoutList_add ..
    rw [hsame]
  del _ _ _ := List.length_erase_le
  table _ _ := Nat.le_refl _
  conflicts _ _ := Nat.le_refl _
  counts _ _ _ _ _ := Nat.le_refl _

theorem shrink_leaving (s : Session) {event : RtcpEvent} (flags : IntervalFlags)
    (pktSize : UInt32) (hevent : event ≠ .rxNonBye) :
    (s.rtcpIntervalHandleRtcpEvent event flags pktSize).softTimer.timeoutList.length ≤
      s.softTimer.timeoutList.length := by
  rcases s.softTimer_leaving hevent flags pktSize with h | ⟨tc, tn, h⟩
  · rw [h]
  · rw [h, SoftTimer.timeoutList_add]
    exact List.length_erase_le

theorem shrink_intervalTimeout (s : Session) :
    s.rtcpIntervalTimeout.softTimer.timeoutList.length ≤ s.softTimer.timeoutList.length := by
  obtain ⟨tc, tn, h⟩ := s.softTimer_intervalTimeout
  rw [h, SoftTimer.timeoutList_add]

/-- Where no callback is owed, none is owed until the wheel advances. -/
theorem unowed_rules : ActRules (fun s => s.softTimer.timeoutList.length ≤ 0)
    { ActGuard.any with expire := fun _ => False } := by
  have hframe : Frame fun s s' =>
      s.softTimer.timeoutList.length ≤ 0 → s'.softTimer.timeoutList.length ≤ 0 :=
    shrinkFrame.mono (fun hle hs => hle.trans hs) fun h h' hs => h' (h hs)
  refine hframe.actRules ?_ ?_ ?_ ?_
  · intro s event flags pktSize hevent hs
    exact (s.shrink_leaving flags pktSize hevent).trans hs
  · intro s hs
    exact s.shrink_intervalTimeout.trans hs
  · intro s e rest htop hs
    rw [htop] at hs
    exact absurd hs (Nat.not_succ_le_zero _)
  · intro s _ hfalse
    exact hfalse.elim

/-- Between two calls no timer is overdue and no callback is owed. -/
structure Settled (s : Session) : Prop extends WheelKept s where
  empty : s.softTimer.timeoutList = []

theorem settled_step {s : Session} (h : s.Settled) (op : Op) : (step s op).Settled where
  toWheelKept := wheelKept_rules.step s op h.toWheelKept (admits_of_expire fun _ => h.empty)
  empty := by
    have hnone : op ≠ .tick → (step s op).softTimer.timeoutList = [] := by
      intro hop
      have hlen := unowed_rules.step s op (by rw [h.empty]; rfl)
        (admits_of_expire fun htick => absurd htick hop)
      exact List.length_eq_zero_iff.1 (Nat.le_zero.1 hlen)
    cases op with
    | tick =>
        exact SoftTimer.timeoutList_softTimerDrive (fun _ _ => rfl)
          (shrinkFrame.timerCallback shrink_leaving shrink_intervalTimeout) s
    | rxRtp | rxRtcp | tx => exact hnone (by simp)

/-- Initialisation starts the interval timer and no other. -/
theorem softTimer_rtpSessionInit (mem : Session) (config : RtpSessionConfig) : ∃ tc tn,
    (mem.rtpSessionInit config).softTimer =
      (mem.softTimer.softTimerInit 100).softTimerAdd .rtcp (intervalDelay tc tn) := by
  have hself : ((mem.rtpSessionBlank config).rtpSessionInitSelf config).softTimer =
      mem.softTimer.softTimerInit 100 := by
    simp only [rtpSessionInitSelf]
    cases halloc : (mem.rtpSessionBlank config).rtpRandom32.2.rtpSessionAllocMember
        (mem.rtpSessionBlank config).rtpRandom32.1 with
    | none => rfl
    | some p =>
        obtain ⟨-, -, -, htimer, -⟩ := alloc_eq_some halloc
        exact htimer
  rw [rtpSessionInit_eq, ← hself]
  exact ⟨_, _, rfl⟩

theorem settled_rtpSessionInit (mem : Session) (config : RtpSessionConfig) :
    (mem.rtpSessionInit config).Settled := by
  obtain ⟨tc, tn, h⟩ := softTimer_rtpSessionInit mem config
  have hrate : (mem.softTimer.softTimerInit 100).tickRate = 100 := rfl
  refine ⟨⟨?_, ?_⟩, ?_⟩
  · rw [h, SoftTimer.tickRate_add, hrate]
  · rw [h]
    exact (SoftTimer.ahead_init _ _).add .rtcp (toNat_getSoftTick_pos hrate _)
  · rw [h, SoftTimer.timeoutList_add]
    rfl

theorem settled_runSession (mem : Session) (config : RtpSessionConfig) (ops : List Op) :
    (runSession mem config ops).Settled := by
  have hstep : ∀ (s : Session) op, s.Settled → (step s op).Settled := fun s op h => settled_step h op
  exact Runs.run_invariant hstep (settled_rtpSessionInit mem config) ops

/-- Between two calls no callback is owed, so a guard may ask for it. -/
theorem Settled.guarded {g : ActGuard} {s : Session} (h : s.Settled) {ops : List Op}
    (hg : Runs.Guarded step g.admits s ops) :
    Runs.Guarded step
      (ActGuard.admits { g with expire := fun s => s.softTimer.timeoutList = [] }) s ops := by
  induction ops generalizing s with
  | nil => trivial
  | cons op ops ih =>
      obtain ⟨hop, hrest⟩ := hg
      exact ⟨ActGuard.admits_with_expire hop fun _ => h.empty, ih (settled_step h op) hrest⟩

end Session

end Prtp
