import Prtp.Deadlines
import Mathlib.Data.List.Chain
import Mathlib.Tactic.Ring

set_option autoImplicit false

/-! # How often a session reports

The interval is drawn anew at every expiry of its timer, members that come and go move the timer and
`tp`, and the clock wraps around. Whatever they do, `tp` never lies further back than the last attempt
to report, so the next attempt is at least the shortest interval away. -/

namespace Prtp

namespace Session

/-! ## The shortest interval -/

/-- The least that `rtcp_interval_calc` returns, in seconds: half the minimum time, and half of that
    again before the first report. -/
def leastInterval (initial : Bool) : ℚ := (if initial then 5 / 4 else 5 / 2) / compensation

theorem intervalBase_ge {cvar : RtcpControlVar} (hbw : 0 < cvar.rtcpBw) :
    ∃ t, rtcpIntervalBase cvar = some t ∧ (if cvar.initial then 5 / 2 else 5) ≤ t := by
  have hclamp : ∀ t least : ℚ, least ≤ if t < least then least else t := by
    intro t least
    split
    · exact le_refl least
    · exact not_lt.1 ‹_›
  have hpos : ∀ bw : ℚ, 0 < bw → bw ≠ 0 := fun bw h => h.ne'
  simp only [rtcpIntervalBase]
  split
  · split
    · rw [if_neg (hpos _ (by positivity))]
      exact ⟨_, rfl, hclamp _ _⟩
    · rw [if_neg (hpos _ (by linarith))]
      exact ⟨_, rfl, hclamp _ _⟩
  · rw [if_neg (hpos _ hbw)]
    exact ⟨_, rfl, hclamp _ _⟩

theorem drawInterval_ge {s : Session} (hbw : 0 < s.rtcpVar.rtcpBw) :
    ∃ t, s.drawInterval.1 = some t ∧ leastInterval s.rtcpVar.initial ≤ t := by
  obtain ⟨t, ht, hle⟩ := intervalBase_ge hbw
  obtain ⟨hdraw, -⟩ := (s.env.drand48 0).2
  refine ⟨t * ((s.env.drand48 0).1 + 1 / 2) / compensation, ?_, ?_⟩
  · show (rtcpIntervalBase s.rtcpVar).map _ = _
    rw [ht]
    rfl
  · have hmin : (0 : ℚ) ≤ if s.rtcpVar.initial then 5 / 2 else 5 := by split <;> norm_num
    have hhalf : (if s.rtcpVar.initial then 5 / 2 else 5) * (1 / 2) ≤
        t * ((s.env.drand48 0).1 + 1 / 2) :=
      mul_le_mul hle (by linarith) (by norm_num) (hmin.trans hle)
    have hcomp : (0 : ℚ) < compensation := by norm_num
    rw [leastInterval]
    refine div_le_div_of_nonneg_right ?_ hcomp.le
    refine le_trans (le_of_eq ?_) hhalf
    split <;> norm_num

/-! ## The attempts of a run -/

/-- The ticks that have passed, and those at which `rtcp_send_report` was called. -/
structure Pace where
  now : ℕ
  attempts : List ℕ

/-- An expiry of the interval timer is noted if it calls `rtcp_send_report`. -/
def paceHistory : History Pace where
  rtp _ x _ _ := x
  msg _ x _ _ := x
  tx x _ := x
  expire x _ := { x with now := x.now + 1 }
  fire x s e :=
    if e = .rtcp ∧ s.sendReportCall.isSome then { x with attempts := x.attempts ++ [x.now] } else x

/-- The ticks of a run at which `rtcp_send_report` is called, in order. -/
def reportAttempts (mem : Session) (config : RtpSessionConfig) (ops : List Op) : List ℕ :=
  (paceHistory.run ⟨0, []⟩ (mem.rtpSessionInit config) ops).attempts

/-- The tick of the last attempt, or of the initialisation. -/
def Pace.last (x : Pace) : ℕ := x.attempts.getLast?.getD 0

/-- The interval timer is running, and due at a tick still to come. -/
structure RtcpTimerArmed (s : Session) : Prop where
  running : s.isSoftTimerRunning .rtcp = true
  due : ∃ n, 0 < n ∧ n ≤ 2 ^ 31 ∧ s.softTimer.elemTick .rtcp = s.softTimer.tick + UInt32.ofNat n

/-- The interval timer is about to fire or has some ticks left. -/
def RtcpPending (s : Session) : Prop := ∃ n, s.ticksLeft .rtcp = some n ∧ n ≤ 2 ^ 31

/-- A stopped interval timer that is started is pending. -/
theorem RtcpPending.of_add {s : Session} {timer : SoftTimer TimerElem}
    (hrate : timer.tickRate = 100) (hstopped : timer.remaining .rtcp = none)
    (d : SoftTimer.Milsec) (h : s.softTimer = timer.softTimerAdd .rtcp d) : s.RtcpPending := by
  refine ⟨d.1.toNat ⌈/⌉ 100, ?_, ?_⟩
  · rw [ticksLeft, h, SoftTimer.remaining_add_self hstopped, toNat_getSoftTick hrate]
  · have hpos := d.2.1
    have hmax := d.2.2
    rw [Nat.ceilDiv_eq_add_pred_div]
    omega

/-! ## Between the reports -/

/-- What the pace of the reports depends on is the same. -/
structure SamePace (s s' : Session) : Prop where
  schedule : SameSchedule s s'
  rtcpBw : s'.rtcpVar.rtcpBw = s.rtcpVar.rtcpBw
  initial : s'.rtcpVar.initial = s.rtcpVar.initial
  left : s'.ticksLeft .rtcp = s.ticksLeft .rtcp

theorem SamePace.of_eq {s s' : Session} (htimer : s'.softTimer = s.softTimer)
    (hvar : ∃ members senders avg sent, s'.rtcpVar =
      { s.rtcpVar with members := members, senders := senders, avgRtcpSize := avg,
                       weSent := sent }) : SamePace s s' := by
  obtain ⟨members, senders, avg, sent, h⟩ := hvar
  refine ⟨⟨by rw [htimer], by rw [htimer], by rw [h], by rw [h], by rw [h], by rw [h]⟩, by rw [h],
    by rw [h], by rw [ticksLeft, ticksLeft, htimer]⟩

theorem SamePace.frame : Frame SamePace where
  trans h h' := ⟨h.schedule.trans h'.schedule, h'.rtcpBw.trans h.rtcpBw,
    h'.initial.trans h.initial, h'.left.trans h.left⟩
  quiet h := .of_eq h.timer ⟨_, _, _, _, h.rtcpVar⟩
  add s e d he := ⟨.softTimerAdd s e d, rfl, rfl, SoftTimer.remaining_add_of_ne _ he.symm _⟩
  del s e he := by
    refine ⟨.softTimerDel s e, rfl, rfl, ?_⟩
    exact (SoftTimer.remaining_del ..).trans (if_neg he.symm)
  table _ _ := .of_eq rfl ⟨_, _, _, _, rfl⟩
  conflicts _ _ := .of_eq rfl ⟨_, _, _, _, rfl⟩
  counts _ _ _ _ _ := .of_eq rfl ⟨_, _, _, _, rfl⟩

theorem SamePace.popTimeout {s : Session} {e : TimerElem} {rest : List TimerElem}
    (htop : s.softTimer.timeoutList = e :: rest) (he : e ≠ .rtcp) :
    SamePace s (s.setTimer s.softTimer.popTimeout) :=
  ⟨.popTimeout s, rfl, rfl, (SoftTimer.remaining_popTimeout htop _).trans (if_neg he.symm)⟩

/-- The pace of the reports: `x.now` ticks have passed, `tp` lies no further back than the last
    attempt, and the attempts so far are as far apart as they must be. -/
structure Paced (x : Pace) (s : Session) : Prop where
  clock : s.ClockAt (UInt32.ofNat x.now) 100
  rtcpBw : 0 < s.rtcpVar.rtcpBw
  initial : x.attempts ≠ [] → s.rtcpVar.initial = false
  reached : x.last ≤ x.now
  since : s.rtcpCurrentTime - s.rtcpVar.tp ≤ elapsed x.now 100 - elapsed x.last 100
  first : ∀ t ∈ x.attempts.head?, leastInterval true ≤ elapsed t 100
  spaced : x.attempts.IsChain fun t t' => elapsed t 100 + leastInterval false ≤ elapsed t' 100

theorem intervalTimeout_sent (s : Session) {s' : Session} (h : s.sendReportCall = some s') :
    s.rtcpIntervalTimeout.rtcpVar.tp = s.rtcpCurrentTime ∧
      s.rtcpIntervalTimeout.rtcpVar.initial = false ∧
      s.rtcpIntervalTimeout.rtcpVar.rtcpBw = s.rtcpVar.rtcpBw := by
  have hsend := ((Quiet.drawInterval s).trans (.rtcpSendReport s.drawInterval.2)).rtcpVar
  simp only [sendReportCall] at h
  simp only [rtcpIntervalTimeout]
  split at h
  · rename_i hle
    have hbw := congrArg RtcpControlVar.rtcpBw hsend
    rw [if_pos hle]
    exact ⟨rfl, rfl, hbw⟩
  · exact absurd h (by simp)

theorem intervalTimeout_skipped (s : Session) (h : s.sendReportCall = none) :
    s.rtcpIntervalTimeout.rtcpVar.tp = s.rtcpVar.tp ∧
      s.rtcpIntervalTimeout.rtcpVar.initial = s.rtcpVar.initial ∧
      s.rtcpIntervalTimeout.rtcpVar.rtcpBw = s.rtcpVar.rtcpBw := by
  simp only [sendReportCall] at h
  simp only [rtcpIntervalTimeout]
  split at h
  · exact absurd h (by simp)
  · rename_i hle
    rw [if_neg hle]
    exact ⟨rfl, rfl, rfl⟩

namespace Paced

variable {x : Pace} {s s' : Session}

theorem of_same (h : Paced x s) (hsame : SamePace s s') : Paced x s' where
  clock := ⟨hsame.schedule.tick.trans h.clock.1, hsame.schedule.tickRate.trans h.clock.2⟩
  rtcpBw := by rw [hsame.rtcpBw]; exact h.rtcpBw
  initial hne := hsame.initial.trans (h.initial hne)
  reached := h.reached
  since := by rw [hsame.schedule.currentTime, hsame.schedule.tp]; exact h.since
  first := h.first
  spaced := h.spaced

theorem elapsed_mono {n m : ℕ} (h : n ≤ m) : elapsed n 100 ≤ elapsed m 100 := by
  have hcast : (n : ℚ) ≤ m := by exact_mod_cast h
  unfold elapsed
  gcongr

/-- Reverse reconsideration moves `tp` towards now. -/
theorem leaving (h : Paced x s) {event : RtcpEvent} (hevent : event ≠ .rxNonBye)
    (flags : IntervalFlags) (pktSize : UInt32) :
    Paced x (s.rtcpIntervalHandleRtcpEvent event flags pktSize) := by
  rw [rtcpEvent_leaving s hevent]
  split
  · rename_i hless
    have hcount : Paced x (s.countOff flags) := h.of_same (SamePace.frame.countOff s flags)
    have hfell : (s.countOff flags).rtcpVar.members < (s.countOff flags).rtcpVar.pmembers := hless
    generalize s.countOff flags = t at hcount hfell
    obtain ⟨-, htp, -, -, -, htick, hrate, -⟩ := reverseReconsider_rescheduled t
    have htime := currentTime_congr htick hrate
    refine ⟨⟨htick.trans hcount.clock.1, hrate.trans hcount.clock.2⟩, hcount.rtcpBw,
      hcount.initial, hcount.reached, ?_, hcount.first, hcount.spaced⟩
    have hlt : (t.rtcpVar.members.toNat : ℚ) < t.rtcpVar.pmembers.toNat := by
      exact_mod_cast UInt32.lt_iff_toNat_lt.1 hfell
    have hpm : (0 : ℚ) < t.rtcpVar.pmembers.toNat := lt_of_le_of_lt (Nat.cast_nonneg _) hlt
    have hratio : (t.rtcpVar.members.toNat : ℚ) / t.rtcpVar.pmembers.toNat ≤ 1 :=
      (div_le_one hpm).2 hlt.le
    have hzero : (0 : ℚ) ≤ (t.rtcpVar.members.toNat : ℚ) / t.rtcpVar.pmembers.toNat := by positivity
    have hsince := hcount.since
    have hpast := elapsed_mono hcount.reached
    rw [htime, htp, sub_sub_cancel]
    rcases le_or_gt 0 (t.rtcpCurrentTime - t.rtcpVar.tp) with hpos | hneg
    · exact (mul_le_of_le_one_left hpos hratio).trans hsince
    · exact (mul_nonpos_of_nonneg_of_nonpos hzero hneg.le).trans (sub_nonneg.2 hpast)
  · exact h.of_same (SamePace.frame.countOff s flags)

theorem leastInterval_false_le (initial : Bool) :
    leastInterval true ≤ leastInterval initial := by
  cases initial with
  | true => exact le_refl _
  | false => norm_num [leastInterval]

/-- An expiry of the interval timer that reports comes late enough after the last attempt. -/
theorem intervalTimeout (h : Paced x s) :
    Paced (paceHistory.fire x s .rtcp) s.rtcpIntervalTimeout := by
  obtain ⟨t, ht, hleast⟩ := drawInterval_ge h.rtcpBw
  have hdraw := (Quiet.drawInterval s).rtcpVar
  have hclock : s.rtcpIntervalTimeout.ClockAt (UInt32.ofNat x.now) 100 :=
    clockAt_intervalTimeout h.clock
  have htime : s.rtcpIntervalTimeout.rtcpCurrentTime = s.rtcpCurrentTime :=
    currentTime_congr (hclock.1.trans h.clock.1.symm) (hclock.2.trans h.clock.2.symm)
  by_cases hle : s.rtcpVar.tp + t ≤ s.rtcpCurrentTime
  · have hcall : s.sendReportCall = some s.drawInterval.2 := sendReportCall_of_elapsed ht hle
    obtain ⟨htp, hinitial, hbw⟩ := s.intervalTimeout_sent hcall
    have hlast : leastInterval s.rtcpVar.initial ≤ elapsed x.now 100 - elapsed x.last 100 := by
      have hsince := h.since
      linarith
    have hnote : paceHistory.fire x s .rtcp = { x with attempts := x.attempts ++ [x.now] } := by
      simp [paceHistory, hcall]
    have hnew : (Pace.mk x.now (x.attempts ++ [x.now])).last = x.now := by simp [Pace.last]
    rw [hnote]
    refine ⟨hclock, by rw [hbw]; exact h.rtcpBw, fun _ => hinitial, hnew.le, ?_, ?_, ?_⟩
    · rw [htime, htp, hnew, sub_self, sub_self]
    · intro t' ht'
      cases hold : x.attempts with
      | nil =>
          rw [hold] at ht'
          obtain rfl : x.now = t' := by simpa using ht'
          have hzero : elapsed x.last 100 = 0 := by simp [Pace.last, hold, elapsed]
          rw [hzero, sub_zero] at hlast
          exact (leastInterval_false_le _).trans hlast
      | cons a rest =>
          apply h.first
          rw [hold] at ht' ⊢
          exact ht'
    · refine h.spaced.append (.singleton _) ?_
      intro a ha b hb
      obtain rfl : x.now = b := by simpa using hb
      have hne : x.attempts ≠ [] := by
        rintro hnil
        rw [hnil] at ha
        exact absurd ha (by simp)
      have hlasteq : x.last = a := by rw [Pace.last, Option.mem_def.1 ha]; rfl
      rw [h.initial hne, hlasteq] at hlast
      linarith
  · have hcall : s.sendReportCall = none := by
      simp [sendReportCall, ht, show s.drawInterval.2.rtcpVar.tp = s.rtcpVar.tp from rfl, hle]
    obtain ⟨htp, hinitial, hbw⟩ := s.intervalTimeout_skipped hcall
    have hnote : paceHistory.fire x s .rtcp = x := by simp [paceHistory, hcall]
    rw [hnote]
    exact ⟨hclock, by rw [hbw]; exact h.rtcpBw, fun hne => hinitial.trans (h.initial hne),
      h.reached, by rw [htime, htp]; exact h.since, h.first, h.spaced⟩

end Paced

/-! ## Runs -/

/-- The pace is kept and the interval timer is pending, in a wheel that is kept. -/
structure PaceKept (x : Pace) (s : Session) : Prop where
  paced : Paced x s
  pending : s.RtcpPending
  wheel : s.WheelKept

theorem PaceKept.of_same {x : Pace} {s s' : Session} (h : PaceKept x s) (hsame : SamePace s s')
    (hwheel : s'.WheelKept) : PaceKept x s' := by
  refine ⟨h.paced.of_same hsame, ?_, hwheel⟩
  obtain ⟨n, hn, hmax⟩ := h.pending
  exact ⟨n, hsame.left.trans hn, hmax⟩

theorem PaceKept.frame (x : Pace) : Frame fun s s' => PaceKept x s → PaceKept x s' where
  trans h h' hs := h' (h hs)
  quiet hq h := h.of_same (SamePace.frame.quiet hq) (WheelKept.frame.quiet hq h.wheel)
  add s _ d he h := h.of_same (SamePace.frame.add s d he) (WheelKept.frame.add s d he h.wheel)
  del s _ he h := h.of_same (SamePace.frame.del s he) (WheelKept.frame.del s he h.wheel)
  table s mt h := h.of_same (SamePace.frame.table s mt) (WheelKept.frame.table s mt h.wheel)
  conflicts s t h :=
    h.of_same (SamePace.frame.conflicts s t) (WheelKept.frame.conflicts s t h.wheel)
  counts s members senders avg sent h :=
    h.of_same (SamePace.frame.counts s members senders avg sent)
      (WheelKept.frame.counts s members senders avg sent h.wheel)

theorem PaceKept.leaving {x : Pace} {s : Session} (h : PaceKept x s) {event : RtcpEvent}
    (hevent : event ≠ .rxNonBye) (flags : IntervalFlags) (pktSize : UInt32) :
    PaceKept x (s.rtcpIntervalHandleRtcpEvent event flags pktSize) := by
  refine ⟨h.paced.leaving hevent flags pktSize, ?_, h.wheel.leaving hevent flags pktSize⟩
  rcases s.softTimer_leaving hevent flags pktSize with hsame | ⟨tc, tn, hrestart⟩
  · rw [RtcpPending, ticksLeft, hsame]
    exact h.pending
  · have hstopped : (s.softTimer.softTimerDel .rtcp).remaining .rtcp = none :=
      (SoftTimer.remaining_del ..).trans (if_pos rfl)
    exact .of_add (s.softTimer.tickRate_del .rtcp ▸ h.wheel.rate) hstopped _ hrestart

/-- When the interval timer has fired it starts itself again. -/
theorem PaceKept.intervalTimeout {x : Pace} {s : Session} (h : Paced x s) (hwheel : s.WheelKept)
    (hstopped : s.ticksLeft .rtcp = none) :
    PaceKept (paceHistory.fire x s .rtcp) s.rtcpIntervalTimeout := by
  obtain ⟨tc, tn, hstart⟩ := s.softTimer_intervalTimeout
  exact ⟨h.intervalTimeout, .of_add hwheel.rate hstopped _ hstart, hwheel.intervalTimeout⟩

theorem PaceKept.expire {x : Pace} {s : Session} (h : PaceKept x s)
    (hempty : s.softTimer.timeoutList = []) :
    PaceKept (paceHistory.expire x s) (s.setTimer s.softTimer.expire) := by
  have hclock : (s.setTimer s.softTimer.expire).ClockAt (UInt32.ofNat (x.now + 1)) 100 := by
    refine ⟨?_, h.paced.clock.2⟩
    rw [UInt32.ofNat_add, ← h.paced.clock.1]
    rfl
  have hnow : elapsed (x.now + 1) 100 = elapsed x.now 100 + 1 / 10 := by
    unfold elapsed
    push_cast
    ring
  -- the clock advances by a tenth of a second, or back to its start
  have htime : (s.setTimer s.softTimer.expire).rtcpCurrentTime ≤ s.rtcpCurrentTime + 1 / 10 := by
    rw [currentTime_of_clockAt hclock, currentTime_of_clockAt h.paced.clock]
    have hmod : (x.now + 1) * 100 % 2 ^ 32 ≤ x.now * 100 % 2 ^ 32 + 100 := by omega
    generalize (x.now + 1) * 100 % 2 ^ 32 = a at hmod
    generalize x.now * 100 % 2 ^ 32 = b at hmod
    have hcast : (a : ℚ) ≤ b + 100 := by exact_mod_cast hmod
    linarith
  refine ⟨⟨hclock, h.paced.rtcpBw, h.paced.initial, h.paced.reached.trans (Nat.le_succ _), ?_,
    h.paced.first, h.paced.spaced⟩, ?_, ⟨h.wheel.rate, h.wheel.ahead.expire hempty⟩⟩
  · have hsince := h.paced.since
    show _ - s.rtcpVar.tp ≤ elapsed (x.now + 1) 100 - elapsed x.last 100
    rw [hnow]
    linarith
  · obtain ⟨n, hn, hmax⟩ := h.pending
    have hne : s.softTimer.remaining .rtcp ≠ some 0 := by
      intro h0
      have hmem := h.wheel.ahead _ h0
      rw [hempty] at hmem
      exact absurd hmem List.not_mem_nil
    refine ⟨n - 1, ?_, (Nat.sub_le n 1).trans hmax⟩
    have hleft := SoftTimer.remaining_expire hne
    rw [show s.softTimer.remaining .rtcp = some n from hn] at hleft
    exact hleft

theorem paceKept_rules :
    HistoryRules paceHistory PaceKept
      { ActGuard.any with expire := fun s => s.softTimer.timeoutList = [] } where
  quiet {x} _ _ hq h := (PaceKept.frame x).quiet hq h
  rtpSource {x} _ _ _ _ _ h _ := (PaceKept.frame x).rtpHandleSsrc _ _ _ _ _ h
  rtcpSource {x} _ _ _ _ _ h _ _ := (PaceKept.frame x).rtcpHandleSsrc _ _ _ _ h
  byeSource {x s ssrc fromAddr pktSize} h _ := by
    rcases (PaceKept.frame x).byeSource s ssrc pktSize with hsame | ⟨flags, hsame⟩
    · exact hsame h
    · exact hsame (h.leaving (by decide) flags pktSize)
  txCount {x} _ _ _ h _ := (PaceKept.frame x).rtpTxCount _ _ h
  expire h hempty := h.expire hempty
  fire {x s e rest} htop h _ := by
    have hwheel : (s.setTimer s.softTimer.popTimeout).WheelKept :=
      ⟨h.wheel.rate, h.wheel.ahead.popTimeout htop⟩
    have hpop : e ≠ .rtcp → PaceKept x (s.setTimer s.softTimer.popTimeout) := fun he =>
      h.of_same (.popTimeout htop he) hwheel
    cases e with
    | rtcp =>
        have hpaced : Paced x (s.setTimer s.softTimer.popTimeout) :=
          ⟨h.paced.clock, h.paced.rtcpBw, h.paced.initial, h.paced.reached, h.paced.since,
            h.paced.first, h.paced.spaced⟩
        have hstopped : (s.setTimer s.softTimer.popTimeout).ticksLeft .rtcp = none :=
          (SoftTimer.remaining_popTimeout htop _).trans (if_pos rfl)
        exact .intervalTimeout hpaced hwheel hstopped
    | member m =>
        exact (PaceKept.frame x).memberTimedout _ m ((hpop (by simp)).leaving (by decide) _ 0)
    | sender m =>
        obtain ⟨s', hs', heq⟩ := (PaceKept.frame x).senderTimedout
          (s.setTimer s.softTimer.popTimeout) m
        show PaceKept x (rtcpIntervalSenderTimedout _ m)
        rw [heq]
        exact (hs' (hpop (by simp))).leaving (by decide) _ 0
    | leave m => exact (PaceKept.frame x).dealloc _ m (hpop (by simp))
    | conflict c => exact (PaceKept.frame x).conflicts _ _ (hpop (by simp))

theorem configFrame : Frame fun s s' => s'.config = s.config where
  trans h h' := h'.trans h
  quiet h := h.config
  add _ _ _ _ := rfl
  del _ _ _ := rfl
  table _ _ := rfl
  conflicts _ _ := rfl
  counts _ _ _ _ _ := rfl

theorem rtcpBw_rtpSessionInit (mem : Session) (config : RtpSessionConfig) :
    (mem.rtpSessionInit config).rtcpVar.rtcpBw = config.sessionBw.toNat := by
  have hself : ((mem.rtpSessionBlank config).rtpSessionInitSelf config).config = config := by
    simp only [rtpSessionInitSelf]
    cases halloc : (mem.rtpSessionBlank config).rtpRandom32.2.rtpSessionAllocMember
        (mem.rtpSessionBlank config).rtpRandom32.1 with
    | none => rfl
    | some p => exact configFrame.alloc halloc
  rw [rtpSessionInit_eq]
  show (((mem.rtpSessionBlank config).rtpSessionInitSelf config).config.sessionBw.toNat : ℚ) = _
  rw [hself]

theorem paceKept_rtpSessionInit (mem : Session) {config : RtpSessionConfig}
    (hbw : 0 < config.sessionBw) : PaceKept ⟨0, []⟩ (mem.rtpSessionInit config) := by
  obtain ⟨hclock, htp⟩ := clock_rtpSessionInit mem config
  obtain ⟨tc, tn, htimer⟩ := softTimer_rtpSessionInit mem config
  refine ⟨⟨hclock, ?_, by simp, Nat.le_refl _, ?_, by simp, .nil⟩,
    .of_add rfl (SoftTimer.remaining_init ..) _ htimer,
    (settled_rtpSessionInit mem config).toWheelKept⟩
  · rw [rtcpBw_rtpSessionInit]
    exact_mod_cast UInt32.lt_iff_toNat_lt.1 hbw
  · rw [htp, hclock.currentTime]
    simp [Pace.last]

theorem paceKept_run (mem : Session) {config : RtpSessionConfig} (hbw : 0 < config.sessionBw)
    (ops : List Op) :
    PaceKept (paceHistory.run ⟨0, []⟩ (mem.rtpSessionInit config) ops)
      (runSession mem config ops) :=
  paceKept_rules.run
    ((settled_rtpSessionInit mem config).guarded
      (Runs.guarded_of_forall ActGuard.any_admits _ ops))
    (paceKept_rtpSessionInit mem hbw)

/-- Whatever joins, leaves, times out or is rescheduled: the session first tries to report no earlier
    than 1.25/1.21828 seconds of ticks after its initialisation, any two successive attempts are at
    least 2.5/1.21828 seconds of ticks apart, and between two calls the interval timer is always
    running and due later. -/
theorem reports_paced (mem : Session) {config : RtpSessionConfig} (hbw : 0 < config.sessionBw)
    (ops : List Op) :
    (∀ t ∈ (reportAttempts mem config ops).head?, 1.25 / 1.21828 ≤ elapsed t 100) ∧
      (reportAttempts mem config ops).IsChain
        (fun t t' => elapsed t 100 + 2.5 / 1.21828 ≤ elapsed t' 100) ∧
      (runSession mem config ops).RtcpTimerArmed := by
  obtain ⟨hpaced, ⟨n, hn, hmax⟩, hwheel⟩ := paceKept_run mem hbw ops
  have hempty := (settled_runSession mem config ops).empty
  have hshort : leastInterval true = 1.25 / 1.21828 := by norm_num [leastInterval]
  have hlong : leastInterval false = 2.5 / 1.21828 := by norm_num [leastInterval]
  refine ⟨?_, ?_, ?_⟩
  · rw [← hshort]
    exact hpaced.first
  · rw [← hlong]
    exact hpaced.spaced
  · have hrunning := SoftTimer.running_of_remaining hn
    have hne : n ≠ 0 := by
      rintro rfl
      have hmem := hwheel.ahead _ hn
      rw [hempty] at hmem
      exact absurd hmem List.not_mem_nil
    refine ⟨decide_eq_true hrunning, n, Nat.pos_of_ne_zero hne, hmax, ?_⟩
    rw [ticksLeft, SoftTimer.remaining, hempty, if_neg List.not_mem_nil, if_pos hrunning,
      Option.some_inj] at hn
    rw [← hn, UInt32.ofNat_toNat, UInt32.add_comm, UInt32.sub_add_cancel]

/-- A session that hears SSRC 9 come and go keeps its pace. -/
theorem reports_paced_join_leave :
    reportAttempts (zeroed (.still .zero)) (plainConfig 1000 4)
        (.rxRtcp (byeFor 9) 16 (.ofPort 7) :: List.replicate 35 .tick) = [11, 32] ∧
      (runSession (zeroed (.still .zero)) (plainConfig 1000 4)
        (.rxRtcp (byeFor 9) 16 (.ofPort 7) :: List.replicate 35 .tick)).RtcpTimerArmed :=
  ⟨by decide +kernel, (reports_paced _ (by decide) _).2.2⟩

end Session

end Prtp
