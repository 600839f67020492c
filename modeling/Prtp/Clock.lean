import Prtp.ReportSent
import Prtp.Schedule
import Mathlib.Tactic.Linarith
import Mathlib.Tactic.Positivity

set_option autoImplicit false

/-! # The clock of a run

`rtcp_current_time` multiplies the tick counter by the tick rate in 32 bits. As long as that product
fits, it is the time that has passed, and nothing the session remembers lies in its future. -/

namespace Prtp

/-- Whether a call is a timer tick. -/
def Op.isTick : Op → Bool
  | .tick => true
  | _ => false

/-- How many of the calls are timer ticks. -/
def ticks (ops : List Op) : Nat := ops.countP Op.isTick

@[simp] theorem ticks_nil : ticks [] = 0 := rfl

theorem ticks_cons (op : Op) (ops : List Op) :
    ticks (op :: ops) = (if op.isTick then 1 else 0) + ticks ops := by
  rw [ticks, List.countP_cons, Nat.add_comm]
  rfl

theorem ticks_append (ops ops' : List Op) : ticks (ops ++ ops') = ticks ops + ticks ops' :=
  List.countP_append ..

theorem ticks_replicate (n : Nat) : ticks (List.replicate n .tick) = n := by
  rw [ticks, List.countP_replicate]
  rfl

theorem ticks_mono {ops ops' : List Op} (h : ops <+: ops') : ticks ops ≤ ticks ops' := by
  obtain ⟨rest, rfl⟩ := h
  rw [ticks_append]
  exact Nat.le_add_right ..

namespace Session

/-- A guard with another condition on the advance of the wheel. -/
theorem ActGuard.admits_with_expire {g : ActGuard} {G : Session → Prop} {s : Session} {op : Op}
    (hg : g.admits s op) (h : op = .tick → G s) : ActGuard.admits { g with expire := G } s op := by
  cases op with
  | tick => exact ⟨h rfl, hg.2⟩
  | rxRtp | rxRtcp | tx => exact hg

/-- A guard on the advance of the wheel alone. -/
theorem admits_of_expire {G : Session → Prop} {s : Session} {op : Op} (h : op = .tick → G s) :
    ActGuard.admits { ActGuard.any with expire := G } s op :=
  ActGuard.admits_with_expire (ActGuard.any_admits s op) h

/-- A history variable with a clock that the advance of the wheel moves on, and nothing else. -/
structure History.Clocked {γ : Type} (h : History γ) (now : γ → ℕ) : Prop where
  rtp : ∀ fromAddr g s ssrc, now (h.rtp fromAddr g s ssrc) = now g
  msg : ∀ fromAddr g s msg, now (h.msg fromAddr g s msg) = now g
  tx : ∀ g s, now (h.tx g s) = now g
  expire : ∀ g s, now (h.expire g s) = now g + 1
  fire : ∀ g s e, now (h.fire g s e) = now g

theorem History.Clocked.note {γ : Type} {h : History γ} {now : γ → ℕ} (hclock : h.Clocked now)
    (g : γ) (s : Session) (op : Op) :
    now (h.note g s op) = now g + if op.isTick then 1 else 0 := by
  have hrules : HistoryRules h (fun g' _ => now g' = now g)
      { ActGuard.any with expire := fun _ => False } := by
    refine ⟨fun _ hnow => hnow, fun hnow _ => ?_, fun hnow _ _ => ?_, fun hnow _ => ?_,
      fun hnow _ => ?_, fun _ hfalse => hfalse.elim, fun _ hnow _ => ?_⟩
    · rw [hclock.rtp, hnow]
    · rw [hclock.msg, hnow]
    · rw [hclock.msg, hnow]
    · rw [hclock.tx, hnow]
    · rw [hclock.fire, hnow]
  by_cases hop : op = .tick
  · subst hop
    have hfirings : ∀ (l : List (TimerElem × Session)) g',
        now (l.foldl (fun g p => h.fire g p.2 p.1) g') = now g' := by
      intro l
      induction l with
      | nil => exact fun _ => rfl
      | cons p l ih => exact fun g' => (ih _).trans (hclock.fire ..)
    exact (hfirings _ _).trans (hclock.expire g s)
  · have hnow := hrules.step g s op rfl (admits_of_expire fun htick => absurd htick hop)
    rw [hnow]
    cases op with
    | tick => exact absurd rfl hop
    | rxRtp | rxRtcp | tx => rfl

/-- The clock counts the ticks of a run. -/
theorem History.Clocked.run {γ : Type} {h : History γ} {now : γ → ℕ} (hclock : h.Clocked now)
    (ops : List Op) : ∀ g s, now (h.run g s ops) = now g + ticks ops := by
  induction ops with
  | nil => exact fun _ _ => rfl
  | cons op ops ih =>
      intro g s
      have hrest := ih (h.note g s op) (step s op)
      rw [hclock.note] at hrest
      rw [ticks_cons, ← Nat.add_assoc]
      exact hrest

/-! ## The tick counter -/

/-- The wheel stands at tick `c` and counts at the rate `r`. -/
def ClockAt (c : UInt32) (r : Int) (s : Session) : Prop :=
  s.softTimer.tick = c ∧ s.softTimer.tickRate = r

theorem ClockAt.currentTime {c : UInt32} {r : Int} {s : Session} (h : s.ClockAt c r) :
    s.rtcpCurrentTime = ((c * UInt32.ofInt r).toNat : ℚ) / 1000 := by
  rw [rtcpCurrentTime, SoftTimer.softTimerGetTickTime, h.1, h.2]

theorem clockAt_schedule {c : UInt32} {r : Int} {s : Session} (h : s.ClockAt c r) (tc : ℚ)
    (tn : Option ℚ) : (s.rtcpIntervalSchedule tc tn).ClockAt c r :=
  ⟨(SoftTimer.tick_add ..).trans h.1, (SoftTimer.tickRate_add ..).trans h.2⟩

theorem clockAt_quiet {c : UInt32} {r : Int} {s s' : Session} (hq : Quiet s s')
    (h : s.ClockAt c r) : s'.ClockAt c r := by
  rw [ClockAt, hq.timer]
  exact h

theorem clockAt_intervalTimeout {c : UInt32} {r : Int} {s : Session} (h : s.ClockAt c r) :
    s.rtcpIntervalTimeout.ClockAt c r := by
  refine rtcpIntervalTimeout_rule (R := fun s s' => s.ClockAt c r → s'.ClockAt c r) ?_ ?_ ?_ ?_ ?_ s h
  · exact fun h h' hs => h' (h hs)
  · exact fun s => clockAt_quiet (.drawInterval s)
  · exact fun s => clockAt_quiet (.rtcpSendReport s)
  · exact fun _ _ _ _ hs => hs
  · exact fun s tc tn hs => clockAt_schedule hs tc tn

/-- No act but the advance of the wheel moves the clock. -/
theorem clockAt_rules (c : UInt32) (r : Int) :
    ActRules (ClockAt c r) { ActGuard.any with expire := fun _ => False } := by
  apply ActRules.of_schedule
  · intro s s' h hP
    rw [ClockAt, h.tick, h.tickRate]
    exact hP
  · intro s event flags pktSize hevent hP
    rcases s.leaving_schedule hevent flags pktSize with ⟨-, h⟩ | ⟨-, h⟩
    · exact ⟨h.tick.trans hP.1, h.tickRate.trans hP.2⟩
    · exact ⟨h.tick.trans hP.1, h.tickRate.trans hP.2⟩
  · exact fun _ hg => hg.elim
  · exact fun hP _ => clockAt_intervalTimeout hP

/-- The sessions in which the callbacks of a tick run are at the next tick. -/
theorem clockAt_tickFirings {c : UInt32} {r : Int} {s : Session} (h : s.ClockAt c r) :
    ∀ p ∈ s.tickFirings, p.2.ClockAt (c + 1) r := by
  intro p hp
  have hexpired : (s.setTimer s.softTimer.expire).ClockAt (c + 1) r :=
    ⟨congrArg (· + 1) h.1, h.2⟩
  obtain ⟨t, rest, ht, -, hpop⟩ := SoftTimer.firings_invariant (G := fun _ _ => True)
    (fun _ _ _ htop hP _ => (clockAt_rules (c + 1) r).fire htop hP trivial)
    (fun _ _ => trivial) hexpired p hp
  rw [hpop]
  exact ht

/-- A tick advances the clock by one, every other call leaves it. -/
theorem clockAt_step {c : UInt32} {r : Int} {s : Session} (h : s.ClockAt c r) (op : Op) :
    (step s op).ClockAt (c + if op.isTick then 1 else 0) r := by
  cases op with
  | tick =>
      have hexpired : (s.setTimer s.softTimer.expire).ClockAt (c + 1) r :=
        ⟨congrArg (· + 1) h.1, h.2⟩
      exact SoftTimer.softTimerDrive_invariant hexpired
        fun _ _ _ htop hP => (clockAt_rules (c + 1) r).fire htop hP trivial
  | rxRtp | rxRtcp | tx =>
      simpa [Op.isTick] using (clockAt_rules c r).step s _ h (admits_of_expire (by simp))

theorem clockAt_run {n : Nat} {r : Int} {s : Session} (h : s.ClockAt (UInt32.ofNat n) r)
    (ops : List Op) : (Runs.run step s ops).ClockAt (UInt32.ofNat (n + ticks ops)) r := by
  induction ops generalizing n s with
  | nil => exact h
  | cons op ops ih =>
      have hstep := clockAt_step h op
      rw [Runs.run_cons, ticks_cons, ← Nat.add_assoc]
      apply ih
      cases htick : op.isTick <;> simpa [htick, UInt32.ofNat_add] using hstep

/-! ## Initialisation -/

theorem sameSchedule_initSelf (s : Session) (config : RtpSessionConfig) :
    SameSchedule s (s.rtpSessionInitSelf config) := by
  have hrandom : SameSchedule s s.rtpRandom32.2 := ⟨rfl, rfl, rfl, rfl, rfl, rfl⟩
  simp only [rtpSessionInitSelf]
  cases halloc : s.rtpRandom32.2.rtpSessionAllocMember s.rtpRandom32.1 with
  | none => exact hrandom.trans ⟨rfl, rfl, rfl, rfl, rfl, rfl⟩
  | some p =>
      exact (hrandom.trans (SameSchedule.frame.alloc halloc)).trans
        ⟨rfl, rfl, rfl, rfl, rfl, rfl⟩

/-- A session starts at tick 0, with a rate of 100 ms, at its last transmission. -/
theorem clock_rtpSessionInit (mem : Session) (config : RtpSessionConfig) :
    (mem.rtpSessionInit config).ClockAt 0 100 ∧ (mem.rtpSessionInit config).rtcpVar.tp = 0 := by
  have hself := sameSchedule_initSelf (mem.rtpSessionBlank config) config
  have hclock : ((mem.rtpSessionBlank config).rtpSessionInitSelf config).ClockAt 0 100 :=
    ⟨hself.tick, hself.tickRate⟩
  rw [rtpSessionInit_eq]
  refine ⟨?_, rfl⟩
  exact clockAt_schedule (clockAt_quiet (.drawInterval _) hclock) _ _

theorem clockAt_runSession (mem : Session) (config : RtpSessionConfig) (ops : List Op) :
    (runSession mem config ops).ClockAt (UInt32.ofNat (ticks ops)) 100 := by
  have hrun := clockAt_run (n := 0) (clock_rtpSessionInit mem config).1 ops
  rwa [Nat.zero_add] at hrun

/-- The time of a run, as the code computes it. -/
theorem currentTime_of_clockAt {n : Nat} {s : Session} (h : s.ClockAt (UInt32.ofNat n) 100) :
    s.rtcpCurrentTime = ((n * 100 % 2 ^ 32 : Nat) : ℚ) / 1000 := by
  have hmul : (UInt32.ofNat n * UInt32.ofInt 100).toNat = n * 100 % 2 ^ 32 := by
    have hrate : (UInt32.ofInt 100).toNat = 100 := by decide
    rw [UInt32.toNat_mul, hrate, UInt32.toNat_ofNat', Nat.mod_mul_mod]
  rw [h.currentTime, hmul]

/-- The time that has passed after `n` ticks of rate `r`, in seconds. -/
def elapsed (n : Nat) (r : Int) : ℚ := n * r / 1000

theorem currentTime_eq_elapsed {n : Nat} {s : Session} (h : s.ClockAt (UInt32.ofNat n) 100)
    (hn : n * 100 < 2 ^ 32) : s.rtcpCurrentTime = elapsed n s.softTimer.tickRate := by
  rw [currentTime_of_clockAt h, Nat.mod_eq_of_lt hn, elapsed, h.2]
  push_cast
  rfl

/-! ## `tp` is in the past -/

/-- The wheel counts at 100 ms, and the last transmission is not in the future. -/
def PastTransmission (s : Session) : Prop :=
  s.softTimer.tickRate = 100 ∧ s.rtcpVar.tp ≤ s.rtcpCurrentTime

/-- The next tick's time fits 32 bits. -/
def clockFits : ActGuard :=
  { ActGuard.any with expire := fun s => (s.softTimer.tick.toNat + 1) * 100 < 2 ^ 32 }

theorem Rescheduled.tp_le {s s' : Session} {n : UInt32} (h : Rescheduled s s' n)
    (htp : s.rtcpVar.tp ≤ s.rtcpCurrentTime) : s'.rtcpVar.tp ≤ s.rtcpCurrentTime := by
  rw [h.tp]
  have hratio : (0 : ℚ) ≤ (n.toNat : ℚ) / s.rtcpVar.pmembers.toNat := by positivity
  have hpast : 0 ≤ s.rtcpCurrentTime - s.rtcpVar.tp := sub_nonneg.2 htp
  exact sub_le_self _ (mul_nonneg hratio hpast)

theorem currentTime_congr {s s' : Session} (htick : s'.softTimer.tick = s.softTimer.tick)
    (hrate : s'.softTimer.tickRate = s.softTimer.tickRate) :
    s'.rtcpCurrentTime = s.rtcpCurrentTime := by
  simp only [rtcpCurrentTime, SoftTimer.softTimerGetTickTime, htick, hrate]

theorem currentTime_expire {s : Session} (hrate : s.softTimer.tickRate = 100)
    (hfits : (s.softTimer.tick.toNat + 1) * 100 < 2 ^ 32) :
    s.rtcpCurrentTime ≤ (s.setTimer s.softTimer.expire).rtcpCurrentTime := by
  have hnow : s.ClockAt (UInt32.ofNat s.softTimer.tick.toNat) 100 := ⟨by simp, hrate⟩
  have hnext : (s.setTimer s.softTimer.expire).ClockAt
      (UInt32.ofNat (s.softTimer.tick.toNat + 1)) 100 := by
    refine ⟨?_, hrate⟩
    rw [UInt32.ofNat_add]
    simp [setTimer]
  rw [currentTime_of_clockAt hnow, currentTime_of_clockAt hnext, Nat.mod_eq_of_lt hfits,
    Nat.mod_eq_of_lt (by omega)]
  gcongr
  omega

/-- The interval timer leaves `tp` or sets it to now. -/
theorem tp_intervalTimeout (s : Session) :
    s.rtcpIntervalTimeout.rtcpVar.tp = s.rtcpVar.tp ∨
      s.rtcpIntervalTimeout.rtcpVar.tp = s.rtcpCurrentTime := by
  have hdraw := (Quiet.drawInterval s).rtcpVar
  simp only [rtcpIntervalTimeout]
  split
  · exact Or.inr rfl
  · exact Or.inl rfl

theorem pastTransmission_rules : ActRules PastTransmission clockFits := by
  apply ActRules.of_schedule
  · intro s s' h hP
    rw [PastTransmission, h.tickRate, h.tp, h.currentTime]
    exact hP
  · intro s event flags pktSize hevent hP
    rcases s.leaving_schedule hevent flags pktSize with ⟨-, h⟩ | ⟨-, h⟩
    · rw [PastTransmission, h.tickRate, currentTime_congr h.tick h.tickRate]
      exact ⟨hP.1, h.tp_le hP.2⟩
    · rw [PastTransmission, h.tickRate, h.tp, h.currentTime]
      exact hP
  · intro s hP hg
    exact ⟨hP.1, hP.2.trans (currentTime_expire hP.1 hg)⟩
  · intro s hP hg
    have hclock : s.rtcpIntervalTimeout.ClockAt s.softTimer.tick s.softTimer.tickRate :=
      clockAt_intervalTimeout ⟨rfl, rfl⟩
    rw [PastTransmission, hclock.2, currentTime_congr hclock.1 hclock.2]
    refine ⟨hP.1, ?_⟩
    rcases s.tp_intervalTimeout with h | h
    · rw [h]
      exact hP.2
    · exact le_of_eq h

/-- A run with few enough ticks meets the guard. -/
theorem clockFits_of_ticks {n : Nat} {s : Session} (h : s.ClockAt (UInt32.ofNat n) 100)
    {ops : List Op} (hops : (n + ticks ops) * 100 < 2 ^ 32) :
    Runs.Guarded step clockFits.admits s ops := by
  induction ops generalizing n s with
  | nil => trivial
  | cons op ops ih =>
      rw [ticks_cons, ← Nat.add_assoc] at hops
      refine ⟨admits_of_expire ?_, ?_⟩
      · rintro rfl
        have htick : s.softTimer.tick.toNat = n := by
          rw [h.1]
          exact UInt32.toNat_ofNat_of_lt' (by simp [UInt32.size]; omega)
        rw [htick]
        simp only [Op.isTick, if_true] at hops
        omega
      · apply ih _ hops
        have hstep := clockAt_step h op
        cases htick : op.isTick <;> simpa [htick, UInt32.ofNat_add] using hstep

theorem pastTransmission_run {mem : Session} {config : RtpSessionConfig} {ops : List Op}
    (hops : ticks ops * 100 < 2 ^ 32) : (runSession mem config ops).PastTransmission := by
  obtain ⟨hclock, htp⟩ := clock_rtpSessionInit mem config
  refine pastTransmission_rules.run (clockFits_of_ticks (n := 0) hclock (by simpa using hops)) ?_
  refine ⟨hclock.2, ?_⟩
  rw [htp, hclock.currentTime]
  positivity

/-! ## The time of a run -/

/-- The scheduling clock is right all along the run: it shows the time that has passed and never
    goes back, `tp` is not in the future, and an expiry of the interval timer at which the drawn
    interval has passed since `tp` sends a report. -/
structure ClockKept (mem : Session) (config : RtpSessionConfig) (ops : List Op) : Prop where
  time : ∀ pre, pre <+: ops → (runSession mem config pre).rtcpCurrentTime =
    elapsed (ticks pre) (runSession mem config pre).softTimer.tickRate
  monotone : ∀ pre post, pre <+: post → post <+: ops →
    (runSession mem config pre).rtcpCurrentTime ≤ (runSession mem config post).rtcpCurrentTime
  past : ∀ pre, pre <+: ops →
    (runSession mem config pre).rtcpVar.tp ≤ (runSession mem config pre).rtcpCurrentTime
  sent : ∀ pre, pre ++ [.tick] <+: ops → ∀ p ∈ (runSession mem config pre).tickFirings,
    p.1 = .rtcp → ∀ t, p.2.drawInterval.1 = some t →
    p.2.rtcpVar.tp + t ≤ elapsed (ticks pre + 1) p.2.softTimer.tickRate →
    p.2.sendReportCall = some p.2.drawInterval.2

/-- The clock of a run is right only if the time that has passed fits 32 bits of milliseconds. -/
theorem ticks_of_clockKept {mem : Session} {config : RtpSessionConfig} {ops : List Op}
    (h : ClockKept mem config ops) : ticks ops * 100 < 2 ^ 32 := by
  have hclock := clockAt_runSession mem config ops
  have htime := h.time ops (List.prefix_refl ops)
  rw [currentTime_of_clockAt hclock, elapsed, hclock.2] at htime
  have hnat : ticks ops * 100 % 2 ^ 32 = ticks ops * 100 := by
    have hcast : ((ticks ops * 100 % 2 ^ 32 : Nat) : ℚ) = ((ticks ops * 100 : Nat) : ℚ) := by
      push_cast
      linarith
    exact_mod_cast hcast
  rw [← hnat]
  exact Nat.mod_lt _ (by decide)

theorem sendReportCall_of_elapsed {s : Session} {t : ℚ} (ht : s.drawInterval.1 = some t)
    (hle : s.rtcpVar.tp + t ≤ s.rtcpCurrentTime) : s.sendReportCall = some s.drawInterval.2 := by
  have htp : s.drawInterval.2.rtcpVar.tp = s.rtcpVar.tp := rfl
  simp [sendReportCall, ht, htp, hle]

/-- The clock of a run is right exactly as long as the time that has passed, in milliseconds, is
    below `2 ^ 32`. -/
theorem clockKept_iff (mem : Session) (config : RtpSessionConfig) (ops : List Op) :
    ClockKept mem config ops ↔ ticks ops * 100 < 2 ^ 32 := by
  constructor
  · exact ticks_of_clockKept
  · intro hops
    have hfits : ∀ pre, pre <+: ops → ticks pre * 100 < 2 ^ 32 := fun pre hpre =>
      Nat.lt_of_le_of_lt (Nat.mul_le_mul_right 100 (ticks_mono hpre)) hops
    have htime : ∀ pre, pre <+: ops → (runSession mem config pre).rtcpCurrentTime =
        elapsed (ticks pre) (runSession mem config pre).softTimer.tickRate := fun pre hpre =>
      currentTime_eq_elapsed (clockAt_runSession mem config pre) (hfits pre hpre)
    refine ⟨htime, ?_, fun pre hpre => (pastTransmission_run (hfits pre hpre)).2, ?_⟩
    · intro pre post hpre hpost
      rw [htime pre (hpre.trans hpost), htime post hpost,
        (clockAt_runSession mem config pre).2, (clockAt_runSession mem config post).2]
      have hle : (ticks pre : ℚ) ≤ ticks post := by exact_mod_cast ticks_mono hpre
      unfold elapsed
      gcongr
    · intro pre hpre p hp _ t ht hle
      have hclock := clockAt_tickFirings (clockAt_runSession mem config pre) p hp
      have hnext : p.2.ClockAt (UInt32.ofNat (ticks pre + 1)) 100 := by
        rwa [UInt32.ofNat_add]
      have hticks : (ticks pre + 1) * 100 < 2 ^ 32 := by
        have := hfits _ hpre
        rwa [ticks_append, ticks_cons, ticks_nil] at this
      apply sendReportCall_of_elapsed ht
      rw [currentTime_eq_elapsed hnext hticks]
      exact hle

/-- After 42949673 ticks, not quite fifty days, the clock has gone back to 4 milliseconds. -/
theorem clock_wraps :
    ¬ ∀ (mem : Session) (config : RtpSessionConfig) (ops : List Op), ticks ops < 2 ^ 32 →
      ClockKept mem config ops := by
  intro h
  have hkept := h (zeroed (.still .zero)) (plainConfig 1000 4) (List.replicate 42949673 .tick)
    (by rw [ticks_replicate]; decide)
  have hticks := ticks_of_clockKept hkept
  rw [ticks_replicate] at hticks
  exact absurd hticks (by decide)

end Session

end Prtp
