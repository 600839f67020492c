import Prtp.SlotFrames
import Prtp.SsrcChanges
import Prtp.TableOrder

set_option autoImplicit false

/-! # Tearing a session down (`rtp_session_deinit`)

`rtp_session_deinit` stops the interval timer, the timers of the members in the table and those of the
entries in the conflict table, and looks nowhere else. So it leaves the wheel empty only because every
timer that runs has its owner there: whoever is taken out of a table has his timers stopped before. -/

namespace Prtp

/-- `rtp_source_conflict_table_deinit` -/
def RtpSourceConflictTable.rtpSourceConflictTableDeinit (tbl : RtpSourceConflictTable)
    (tmr : SoftTimer TimerElem) : SoftTimer TimerElem :=
  tbl.pool.used.foldl (fun tmr c => tmr.softTimerDel (.conflict c)) tmr

namespace Session

/-- `rtcp_tx_bye`: not implemented, the others are left to time the session's SSRC out. -/
def rtcpTxBye (s : Session) : Session := s

/-- `rtp_session_bye` -/
def rtpSessionBye (s : Session) : Session := s.rtcpTxBye

/-- `rtp_deinit` -/
def rtpDeinit (s : Session) : Session := s

/-- `rtcp_interval_stop_timer` -/
def rtcpIntervalStopTimer (s : Session) : Session := s.softTimerDel .rtcp

/-- `rtcp_deinit` -/
def rtcpDeinit (s : Session) : Session := s.rtcpIntervalStopTimer

/-- `rtp_session_deinit`; `soft_timer_deinit` does nothing. -/
def rtpSessionDeinit (s : Session) : Session :=
  let s := s.rtpDeinit.rtcpDeinit
  let s := s.usedList.foldl rtpTimersDeinitMember s
  s.setTimer (s.srcConflict.rtpSourceConflictTableDeinit s.softTimer)

/-! ## What it stops -/

/-- The timer belongs to the RTCP interval, to a member in the table or to an entry in the conflict
    table. -/
def Owned (s : Session) : TimerElem → Prop
  | .rtcp => True
  | .member m | .sender m | .leave m => m ∈ s.usedList
  | .conflict c => c ∈ s.srcConflict.pool.used

/-- The timers with an owner, in the order in which they are stopped. -/
def ownedTimers (s : Session) : List TimerElem :=
  .rtcp :: (s.usedList.flatMap timersOf ++ s.srcConflict.pool.used.map .conflict)

theorem mem_ownedTimers (s : Session) (e : TimerElem) : e ∈ s.ownedTimers ↔ s.Owned e := by
  cases e with
  | rtcp => simp [ownedTimers, Owned]
  | member m | sender m | leave m | conflict m => simp [ownedTimers, timersOf, Owned]

theorem rtpTimersDeinitMember_eq (s : Session) (m : Slot) :
    s.rtpTimersDeinitMember m =
      s.setTimer ((timersOf m).foldl SoftTimer.softTimerDel s.softTimer) := rfl

/-- The loop over the members changes nothing but the wheel. -/
theorem foldl_deinitMember (ms : List Slot) (s : Session) :
    ms.foldl rtpTimersDeinitMember s =
      s.setTimer ((ms.flatMap timersOf).foldl SoftTimer.softTimerDel s.softTimer) := by
  induction ms generalizing s with
  | nil => rfl
  | cons m ms ih =>
      rw [List.foldl_cons, ih, rtpTimersDeinitMember_eq, List.flatMap_cons, List.foldl_append]
      rfl

theorem softTimer_rtpSessionDeinit (s : Session) :
    s.rtpSessionDeinit.softTimer = s.ownedTimers.foldl SoftTimer.softTimerDel s.softTimer := by
  simp only [rtpSessionDeinit, rtpDeinit, rtcpDeinit, rtcpIntervalStopTimer, foldl_deinitMember,
    RtpSourceConflictTable.rtpSourceConflictTableDeinit, ownedTimers]
  rw [List.foldl_cons, List.foldl_append, List.foldl_map]
  rfl

/-- `rtp_session_deinit` stops the timers that have an owner, and no other. -/
theorem running_rtpSessionDeinit (s : Session) (e : TimerElem) :
    s.rtpSessionDeinit.softTimer.Running e ↔ s.softTimer.Running e ∧ ¬ s.Owned e := by
  rw [softTimer_rtpSessionDeinit, SoftTimer.running_foldl_del, mem_ownedTimers]

/-! ## Nothing runs any more -/

/-- No timer runs. -/
def Idle (s : Session) : Prop := ∀ e, ¬ s.softTimer.Running e

/-- `rtp_session_deinit` stops everything if everything has an owner. -/
theorem idle_rtpSessionDeinit {s : Session} (h : ∀ e, s.softTimer.Running e → s.Owned e) :
    s.rtpSessionDeinit.Idle := by
  intro e hrun
  obtain ⟨hbefore, hnot⟩ := (running_rtpSessionDeinit s e).1 hrun
  exact hnot (h e hbefore)

theorem Idle.buckets {s : Session} (h : s.Idle) (b : Fin numBuckets) : s.softTimer.buckets b = [] := by
  rw [List.eq_nil_iff_forall_not_mem]
  intro e he
  exact h e (Or.inl ⟨b, he⟩)

theorem Idle.tickFirings {s : Session} (h : s.Idle) : s.tickFirings = [] :=
  SoftTimer.driveFirings_of_idle (fun _ _ => rfl) h

theorem Idle.tick {s : Session} (h : s.Idle) : (step s .tick).Idle := by
  have hstep : step s .tick = s.setTimer s.softTimer.expire :=
    SoftTimer.softTimerDrive_of_idle (fun _ _ => rfl) h
  intro e
  rw [hstep]
  exact fun hrun => h e ((SoftTimer.running_expire s.softTimer e).1 hrun)

theorem Idle.ticks {s : Session} (h : s.Idle) (n : ℕ) :
    (Runs.run step s (List.replicate n .tick)).Idle := by
  induction n generalizing s with
  | zero => exact h
  | succ n ih => exact ih h.tick

end Session

/-! ## The whole interface -/

/-- The calls an application makes on a session between `rtp_session_init` and
    `rtp_session_deinit`. -/
inductive Call
  | op (op : Op)
  | bye
  | resetTxStats

namespace Session

/-- One call. -/
def call (s : Session) : Call → Session
  | .op op => step s op
  | .bye => s.rtpSessionBye
  | .resetTxStats => s.rtpSessionResetTxStats

/-- The state after `rtp_session_init` on memory holding `mem`, followed by `calls`. -/
def runCalls (mem : Session) (config : RtpSessionConfig) (calls : List Call) : Session :=
  Runs.run call (mem.rtpSessionInit config) calls

/-- The guard holds of every act of a call. -/
def ActGuard.admitsCall (g : ActGuard) (s : Session) : Call → Prop
  | .op op => g.admits s op
  | .bye | .resetTxStats => True

instance (g : ActGuard) [g.Evaluable] (s : Session) : (c : Call) → Decidable (g.admitsCall s c)
  | .op op => g.decidableAdmits s op
  | .bye | .resetTxStats => isTrue trivial

/-! ## Every timer has an owner -/

theorem InOrder.selfFlag {s : Session} (h : s.InOrder) : s.selfMember.flags.self = true :=
  h.1.hasSelf.2.1

/-- No new member gets the session's own slot. -/
theorem InOrder.elsewhere {s : Session} (h : s.InOrder) : s.freeList.head? ≠ some s.self := by
  intro hhead
  exact h.selfAllocated.notFree (List.mem_of_head? hhead)

theorem SourceActs.entriesTimed {s s' : Session} {addr : RtpMember → SockaddrIn} {ssrc : UInt32}
    {fromAddr : SockaddrIn} (h : SourceActs s addr ssrc fromAddr s') (hwheel : s.WheelKept)
    (htimed : s.EntriesTimed) : s'.EntriesTimed := by
  cases h with
  | apart hsame hnone => exact hsame.entriesTimed htimed
  | collision j hj hbye haddr hsame =>
      obtain ⟨hadded, -⟩ := conflictKept hwheel htimed j fromAddr
      exact hsame.entriesTimed hadded

/-- Nobody speaks in the session's name, and between two calls no callback is owed. -/
abbrev selfUnnamedSettled : ActGuard :=
  { selfUnnamed with expire := fun s => s.softTimer.timeoutList = [] }

theorem orderedWheel_rules :
    ActRules (fun s => s.InOrder ∧ s.WheelKept) selfUnnamedSettled := by
  have hunnamed : selfUnnamedSettled.Le selfUnnamed := ⟨id, id, id, fun _ => trivial, id⟩
  have hsettled : selfUnnamedSettled.Le
      { ActGuard.any with expire := fun s => s.softTimer.timeoutList = [] } :=
    ⟨fun _ => trivial, fun _ => trivial, fun _ => trivial, id, id⟩
  exact (selfUnnamed_rules.mono hunnamed).and (wheelKept_rules.mono hsettled)

theorem entriesTimed_rules :
    ActRules (fun s => (s.InOrder ∧ s.WheelKept) ∧ s.EntriesTimed) selfUnnamedSettled where
  quiet hq h := ⟨orderedWheel_rules.quiet hq h.1, (Undisturbed.quiet hq).entriesTimed h.2⟩
  rtpSource {s ssrc seq fromAddr csrc} h hg := by
    have hacts : SourceActs s RtpMember.rtpAddr ssrc fromAddr
        (s.rtpHandleSsrc ssrc seq fromAddr csrc).2 :=
      rtpHandleSsrc_acts h.1.1.selfFlag (fun _ => h.1.1.elsewhere) seq csrc
    exact ⟨orderedWheel_rules.rtpSource h.1 hg, hacts.entriesTimed h.1.2 h.2⟩
  rtcpSource {s ssrc fromAddr pktSize msg} h hg hsource := by
    have hacts : SourceActs s RtpMember.rtcpAddr ssrc fromAddr
        (s.rtcpHandleSsrc ssrc fromAddr pktSize).2 :=
      rtcpHandleSsrc_acts h.1.1.selfFlag (fun _ => h.1.1.elsewhere) pktSize
    exact ⟨orderedWheel_rules.rtcpSource h.1 hg hsource, hacts.entriesTimed h.1.2 h.2⟩
  byeSource h hg :=
    ⟨orderedWheel_rules.byeSource h.1 hg, (Undisturbed.byeSource _ _ _).entriesTimed h.2⟩
  txCount h hg := ⟨orderedWheel_rules.txCount h.1 hg, (Undisturbed.rtpTxCount _ _).entriesTimed h.2⟩
  expire h hg := ⟨orderedWheel_rules.expire h.1 hg, h.2.expire⟩
  fire htop h hg := ⟨orderedWheel_rules.fire htop h.1 hg, h.2.fire htop⟩

/-- What a session is like between two calls: in order, with no callback owed, and with no timer of a
    free conflict entry running. -/
structure Accounted (s : Session) : Prop extends Settled s where
  inOrder : s.InOrder
  timed : s.EntriesTimed

theorem accounted_rtpSessionInit (mem : Session) (config : RtpSessionConfig) :
    (mem.rtpSessionInit config).Accounted where
  toSettled := settled_rtpSessionInit mem config
  inOrder := kept_rtpSessionInit mem config
  timed c _ := by
    obtain ⟨tc, tn, h⟩ := softTimer_rtpSessionInit mem config
    rw [ticksLeft, h, SoftTimer.remaining_add_of_ne _ (by simp), SoftTimer.remaining_init]

theorem Accounted.quiet {s s' : Session} (h : s.Accounted) (hq : Quiet s s') : s'.Accounted where
  rate := by
    rw [hq.timer]
    exact h.rate
  ahead := by
    rw [hq.timer]
    exact h.ahead
  empty := by
    rw [hq.timer]
    exact h.empty
  inOrder := selfUnnamed_rules.quiet hq h.inOrder
  timed := (Undisturbed.quiet hq).entriesTimed h.timed

theorem Accounted.call {s : Session} (h : s.Accounted) (c : Call) (hg : selfUnnamed.admitsCall s c) :
    (s.call c).Accounted := by
  cases c with
  | op op =>
      have hstep := entriesTimed_rules.step s op ⟨⟨h.inOrder, h.toWheelKept⟩, h.timed⟩
        (ActGuard.admits_with_expire hg fun _ => h.empty)
      exact ⟨settled_step h.toSettled op, hstep.1.1, hstep.2⟩
  | bye => exact h
  | resetTxStats =>
      exact h.quiet ⟨rfl, rfl, rfl, rfl, rfl, rfl, rfl, fun _ => .refl _⟩

theorem accounted_runCalls {mem : Session} {config : RtpSessionConfig} {calls : List Call}
    (hg : Runs.Guarded call selfUnnamed.admitsCall (mem.rtpSessionInit config) calls) :
    (runCalls mem config calls).Accounted :=
  hg.invariant (fun _ c h hg => Accounted.call h c hg) (accounted_rtpSessionInit mem config)

/-- A member's timers run only while the member is in the table. -/
theorem InOrder.used_of_sender {s : Session} (h : s.InOrder) {m : Slot}
    (hrun : s.softTimer.Running (.sender m)) : m ∈ s.usedList := by
  by_cases hself : m = s.self
  · rw [hself]
    exact h.selfAllocated.used
  · obtain ⟨-, hsnd, -⟩ := running_of_remote (h.1.remote m hself)
    exact (hsnd.1 hrun).1.1

theorem Accounted.owned {s : Session} (h : s.Accounted) {e : TimerElem}
    (hrun : s.softTimer.Running e) : s.Owned e := by
  cases e with
  | rtcp => trivial
  | member m => exact h.inOrder.used_of_running (Or.inl hrun)
  | sender m => exact h.inOrder.used_of_sender hrun
  | leave m => exact h.inOrder.used_of_running (Or.inr hrun)
  | conflict c =>
      by_contra hfree
      exact SoftTimer.remaining_eq_none.1 (h.timed c hfree) hrun

/-- In every run in which nobody speaks in the session's own name, each running timer belongs to the
    interval, to a member in the table or to a conflict entry in the table. So `rtp_session_deinit` empties
    the wheel, and no tick calls back afterwards. -/
theorem deinit_empties_wheel (mem : Session) (config : RtpSessionConfig) (calls : List Call)
    (hg : Runs.Guarded call selfUnnamed.admitsCall (mem.rtpSessionInit config) calls) :
    (∀ e, (runCalls mem config calls).softTimer.Running e → (runCalls mem config calls).Owned e) ∧
      (∀ b, (runCalls mem config calls).rtpSessionDeinit.softTimer.buckets b = []) ∧
        ∀ n, (Runs.run step (runCalls mem config calls).rtpSessionDeinit
          (List.replicate n .tick)).tickFirings = [] := by
  have hkept := accounted_runCalls hg
  have hidle := idle_rtpSessionDeinit fun e => hkept.owned (e := e)
  exact ⟨fun e => hkept.owned, hidle.buckets, fun n => (hidle.ticks n).tickFirings⟩

/-- A session that has collided with port 7, hears SSRC 5 send and SSRC 9 leave, and sends itself. -/
def busy : Session :=
  runCalls (zeroed (.still .zero)) (plainConfig 1000 4)
    [.op (.rxRtp (rtpFrom 2) 12 (.ofPort 7)), .op (.rxRtp (rtpFrom 5) 12 (.ofPort 8)), .bye,
      .op (.rxRtcp (byeFor 9) 16 (.ofPort 9)), .op (.tx (fun _ => 0) 20 0 (fun _ => 0) 0),
      .resetTxStats, .op .tick]

theorem deinit_empties_busy :
    (∀ e, busy.softTimer.Running e → busy.Owned e) ∧
      (∀ b, busy.rtpSessionDeinit.softTimer.buckets b = []) ∧
        ∀ n, (Runs.run step busy.rtpSessionDeinit (List.replicate n .tick)).tickFirings = [] :=
  deinit_empties_wheel _ _ _ (by decide +kernel)

end Session

end Prtp
