import Prtp.Rosters
import Prtp.Library.Histories

set_option autoImplicit false

/-! # Passes of the IO driver

What a pass of `io_driver_postselect` does, told by the list of what happened in it: which watchers
it visits, which callbacks it calls, and what it leaves on `driver->watchers`. Every entry is judged
by the entries before it and the driver at the start of the pass. -/

namespace Prtp

variable {W : Type}

/-- The descriptor was reported ready for the event. -/
def SelectCallArg.Ready (arg : SelectCallArg) (event : UInt8) (fd : ℤ) : Prop :=
  event = ioDriverEventRx ∧ arg.rset fd = true ∨ event = ioDriverEventTx ∧ arg.wset fd = true ∨
    event = ioDriverEventEx ∧ arg.eset fd = true

/-- What may happen while `w` is visited: its own callback is called, and calls the driver. -/
def IoEntry.Within (w : W) : IoEntry W → Prop
  | .visit _ => False
  | .call v _ => v = w
  | .command _ => True

/-- `driver->watchers` is a ring of exactly the watchers with a non-empty event set, each once. -/
structure IoDriver.Registers (s : IoDriver W) (ws : List W) : Prop where
  ring : s.links.Ring (IoNode.watchers.ring ws)
  nodup : ws.Nodup
  listed : ∀ w, w ∈ ws ↔ s.eventListening w ≠ 0

/-- The ring of the driver, read off the roster. -/
theorem IoDriver.Shows.registers {s : IoDriver W} {b : Roster W} (hs : s.Shows false b) :
    s.Registers b.watchers := by
  refine ⟨hs.rings.closed _ (by simp [Roster.rings]), b.watchers_nodup, fun w => ?_⟩
  rw [hs.listening, ← b.listed, hs.idle rfl, List.append_nil]

variable [DecidableEq W]

/-- What an entry makes of the event sets. -/
def IoEntry.listening (f : W → UInt8) : IoEntry W → W → UInt8
  | .command c => c.listening f
  | _ => f

namespace IoDriver

variable (s : IoDriver W) (arg : SelectCallArg) (ws : List W)

/-- The event sets after what happened, from those at the start of the pass. -/
def listeningAfter (log : List (IoEntry W)) : W → UInt8 :=
  log.foldl IoEntry.listening s.eventListening

/-- A callback has fully stopped the watcher. -/
def Stopped (w : W) (log : List (IoEntry W)) : Prop :=
  Once (fun before e =>
    ∃ c, e = .command c ∧ c.watcher = w ∧ c.Stops (s.listeningAfter before)) log

/-- A callback has registered the watcher. -/
def Started (w : W) (log : List (IoEntry W)) : Prop :=
  Once (fun before e =>
    ∃ c, e = .command c ∧ c.watcher = w ∧ c.Starts (s.listeningAfter before)) log

/-- The watcher is being visited, and no callback had fully stopped it before the visit. -/
def Visiting (w : W) (log : List (IoEntry W)) : Prop :=
  Since (fun before e => e = .visit w ∧ ¬ s.Stopped w before) (IoEntry.Within w) log

/-- The pass is through with the watcher: it has been visited, or it was fully stopped before. -/
def Settled (w : W) (log : List (IoEntry W)) : Prop :=
  .visit w ∈ log ∨ s.Stopped w log

/-- What may happen after `log`, in a pass that starts with `ws` registered. -/
def EntryOk (log : List (IoEntry W)) : IoEntry W → Prop
  | .visit w => w ∈ ws ∧ .visit w ∉ log ∧ ¬ s.Stopped w log ∧ ¬ s.Started w log
  | .call w event =>
      s.listeningAfter log w &&& event ≠ 0 ∧ arg.Ready event (s.fd w) ∧ s.Visiting w log
  | .command _ => True

/-- The drivers that the functions of `io_driver.c` can produce: a watcher's descriptor is set by its
    owner, and only a watcher that is on no list is initialised again. -/
inductive Reachable : IoDriver W → Prop where
  | init {s : IoDriver W} (hs : ∀ w, s.eventListening w = 0) : Reachable s.ioDriverInit
  | watcherInit {s : IoDriver W} {w : W} (hs : Reachable s) (hw : s.eventListening w = 0) :
      Reachable (s.ioDriverWatcherInit w)
  | setFd {s : IoDriver W} (w : W) (fd : ℤ) (hs : Reachable s) :
      Reachable { s with fd := Function.update s.fd w fd }
  | command {s : IoDriver W} (c : IoCommand W) (hs : Reachable s) : Reachable (s.command c)
  | pass {s : IoDriver W} {σ : Type} (callback : IoCallback W σ) (arg : SelectCallArg) (fuel : ℕ)
      (user : σ) {p : IoPass W σ} (hs : Reachable s)
      (hp : s.ioDriverPostselect callback arg fuel user = some p) : Reachable p.driver

/-! ## The invariant of a pass -/

variable {s arg ws} {σ : Type} {callback : IoCallback W σ} {p : IoPass W σ} {b : Roster W}
  {w : W} {rest : List W} {event : UInt8}

@[simp] theorem listeningAfter_concat (log : List (IoEntry W)) (e : IoEntry W) :
    s.listeningAfter (log ++ [e]) = e.listening (s.listeningAfter log) := by
  simp [listeningAfter]

/-- A watcher still waits if it is neither visited nor stopped nor started by what happens next. -/
theorem EntryOk.concat {log : List (IoEntry W)} {e : IoEntry W}
    (h : s.EntryOk arg ws log (.visit w)) (hvisit : e ≠ .visit w)
    (hcommand : ∀ c, e = .command c → c.watcher = w →
      ¬ c.Stops (s.listeningAfter log) ∧ ¬ c.Starts (s.listeningAfter log)) :
    s.EntryOk arg ws (log ++ [e]) (.visit w) := by
  obtain ⟨hmem, hvisited, hstop, hstart⟩ := h
  refine ⟨hmem, by simp [hvisited, hvisit.symm], ?_, ?_⟩
  · rw [Stopped, once_concat]
    rintro (h | ⟨c, hc, hw, hstops⟩)
    · exact hstop h
    · exact (hcommand c hc hw).1 hstops
  · rw [Started, once_concat]
    rintro (h | ⟨c, hc, hw, hstarts⟩)
    · exact hstart h
    · exact (hcommand c hc hw).2 hstarts

theorem Settled.concat {log : List (IoEntry W)} (h : s.Settled w log) (e : IoEntry W) :
    s.Settled w (log ++ [e]) := by
  rcases h with hvisited | hstopped
  · exact .inl (List.mem_append_left [e] hvisited)
  · exact .inr (once_concat.2 (.inl hstopped))

variable (s arg ws) in
/-- The driver in the middle of a pass: what has happened was in order, the watchers that wait have
    not been touched, and no watcher was left out. -/
structure Passing (p : IoPass W σ) (b : Roster W) : Prop where
  shows : p.driver.Shows true b
  fd : p.driver.fd = s.fd
  listening : b.listening = s.listeningAfter p.log
  waiting : ∀ w ∈ b.waiting, s.EntryOk arg ws p.log (.visit w)
  settled : ∀ w ∈ ws, w ∈ b.waiting ∨ s.Settled w p.log
  ok : Historically (s.EntryOk arg ws) p.log

variable (s arg ws) in
/-- The driver while `w` is visited, with `rest` waiting at the most. -/
def InVisit (w : W) (rest : List W) (p : IoPass W σ) : Prop :=
  ∃ b, s.Passing arg ws p b ∧ b.waiting.Sublist rest ∧ s.Visiting w p.log

/-- A callback calls the driver. -/
theorem InVisit.command (h : s.InVisit arg ws w rest p) (c : IoCommand W) :
    s.InVisit arg ws w rest (p.command c) := by
  obtain ⟨b, hp, hrest, hvisiting⟩ := h
  refine ⟨b.command c, ⟨hp.shows.command c, ?_, ?_, fun v hv => ?_, fun v hv => ?_, ?_⟩,
    Roster.command_waiting.trans hrest, hvisiting.concat trivial⟩
  · simp [IoPass.command, hp.fd]
  · simp [IoPass.command, IoEntry.listening, hp.listening]
  · have hwaiting := Roster.command_waiting.subset hv
    refine (hp.waiting v hwaiting).concat (by simp) ?_
    rintro c' hc rfl
    obtain rfl := IoEntry.command.inj hc
    rw [← hp.listening]
    constructor
    · -- a watcher that waits after the command listens to something then
      intro hstops
      have hlistens := ((b.command c).listed _).1 (List.mem_append_right _ hv)
      simp [IoCommand.listening, hstops.2] at hlistens
    · -- and one that waited before listened to something already
      intro hstarts
      exact b.notMem_of_silent hstarts.1 (List.mem_append_right _ hwaiting)
  · rcases hp.settled v hv with hwaiting | hsettled
    · by_cases hstops : c.watcher = v ∧ c.Stops b.listening
      · rw [hp.listening] at hstops
        exact .inr (.inr (once_concat.2 (.inr ⟨c, rfl, hstops⟩)))
      · exact .inl (Roster.mem_command_waiting hwaiting hstops)
    · exact .inr (hsettled.concat _)
  · exact historically_concat.2 ⟨hp.ok, trivial⟩

theorem InVisit.commands (h : s.InVisit arg ws w rest p) (cs : List (IoCommand W)) :
    s.InVisit arg ws w rest (cs.foldl IoPass.command p) := by
  induction cs generalizing p with
  | nil => exact h
  | cons c cs ih => exact ih (h.command c)

/-- One of the three checks, and the callback if the watcher passes it. -/
theorem InVisit.check (h : s.InVisit arg ws w rest p) {set : ℤ → Bool}
    (hset : ∀ fd, set fd = true → arg.Ready event fd) :
    s.InVisit arg ws w rest (p.check callback w event set) := by
  unfold IoPass.check
  split
  · next hcall =>
      obtain ⟨b, hp, hrest, hvisiting⟩ := h
      have hown : (IoEntry.call w event).Within w := rfl
      refine InVisit.commands (p := { p with log := p.log ++ [.call w event], user := _ })
        ⟨b, ⟨hp.shows, hp.fd, ?_, fun v hv => ?_, fun v hv => ?_, ?_⟩, hrest,
          hvisiting.concat hown⟩ _
      · simp [IoEntry.listening, hp.listening]
      · exact (hp.waiting v hv).concat (by simp) (by simp)
      · exact (hp.settled v hv).imp_right fun hsettled => hsettled.concat _
      · refine historically_concat.2 ⟨hp.ok, ?_, ?_, hvisiting⟩
        · rw [← hp.listening, ← hp.shows.listening]
          exact hcall.1
        · rw [← hp.fd]
          exact hset _ hcall.2
  · exact h

/-- The next watcher is visited. -/
theorem Passing.visit (hp : s.Passing arg ws p b) (hw : b.waiting = w :: rest) :
    s.InVisit arg ws w rest (p.visit w) := by
  have hok := hp.waiting w (by simp [hw])
  refine ⟨b.visit hw, ⟨hp.shows.visit hw, hp.fd, ?_, fun v hv => ?_, fun v hv => ?_, ?_⟩,
    List.Sublist.refl _, since_here ⟨rfl, hok.2.2.1⟩⟩
  · simp [Roster.visit, IoPass.visit, IoEntry.listening, hp.listening]
  · have hne : w ≠ v := by
      rintro rfl
      have hnodup := b.waiting_nodup
      rw [hw] at hnodup
      exact (List.nodup_cons.1 hnodup).1 hv
    refine (hp.waiting v ?_).concat (by simpa using hne) (by simp)
    rw [hw]
    exact List.mem_cons_of_mem w hv
  · rcases hp.settled v hv with hwaiting | hsettled
    · rw [hw, List.mem_cons] at hwaiting
      rcases hwaiting with rfl | hrest
      · exact .inr (.inl (by simp [IoPass.visit]))
      · exact .inl hrest
    · exact .inr (hsettled.concat _)
  · exact historically_concat.2 ⟨hp.ok, hok⟩

/-- One turn of the loop: a watcher is visited, and at most those behind it wait then. -/
theorem Passing.turn (hp : s.Passing arg ws p b) (hw : b.waiting = w :: rest) :
    ∃ b', s.Passing arg ws (p.turn callback arg w) b' ∧ b'.waiting.Sublist rest := by
  have hrx : ∀ fd, arg.rset fd = true → arg.Ready ioDriverEventRx fd := fun fd h =>
    .inl ⟨rfl, h⟩
  have htx : ∀ fd, arg.wset fd = true → arg.Ready ioDriverEventTx fd := fun fd h =>
    .inr (.inl ⟨rfl, h⟩)
  have hex : ∀ fd, arg.eset fd = true → arg.Ready ioDriverEventEx fd := fun fd h =>
    .inr (.inr ⟨rfl, h⟩)
  have hvisit : s.InVisit arg ws w rest (p.turn callback arg w) :=
    (((hp.visit hw).check hrx).check htx).check hex
  obtain ⟨b', hp', hrest, -⟩ := hvisit
  exact ⟨b', hp', hrest⟩

/-! ## The whole pass -/

/-- More fuel changes nothing about a pass that has ended. -/
theorem postselectLoop_mono {fuel fuel' : ℕ} (hle : fuel ≤ fuel') {q : IoPass W σ}
    (h : p.postselectLoop callback arg fuel = some q) :
    p.postselectLoop callback arg fuel' = some q := by
  induction fuel generalizing p fuel' with
  | zero =>
      rw [IoPass.postselectLoop] at h
      split at h
      · next hempty => cases fuel' <;> rwa [IoPass.postselectLoop, if_pos hempty]
      · cases h
  | succ fuel ih =>
      obtain ⟨fuel', rfl⟩ := Nat.exists_eq_add_one_of_ne_zero (n := fuel') (by omega)
      rw [IoPass.postselectLoop] at h ⊢
      split at h
      · next hempty => rwa [if_pos hempty]
      · next hmore =>
          rw [if_neg hmore]
          cases hnext : p.driver.links.next .runList with
          | le w =>
              rw [hnext] at h
              exact ih (by omega) h
          | watchers => simp [hnext] at h
          | runList => simp [hnext] at h

/-- A pass ends after one turn for each watcher at the most, and is in order to its end. -/
theorem Passing.loop {fuel : ℕ} (hp : s.Passing arg ws p b) (hfuel : b.waiting.length ≤ fuel) :
    ∃ q b', IoPass.postselectLoop callback arg fuel p = some q ∧ s.Passing arg ws q b' ∧
      b'.waiting = [] := by
  induction fuel generalizing p b with
  | zero =>
      have hempty : b.waiting = [] := List.length_eq_zero_iff.1 (Nat.le_zero.1 hfuel)
      exact ⟨p, b, if_pos (hp.shows.listEmpty.2 hempty), hp, hempty⟩
  | succ fuel ih =>
      cases hw : b.waiting with
      | nil => exact ⟨p, b, if_pos (hp.shows.listEmpty.2 hw), hp, hw⟩
      | cons w rest =>
          obtain ⟨b', hp', hrest⟩ :
              ∃ b', s.Passing arg ws (p.turn callback arg w) b' ∧ b'.waiting.Sublist rest :=
            hp.turn hw
          rw [hw, List.length_cons] at hfuel
          obtain ⟨q, b'', hq, hpass⟩ := ih hp' (hrest.length_le.trans (by omega))
          refine ⟨q, b'', ?_, hpass⟩
          have hmore : ¬ p.driver.links.listEmpty .runList = true := by
            rw [hp.shows.listEmpty, hw]
            simp
          rw [IoPass.postselectLoop, if_neg hmore, hp.shows.next hw]
          exact hq

/-- The start of a pass: every watcher of the driver waits, and nothing has happened. -/
theorem Shows.passing (hs : s.Shows false b) (user : σ) :
    s.Passing arg b.watchers
      ⟨{ s with links := (s.links.initListHead .runList).listSpliceInit .watchers .runList }, user, []⟩
      b.start := by
  have hall : b.start.waiting = b.watchers := by simp [Roster.start, hs.idle rfl]
  refine ⟨hs.splice, rfl, hs.listening.symm, fun w hw => ?_, fun w hw => ?_, historically_nil⟩
  · rw [hall] at hw
    exact ⟨hw, by simp, not_once_nil, not_once_nil⟩
  · rw [hall]
    exact .inl hw

/-- A pass ends, whatever the callbacks do, and what it comes to does not depend on the fuel. -/
theorem Shows.postselect (hs : s.Shows false b) (callback : IoCallback W σ) (arg : SelectCallArg)
    (user : σ) :
    ∃ p b', (∀ fuel, b.watchers.length ≤ fuel →
        s.ioDriverPostselect callback arg fuel user = some p) ∧
      s.Passing arg b.watchers p b' ∧ b'.waiting = [] := by
  have hlength : b.start.waiting.length = b.watchers.length := by simp [Roster.start, hs.idle rfl]
  obtain ⟨p, b', hp, hpass⟩ := (hs.passing user).loop hlength.le
  exact ⟨p, b', fun fuel hfuel => postselectLoop_mono hfuel hp, hpass⟩

/-- What a pass has come to when it ends, with whatever fuel. -/
theorem Shows.passed (hs : s.Shows false b) {fuel : ℕ} {user : σ}
    (hp : s.ioDriverPostselect callback arg fuel user = some p) :
    ∃ b', s.Passing arg b.watchers p b' ∧ b'.waiting = [] := by
  obtain ⟨q, b', hq, hpass⟩ := hs.postselect callback arg user
  have hp' := postselectLoop_mono (Nat.le_max_left fuel b.watchers.length) hp
  have heq := hp'.symm.trans (hq _ (Nat.le_max_right fuel b.watchers.length))
  obtain rfl := Option.some.inj heq
  exact ⟨b', hpass⟩

/-- Every driver that can be reached shows a roster on which no watcher waits. -/
theorem Reachable.shows (hs : Reachable s) : ∃ b, s.Shows false b := by
  induction hs with
  | init hs => exact ⟨_, shows_ioDriverInit hs⟩
  | watcherInit hs hw ih =>
      obtain ⟨b, hb⟩ := ih
      exact ⟨b, hb.ioDriverWatcherInit hw⟩
  | setFd w fd hs ih =>
      obtain ⟨b, hb⟩ := ih
      exact ⟨b, hb.rings, hb.listening, hb.idle⟩
  | command c hs ih =>
      obtain ⟨b, hb⟩ := ih
      exact ⟨b.command c, hb.command c⟩
  | pass callback arg fuel user hs hp ih =>
      obtain ⟨b, hb⟩ := ih
      obtain ⟨b', hpass, hwaiting⟩ := hb.passed hp
      exact ⟨b', hpass.shows.finish hwaiting⟩

/-- A pass leaves no watcher out: one that was registered at its start is visited, unless a callback
    has fully stopped it. -/
theorem Reachable.settled (hs : Reachable s) {fuel : ℕ} {user : σ}
    (hp : s.ioDriverPostselect callback arg fuel user = some p) (hw : s.eventListening w ≠ 0) :
    s.Settled w p.log := by
  obtain ⟨b, hb⟩ := hs.shows
  obtain ⟨b', hpass, hwaiting⟩ := hb.passed hp
  have hmem : w ∈ b.watchers := (hb.registers.listed w).2 hw
  refine (hpass.settled w hmem).resolve_left ?_
  simp [hwaiting]

/-- A pass over any driver ends, whatever the callbacks start and stop. It visits only watchers that
    were registered at its start, each once at the most, and none that was stopped or registered since. A
    callback is called only for an event that its watcher listens to and its descriptor is ready for, and
    only while the watcher is visited: no callback has stopped it before, and if its own has stopped it
    since, it has started it again. In the end `driver->watchers` holds exactly the watchers with a
    non-empty event set, each once. -/
theorem reachable_postselect (hs : Reachable s) : ∃ ws, s.Registers ws ∧
    ∀ {σ : Type} (callback : IoCallback W σ) (arg : SelectCallArg) (user : σ), ∃ p,
      (∀ fuel, ws.length ≤ fuel → s.ioDriverPostselect callback arg fuel user = some p) ∧
      Historically (s.EntryOk arg ws) p.log ∧
      p.driver.eventListening = s.listeningAfter p.log ∧
      ∃ ws', p.driver.Registers ws' := by
  obtain ⟨b, hb⟩ := hs.shows
  refine ⟨b.watchers, hb.registers, fun callback arg user => ?_⟩
  obtain ⟨p, b', hp, hpass, hwaiting⟩ := hb.postselect callback arg user
  have hfinish := hpass.shows.finish hwaiting
  refine ⟨p, hp, hpass.ok, ?_, b'.watchers, hfinish.registers⟩
  rw [hfinish.listening, hpass.listening]

/-- A driver with three watchers, of descriptors 0, 1 and 2: the first listens to RX and TX, the others to RX. -/
def threeWatchers : IoDriver (Fin 3) :=
  ((((ioDriverInit ⟨⟨fun _ => .watchers, fun _ => .watchers⟩, fun _ => 0, fun w => w.val⟩).command
    (.watch 0 ioDriverEventRx)).command (.watch 1 ioDriverEventRx)).command
      (.watch 2 ioDriverEventRx)).command (.watch 0 ioDriverEventTx)

theorem reachable_postselect_threeWatchers : ∃ ws, threeWatchers.Registers ws ∧
    ∀ {σ : Type} (callback : IoCallback (Fin 3) σ) (arg : SelectCallArg) (user : σ), ∃ p,
      (∀ fuel, ws.length ≤ fuel → threeWatchers.ioDriverPostselect callback arg fuel user = some p) ∧
      Historically (threeWatchers.EntryOk arg ws) p.log ∧
      p.driver.eventListening = threeWatchers.listeningAfter p.log ∧
      ∃ ws', p.driver.Registers ws' :=
  reachable_postselect
    (((((Reachable.init fun _ => rfl).command (.watch 0 ioDriverEventRx)).command
      (.watch 1 ioDriverEventRx)).command (.watch 2 ioDriverEventRx)).command (.watch 0 ioDriverEventTx))

/-- A driver with one watcher, of descriptor 0, that listens to RX and TX. -/
def twoEvents : IoDriver Unit :=
  ((ioDriverInit ⟨⟨fun _ => .watchers, fun _ => .watchers⟩, fun _ => 0, fun _ => 0⟩).command
    (.watch () ioDriverEventRx)).command (.watch () ioDriverEventTx)

/-- A callback that, called for RX, stops its watcher and starts it again for TX. -/
def restartForTx : IoCallback Unit Unit := fun watcher event _ _ =>
  (if event = ioDriverEventRx then
    [.noWatch watcher ioDriverEventRx, .noWatch watcher ioDriverEventTx,
      .watch watcher ioDriverEventTx]
  else [], ())

/-- A watcher that its own callback has fully stopped and started again is called for another event
    in the same visit. -/
theorem called_after_restart : ¬ ∀ s : IoDriver Unit, Reachable s →
    ∀ (callback : IoCallback Unit Unit) (arg : SelectCallArg) (fuel : ℕ) (p : IoPass Unit Unit),
      s.ioDriverPostselect callback arg fuel () = some p →
      Historically (fun before e => ∀ w event, e = .call w event → ¬ s.Stopped w before) p.log := by
  intro h
  have hs : Reachable twoEvents := ((Reachable.init fun _ => rfl).command _).command _
  have hlog : (twoEvents.ioDriverPostselect restartForTx
      ⟨fun _ => true, fun _ => true, fun _ => false⟩ 1 ()).map IoPass.log =
      some ([.visit (), .call () ioDriverEventRx, .command (.noWatch () ioDriverEventRx),
        .command (.noWatch () ioDriverEventTx), .command (.watch () ioDriverEventTx)] ++
        [.call () ioDriverEventTx]) := by rfl
  obtain ⟨p, hp, hlog⟩ := Option.map_eq_some_iff.1 hlog
  refine h twoEvents hs restartForTx _ 1 p hp _ (.call () ioDriverEventTx) [] hlog () _ rfl ?_
  refine ⟨[.visit (), .call () ioDriverEventRx, .command (.noWatch () ioDriverEventRx)],
    .command (.noWatch () ioDriverEventTx), [.command (.watch () ioDriverEventTx)], rfl,
    .noWatch () ioDriverEventTx, rfl, rfl, by decide⟩

end IoDriver

end Prtp
