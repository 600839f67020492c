import Prtp.IoDriver
import Mathlib.Data.List.Perm.Basic

set_option autoImplicit false

/-! # Rosters of watchers

What the driver and a pass come to, without the pointers: the watchers on `driver->watchers`, those
still to be visited, and all event sets. Exactly the watchers with a non-empty event set are on one
of the two lists, once; a roster in which they are not cannot be built.

`Shows` relates a driver to its roster, and each function of the driver keeps it. -/

namespace Prtp

variable {W : Type}

@[ext] structure Roster (W : Type) where
  watchers : List W
  waiting : List W
  listening : W → UInt8
  nodup : (watchers ++ waiting).Nodup
  listed : ∀ w, w ∈ watchers ++ waiting ↔ listening w ≠ 0

/-- The list with head `h`, as a ring of nodes. -/
def IoNode.ring (h : IoNode W) (ws : List W) : List (IoNode W) := h :: ws.map .le

namespace Roster

variable (b : Roster W)

/-- No watcher listens. -/
def idle : Roster W := ⟨[], [], fun _ => 0, List.nodup_nil, by simp⟩

theorem watchers_nodup : b.watchers.Nodup := (List.nodup_append'.1 b.nodup).1

theorem waiting_nodup : b.waiting.Nodup := (List.nodup_append'.1 b.nodup).2.1

theorem disjoint : b.watchers.Disjoint b.waiting := (List.nodup_append'.1 b.nodup).2.2

theorem notMem_of_silent {w : W} (hw : b.listening w = 0) : w ∉ b.watchers ++ b.waiting := by
  rw [b.listed]
  exact fun h => h hw

/-- At the start of a pass all watchers wait to be visited. -/
def start : Roster W where
  watchers := []
  waiting := b.watchers ++ b.waiting
  listening := b.listening
  nodup := b.nodup
  listed := b.listed

/-- The first of the waiting watchers goes to the end of the others. -/
def visit {w : W} {rest : List W} (hw : b.waiting = w :: rest) : Roster W where
  watchers := b.watchers ++ [w]
  waiting := rest
  listening := b.listening
  nodup := by
    rw [List.append_assoc, List.singleton_append, ← hw]
    exact b.nodup
  listed := by
    intro v
    rw [List.append_assoc, List.singleton_append, ← hw]
    exact b.listed v

/-! ## The rings of a roster -/

/-- The lists of a roster, that of the pass in a pass only. -/
def rings (b : Roster W) : Bool → List (List (IoNode W))
  | false => [IoNode.watchers.ring b.watchers]
  | true => [IoNode.watchers.ring b.watchers, IoNode.runList.ring b.waiting]

/-- The rings of a roster, that of the driver first. -/
theorem rings_eq (inPass : Bool) : b.rings inPass =
    IoNode.watchers.ring b.watchers :: if inPass then [IoNode.runList.ring b.waiting] else [] := by
  cases inPass <;> rfl

/-- A watcher's node is on a ring only if the watcher is on the roster. -/
theorem mem_of_mem_rings {inPass : Bool} {w : W} (h : (IoNode.le w) ∈ (b.rings inPass).flatten) :
    w ∈ b.watchers ++ b.waiting := by
  cases inPass <;> simp_all [Roster.rings, IoNode.ring]

end Roster

/-! ## The driver's pointers show a roster -/

/-- The driver's memory holds the lists of the roster, and its event sets. -/
structure IoDriver.Shows (inPass : Bool) (s : IoDriver W) (b : Roster W) : Prop where
  rings : s.links.Rings (b.rings inPass)
  listening : s.eventListening = b.listening
  idle : inPass = false → b.waiting = []

section Shows

variable {s : IoDriver W} {b : Roster W}

/-- The watcher to be visited next is behind the head of the list of the pass. -/
theorem IoDriver.Shows.next {w : W} {rest : List W} (hs : IoDriver.Shows true s b) (hw : b.waiting = w :: rest) :
    s.links.next .runList = .le w := by
  have hswapped := hs.rings.swap
  rw [hw] at hswapped
  exact hswapped.next_head

/-- When no watcher waits any more, the list of the pass goes out of scope. -/
theorem IoDriver.Shows.finish (hs : IoDriver.Shows true s b) (hw : b.waiting = []) :
    IoDriver.Shows false s b :=
  ⟨(hs.rings.swap).tail, hs.listening, fun _ => hw⟩

end Shows

/-! ## Commands -/

namespace IoCommand

def watcher : IoCommand W → W
  | .watch w _ => w
  | .noWatch w _ => w

/-- The event set that a command leaves the watcher with, from the one it has. -/
def newSet (old : UInt8) : IoCommand W → UInt8
  | .watch _ event => old ||| event
  | .noWatch _ event => old &&& ~~~event

/-- The command gives a watcher that listened to nothing something to listen to. -/
def Starts (f : W → UInt8) (c : IoCommand W) : Prop :=
  f c.watcher = 0 ∧ c.newSet (f c.watcher) ≠ 0

/-- The command fully stops a watcher that listened to something. -/
def Stops (f : W → UInt8) (c : IoCommand W) : Prop :=
  f c.watcher ≠ 0 ∧ c.newSet (f c.watcher) = 0

instance (f : W → UInt8) (c : IoCommand W) : Decidable (c.Starts f) :=
  inferInstanceAs (Decidable (_ ∧ _))

instance (f : W → UInt8) (c : IoCommand W) : Decidable (c.Stops f) :=
  inferInstanceAs (Decidable (_ ∧ _))

variable {f : W → UInt8} {c : IoCommand W}

theorem Stops.not_starts (h : c.Stops f) : ¬ c.Starts f := fun h' => h.1 h'.1

/-- Asking for more events stops no watcher. -/
theorem not_stops_watch {w : W} {event : UInt8} : ¬ (watch w event).Stops f :=
  fun h => h.1 (UInt8.or_eq_zero_iff.1 h.2).1

/-- Asking for fewer events starts no watcher. -/
theorem not_starts_noWatch {w : W} {event : UInt8} : ¬ (noWatch w event).Starts f := by
  rintro ⟨hw, hnew⟩
  simp only [watcher] at hw
  simp [newSet, watcher, hw] at hnew

end IoCommand

variable [DecidableEq W]

/-- What a command makes of the event sets. -/
def IoCommand.listening (f : W → UInt8) (c : IoCommand W) : W → UInt8 :=
  Function.update f c.watcher (c.newSet (f c.watcher))

namespace Roster

variable (b : Roster W) (c : IoCommand W)

/-- A watcher is put on the list when its event set becomes non-empty, and taken off the one it is
    on when it becomes empty. -/
def command : Roster W :=
  if hstart : c.Starts b.listening then
    { watchers := b.watchers ++ [c.watcher]
      waiting := b.waiting
      listening := c.listening b.listening
      nodup := by
        rw [List.append_assoc, List.singleton_append, List.nodup_middle, List.nodup_cons]
        exact ⟨b.notMem_of_silent hstart.1, b.nodup⟩
      listed := by
        intro w
        rw [List.append_assoc, List.singleton_append, List.perm_middle.mem_iff, List.mem_cons,
          b.listed]
        by_cases hw : w = c.watcher
        · simp [hw, IoCommand.listening, hstart.2]
        · simp [hw, IoCommand.listening] }
  else if hstop : c.Stops b.listening then
    { watchers := b.watchers.erase c.watcher
      waiting := b.waiting.erase c.watcher
      listening := c.listening b.listening
      nodup := b.nodup.sublist (List.erase_sublist.append List.erase_sublist)
      listed := by
        intro w
        rw [List.mem_append, b.watchers_nodup.mem_erase_iff, b.waiting_nodup.mem_erase_iff,
          ← and_or_left, ← List.mem_append, b.listed]
        by_cases hw : w = c.watcher
        · simp [hw, IoCommand.listening, hstop.2]
        · simp [hw, IoCommand.listening] }
  else
    { b with
      listening := c.listening b.listening
      listed := by
        intro w
        rw [b.listed]
        by_cases hw : w = c.watcher
        · simp only [hw, IoCommand.listening, Function.update_self]
          unfold IoCommand.Starts at hstart
          unfold IoCommand.Stops at hstop
          tauto
        · simp [hw, IoCommand.listening] }

@[simp] theorem command_listening : (b.command c).listening = c.listening b.listening := by
  unfold command
  split
  · rfl
  · split <;> rfl

variable {b c}

theorem command_of_starts (h : c.Starts b.listening) :
    (b.command c).watchers = b.watchers ++ [c.watcher] ∧ (b.command c).waiting = b.waiting := by
  simp only [command, dif_pos h, and_self]

theorem command_of_stops (h : c.Stops b.listening) :
    (b.command c).watchers = b.watchers.erase c.watcher ∧
      (b.command c).waiting = b.waiting.erase c.watcher := by
  simp only [command, dif_neg h.not_starts, dif_pos h, and_self]

theorem command_of_keeps (hstart : ¬ c.Starts b.listening) (hstop : ¬ c.Stops b.listening) :
    (b.command c).watchers = b.watchers ∧ (b.command c).waiting = b.waiting := by
  simp only [command, dif_neg hstart, dif_neg hstop, and_self]

/-- A watcher that waits goes on waiting unless it is fully stopped. -/
theorem mem_command_waiting {w : W} (hw : w ∈ b.waiting)
    (hstop : ¬ (c.watcher = w ∧ c.Stops b.listening)) : w ∈ (b.command c).waiting := by
  by_cases hstarts : c.Starts b.listening
  · rwa [(command_of_starts hstarts).2]
  by_cases hstops : c.Stops b.listening
  · rw [(command_of_stops hstops).2]
    exact (List.mem_erase_of_ne fun he => hstop ⟨he.symm, hstops⟩).2 hw
  · rwa [(command_of_keeps hstarts hstops).2]

/-- A command lets no watcher wait for a visit that did not. -/
theorem command_waiting : (b.command c).waiting.Sublist b.waiting := by
  by_cases hstart : c.Starts b.listening
  · rw [(command_of_starts hstart).2]
  · by_cases hstop : c.Stops b.listening
    · rw [(command_of_stops hstop).2]
      exact List.erase_sublist
    · rw [(command_of_keeps hstart hstop).2]

end Roster

/-! ## The functions of the driver -/

namespace IoDriver

open Links

variable {inPass : Bool} {s : IoDriver W} {b : Roster W} {c : IoCommand W} {w : W}

@[simp] theorem command_eventListening (s : IoDriver W) (c : IoCommand W) :
    (s.command c).eventListening = c.listening s.eventListening := by
  cases c <;> rfl

@[simp] theorem command_fd (s : IoDriver W) (c : IoCommand W) : (s.command c).fd = s.fd := by
  cases c <;> rfl

theorem links_of_starts (h : c.Starts s.eventListening) :
    (s.command c).links = s.links.listAddTail (.le c.watcher) .watchers := by
  cases c with
  | watch w event => exact if_pos h
  | noWatch w event => exact absurd h IoCommand.not_starts_noWatch

theorem links_of_stops (h : c.Stops s.eventListening) :
    (s.command c).links = s.links.listDelInit (.le c.watcher) := by
  cases c with
  | watch w event => exact absurd h IoCommand.not_stops_watch
  | noWatch w event => exact if_pos h

theorem links_of_keeps (hstart : ¬ c.Starts s.eventListening) (hstop : ¬ c.Stops s.eventListening) :
    (s.command c).links = s.links := by
  cases c with
  | watch w event => exact if_neg hstart
  | noWatch w event => exact if_neg hstop

variable {l : Links (IoNode W)} {h : IoNode W} {ws : List W} {rs : List (List (IoNode W))}

/-- A watcher is put at the end of a list. -/
theorem rings_add (hrs : l.Rings (h.ring ws :: rs)) (hw : .le w ∉ (h.ring ws :: rs).flatten) :
    (l.listAddTail (.le w) h).Rings (h.ring (ws ++ [w]) :: rs) := by
  rw [List.flatten_cons, List.mem_append, not_or] at hw
  have hadded := rings_listAddTail hrs hw.1 hw.2
  simpa [IoNode.ring] using hadded

/-- A watcher is taken from a list, and its node is on none. -/
theorem rings_del (hrs : l.Rings (h.ring ws :: rs)) (hnodup : ws.Nodup) (hw : w ∈ ws) :
    (l.listDelInit (.le w)).Rings ([.le w] :: h.ring (ws.erase w) :: rs) := by
  obtain ⟨xs, ys, rfl⟩ := List.append_of_mem hw
  have hxs : w ∉ xs := fun hmem => (List.nodup_cons.1 (List.nodup_middle.1 hnodup)).1
    (List.mem_append_left ys hmem)
  rw [List.erase_append_right _ hxs, List.erase_cons_head]
  have hsplit : h.ring (xs ++ w :: ys) = h :: xs.map .le ++ .le w :: ys.map .le := by
    simp [IoNode.ring]
  rw [hsplit] at hrs
  have hremoved := rings_listDelInit hrs
  simpa [IoNode.ring] using hremoved

theorem Shows.command_rings (hs : Shows inPass s b) (c : IoCommand W) :
    (s.command c).links.Rings ((b.command c).rings inPass) := by
  have hrings := hs.rings
  have hlistening := hs.listening
  by_cases hstart : c.Starts b.listening
  · rw [links_of_starts (hlistening ▸ hstart)]
    have hfresh : .le c.watcher ∉ (b.rings inPass).flatten := fun hmem =>
      b.notMem_of_silent hstart.1 (b.mem_of_mem_rings hmem)
    obtain ⟨hwatchers, hwaiting⟩ := Roster.command_of_starts hstart
    rw [Roster.rings_eq] at hrings hfresh ⊢
    rw [hwatchers, hwaiting]
    exact rings_add hrings hfresh
  by_cases hstop : c.Stops b.listening
  · rw [links_of_stops (hlistening ▸ hstop)]
    obtain ⟨hwatchers, hwaiting⟩ := Roster.command_of_stops hstop
    rw [Roster.rings_eq] at hrings ⊢
    rw [hwatchers, hwaiting]
    -- the watcher is on one of the two lists, and the other is not touched
    rcases List.mem_append.1 ((b.listed c.watcher).2 hstop.1) with hw | hw
    · rw [List.erase_of_not_mem (b.disjoint hw)]
      exact (rings_del hrings b.watchers_nodup hw).tail
    · have hpass : inPass = true := by
        by_contra hidle
        simp [hs.idle (Bool.eq_false_iff.2 hidle)] at hw
      subst hpass
      rw [List.erase_of_not_mem fun hw' => b.disjoint hw' hw]
      have hswapped := hrings.swap
      exact (rings_del hswapped b.waiting_nodup hw).tail.swap
  · rw [links_of_keeps (hlistening ▸ hstart) (hlistening ▸ hstop)]
    obtain ⟨hwatchers, hwaiting⟩ := Roster.command_of_keeps hstart hstop
    rwa [Roster.rings_eq, hwatchers, hwaiting, ← Roster.rings_eq]

/-- A call of the driver, by a callback or between passes. -/
theorem Shows.command (hs : Shows inPass s b) (c : IoCommand W) :
    Shows inPass (s.command c) (b.command c) := by
  refine ⟨hs.command_rings c, by simp [hs.listening], fun hidle => ?_⟩
  have hsub := b.command_waiting (c := c)
  rw [hs.idle hidle] at hsub
  exact List.sublist_nil.1 hsub

/-- `io_driver_init`, with every watcher listening to nothing. -/
theorem shows_ioDriverInit (hs : ∀ w, s.eventListening w = 0) :
    Shows false s.ioDriverInit Roster.idle :=
  ⟨rings_initListHead rings_nil (by simp), funext hs, fun _ => rfl⟩

/-- `io_driver_watcher_init` of a watcher that is on no list. -/
theorem Shows.ioDriverWatcherInit (hs : Shows inPass s b) (hw : s.eventListening w = 0) :
    Shows inPass (s.ioDriverWatcherInit w) b := by
  refine ⟨?_, ?_, hs.idle⟩
  · have hfresh : .le w ∉ (b.rings inPass).flatten := fun hmem =>
      b.notMem_of_silent (hs.listening ▸ hw) (b.mem_of_mem_rings hmem)
    exact (rings_initListHead hs.rings hfresh).tail
  · rw [← hs.listening]
    exact Function.update_eq_self_iff.2 hw.symm

/-- The driver's list is spliced into that of the pass. -/
theorem Shows.splice (hs : Shows false s b) :
    Shows true { s with links := (s.links.initListHead .runList).listSpliceInit .watchers .runList }
      b.start := by
  refine ⟨?_, hs.listening, by simp⟩
  have hfresh : IoNode.runList ∉ (b.rings false).flatten := by simp [Roster.rings, IoNode.ring]
  have hswapped := (rings_initListHead hs.rings hfresh).swap
  have hspliced := rings_listSpliceInit hswapped
  simpa [Roster.rings, Roster.start, IoNode.ring, hs.idle rfl] using hspliced

/-- The next watcher is taken from the list of the pass and put on the driver's. -/
theorem Shows.visit {rest : List W} (hs : Shows true s b) (hw : b.waiting = w :: rest) :
    Shows true
      { s with links := (s.links.listDelInit (.le w)).listAddTail (.le w) .watchers }
      (b.visit hw) := by
  refine ⟨?_, hs.listening, by simp⟩
  have hswapped := hs.rings.swap
  have hmem : w ∈ b.waiting := by simp [hw]
  have hremoved := rings_del hswapped b.waiting_nodup hmem
  rw [hw, List.erase_cons_head] at hremoved
  have hordered := hremoved.perm ((List.Perm.swap _ _ _).cons _)
  obtain ⟨-, -, hfresh, hrest⟩ := rings_cons.1 hordered
  exact rings_add hrest (hfresh (by simp))

theorem Shows.listEmpty (hs : Shows true s b) :
    s.links.listEmpty .runList = true ↔ b.waiting = [] := by
  have hswapped := hs.rings.swap
  simp [listEmpty_eq hswapped]

end IoDriver

end Prtp
