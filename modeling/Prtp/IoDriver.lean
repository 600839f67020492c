import Prtp.GenericList
import Mathlib.Data.List.Perm.Basic

set_option autoImplicit false

/-! # The IO driver of `io_driver.c`

Watchers with a non-empty event set are on the list `driver->watchers`. A pass after `select` moves
them all to a list of its own and takes them from there one by one, so that a callback may start
and stop any watcher, the one being visited and those still to be visited included. -/

namespace Prtp

variable {W : Type}

/-- What has a `struct list_head`: the driver, a pass, and each watcher. -/
inductive IoNode (W : Type) where
  | watchers
  | runList
  | le (watcher : W)
  deriving DecidableEq

/-- `IO_DRIVER_EVENT_RX`. -/
def ioDriverEventRx : UInt8 := 0x01

/-- `IO_DRIVER_EVENT_TX`. -/
def ioDriverEventTx : UInt8 := 0x02

/-- `IO_DRIVER_EVENT_EX`. -/
def ioDriverEventEx : UInt8 := 0x04

/-- The driver with its watchers: all list heads, and each watcher's descriptor and event set. -/
structure IoDriver (W : Type) where
  links : Links (IoNode W)
  eventListening : W → UInt8
  fd : W → ℤ

/-- The three `fd_set`s as `select` has left them. -/
structure SelectCallArg where
  rset : ℤ → Bool
  wset : ℤ → Bool
  eset : ℤ → Bool

/-- What a callback may ask the driver for. -/
inductive IoCommand (W : Type) where
  | watch (watcher : W) (event : UInt8)
  | noWatch (watcher : W) (event : UInt8)

/-- What happens in a pass: a watcher is taken from the list, a callback is called, a callback
    calls the driver. -/
inductive IoEntry (W : Type) where
  | visit (watcher : W)
  | call (watcher : W) (event : UInt8)
  | command (c : IoCommand W)

/-- The driver in a pass, with the state of the callbacks and what has happened so far. -/
structure IoPass (W σ : Type) where
  driver : IoDriver W
  user : σ
  log : List (IoEntry W)

/-- The callbacks of all watchers: what one asks for may depend on everything the callbacks have
    seen before, and on the event sets. -/
abbrev IoCallback (W σ : Type) := W → UInt8 → σ → (W → UInt8) → List (IoCommand W) × σ

variable [DecidableEq W] {σ : Type}

namespace IoDriver

def ioDriverInit (driver : IoDriver W) : IoDriver W :=
  { driver with links := driver.links.initListHead .watchers }

def ioDriverWatcherInit (driver : IoDriver W) (watcher : W) : IoDriver W :=
  { links := driver.links.initListHead (.le watcher)
    fd := Function.update driver.fd watcher (-1)
    eventListening := Function.update driver.eventListening watcher 0 }

def ioDriverWatch (driver : IoDriver W) (watcher : W) (event : UInt8) : IoDriver W :=
  let oldSet := driver.eventListening watcher
  let newSet := oldSet ||| event
  { driver with
    eventListening := Function.update driver.eventListening watcher newSet
    links :=
      if oldSet = 0 ∧ newSet ≠ 0 then driver.links.listAddTail (.le watcher) .watchers
      else driver.links }

def ioDriverNoWatch (driver : IoDriver W) (watcher : W) (event : UInt8) : IoDriver W :=
  let oldSet := driver.eventListening watcher
  let newSet := oldSet &&& ~~~event
  { driver with
    eventListening := Function.update driver.eventListening watcher newSet
    links :=
      if oldSet ≠ 0 ∧ newSet = 0 then driver.links.listDelInit (.le watcher)
      else driver.links }

def command (driver : IoDriver W) : IoCommand W → IoDriver W
  | .watch w event => driver.ioDriverWatch w event
  | .noWatch w event => driver.ioDriverNoWatch w event

end IoDriver

namespace IoPass

variable (callback : IoCallback W σ)

def command (p : IoPass W σ) (c : IoCommand W) : IoPass W σ :=
  { p with driver := p.driver.command c, log := p.log ++ [.command c] }

/-- `watcher->callback(watcher, event)`. -/
def call (watcher : W) (event : UInt8) (p : IoPass W σ) : IoPass W σ :=
  let (commands, user) := callback watcher event p.user p.driver.eventListening
  commands.foldl command { p with user, log := p.log ++ [.call watcher event] }

/-- One of the three checks: the callback is called for an event that the watcher listens to and
    that its descriptor is ready for. -/
def check (watcher : W) (event : UInt8) (set : ℤ → Bool) (p : IoPass W σ) : IoPass W σ :=
  if p.driver.eventListening watcher &&& event ≠ 0 ∧ set (p.driver.fd watcher) = true then
    p.call callback watcher event
  else p

/-- The watcher goes from the list of the pass to the end of the driver's. -/
def visit (p : IoPass W σ) (watcher : W) : IoPass W σ :=
  { p with
    driver.links := (p.driver.links.listDelInit (.le watcher)).listAddTail (.le watcher) .watchers
    log := p.log ++ [.visit watcher] }

variable (s : SelectCallArg)

/-- The body of the loop of `io_driver_postselect`. -/
def turn (watcher : W) (p : IoPass W σ) : IoPass W σ :=
  (((p.visit watcher).check callback watcher ioDriverEventRx s.rset).check callback watcher
    ioDriverEventTx s.wset).check callback watcher ioDriverEventEx s.eset

/-- The loop of `io_driver_postselect`. Without a value when the fuel runs out, and when
    `list_first_entry` would make a watcher of a list head. -/
def postselectLoop : ℕ → IoPass W σ → Option (IoPass W σ)
  | 0, p => if p.driver.links.listEmpty .runList then some p else none
  | fuel + 1, p =>
      if p.driver.links.listEmpty .runList then some p
      else
        match p.driver.links.next .runList with
        | .le watcher => postselectLoop fuel (p.turn callback s watcher)
        | _ => none

end IoPass

/-- `io_driver_postselect`. -/
def IoDriver.ioDriverPostselect (callback : IoCallback W σ) (s : SelectCallArg) (fuel : ℕ)
    (driver : IoDriver W) (user : σ) : Option (IoPass W σ) :=
  let links := (driver.links.initListHead .runList).listSpliceInit .watchers .runList
  IoPass.postselectLoop callback s fuel ⟨{ driver with links := links }, user, []⟩

end Prtp
