import Prtp.CliConnections
import Prtp.IoDriver

set_option autoImplicit false

/-! # The telnet server (`tcp_server.c`, `tcp_server_ipv4.c`, `stream.c` and `cli_telnet.c` over `io_driver.c`)

The watcher of the server's socket accepts connections, and the stream of each connection has a watcher of its own, in
the block of memory that is allocated for the connection. A connection that ends is closed in the callback of its
watcher, which frees the block; what the pass asks the watcher for after that, it reads from memory that is free. -/

namespace Prtp

/-- What `read` comes to on a descriptor: it has read something, at the end of the stream it has not, or it fails. -/
inductive ReadRet
  | data (d : UInt8) (ds : List UInt8)
  | eof
  | failed

variable {W : Type}

/-- What a callback meets with: the descriptor that `accept` has for it, with those that are open, and the block that
    `malloc` has, with those that are allocated; what the block held before; what `read` and `write` come to, the
    latter for what the command line puts out and for what was queued; and what the command handlers print. -/
structure Happening (W : Type) where
  accept : List ℤ → Option ℤ
  malloc : List W → Option W
  block : CliConnection
  read : ReadRet
  writes : ℕ → WriteRet
  room : WriteRet
  prints : ℕ → List (List UInt8) → List (List UInt8)
  /-- A new descriptor is not open, -/
  accept_new : ∀ opened fd, accept opened = some fd → fd ∉ opened
  /-- and a new block not allocated. -/
  malloc_new : ∀ allocated w, malloc allocated = some w → w ∉ allocated

/-- What happens to a server: `select` returns, a connection is accepted into a block, or refused as there is none,
    the callback of a connection's watcher is called, it has read something, the connection is closed, and the pass
    reads a field of a watcher that is free. -/
inductive ServerEntry (W : Type)
  | select (arg : SelectCallArg)
  | accept (w : W) (fd : ℤ)
  | refuse (fd : ℤ)
  | call (w : W) (fd : ℤ) (event : UInt8)
  | rx (w : W) (data : List UInt8)
  | close (w : W) (event : UInt8)
  | stray (w : W)

/-- `cli_server_t` and its driver, on which the server's own watcher is `none` and that of a connection its block; the
    blocks that are allocated, with what they hold, and the descriptors that are open; how many callbacks have been
    called, and what has happened. -/
structure TelnetServer (W : Type) where
  driver : IoDriver (Option W)
  conns : List W
  allocated : List W
  opened : List ℤ
  mem : W → CliConnection
  calls : ℕ
  log : List (ServerEntry W)

/-- What `select` leaves of the sets it is given. -/
def SelectCallArg.among (arg asked : SelectCallArg) : SelectCallArg :=
  ⟨fun fd => arg.rset fd && asked.rset fd, fun fd => arg.wset fd && asked.wset fd,
    fun fd => arg.eset fd && asked.eset fd⟩

/-- The last call of the driver for the TX event that `stream.c` has made for a stream; where it has made none, one
    that changes nothing. -/
def Stream.txCommand (s : Stream) (watcher : W) : IoCommand W :=
  if s.txWatched then .watch watcher ioDriverEventTx else .noWatch watcher ioDriverEventTx

variable [DecidableEq W]

namespace IoDriver

/-- The watcher of `stream_init_with_fd`. -/
def streamInitWithFd (driver : IoDriver W) (watcher : W) (fd : ℤ) : IoDriver W :=
  let driver := driver.ioDriverWatcherInit watcher
  let driver := { driver with fd := Function.update driver.fd watcher fd }
  (driver.ioDriverWatch watcher ioDriverEventRx).ioDriverWatch watcher ioDriverEventEx

/-- The watcher of `stream_deinit`. -/
def streamDeinit (driver : IoDriver W) (watcher : W) : IoDriver W :=
  ((driver.ioDriverNoWatch watcher ioDriverEventRx).ioDriverNoWatch watcher ioDriverEventTx).ioDriverNoWatch watcher
    ioDriverEventEx

/-- Whether a watcher on the list listens to the event on the descriptor. -/
def asks (driver : IoDriver W) (nodes : List (IoNode W)) (event : UInt8) (fd : ℤ) : Bool :=
  nodes.any fun
    | .le watcher => driver.eventListening watcher &&& event ≠ 0 && driver.fd watcher = fd
    | _ => false

/-- `io_driver_preselect`: the sets that `select` is given. Without a value if the loop has not ended by then. -/
def ioDriverPreselect (fuel : ℕ) (driver : IoDriver W) : Option SelectCallArg :=
  (driver.links.listForEachEntry .watchers fuel (driver.links.next .watchers)).map fun nodes =>
    ⟨driver.asks nodes ioDriverEventRx, driver.asks nodes ioDriverEventTx, driver.asks nodes ioDriverEventEx⟩

end IoDriver

namespace TelnetServer

def note (server : TelnetServer W) (e : ServerEntry W) : TelnetServer W := { server with log := server.log ++ [e] }

/-- What a callback has made of a connection. -/
def put (server : TelnetServer W) (w : W) (conn : CliConnection) : TelnetServer W :=
  { server with
    driver := server.driver.command (conn.stream.txCommand (some w))
    mem := Function.update server.mem w conn }

/-- `dealloc_cli_connection`, in a callback for the event. -/
def deallocCliConnection (server : TelnetServer W) (w : W) (event : UInt8) : TelnetServer W :=
  { server with
    driver := server.driver.streamDeinit (some w)
    opened := server.opened.erase (server.driver.fd (some w))
    conns := server.conns.erase w
    allocated := server.allocated.erase w
    log := server.log ++ [.close w event] }

-- the names of the user's commands
variable (cmds : List (List UInt8))

/-- `alloc_cli_connection` -/
def allocCliConnection (server : TelnetServer W) (h : Happening W) (newsd : ℤ) : Option (TelnetServer W) :=
  match h.malloc server.allocated with
  | none => some { server with opened := server.opened.erase newsd, log := server.log ++ [.refuse newsd] }
  | some w =>
      let server : TelnetServer W :=
        { server with
          driver := server.driver.streamInitWithFd (some w) newsd
          conns := server.conns ++ [w]
          allocated := w :: server.allocated
          log := server.log ++ [.accept w newsd] }
      (h.block.alloc cmds h.prints h.writes).map (server.put w)

/-- `tcp_server_ipv4_rx_event` -/
def tcpServerIpv4RxEvent (server : TelnetServer W) (h : Happening W) : Option (TelnetServer W) :=
  match h.accept server.opened with
  | none => some server
  | some newsd => allocCliConnection cmds { server with opened := newsd :: server.opened } h newsd

/-- `stream_watcher_callback`, with `handle_stream_event`. Without a value where `stream_handle_tx_event` crashes. -/
def streamWatcherCallback (server : TelnetServer W) (h : Happening W) (w : W) (event : UInt8) :
    Option (TelnetServer W) :=
  if event = ioDriverEventRx then
    match h.read with
    | .data d ds =>
        ((d :: ds).foldlM (CliConnection.feedByte cmds h.prints h.writes) (server.mem w)).map fun conn =>
          (server.note (.rx w (d :: ds))).put w conn
    | .eof | .failed => some (server.deallocCliConnection w event)
  else if event = ioDriverEventTx then
    ((server.mem w).stream.streamHandleTxEvent h.room).map fun s => server.put w { server.mem w with stream := s }
  else some (server.deallocCliConnection w event)

variable (world : ℕ → Happening W)

/-- `watcher->callback(watcher, event)` -/
def callback (server : TelnetServer W) (watcher : Option W) (event : UInt8) : Option (TelnetServer W) :=
  let h := world server.calls
  let server : TelnetServer W := { server with calls := server.calls + 1 }
  match watcher with
  | none => server.tcpServerIpv4RxEvent cmds h
  | some w => (server.note (.call w (server.driver.fd (some w)) event)).streamWatcherCallback cmds h w event

/-- A field of a watcher is read. -/
def touch (server : TelnetServer W) : Option W → TelnetServer W
  | none => server
  | some w => if w ∈ server.allocated then server else server.note (.stray w)

/-- One of the three checks. What is read from a block that is free is what was left there, which C does not
    promise. -/
def check (watcher : Option W) (event : UInt8) (set : ℤ → Bool) (server : TelnetServer W) :
    Option (TelnetServer W) :=
  let server := server.touch watcher
  if server.driver.eventListening watcher &&& event ≠ 0 ∧ set (server.driver.fd watcher) = true then
    server.callback cmds world watcher event
  else some server

/-- The watcher goes from the list of the pass to the end of the driver's. -/
def visit (server : TelnetServer W) (watcher : Option W) : TelnetServer W :=
  { server with
    driver.links := (server.driver.links.listDelInit (.le watcher)).listAddTail (.le watcher) .watchers }

/-- The body of the loop of `io_driver_postselect`. -/
def turn (arg : SelectCallArg) (watcher : Option W) (server : TelnetServer W) : Option (TelnetServer W) :=
  (((server.visit watcher).check cmds world watcher ioDriverEventRx arg.rset).bind
    (check cmds world watcher ioDriverEventTx arg.wset)).bind (check cmds world watcher ioDriverEventEx arg.eset)

/-- The loop of `io_driver_postselect`. Without a value also when the fuel runs out, and when `list_first_entry` would
    make a watcher of a list head. -/
def postselectLoop (arg : SelectCallArg) : ℕ → TelnetServer W → Option (TelnetServer W)
  | 0, server => if server.driver.links.listEmpty .runList then some server else none
  | fuel + 1, server =>
      if server.driver.links.listEmpty .runList then some server
      else
        match server.driver.links.next .runList with
        | .le watcher => (server.turn cmds world arg watcher).bind (postselectLoop arg fuel)
        | _ => none

/-- `io_driver_postselect` -/
def ioDriverPostselect (server : TelnetServer W) (arg : SelectCallArg) : Option (TelnetServer W) :=
  -- there are no more turns than watchers
  postselectLoop cmds world arg (server.conns.length + 1)
    { server with
      driver.links := (server.driver.links.initListHead .runList).listSpliceInit .watchers .runList
      log := server.log ++ [.select arg] }

/-- `io_driver_run`, with what `select` comes to for the sets it is given: nothing if it fails or its time is out. -/
def ioDriverRun (server : TelnetServer W) (ready : Option SelectCallArg) : Option (TelnetServer W) :=
  (server.driver.ioDriverPreselect (server.conns.length + 2)).bind fun asked =>
    match ready with
    | none => some server
    | some arg => server.ioDriverPostselect cmds world (arg.among asked)

/-- `cli_telnet_server_init` on a driver of its own and zeroed memory, with the socket that
    `tcp_server_ipv4_init` has got; the driver's pointers, and what the memory of the connections will hold, are
    arbitrary. -/
def init (links : Links (IoNode (Option W))) (mem : W → CliConnection) (sd : ℤ) : TelnetServer W where
  driver := IoDriver.ioDriverWatch
    (IoDriver.ioDriverInit ⟨links, fun _ => 0, Function.update (fun _ => 0) none sd⟩) none ioDriverEventRx
  conns := []
  allocated := []
  opened := [sd]
  mem := mem
  calls := 0
  log := []

/-- The server from its start on. -/
def run (links : Links (IoNode (Option W))) (mem : W → CliConnection) (sd : ℤ)
    (passes : List (Option SelectCallArg)) : Option (TelnetServer W) :=
  passes.foldlM (ioDriverRun cmds world) (init links mem sd)

end TelnetServer

end Prtp
