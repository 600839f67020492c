import Prtp.TelnetServer
import Prtp.IoPasses

set_option autoImplicit false

/-! # Runs of the telnet server

The driver, the blocks, the descriptors and the connections of a server belong together: what a callback does to one
of them it does to the others. `Serves` says how, and is kept by every callback, turn, pass and run. What goes wrong is
counted on the way: how often a pass still owes a look at a connection that has just been freed. -/

namespace Prtp

open Runs

variable {W : Type}

/-- A socket that is ready to be written takes something. -/
def Happening.Takes (h : Happening W) : Prop := ∃ n, h.room = .wrote (n + 1)

variable [DecidableEq W]

namespace TelnetServer

/-! ## What the log tells -/

/-- What an entry makes of the bytes a connection has received. -/
def hears (w : W) (bytes : List UInt8) : ServerEntry W → List UInt8
  | .accept v _ => if v = w then [] else bytes
  | .rx v data => if v = w then bytes ++ data else bytes
  | _ => bytes

/-- The bytes a connection has received since its block was allocated to it. -/
def received (w : W) (log : List (ServerEntry W)) : List UInt8 := log.foldl (hears w) []

/-- The connections that have ended when they were read from. -/
def readEnds (log : List (ServerEntry W)) : List W :=
  log.filterMap fun
    | .close w event => if event = ioDriverEventRx then some w else none
    | _ => none

/-- The blocks from which a field of a watcher was read when they were free. -/
def strays (log : List (ServerEntry W)) : List W :=
  log.filterMap fun
    | .stray w => some w
    | _ => none

/-- When the callback of a connection's watcher is called, the connection has the descriptor since it was accepted, and
    `select` has reported the descriptor ready the last time, and since then no connection has been accepted into the
    block. -/
def EntryOk (before : List (ServerEntry W)) : ServerEntry W → Prop
  | .call w fd event =>
      Since (fun _ e => e = .accept w fd) (fun e => ∀ event, e ≠ .close w event) before ∧
        Since (fun _ e => ∃ arg : SelectCallArg, e = .select arg ∧ arg.Ready event fd)
          (fun e => (∀ arg, e ≠ .select arg) ∧ ∀ fd, e ≠ .accept w fd) before
  | _ => True

@[simp] theorem received_concat (w : W) (log : List (ServerEntry W)) (e : ServerEntry W) :
    received w (log ++ [e]) = hears w (received w log) e := by
  simp [received]

omit [DecidableEq W] in
@[simp] theorem readEnds_append (xs ys : List (ServerEntry W)) :
    readEnds (xs ++ ys) = readEnds xs ++ readEnds ys :=
  List.filterMap_append

omit [DecidableEq W] in
@[simp] theorem strays_append (xs ys : List (ServerEntry W)) : strays (xs ++ ys) = strays xs ++ strays ys :=
  List.filterMap_append

/-! ## The invariant -/

/-- What the watcher of a connection listens to. -/
def connEvents (txWatched : Bool) : UInt8 :=
  if txWatched then ioDriverEventRx ||| ioDriverEventEx ||| ioDriverEventTx else ioDriverEventRx ||| ioDriverEventEx

/-- The same, and that of a block which is no connection to nothing. -/
def events (server : TelnetServer W) (w : W) : UInt8 :=
  if w ∈ server.conns then connEvents (server.mem w).stream.txWatched else 0

variable (cmds : List (List UInt8)) (sd : ℤ)

/-- The driver watches the server's socket and the connections, the blocks of these are what is allocated, their
    descriptors what is open besides the socket, and each has taken in what it has received. -/
structure Serves (inPass : Bool) (server : TelnetServer W) (b : Roster (Option W)) : Prop where
  shows : server.driver.Shows inPass b
  own : b.listening none = ioDriverEventRx
  listening : ∀ w, b.listening (some w) = server.events w
  fd : server.driver.fd none = sd
  nodup : server.conns.Nodup
  allocated : server.allocated.Perm server.conns
  opened : server.opened.Perm (sd :: server.conns.map fun w => server.driver.fd (some w))
  distinct : server.opened.Nodup
  attends : ∀ w ∈ server.conns, (server.mem w).Attends cmds (received w server.log)

variable {cmds sd} {inPass : Bool} {server : TelnetServer W} {b : Roster (Option W)} {w : W}

theorem Serves.mem_allocated (h : Serves cmds sd inPass server b) : w ∈ server.allocated ↔ w ∈ server.conns :=
  h.allocated.mem_iff

/-- Only the driver's lists have changed, how many callbacks have been called, and what has been noted, which tells
    nothing of what the connections have received. -/
theorem Serves.update (h : Serves cmds sd inPass server b) {inPass' : Bool} {b' : Roster (Option W)}
    {driver : IoDriver (Option W)} (calls : ℕ) {log : List (ServerEntry W)} (hshows : driver.Shows inPass' b')
    (hlistening : b'.listening = b.listening) (hfd : driver.fd = server.driver.fd)
    (hlog : ∀ w, received w log = received w server.log) :
    Serves cmds sd inPass' { server with driver := driver, calls := calls, log := log } b' where
  shows := hshows
  own := by rw [hlistening, h.own]
  listening w := by
    rw [hlistening, h.listening]
    rfl
  fd := by rw [hfd, h.fd]
  nodup := h.nodup
  allocated := h.allocated
  opened := by
    rw [hfd]
    exact h.opened
  distinct := h.distinct
  attends w hw := by
    rw [hlog]
    exact h.attends w hw

/-- An entry that tells nothing of what the connections have received. -/
theorem Serves.note (h : Serves cmds sd inPass server b) {e : ServerEntry W}
    (he : ∀ v bytes, hears v bytes e = bytes) : Serves cmds sd inPass (server.note e) b :=
  h.update server.calls h.shows rfl rfl fun v => by rw [received_concat, he]

/-- What calls for one watcher come to. -/
theorem shows_commands {driver : IoDriver (Option W)} (watcher : Option W) (cs : List (IoCommand (Option W)))
    (hcs : ∀ c ∈ cs, c.watcher = watcher) (hs : driver.Shows inPass b) :
    ∃ b', (cs.foldl IoDriver.command driver).Shows inPass b' ∧ b'.waiting.Sublist b.waiting ∧
      b'.listening = Function.update b.listening watcher (cs.foldl IoCommand.newSet (b.listening watcher)) ∧
      (cs.foldl IoDriver.command driver).fd = driver.fd := by
  induction cs generalizing driver b with
  | nil => exact ⟨b, hs, List.Sublist.refl _, (Function.update_eq_self watcher b.listening).symm, rfl⟩
  | cons c cs ih =>
      obtain ⟨rfl, hrest⟩ := List.forall_mem_cons.1 hcs
      obtain ⟨b', hs', hsub, hlistening, hfd⟩ := ih hrest (hs.command c)
      refine ⟨b', hs', hsub.trans Roster.command_waiting, ?_, hfd.trans (IoDriver.command_fd driver c)⟩
      rw [hlistening, Roster.command_listening, IoCommand.listening, Function.update_idem, Function.update_self]
      rfl

/-- What remains to be shown when calls for a connection's watcher have been made. -/
theorem Serves.of_commands (h : Serves cmds sd inPass server b) {server' : TelnetServer W} (w : W)
    (cs : List (IoCommand (Option W))) (driver : IoDriver (Option W)) (hcs : ∀ c ∈ cs, c.watcher = some w)
    (hshows : driver.Shows inPass b) (hdriver : server'.driver = cs.foldl IoDriver.command driver)
    (hsock : driver.fd none = sd) (hnodup : server'.conns.Nodup) (hallocated : server'.allocated.Perm server'.conns)
    (hset : cs.foldl IoCommand.newSet (server.events w) = server'.events w)
    (hothers : ∀ v, v ≠ w → server'.events v = server.events v)
    (hopened : server'.opened.Perm (sd :: server'.conns.map fun v => driver.fd (some v)))
    (hdistinct : server'.opened.Nodup)
    (hattends : ∀ v ∈ server'.conns, (server'.mem v).Attends cmds (received v server'.log)) :
    ∃ b', Serves cmds sd inPass server' b' ∧ b'.waiting.Sublist b.waiting := by
  obtain ⟨b', hs', hsub, hlistening, hfd⟩ := shows_commands (some w) cs hcs hshows
  rw [← hdriver] at hs' hfd
  refine ⟨b', ⟨hs', ?_, fun v => ?_, ?_, hnodup, hallocated, ?_, hdistinct, hattends⟩, hsub⟩
  · rw [hlistening, Function.update_of_ne (by simp), h.own]
  · by_cases hv : v = w
    · subst hv
      rw [hlistening, Function.update_self, h.listening, hset]
    · rw [hlistening, Function.update_of_ne (by simpa using hv), h.listening, hothers v hv]
  · rw [hfd, hsock]
  · rw [hfd]
    exact hopened

omit [DecidableEq W] in
@[simp] theorem txCommand_watcher (s : Stream) (watcher : Option W) : (s.txCommand watcher).watcher = watcher := by
  unfold Stream.txCommand
  split <;> rfl

omit [DecidableEq W] in
theorem newSet_txCommand (s : Stream) (watcher : Option W) (before : Bool) :
    (s.txCommand watcher).newSet (connEvents before) = connEvents s.txWatched := by
  unfold Stream.txCommand
  cases before <;> cases s.txWatched <;> rfl

theorem stop_connEvents (txWatched : Bool) :
    connEvents txWatched &&& ~~~ioDriverEventRx &&& ~~~ioDriverEventTx &&& ~~~ioDriverEventEx = 0 := by
  cases txWatched <;> decide

theorem events_of_mem (hw : w ∈ server.conns) : server.events w = connEvents (server.mem w).stream.txWatched :=
  if_pos hw

/-- A callback is through with a connection, and has noted what. -/
theorem Serves.put (h : Serves cmds sd inPass server b) (hw : w ∈ server.conns) {conn : CliConnection}
    (noted : List (ServerEntry W)) (hconn : conn.Attends cmds (received w noted))
    (hnoted : ∀ v, v ≠ w → received v noted = received v server.log) :
    ∃ b', Serves cmds sd inPass (({ server with log := noted } : TelnetServer W).put w conn) b' ∧
      b'.waiting.Sublist b.waiting := by
  have hnew : (({ server with log := noted } : TelnetServer W).put w conn).events w =
      connEvents conn.stream.txWatched := by
    rw [events_of_mem (by exact hw)]
    simp [TelnetServer.put]
  refine h.of_commands w [conn.stream.txCommand (some w)] server.driver (by simp) h.shows rfl h.fd h.nodup h.allocated
    ?_ (fun v hv => ?_) h.opened h.distinct fun v hv => ?_
  · rw [hnew, events_of_mem hw]
    exact newSet_txCommand conn.stream (some w) _
  · simp [events, TelnetServer.put, hv]
  · by_cases hvw : v = w
    · subst hvw
      simpa [TelnetServer.put] using hconn
    · simpa [TelnetServer.put, hvw, hnoted v hvw] using h.attends v hv

/-- A connection is accepted into a block that was free. -/
theorem Serves.accept (h : Serves cmds sd inPass server b) {fd : ℤ} {conn : CliConnection} (hw : w ∉ server.conns)
    (hfd : fd ∉ server.opened) (hconn : conn.Attends cmds []) :
    ∃ b', Serves cmds sd inPass
        (({ server with
            driver := server.driver.streamInitWithFd (some w) fd
            conns := server.conns ++ [w]
            allocated := w :: server.allocated
            opened := fd :: server.opened
            log := server.log ++ [.accept w fd] } : TelnetServer W).put w conn) b' ∧
      b'.waiting.Sublist b.waiting := by
  have hsilent : server.events w = 0 := if_neg hw
  have hlistens : server.driver.eventListening (some w) = 0 := by rw [h.shows.listening, h.listening, hsilent]
  have hinit := h.shows.ioDriverWatcherInit hlistens
  have hfds (u : Option W) (hu : u ≠ some w) :
      Function.update (server.driver.ioDriverWatcherInit (some w)).fd (some w) fd u = server.driver.fd u := by
    rw [Function.update_of_ne hu]
    exact Function.update_of_ne hu _ _
  have hother (v : W) (hv : v ∈ server.conns) : v ≠ w := fun heq => hw (heq ▸ hv)
  refine h.of_commands w
    [.watch (some w) ioDriverEventRx, .watch (some w) ioDriverEventEx, conn.stream.txCommand (some w)]
    { server.driver.ioDriverWatcherInit (some w) with
      fd := Function.update (server.driver.ioDriverWatcherInit (some w)).fd (some w) fd }
    ?_ ⟨hinit.rings, hinit.listening, hinit.idle⟩ rfl ((hfds none (by simp)).trans h.fd) ?_ ?_ ?_
    (fun v hv => ?_) ?_ (List.nodup_cons.2 ⟨hfd, h.distinct⟩) fun v hv => ?_
  · simp only [List.forall_mem_cons]
    exact ⟨rfl, rfl, txCommand_watcher _ _, by simp⟩
  · exact List.nodup_append.2 ⟨h.nodup, by simp, by simpa using hother⟩
  · exact (h.allocated.cons w).trans (List.perm_append_singleton w _).symm
  · rw [hsilent, events_of_mem (List.mem_append_right server.conns (List.mem_singleton_self w))]
    show (conn.stream.txCommand (some w)).newSet (0 ||| ioDriverEventRx ||| ioDriverEventEx) = _
    rw [show 0 ||| ioDriverEventRx ||| ioDriverEventEx = connEvents false by decide, newSet_txCommand]
    simp [TelnetServer.put]
  · simp [events, TelnetServer.put, hv]
  · show (fd :: server.opened).Perm (sd :: (server.conns ++ [w]).map _)
    have hconns : server.conns.map (fun v => Function.update
        (server.driver.ioDriverWatcherInit (some w)).fd (some w) fd (some v)) =
        server.conns.map fun v => server.driver.fd (some v) :=
      List.map_congr_left fun v hv => hfds (some v) (by simpa using hother v hv)
    simp only [List.map_append, List.map_cons, List.map_nil, Function.update_self, hconns]
    exact (h.opened.cons fd).trans (List.perm_append_singleton fd _).symm
  · by_cases hvw : v = w
    · subst hvw
      simpa [TelnetServer.put, hears] using hconn
    · have hmem : v ∈ server.conns := by simpa [TelnetServer.put, hvw] using hv
      simpa [TelnetServer.put, hvw, hears, Ne.symm hvw] using h.attends v hmem

/-- A connection is closed. -/
theorem Serves.close (h : Serves cmds sd inPass server b) (hw : w ∈ server.conns) (event : UInt8) :
    ∃ b', Serves cmds sd inPass (server.deallocCliConnection w event) b' ∧ b'.waiting.Sublist b.waiting := by
  refine h.of_commands w
    [.noWatch (some w) ioDriverEventRx, .noWatch (some w) ioDriverEventTx, .noWatch (some w) ioDriverEventEx]
    server.driver (by simp [IoCommand.watcher]) h.shows rfl h.fd (h.nodup.erase w) (h.allocated.erase w) ?_
    (fun v hv => ?_) ?_ (h.distinct.erase _) fun v hv => ?_
  · have hgone : w ∉ server.conns.erase w := fun hmem => (h.nodup.mem_erase_iff.1 hmem).1 rfl
    rw [events_of_mem hw, events, deallocCliConnection, if_neg hgone]
    exact stop_connEvents _
  · simp [events, deallocCliConnection, List.mem_erase_of_ne hv]
  · have hconns := (List.perm_cons_erase hw).map fun v => server.driver.fd (some v)
    have hopened := (h.opened.trans (hconns.cons sd)).trans (List.Perm.swap _ _ _)
    have herased := hopened.erase (server.driver.fd (some w))
    rwa [List.erase_cons_head] at herased
  · have hmem : v ∈ server.conns := List.mem_of_mem_erase hv
    simpa [deallocCliConnection, hears] using h.attends v hmem

/-! ## Where the calls come from -/

/-- Every call was right, each connection has its descriptor since it was accepted, and the blocks of those that are
    pending have been theirs since `select` has returned `arg`. -/
structure Traced (arg : SelectCallArg) (pending : List (Option W)) (server : TelnetServer W) : Prop where
  ok : Historically EntryOk server.log
  held : ∀ w ∈ server.conns, Since (fun _ e => e = .accept w (server.driver.fd (some w)))
    (fun e => ∀ event, e ≠ .close w event) server.log
  fresh : ∀ w, some w ∈ pending → Since (fun _ e => e = .select arg)
    (fun e => (∀ arg, e ≠ .select arg) ∧ ∀ fd, e ≠ .accept w fd) server.log

omit [DecidableEq W] in
/-- Less is pending, and nothing was noted. -/
theorem Traced.mono {arg : SelectCallArg} {pending pending' : List (Option W)} (ht : Traced arg pending server)
    (hsub : ∀ w, some w ∈ pending' → some w ∈ pending) : Traced arg pending' server :=
  ⟨ht.ok, ht.held, fun w hw => ht.fresh w (hsub w hw)⟩

omit [DecidableEq W] in
/-- An entry is written. -/
theorem Traced.concat {arg : SelectCallArg} {pending pending' : List (Option W)} (ht : Traced arg pending server)
    {server' : TelnetServer W} {e : ServerEntry W} (hlog : server'.log = server.log ++ [e])
    (hok : EntryOk server.log e)
    (hconns : ∀ w ∈ server'.conns, e = .accept w (server'.driver.fd (some w)) ∨
      w ∈ server.conns ∧ server'.driver.fd (some w) = server.driver.fd (some w) ∧ ∀ event, e ≠ .close w event)
    (hselect : ∀ arg, e ≠ .select arg)
    (hpending : ∀ w, some w ∈ pending' → some w ∈ pending ∧ ∀ fd, e ≠ .accept w fd) :
    Traced arg pending' server' := by
  refine ⟨?_, fun w hw => ?_, fun w hw => ?_⟩
  · rw [hlog]
    exact historically_concat.2 ⟨ht.ok, hok⟩
  · rw [hlog]
    rcases hconns w hw with haccept | ⟨hmem, hfd, hopen⟩
    · exact since_here haccept
    · rw [hfd]
      exact (ht.held w hmem).concat hopen
  · obtain ⟨hmem, hsame⟩ := hpending w hw
    rw [hlog]
    exact (ht.fresh w hmem).concat ⟨hselect, hsame⟩

/-! ## Callbacks -/

/-- Where a block has been read from after it was free, a connection has ended when it was read from; and that has
    been twice each time, but for the last `owed` times. -/
def Owes (owed : List W) (server : TelnetServer W) : Prop :=
  strays server.log ++ owed = (readEnds server.log).flatMap fun w => [w, w]

/-- How often the watcher of a connection that ends in a callback for the event is read after that. -/
def readsAfter (event : UInt8) : ℕ :=
  if event = ioDriverEventRx then 2 else if event = ioDriverEventTx then 1 else 0

/-- The watcher that is visited is still registered, or its connection has ended and it will be read `n` times. -/
def Visited (n : ℕ) (server : TelnetServer W) : Option W → Prop
  | none => server.Owes []
  | some w => w ∈ server.conns ∧ server.Owes [] ∨ w ∉ server.conns ∧ server.Owes (List.replicate n w)

variable (cmds sd) in
/-- The state in a pass that a callback, or a check, leaves. -/
def Leaves (arg : SelectCallArg) (waiting : List (Option W)) (n : ℕ) (watcher : Option W)
    (server : TelnetServer W) : Prop :=
  ∃ b, Serves cmds sd true server b ∧ b.waiting.Sublist waiting ∧ server.Visited n watcher ∧
    Traced arg (watcher :: b.waiting) server

variable {arg : SelectCallArg} {waiting : List (Option W)} {h : Happening W} {event : UInt8}

omit [DecidableEq W] in
/-- An entry that is neither an end nor a reading of a free block. -/
theorem Owes.concat {owed : List W} (howes : server.Owes owed) {server' : TelnetServer W} {e : ServerEntry W}
    (hlog : server'.log = server.log ++ [e]) (hends : readEnds [e] = []) (hstrays : strays [e] = []) :
    server'.Owes owed := by
  rw [Owes, hlog, strays_append, readEnds_append, hends, hstrays, List.append_nil, List.append_nil]
  exact howes

theorem put_fd (server : TelnetServer W) (w : W) (conn : CliConnection) :
    (server.put w conn).driver.fd = server.driver.fd :=
  IoDriver.command_fd _ _

theorem streamInitWithFd_fd (driver : IoDriver (Option W)) (watcher : Option W) (fd : ℤ) :
    (driver.streamInitWithFd watcher fd).fd = Function.update driver.fd watcher fd := by
  show Function.update (Function.update driver.fd watcher (-1)) watcher fd = _
  rw [Function.update_idem]

/-- Who waits to be visited is a connection. -/
theorem Serves.mem_of_waiting (hs : Serves cmds sd inPass server b) (hw : some w ∈ b.waiting) : w ∈ server.conns := by
  have hlistens := (b.listed (some w)).1 (List.mem_append_right _ hw)
  rw [hs.listening, events] at hlistens
  by_contra hnot
  exact hlistens (if_neg hnot)

theorem serves_accepted (hs : Serves cmds sd true server b) (howes : server.Owes [])
    (ht : Traced arg (none :: b.waiting) server) (hsub : b.waiting.Sublist waiting) (ok : Prop) (n : ℕ) :
    Yields ok (Leaves cmds sd arg waiting n none) (server.tcpServerIpv4RxEvent cmds h) := by
  unfold tcpServerIpv4RxEvent
  split
  · exact ⟨b, hs, hsub, howes, ht⟩
  · rename_i newsd haccept
    have hnew := h.accept_new _ _ haccept
    unfold allocCliConnection
    split
    · rename_i hnone
      refine ⟨b, ⟨hs.shows, hs.own, hs.listening, hs.fd, hs.nodup, hs.allocated, ?_, ?_, fun v hv => ?_⟩, hsub, ?_, ?_⟩
      · simpa using hs.opened
      · simpa using hs.distinct
      · simpa [hears] using hs.attends v hv
      · exact howes.concat rfl rfl rfl
      · exact ht.concat rfl trivial (fun v hv => .inr ⟨hv, rfl, by simp⟩) (by simp) fun v hv => ⟨hv, by simp⟩
    · rename_i w hmalloc
      have hw : w ∉ server.conns := fun hmem => h.malloc_new _ _ hmalloc (hs.mem_allocated.2 hmem)
      obtain ⟨conn, halloc, hattends⟩ := CliConnection.attends_alloc cmds h.prints h.writes h.block
      obtain ⟨b', hs', hsub'⟩ := hs.accept hw hnew hattends
      simp only [halloc, Option.map_some]
      refine ⟨b', hs', hsub'.trans hsub, howes.concat rfl rfl rfl, ht.concat rfl trivial (fun v hv => ?_) (by simp)
        fun v hv => ?_⟩
      · rw [put_fd]
        show _ = ServerEntry.accept v ((server.driver.streamInitWithFd (some w) newsd).fd (some v)) ∨ v ∈ server.conns ∧
          (server.driver.streamInitWithFd (some w) newsd).fd (some v) = server.driver.fd (some v) ∧ _
        rw [streamInitWithFd_fd]
        rcases List.mem_append.1 hv with hmem | hmem
        · have hne : some v ≠ some w := fun heq => hw (Option.some.inj heq ▸ hmem)
          exact .inr ⟨hmem, Function.update_of_ne hne _ _, by simp⟩
        · obtain rfl := List.mem_singleton.1 hmem
          exact .inl (by rw [Function.update_self])
      · have hmem : some v ∈ b.waiting := hsub'.subset (by simpa using hv)
        have hne : w ≠ v := fun heq => hw (heq ▸ hs.mem_of_waiting hmem)
        exact ⟨List.mem_cons_of_mem _ hmem, by simp [hne]⟩

omit [DecidableEq W] in
/-- Fewer wait behind the one that is visited. -/
theorem mem_cons_of_sublist {waiting' : List (Option W)} (hsub : waiting'.Sublist waiting) {watcher u : Option W}
    (hu : u ∈ watcher :: waiting') : u ∈ watcher :: waiting :=
  (hsub.cons_cons watcher).subset hu

/-- The connection that is visited has ended. -/
theorem serves_closed (hs : Serves cmds sd true server b) (hw : w ∈ server.conns) (howes : server.Owes [])
    (ht : Traced arg (some w :: b.waiting) server) (hsub : b.waiting.Sublist waiting)
    (hevent : (readEnds [.close w event]).flatMap (fun v => [v, v]) = List.replicate (readsAfter event) w) :
    Leaves cmds sd arg waiting (readsAfter event) (some w) (server.deallocCliConnection w event) := by
  obtain ⟨b', hs', hsub'⟩ := hs.close hw event
  refine ⟨b', hs', hsub'.trans hsub, .inr ⟨fun hmem => (hs.nodup.mem_erase_iff.1 hmem).1 rfl, ?_⟩,
    ht.concat rfl trivial (fun v hv => ?_) (by simp) fun v hv => ⟨mem_cons_of_sublist hsub' hv, by simp⟩⟩
  · rw [Owes, List.append_nil] at howes
    rw [Owes, deallocCliConnection, strays_append, readEnds_append, List.flatMap_append, hevent, howes,
      List.append_assoc]
    rfl
  · obtain ⟨hne, hmem⟩ := hs.nodup.mem_erase_iff.1 hv
    exact .inr ⟨hmem, rfl, by simpa using Ne.symm hne⟩

theorem serves_called (hs : Serves cmds sd true server b) (hw : w ∈ server.conns) (howes : server.Owes [])
    (ht : Traced arg (some w :: b.waiting) server) (hsub : b.waiting.Sublist waiting) :
    Yields h.Takes (Leaves cmds sd arg waiting (readsAfter event) (some w))
      (server.streamWatcherCallback cmds h w event) := by
  unfold streamWatcherCallback
  split
  · rename_i hevent
    subst hevent
    split
    · rename_i d ds hread
      obtain ⟨conn, hfeed, hattends⟩ := (hs.attends w hw).feed h.prints h.writes (d :: ds)
      obtain ⟨b', hs', hsub'⟩ := hs.put hw (server.log ++ [.rx w (d :: ds)]) (by simpa [hears] using hattends)
        fun v hv => by simp [hears, Ne.symm hv]
      rw [hfeed, Option.map_some]
      exact ⟨b', hs', hsub'.trans hsub, .inl ⟨hw, howes.concat rfl rfl rfl⟩,
        ht.concat rfl trivial (fun v hv => .inr ⟨hv, congrFun (put_fd _ _ _) _, by simp⟩) (by simp)
          fun v hv => ⟨mem_cons_of_sublist hsub' hv, by simp⟩⟩
    · exact serves_closed hs hw howes ht hsub rfl
    · exact serves_closed hs hw howes ht hsub rfl
  · rename_i hrx
    split
    · rcases (hs.attends w hw).txEvent h.room with ⟨s, htx, hattends⟩ | ⟨htx, hnone⟩
      · obtain ⟨b', hs', hsub'⟩ := hs.put hw server.log hattends fun v _ => rfl
        rw [htx, Option.map_some]
        refine ⟨b', hs', hsub'.trans hsub, .inl ⟨hw, howes⟩, ht.ok, fun v hv => ?_,
          fun v hv => ht.fresh v (mem_cons_of_sublist hsub' hv)⟩
        rw [put_fd]
        exact ht.held v hv
      · rw [htx, Option.map_none]
        rintro ⟨n, hn⟩
        exact hnone n hn
    · rename_i htx
      exact serves_closed hs hw howes ht hsub (by simp [readEnds, readsAfter, hrx, htx])

/-! ## Passes -/

variable {world : ℕ → Happening W} {watcher : Option W} {rest : List (Option W)}

theorem serves_callback (hs : Serves cmds sd true server b) (hw : ∀ w, watcher = some w → w ∈ server.conns)
    (howes : server.Owes []) (ht : Traced arg (watcher :: b.waiting) server) (hsub : b.waiting.Sublist waiting)
    (hready : arg.Ready event (server.driver.fd watcher)) :
    Yields (∀ n, (world n).Takes) (Leaves cmds sd arg waiting (readsAfter event) watcher)
      (server.callback cmds world watcher event) := by
  unfold callback
  have hcalled := hs.update (server.calls + 1) hs.shows rfl rfl fun w => rfl
  cases watcher with
  | none => exact serves_accepted hcalled howes ⟨ht.ok, ht.held, ht.fresh⟩ hsub _ _
  | some w =>
      have hnoted := hcalled.note (e := .call w (server.driver.fd (some w)) event) fun v bytes => rfl
      have hok : EntryOk server.log (.call w (server.driver.fd (some w)) event) := by
        refine ⟨ht.held w (hw w rfl), ?_⟩
        obtain ⟨before, e, after, hlog, rfl, hafter⟩ := ht.fresh w List.mem_cons_self
        exact ⟨before, _, after, hlog, ⟨arg, rfl, hready⟩, hafter⟩
      have htraced : Traced arg (some w :: b.waiting) (({ server with calls := server.calls + 1 } : TelnetServer W).note
          (.call w (server.driver.fd (some w)) event)) :=
        ht.concat rfl hok (fun v hv => .inr ⟨hv, rfl, by simp⟩) (by simp) fun v hv => ⟨hv, by simp⟩
      exact (serves_called hnoted (hw w rfl) (howes.concat rfl rfl rfl) htraced hsub).mono fun hall => hall _

/-- One of the three checks, which reads the watcher once if it is free. -/
theorem serves_check (event : UInt8) (set : ℤ → Bool) (hset : ∀ fd, set fd = true → arg.Ready event fd)
    (hleft : Leaves cmds sd arg waiting (readsAfter event + 1) watcher server) :
    Yields (∀ n, (world n).Takes) (Leaves cmds sd arg waiting (readsAfter event) watcher)
      (server.check cmds world watcher event set) := by
  obtain ⟨b, hs, hsub, hvisited, ht⟩ := hleft
  have hopen (hw : ∀ w, watcher = some w → w ∈ server.conns) (howes : server.Owes []) :
      Yields (∀ n, (world n).Takes) (Leaves cmds sd arg waiting (readsAfter event) watcher)
        (server.check cmds world watcher event set) := by
    have htouch : server.touch watcher = server := by
      cases watcher with
      | none => rfl
      | some w => exact if_pos (hs.mem_allocated.2 (hw w rfl))
    unfold check
    rw [htouch]
    simp only
    split
    · rename_i hcall
      exact serves_callback hs hw howes ht hsub (hset _ hcall.2)
    · refine ⟨b, hs, hsub, ?_, ht⟩
      cases watcher with
      | none => exact howes
      | some w => exact .inl ⟨hw w rfl, howes⟩
  cases watcher with
  | none => exact hopen (fun w hw => nomatch hw) hvisited
  | some w =>
      rcases hvisited with ⟨hw, howes⟩ | ⟨hw, howes⟩
      · exact hopen (fun v hv => Option.some.inj hv ▸ hw) howes
      · have htouch : server.touch (some w) = server.note (.stray w) :=
          if_neg fun hmem => hw (hs.mem_allocated.1 hmem)
        have hsilent : (server.note (.stray w)).driver.eventListening (some w) = 0 := by
          show server.driver.eventListening (some w) = 0
          rw [hs.shows.listening, hs.listening, events, if_neg hw]
        have hcheck : server.check cmds world (some w) event set = some (server.note (.stray w)) := by
          unfold check
          rw [htouch]
          simp only [hsilent, UInt8.zero_and, ne_eq, not_true_eq_false, false_and, if_false]
        rw [hcheck]
        refine ⟨b, hs.note fun v bytes => rfl, hsub, .inr ⟨hw, ?_⟩,
          ht.concat rfl trivial (fun v hv => .inr ⟨hv, rfl, by simp⟩) (by simp) fun v hv => ⟨hv, by simp⟩⟩
        rw [Owes, List.replicate_succ, ← List.singleton_append, ← List.append_assoc] at howes
        rw [Owes, TelnetServer.note, strays_append, readEnds_append]
        exact howes.trans (congrArg _ (List.append_nil _).symm)

theorem Serves.visit (hs : Serves cmds sd true server b) (hw : b.waiting = watcher :: rest) :
    Serves cmds sd true (server.visit watcher) (b.visit hw) :=
  hs.update server.calls (hs.shows.visit hw) rfl rfl fun _ => rfl

variable (cmds sd arg) in
/-- The state between two turns. -/
def Turns (server : TelnetServer W) (b : Roster (Option W)) : Prop :=
  Serves cmds sd true server b ∧ server.Owes [] ∧ Traced arg b.waiting server

/-- A turn of the loop: a watcher is visited, and at most those behind it wait then. -/
theorem serves_turn (hs : Turns cmds sd arg server b) (hw : b.waiting = watcher :: rest) :
    Yields (∀ n, (world n).Takes)
      (fun server' => ∃ b', Turns cmds sd arg server' b' ∧ b'.waiting.Sublist rest)
      (server.turn cmds world arg watcher) := by
  obtain ⟨hs, howes, ht⟩ := hs
  have hvisit : Leaves cmds sd arg rest 3 watcher (server.visit watcher) := by
    refine ⟨b.visit hw, hs.visit hw, List.Sublist.refl _, ?_, ht.ok, ht.held, fun w hmem => ht.fresh w (by rwa [hw])⟩
    cases watcher with
    | none => exact howes
    | some w => exact .inl ⟨hs.mem_of_waiting (by rw [hw]; exact List.mem_cons_self), howes⟩
  have hturn : Yields (∀ n, (world n).Takes) (Leaves cmds sd arg rest 0 watcher)
      (server.turn cmds world arg watcher) :=
    ((serves_check ioDriverEventRx arg.rset (fun fd h => .inl ⟨rfl, h⟩) hvisit).bind fun _ =>
      serves_check ioDriverEventTx arg.wset fun fd h => .inr (.inl ⟨rfl, h⟩)).bind fun _ =>
        serves_check ioDriverEventEx arg.eset fun fd h => .inr (.inr ⟨rfl, h⟩)
  refine hturn.imp fun server' hleft => ?_
  obtain ⟨b', hs', hsub, hvisited, ht'⟩ := hleft
  refine ⟨b', ⟨hs', ?_, ht'.mono fun w hmem => List.mem_cons_of_mem _ hmem⟩, hsub⟩
  cases watcher with
  | none => exact hvisited
  | some w => exact hvisited.elim And.right And.right

theorem serves_loop {fuel : ℕ} (hs : Turns cmds sd arg server b) (hfuel : b.waiting.length ≤ fuel) :
    Yields (∀ n, (world n).Takes)
      (fun server' => ∃ b', Turns cmds sd arg server' b' ∧ b'.waiting = [])
      (server.postselectLoop cmds world arg fuel) := by
  have hempty : server.driver.links.listEmpty .runList = true ↔ b.waiting = [] := hs.1.shows.listEmpty
  induction fuel generalizing server b with
  | zero =>
      have hnone : b.waiting = [] := List.length_eq_zero_iff.1 (Nat.le_zero.1 hfuel)
      rw [postselectLoop, if_pos (hempty.2 hnone)]
      exact ⟨b, hs, hnone⟩
  | succ fuel ih =>
      cases hw : b.waiting with
      | nil =>
          rw [postselectLoop, if_pos (hempty.2 hw)]
          exact ⟨b, hs, hw⟩
      | cons watcher rest =>
          have hmore : ¬ server.driver.links.listEmpty .runList = true := by
            rw [hempty, hw]
            exact List.cons_ne_nil watcher rest
          rw [hw, List.length_cons] at hfuel
          rw [postselectLoop, if_neg hmore, hs.1.shows.next hw]
          refine (serves_turn hs hw).bind fun server' hturn => ?_
          obtain ⟨b', hs', hsub⟩ := hturn
          exact ih hs' (hsub.length_le.trans (by omega)) hs'.1.shows.listEmpty

/-- The watchers of the driver are the server's and those of the connections. -/
theorem Serves.watchers (hs : Serves cmds sd false server b) : b.watchers.Perm (none :: server.conns.map some) := by
  have hnodup : (none :: server.conns.map some).Nodup := by
    rw [List.nodup_cons]
    exact ⟨by simp, hs.nodup.map (Option.some_injective W)⟩
  refine (List.perm_ext_iff_of_nodup b.watchers_nodup hnodup).2 fun watcher => ?_
  have hlisted := b.listed watcher
  rw [hs.shows.idle rfl, List.append_nil] at hlisted
  rw [hlisted]
  cases watcher with
  | none =>
      rw [hs.own]
      simp [ioDriverEventRx]
  | some w =>
      have hne : connEvents (server.mem w).stream.txWatched ≠ 0 := by
        cases (server.mem w).stream.txWatched <;> decide
      rw [hs.listening, events]
      simp [hne]

variable (cmds sd) in
/-- The state between two passes. -/
def Rests (server : TelnetServer W) (b : Roster (Option W)) : Prop :=
  Serves cmds sd false server b ∧ server.Owes [] ∧ ∀ arg, Traced arg [] server

theorem serves_postselect (hs : Rests cmds sd server b) (arg : SelectCallArg) :
    Yields (∀ n, (world n).Takes) (fun server' => ∃ b', Rests cmds sd server' b')
      (server.ioDriverPostselect cmds world arg) := by
  obtain ⟨hs, howes, ht⟩ := hs
  have hstart : Turns cmds sd arg
      { server with
        driver.links := (server.driver.links.initListHead .runList).listSpliceInit .watchers .runList
        log := server.log ++ [.select arg] } b.start :=
    ⟨hs.update server.calls hs.shows.splice rfl rfl fun w => by simp [hears],
      howes.concat rfl rfl rfl, historically_concat.2 ⟨(ht arg).ok, trivial⟩,
      fun w hw => ((ht arg).held w hw).concat (by simp), fun w hw => since_here rfl⟩
  have hlength : b.start.waiting.length ≤ server.conns.length + 1 := by
    have hall : b.start.waiting = b.watchers := by simp [Roster.start, hs.shows.idle rfl]
    rw [hall, hs.watchers.length_eq]
    simp
  refine (serves_loop hstart hlength).imp fun server' hloop => ?_
  obtain ⟨b', ⟨hs', howes', ht'⟩, hwaiting⟩ := hloop
  have hrests := hs'.update server'.calls (hs'.shows.finish hwaiting) rfl rfl fun _ => rfl
  exact ⟨b', hrests, howes', fun _ => ⟨ht'.ok, ht'.held, fun w hw => absurd hw List.not_mem_nil⟩⟩

/-- A call of `io_driver_run`. -/
theorem serves_run (hs : Rests cmds sd server b) (ready : Option SelectCallArg) :
    Yields (∀ n, (world n).Takes) (fun server' => ∃ b', Rests cmds sd server' b')
      (server.ioDriverRun cmds world ready) := by
  have hrings : server.driver.links.Rings [IoNode.watchers.ring b.watchers] := hs.1.shows.rings
  have hlength : (b.watchers.map IoNode.le).length < server.conns.length + 2 := by
    rw [List.length_map, hs.1.watchers.length_eq]
    simp
  unfold ioDriverRun IoDriver.ioDriverPreselect
  rw [Links.listForEachEntry_eq hrings hlength, Option.map_some, Option.bind_some]
  cases ready with
  | none => exact ⟨b, hs⟩
  | some arg => exact serves_postselect hs _

variable (cmds) in
theorem serves_init (links : Links (IoNode (Option W))) (mem : W → CliConnection) (sd : ℤ) :
    ∃ b, Serves cmds sd false (init links mem sd) b := by
  let driver : IoDriver (Option W) := ⟨links, fun _ => 0, Function.update (fun _ => 0) none sd⟩
  have hidle : driver.ioDriverInit.Shows false Roster.idle := IoDriver.shows_ioDriverInit fun _ => rfl
  obtain ⟨b, hs, -, hlistening, hfd⟩ := shows_commands none [.watch none ioDriverEventRx] (by simp [IoCommand.watcher])
    hidle
  refine ⟨b, hs, ?_, fun w => ?_, (congrFun hfd none).trans ?_, List.nodup_nil, List.Perm.refl _, List.Perm.refl _,
    List.nodup_singleton sd, fun w hw => absurd hw List.not_mem_nil⟩
  · rw [hlistening, Function.update_self]
    show 0 ||| ioDriverEventRx = ioDriverEventRx
    decide
  · rw [hlistening, Function.update_of_ne (by simp)]
    rfl
  · exact Function.update_self (none : Option W) sd fun _ => (0 : ℤ)

/-- The server from its start on. -/
theorem serves_passes (links : Links (IoNode (Option W))) (mem : W → CliConnection) (sd : ℤ)
    (passes : List (Option SelectCallArg)) :
    Yields (∀ n, (world n).Takes) (fun server => ∃ b, Rests cmds sd server b) (run cmds world links mem sd passes) := by
  obtain ⟨b, hs⟩ := serves_init cmds links mem sd
  have ht (arg : SelectCallArg) : Traced arg [] (init links mem sd) :=
    ⟨historically_nil, fun w hw => absurd hw List.not_mem_nil, fun w hw => absurd hw List.not_mem_nil⟩
  refine foldlM_yields (fun server ready h => ?_) ⟨b, hs, rfl, ht⟩ passes
  obtain ⟨b', hs'⟩ := h
  exact serves_run hs' ready

/-! ## The server over its runs -/

/-- Whatever `select`, `accept`, `malloc`, `read` and `write` come to: the server crashes only if a socket that is
    ready takes nothing, and otherwise the driver watches the server's socket and the connections, and the blocks of
    these are all that is allocated and their descriptors all that is open besides. The pass reads a watcher from free
    memory exactly twice for each connection that has ended when it was read from. -/
theorem server_kept (links : Links (IoNode (Option W))) (mem : W → CliConnection) (sd : ℤ)
    (passes : List (Option SelectCallArg)) :
    Yields (∀ n, (world n).Takes)
      (fun server =>
        (∃ ws, server.driver.Registers ws ∧ ws.Perm (none :: server.conns.map some)) ∧
        (∀ w ∈ server.conns,
          server.driver.eventListening (some w) = connEvents (server.mem w).stream.txWatched) ∧
        server.allocated.Perm server.conns ∧
        server.opened.Perm (sd :: server.conns.map fun w => server.driver.fd (some w)) ∧ server.opened.Nodup ∧
        strays server.log = (readEnds server.log).flatMap fun w => [w, w])
      (run cmds world links mem sd passes) := by
  refine (serves_passes links mem sd passes).imp fun server h => ?_
  obtain ⟨b, hs, howes, -⟩ := h
  refine ⟨⟨b.watchers, hs.shows.registers, hs.watchers⟩, fun w hw => ?_, hs.allocated, hs.opened, hs.distinct, ?_⟩
  · rw [hs.shows.listening, hs.listening, events_of_mem hw]
  · rw [Owes, List.append_nil] at howes
    exact howes

theorem five_new (opened : List ℤ) (fd : ℤ) (h : (if 5 ∈ opened then none else some 5) = some fd) : fd ∉ opened := by
  split at h
  · cases h
  · rename_i hnew
    exact Option.some.inj h ▸ hnew

theorem unit_new (allocated : List Unit) (w : Unit) (h : (if allocated = [] then some () else none) = some w) :
    w ∉ allocated := by
  split at h
  · rename_i hnil
    exact hnil ▸ List.not_mem_nil
  · cases h

/-- There is one client at a time, which ends as soon as it is read from. -/
def hangingUp (_ : ℕ) : Happening Unit where
  accept opened := if 5 ∈ opened then none else some 5
  malloc allocated := if allocated = [] then some () else none
  block := .blank
  read := .eof
  writes _ := .wrote 100
  room := .wrote 1
  prints _ _ := []
  accept_new := five_new
  malloc_new := unit_new

/-- The client that has hung up is looked at twice more. -/
example : (run [] hangingUp ⟨fun _ => .watchers, fun _ => .watchers⟩ (fun _ => .blank) 3
      (List.replicate 2 (some ⟨fun _ => true, fun _ => true, fun _ => false⟩))).map
      (fun server => (strays server.log, server.opened)) = some ([(), ()], [3]) := by
  decide +kernel

/-- No call is stale: a connection's callback is called only while the connection is open, on the descriptor it was
    accepted with, and for an event that the last `select` has reported for that descriptor after the connection had
    been accepted, even if another had the block or the descriptor before. -/
theorem calls_current (links : Links (IoNode (Option W))) (mem : W → CliConnection) (sd : ℤ)
    (passes : List (Option SelectCallArg)) :
    Yields (∀ n, (world n).Takes) (fun server => Historically EntryOk server.log)
      (run cmds world links mem sd passes) := by
  refine (serves_passes links mem sd passes).imp fun server h => ?_
  obtain ⟨b, -, -, ht⟩ := h
  exact (ht ⟨fun _ => false, fun _ => false, fun _ => false⟩).ok

/-- Every client is served as if it were alone: when bytes that fit the reader have been received on a connection, the
    lines typed at the client have been executed, if they fit `cmd_buffer`, whatever has happened on other connections
    and whoever had the block and the descriptor before. -/
theorem clients_served (links : Links (IoNode (Option W))) (mem : W → CliConnection) (sd : ℤ)
    (passes : List (Option SelectCallArg)) :
    Yields (∀ n, (world n).Takes)
      (fun server => ∀ w ∈ server.conns, ∀ items : List TelnetItem,
        received w server.log = items.flatMap TelnetItem.encode →
        (∀ payload, .sub payload ∈ items → TelnetFits payload) →
        let lines := cliLines [] ((items.flatMap TelnetItem.typed).filter (· ≠ 0))
        ((server.mem w).cliIntf.WritesInside ↔ ∀ line ∈ lines, CliRoomy line) ∧
          ((∀ line ∈ lines, CliRoomy line) → (server.mem w).cliIntf.executed = [] :: lines.map cliCommand))
      (run cmds world links mem sd passes) := by
  refine (serves_passes links mem sd passes).imp fun server h => ?_
  obtain ⟨b, hs, -⟩ := h
  intro w hw items hreceived hfits
  have hattends := hs.attends w hw
  rw [hreceived] at hattends
  exact hattends.executed hfits

end TelnetServer

end Prtp
