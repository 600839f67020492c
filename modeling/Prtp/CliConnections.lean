import Prtp.CliCommands
import Prtp.Stream
import Prtp.TelnetReader

set_option autoImplicit false

/-! # Connections to the command line (`cli_telnet.c`)

What a connection reads goes through the telnet reader, byte by byte, and what the user typed to the command line,
which echoes, executes and prompts; every text it puts out is one call of `stream_write`, whose result nobody looks
at. So what is executed does not depend on how the stream arrives nor on what becomes of the answers, and the answers
stop for good at the first one that the socket takes only in part. -/

namespace Prtp

/-- `iacs_to_send` -/
def iacsToSend : List UInt8 := [telnetIac, telnetWill, 3, telnetIac, telnetWill, 1]

/-- The texts put out for an entry of the log, which is the `i`-th; `prints` is what the command handlers print. -/
def CliOut.texts (prints : ℕ → List (List UInt8) → List (List UInt8)) (i : ℕ) : CliOut → List (List UInt8)
  | .tx data => [data]
  | .execute _ => []
  | .handler argv => prints i argv

/-- The texts put out for a log from the `i`-th entry on. -/
def cliTexts (prints : ℕ → List (List UInt8) → List (List UInt8)) : ℕ → List CliOut → List (List UInt8)
  | _, [] => []
  | i, o :: out => o.texts prints i ++ cliTexts prints (i + 1) out

/-- `cli_connection_t`, with the number of calls of `stream_write` so far. -/
structure CliConnection where
  telnet : TelnetReader
  cliIntf : CliIntf
  stream : Stream
  written : ℕ

/-- What happens to a connection that is open: it has received something, or there is room in the socket for at least
    one octet. -/
inductive ConnEvent
  | rx (data : List UInt8)
  | room (n : ℕ)

/-- The bytes received. -/
def ConnEvent.received : ConnEvent → List UInt8
  | .rx data => data
  | .room _ => []

namespace CliConnection

/-! ## `cli_telnet.c` -/

section

-- the names of the user's commands, what the handlers print, and what `write` returns
variable (cmds : List (List UInt8)) (prints : ℕ → List (List UInt8) → List (List UInt8)) (writes : ℕ → WriteRet)

/-- `cli_put_tx_data` -/
def cliPutTxData (conn : CliConnection) (data : List UInt8) : Option CliConnection :=
  (conn.stream.streamWrite data (writes conn.written)).map fun r =>
    { conn with stream := r.2, written := conn.written + 1 }

/-- `cli_handle_rx` on one byte, with what it puts out. -/
def cliHandleRx (conn : CliConnection) (data : UInt8) : Option CliConnection :=
  let intf := conn.cliIntf.handleByte cmds data
  let texts := cliTexts prints conn.cliIntf.out.length (intf.out.drop conn.cliIntf.out.length)
  texts.foldlM (cliPutTxData writes) { conn with cliIntf := intf }

/-- `telnet_rx_databack` -/
def telnetRxDataback (conn : CliConnection) (data : UInt8) : Option CliConnection :=
  if data = 0 then some conn else conn.cliHandleRx cmds prints writes data

/-- A callback of the telnet reader; `telnet_rx_cmdback` ignores commands. -/
def telnetCall (conn : CliConnection) : TelnetCall → Option CliConnection
  | .data d => conn.telnetRxDataback cmds prints writes d
  | .cmd .. => some conn

/-- `telnet_reader_feed` on one byte, with the callbacks. -/
def feedByte (conn : CliConnection) (d : UInt8) : Option CliConnection :=
  let tr := conn.telnet.stateMachine d
  (tr.calls.drop conn.telnet.calls.length).foldlM (telnetCall cmds prints writes) { conn with telnet := tr }

/-- `handle_stream_event` for `stream_event_rx`, and `stream_handle_tx_event` where the TX event is watched. -/
def handle (conn : CliConnection) : ConnEvent → Option CliConnection
  | .rx data => data.foldlM (feedByte cmds prints writes) conn
  | .room n =>
      if conn.stream.txWatched then
        (conn.stream.streamHandleTxEvent (.wrote (n + 1))).map fun s => { conn with stream := s }
      else some conn

/-- `alloc_cli_connection`, on memory that holds `mem`: what the telnet client is told, and the first prompt. -/
def alloc (mem : CliConnection) : Option CliConnection :=
  (cliPutTxData writes
    { telnet := { mem.telnet.init with calls := [] }
      cliIntf := .register mem.cliIntf.cmdBuffer
      stream := .init mem.stream.txBuf.buffer 128
      written := 0 } iacsToSend).bind fun conn => conn.cliHandleRx cmds prints writes cliEolChar

/-- A connection from its start on. -/
def run (mem : CliConnection) (events : List ConnEvent) : Option CliConnection :=
  (mem.alloc cmds prints writes).bind (events.foldlM (handle cmds prints writes))

/-- All texts put out so far. -/
def texts (conn : CliConnection) : List (List UInt8) := iacsToSend :: cliTexts prints 0 conn.cliIntf.out

end

end CliConnection

/-! ## The stream of a connection -/

namespace Stream

variable {s s' : Stream}

/-- The buffer is a queue with room for 128 octets. -/
def Ready (s : Stream) : Prop := ∃ q : BoundedQueue UInt8 128, s.txBuf.Refines q

/-- Something is queued, and nothing watches for room. -/
def Stalled (s : Stream) : Prop := s.txBuf.dataSize ≠ 0 ∧ s.txWatched = false

theorem ready_init (mem : ByteMem) : (init mem 128).Ready := ⟨_, CircBuffer.refines_init mem 128⟩

/-- A batch goes behind what is queued, or there is no room for it. -/
theorem Ready.put (h : s.Ready) (bs : List UInt8) :
    (s.txBuf.dataSize + bs.length ≤ 128 ∧ ∃ cb, s.txBuf.put bs = some (0, cb) ∧
        cb.contents = s.txBuf.contents ++ bs ∧ cb.dataSize = s.txBuf.dataSize + bs.length ∧
        ∀ watched socket, Ready ⟨cb, watched, socket⟩) ∨
      (128 < s.txBuf.dataSize + bs.length ∧ s.txBuf.put bs = some (-1, s.txBuf)) := by
  obtain ⟨q, hq⟩ := h
  have hdata := hq.dataSize
  have hsize := hq.size
  by_cases hfits : q.items.length + bs.length ≤ 128
  · obtain ⟨q', -, hitems⟩ := BoundedQueue.put_of_fits hfits
    obtain ⟨cb, hput, hq'⟩ := hq.put (by decide) hfits hitems
    refine .inl ⟨by omega, cb, hput, ?_, ?_, fun _ _ => ⟨q', hq'⟩⟩
    · rw [hq'.contents, hitems, hq.contents]
    · rw [hq'.dataSize, hitems, List.length_append, hdata]
  · exact .inr ⟨by omega, CircBuffer.put_of_full (by omega)⟩

/-- `stream_write` returns. -/
theorem Ready.write (h : s.Ready) (data : List UInt8) (w : WriteRet) :
    ∃ r s', s.streamWrite data w = some (r, s') ∧ s'.Ready := by
  unfold streamWrite
  split
  · rcases h.put data with ⟨-, cb, hput, -, -, hready⟩ | ⟨-, hput⟩
    · exact ⟨_, _, by rw [hput]; rfl, hready _ _⟩
    · exact ⟨_, _, by rw [hput]; rfl, h⟩
  · simp only
    split
    · exact ⟨_, _, rfl, h⟩
    · split
      · exact ⟨_, _, rfl, h⟩
      · rcases h.put (data.drop (w.ret data.length).toNat) with ⟨-, cb, hput, -, -, hready⟩ | ⟨-, hput⟩
        · exact ⟨_, _, by rw [hput]; rfl, hready _ _⟩
        · refine ⟨true, { s with txWatched := true, socket := s.socket ++ data.take (w.ret data.length).toNat }, ?_, h⟩
          rw [hput]
          rfl

/-- So does `stream_handle_tx_event`, unless the socket takes nothing. -/
theorem Ready.txEvent (h : s.Ready) (w : WriteRet) :
    (∃ s', s.streamHandleTxEvent w = some s' ∧ s'.Ready) ∨
      (s.streamHandleTxEvent w = none ∧ ∀ n, w ≠ .wrote (n + 1)) := by
  obtain ⟨q, hq⟩ := h
  have hdata := hq.dataSize
  unfold streamHandleTxEvent
  split
  · exact .inl ⟨_, rfl, q, hq⟩
  · rename_i hne
    simp only [hq.peek (n := min s.txBuf.dataSize 128) (by omega), Option.bind_some]
    split
    · rename_i hret
      refine .inr ⟨rfl, ?_⟩
      rintro n rfl
      simp only [WriteRet.ret] at hret
      omega
    · have hstored : (w.ret (min s.txBuf.dataSize 128)).toNat ≤ q.items.length := by
        cases w with
        | wrote n =>
            simp only [WriteRet.ret, Int.toNat_natCast]
            omega
        | again | failed => exact Nat.zero_le _
      obtain ⟨q', -, hitems⟩ := BoundedQueue.advance_of_stored hstored
      obtain ⟨cb, hadvance, hq'⟩ := hq.advance (by decide) hstored hitems
      rw [hadvance]
      exact .inl ⟨_, rfl, q', hq'⟩

theorem Ready.room (h : s.Ready) (n : ℕ) :
    ∃ s', s.streamHandleTxEvent (.wrote (n + 1)) = some s' ∧ s'.Ready :=
  (h.txEvent (.wrote (n + 1))).resolve_right fun hnone => hnone.2 n rfl

/-- What is queued stays queued, and what comes after it is not sent either. -/
theorem Stalled.write (h : s.Stalled) (hready : s.Ready) {data : List UInt8} {w : WriteRet} {r : Bool}
    (hcall : s.streamWrite data w = some (r, s')) : s'.Stalled ∧ s'.socket = s.socket := by
  rw [streamWrite, if_pos h.1] at hcall
  rcases hready.put data with ⟨-, cb, hput, -, hdata, -⟩ | ⟨-, hput⟩
  · rw [hput, Option.map_some, Option.some_inj] at hcall
    obtain ⟨-, rfl⟩ := Prod.mk.inj hcall
    refine ⟨⟨?_, h.2⟩, rfl⟩
    rw [hdata]
    exact Nat.ne_of_gt (Nat.add_pos_left (Nat.pos_of_ne_zero h.1) _)
  · rw [hput, Option.map_some, Option.some_inj] at hcall
    obtain ⟨-, rfl⟩ := Prod.mk.inj hcall
    exact ⟨h, rfl⟩

/-- A text that fits the buffer, when nothing is queued: the socket takes all of it, or a beginning, and the rest is
    queued for good. -/
theorem Ready.write_empty (hready : s.Ready) (hempty : s.txBuf.dataSize = 0) {data : List UInt8} {w : WriteRet}
    (hw : w ≠ .failed) (hdata : data.length ≤ 128) {r : Bool} (hcall : s.streamWrite data w = some (r, s')) :
    s'.txWatched = s.txWatched ∧
      ((s'.txBuf.dataSize = 0 ∧ s'.socket = s.socket ++ data) ∨
        (s'.txBuf.dataSize ≠ 0 ∧ ∃ taken < data.length, s'.socket = s.socket ++ data.take taken)) := by
  rw [streamWrite, if_neg (not_not.2 hempty)] at hcall
  simp only at hcall
  split at hcall
  · obtain ⟨-, rfl⟩ := Prod.mk.inj (Option.some.inj hcall)
    exact ⟨rfl, .inl ⟨hempty, rfl⟩⟩
  · have hrest : s.txBuf.dataSize + (data.drop (w.ret data.length).toNat).length ≤ 128 := by
      rw [hempty, List.length_drop]
      omega
    generalize (w.ret data.length).toNat = taken at hcall hrest
    rcases hready.put (data.drop taken) with ⟨-, cb, hput, -, hcb, -⟩ | ⟨hfull, -⟩
    · rw [hput, Option.map_some, if_pos rfl] at hcall
      obtain ⟨-, rfl⟩ := Prod.mk.inj (Option.some.inj hcall)
      rw [hempty, List.length_drop, Nat.zero_add] at hcb
      refine ⟨rfl, ?_⟩
      by_cases htaken : taken < data.length
      · exact .inr ⟨by rw [hcb]; omega, taken, htaken, rfl⟩
      · refine .inl ⟨by rw [hcb]; omega, ?_⟩
        show s.socket ++ data.take taken = s.socket ++ data
        rw [List.take_of_length_le (Nat.le_of_not_lt htaken)]
    · omega

end Stream

/-! ## What the command line puts out -/

theorem cliTexts_append (prints : ℕ → List (List UInt8) → List (List UInt8)) (i : ℕ) (xs ys : List CliOut) :
    cliTexts prints i (xs ++ ys) = cliTexts prints i xs ++ cliTexts prints (i + xs.length) ys := by
  induction xs generalizing i with
  | nil => rfl
  | cons x xs ih =>
      rw [List.cons_append, cliTexts, cliTexts, ih, List.append_assoc, List.length_cons, Nat.add_right_comm,
        Nat.add_assoc]

namespace CliIntf

theorem out_executeCommand (cmds : List (List UInt8)) (intf : CliIntf) (cmd : List UInt8) :
    intf.out <+: (intf.executeCommand cmds cmd).out := by
  have hout := (foldl_write (intf.emit (.execute cmd)) (cliSplit cliCommandMaxArgs 0 cmd).2).2
  simp only [executeCommand]
  generalize (cliSplit cliCommandMaxArgs 0 cmd).2.foldl (fun intf i => intf.write i 0)
    (intf.emit (.execute cmd)) = t at hout ⊢
  have hexecuted : intf.out <+: t.out := by
    rw [hout]
    exact List.prefix_append _ _
  split
  · exact hexecuted.trans (List.prefix_append _ _)
  · exact hexecuted
  · split
    · exact hexecuted.trans ((List.prefix_append _ _).trans (List.prefix_append _ _))
    · exact hexecuted.trans ((List.prefix_append _ _).trans ((List.prefix_append _ _).trans (List.prefix_append _ _)))

/-- A byte adds to the log. -/
theorem out_handleByte (cmds : List (List UInt8)) (intf : CliIntf) (b : UInt8) :
    intf.out <+: (intf.handleByte cmds b).out := by
  unfold handleByte
  split
  · split
    · split
      · exact List.prefix_append _ _
      · exact List.prefix_refl _
    · exact List.prefix_append _ _
  · split
    · exact (out_executeCommand cmds (intf.push 0) _).trans (List.prefix_append _ _)
    · exact List.prefix_refl _

/-- What a callback of the telnet reader comes to on the command line. -/
def hear (cmds : List (List UInt8)) (intf : CliIntf) : TelnetCall → CliIntf
  | .data d => if d = 0 then intf else intf.handleByte cmds d
  | .cmd .. => intf

/-- The callbacks hand over what was typed, but for nulls. -/
theorem foldl_hear (cmds : List (List UInt8)) (intf : CliIntf) (tr : TelnetReader) :
    tr.calls.foldl (hear cmds) intf = intf.handleRx cmds (tr.received.filter (· ≠ 0)) := by
  unfold TelnetReader.received
  induction tr.calls generalizing intf with
  | nil => rfl
  | cons call calls ih =>
      rw [List.foldl_cons, ih]
      cases call with
      | data d =>
          by_cases hd : d = 0
          · simp [hear, hd]
          · simp [hear, hd, handleRx]
      | cmd => rfl

end CliIntf

/-- Only what was typed is left of a line. -/
theorem mem_of_mem_cliEdited {typed : List UInt8} {b : UInt8} (h : b ∈ cliEdited typed) : b ∈ typed := by
  induction typed using List.reverseRecOn with
  | nil => cases h
  | append_singleton typed c ih =>
      rw [cliEdited_concat] at h
      split at h
      · exact List.mem_append_left _ (ih (List.mem_of_mem_dropLast h))
      · rw [List.mem_append] at h ⊢
        exact h.imp_left ih

theorem mem_of_mem_cliLines {typed bs line : List UInt8} (h : line ∈ cliLines typed bs) {b : UInt8} (hb : b ∈ line) :
    b ∈ typed ++ bs := by
  induction bs generalizing typed with
  | nil => cases h
  | cons c bs ih =>
      rw [cliLines] at h
      split at h
      · rcases List.mem_cons.1 h with rfl | h
        · exact List.mem_append_left _ hb
        · exact List.mem_append_right _ (List.mem_cons_of_mem c (by simpa using ih h))
      · rw [List.append_cons]
        exact ih h

namespace TelnetReader

/-- A byte adds to the calls. -/
theorem calls_stateMachine (tr : TelnetReader) (d : UInt8) : tr.calls <+: (tr.stateMachine d).calls := by
  unfold stateMachine
  cases tr.state with
  | start =>
      simp only
      split
      · exact List.prefix_refl _
      · exact List.prefix_append _ _
  | rxIac =>
      simp only [handleCommand]
      split
      · exact List.prefix_append _ _
      · split
        · exact List.prefix_refl _
        · split <;> exact List.prefix_refl _
  | rxDoDontWillWont => exact List.prefix_append _ _
  | rxSb =>
      simp only [handleSubcommand]
      split
      · exact List.prefix_refl _
      · split <;> exact List.prefix_refl _
  | waitForSe =>
      simp only
      split
      · exact List.prefix_append _ _
      · exact List.prefix_refl _

end TelnetReader

/-! ## Connections -/

namespace CliConnection

variable (cmds : List (List UInt8)) (prints : ℕ → List (List UInt8) → List (List UInt8)) (writes : ℕ → WriteRet)

/-- Putting texts out returns, and changes nothing but the stream. -/
theorem foldlM_cliPutTxData (conn : CliConnection) (h : conn.stream.Ready) (texts : List (List UInt8)) :
    ∃ s n, texts.foldlM (cliPutTxData writes) conn = some { conn with stream := s, written := n } ∧ s.Ready := by
  induction texts generalizing conn with
  | nil => exact ⟨conn.stream, conn.written, rfl, h⟩
  | cons text texts ih =>
      obtain ⟨r, s₁, hwrite, h₁⟩ := h.write text (writes conn.written)
      obtain ⟨s, n, hrest, hs⟩ := ih { conn with stream := s₁, written := conn.written + 1 } h₁
      refine ⟨s, n, ?_, hs⟩
      rw [List.foldlM_cons, cliPutTxData, hwrite]
      exact hrest

theorem cliHandleRx_eq (conn : CliConnection) (h : conn.stream.Ready) (d : UInt8) :
    ∃ s n, conn.cliHandleRx cmds prints writes d =
      some { conn with cliIntf := conn.cliIntf.handleByte cmds d, stream := s, written := n } ∧ s.Ready :=
  foldlM_cliPutTxData writes { conn with cliIntf := conn.cliIntf.handleByte cmds d } h _

theorem telnetCall_eq (conn : CliConnection) (h : conn.stream.Ready) (call : TelnetCall) :
    ∃ s n, conn.telnetCall cmds prints writes call =
      some { conn with cliIntf := CliIntf.hear cmds conn.cliIntf call, stream := s, written := n } ∧ s.Ready := by
  cases call with
  | cmd => exact ⟨conn.stream, conn.written, rfl, h⟩
  | data d =>
      rw [telnetCall, telnetRxDataback, CliIntf.hear]
      split
      · exact ⟨conn.stream, conn.written, rfl, h⟩
      · exact cliHandleRx_eq cmds prints writes conn h d

theorem foldlM_telnetCall (conn : CliConnection) (h : conn.stream.Ready) (calls : List TelnetCall) :
    ∃ s n, calls.foldlM (telnetCall cmds prints writes) conn =
      some { conn with cliIntf := calls.foldl (CliIntf.hear cmds) conn.cliIntf, stream := s, written := n } ∧
        s.Ready := by
  induction calls generalizing conn with
  | nil => exact ⟨conn.stream, conn.written, rfl, h⟩
  | cons call calls ih =>
      obtain ⟨s₁, n₁, hcall, h₁⟩ := telnetCall_eq cmds prints writes conn h call
      obtain ⟨s, n, hrest, hs⟩ :=
        ih { conn with cliIntf := CliIntf.hear cmds conn.cliIntf call, stream := s₁, written := n₁ } h₁
      refine ⟨s, n, ?_, hs⟩
      rw [List.foldlM_cons, hcall]
      exact hrest

/-- The command line has heard the calls of the reader, from the first prompt on. -/
structure Heard (mem : ByteMem) (conn : CliConnection) : Prop where
  ready : conn.stream.Ready
  cliIntf : conn.cliIntf =
    conn.telnet.calls.foldl (CliIntf.hear cmds) ((CliIntf.register mem).handleByte cmds cliEolChar)

variable {cmds} {mem : ByteMem} {conn : CliConnection}

theorem Heard.feedByte (h : Heard cmds mem conn) (d : UInt8) :
    ∃ conn', conn.feedByte cmds prints writes d = some conn' ∧ Heard cmds mem conn' ∧
      conn'.telnet = conn.telnet.stateMachine d := by
  obtain ⟨new, hnew⟩ := conn.telnet.calls_stateMachine d
  obtain ⟨s, n, hcalls, hs⟩ :=
    foldlM_telnetCall cmds prints writes { conn with telnet := conn.telnet.stateMachine d } h.ready new
  refine ⟨⟨conn.telnet.stateMachine d, new.foldl (CliIntf.hear cmds) conn.cliIntf, s, n⟩, ?_, ⟨hs, ?_⟩, rfl⟩
  · rw [CliConnection.feedByte, ← hnew, List.drop_left]
    exact hcalls
  · show new.foldl (CliIntf.hear cmds) conn.cliIntf = _
    rw [h.cliIntf, ← List.foldl_append, hnew]

theorem Heard.feed (h : Heard cmds mem conn) (data : List UInt8) :
    ∃ conn', data.foldlM (CliConnection.feedByte cmds prints writes) conn = some conn' ∧ Heard cmds mem conn' ∧
      conn'.telnet = conn.telnet.feed data := by
  induction data generalizing conn with
  | nil => exact ⟨conn, rfl, h, rfl⟩
  | cons d data ih =>
      obtain ⟨conn₁, hbyte, h₁, htelnet⟩ := h.feedByte prints writes d
      obtain ⟨conn', hrest, h', htelnet'⟩ := ih h₁
      refine ⟨conn', ?_, h', ?_⟩
      · rw [List.foldlM_cons, hbyte]
        exact hrest
      · rw [htelnet', htelnet, TelnetReader.feed_cons]

theorem Heard.handle (h : Heard cmds mem conn) (e : ConnEvent) :
    ∃ conn', conn.handle cmds prints writes e = some conn' ∧ Heard cmds mem conn' ∧
      conn'.telnet = conn.telnet.feed e.received := by
  cases e with
  | rx data => exact h.feed prints writes data
  | room n =>
      by_cases hwatched : conn.stream.txWatched = true
      · obtain ⟨s, hroom, hs⟩ := h.ready.room n
        refine ⟨{ conn with stream := s }, ?_, ⟨hs, h.cliIntf⟩, rfl⟩
        simp only [CliConnection.handle, if_pos hwatched, hroom, Option.map_some]
      · exact ⟨conn, if_neg hwatched, h, rfl⟩

theorem Heard.events (h : Heard cmds mem conn) (events : List ConnEvent) :
    ∃ conn', events.foldlM (CliConnection.handle cmds prints writes) conn = some conn' ∧ Heard cmds mem conn' ∧
      conn'.telnet = conn.telnet.feed (events.flatMap ConnEvent.received) := by
  induction events generalizing conn with
  | nil => exact ⟨conn, rfl, h, rfl⟩
  | cons e events ih =>
      obtain ⟨conn₁, hevent, h₁, htelnet⟩ := h.handle prints writes e
      obtain ⟨conn', hrest, h', htelnet'⟩ := ih h₁
      refine ⟨conn', ?_, h', ?_⟩
      · rw [List.foldlM_cons, hevent]
        exact hrest
      · rw [htelnet', htelnet, List.flatMap_cons, TelnetReader.feed_append]

variable (cmds)

/-- A connection that has just been allocated. -/
theorem heard_alloc (mem : CliConnection) :
    ∃ conn, mem.alloc cmds prints writes = some conn ∧ Heard cmds mem.cliIntf.cmdBuffer conn ∧
      conn.telnet = { mem.telnet.init with calls := [] } := by
  have hready := Stream.ready_init mem.stream.txBuf.buffer
  obtain ⟨r, s₁, hwrite, h₁⟩ := hready.write iacsToSend (writes 0)
  obtain ⟨s, n, hprompt, hs⟩ := cliHandleRx_eq cmds prints writes
    ⟨{ mem.telnet.init with calls := [] }, .register mem.cliIntf.cmdBuffer, s₁, 1⟩ h₁ cliEolChar
  refine ⟨⟨{ mem.telnet.init with calls := [] }, (CliIntf.register _).handleByte cmds cliEolChar, s, n⟩, ?_,
    Heard.mk hs rfl, rfl⟩
  rw [alloc, cliPutTxData, hwrite]
  exact hprompt

/-- The connection has been allocated, and has received the bytes since. -/
def Attends (bytes : List UInt8) (conn : CliConnection) : Prop :=
  ∃ mem : CliConnection, Heard cmds mem.cliIntf.cmdBuffer conn ∧
    conn.telnet = TelnetReader.feed { mem.telnet.init with calls := [] } bytes

theorem attends_alloc (mem : CliConnection) :
    ∃ conn, mem.alloc cmds prints writes = some conn ∧ conn.Attends cmds [] := by
  obtain ⟨conn, halloc, hheard, htelnet⟩ := heard_alloc cmds prints writes mem
  exact ⟨conn, halloc, mem, hheard, htelnet⟩

variable {cmds} in
theorem Attends.feed {bytes : List UInt8} (h : conn.Attends cmds bytes) (data : List UInt8) :
    ∃ conn', data.foldlM (CliConnection.feedByte cmds prints writes) conn = some conn' ∧
      conn'.Attends cmds (bytes ++ data) := by
  obtain ⟨mem, hheard, htelnet⟩ := h
  obtain ⟨conn', hfeed, hheard', htelnet'⟩ := hheard.feed prints writes data
  exact ⟨conn', hfeed, mem, hheard', by rw [htelnet', htelnet, TelnetReader.feed_append]⟩

variable {cmds} in
/-- Room in the socket changes nothing about what is executed. -/
theorem Attends.txEvent {bytes : List UInt8} (h : conn.Attends cmds bytes) (w : WriteRet) :
    (∃ s, conn.stream.streamHandleTxEvent w = some s ∧ Attends cmds bytes { conn with stream := s }) ∨
      (conn.stream.streamHandleTxEvent w = none ∧ ∀ n, w ≠ .wrote (n + 1)) := by
  obtain ⟨mem, ⟨hready, hintf⟩, htelnet⟩ := h
  refine (hready.txEvent w).imp_left ?_
  rintro ⟨s, hcall, hs⟩
  exact ⟨s, hcall, mem, ⟨hs, hintf⟩, htelnet⟩

variable {cmds} in
/-- After bytes that fit the reader, the lines the user has typed are executed if they fit `cmd_buffer`. -/
theorem Attends.executed {items : List TelnetItem} (h : conn.Attends cmds (items.flatMap TelnetItem.encode))
    (hfits : ∀ payload, .sub payload ∈ items → TelnetFits payload) :
    let lines := cliLines [] ((items.flatMap TelnetItem.typed).filter (· ≠ 0))
    (conn.cliIntf.WritesInside ↔ ∀ line ∈ lines, CliRoomy line) ∧
      ((∀ line ∈ lines, CliRoomy line) → conn.cliIntf.executed = [] :: lines.map cliCommand) := by
  intro lines
  obtain ⟨mem, ⟨hready, hintf⟩, htelnet⟩ := h
  have hstart : ({ mem.telnet.init with calls := [] } : TelnetReader).state = .start := rfl
  have hhands := TelnetReader.hands_items hstart items
  have hreceived : conn.telnet.received = items.flatMap TelnetItem.typed := by
    rw [htelnet, hhands.received, (TelnetReader.handed_eq_typed_iff items).2 hfits]
    rfl
  have hall : conn.cliIntf = (CliIntf.register mem.cliIntf.cmdBuffer).handleRx cmds
      (cliEolChar :: (items.flatMap TelnetItem.typed).filter (· ≠ 0)) := by
    rw [hintf, CliIntf.foldl_hear, hreceived]
    rfl
  obtain ⟨hwrites, hexecuted⟩ := (CliIntf.kept_register mem.cliIntf.cmdBuffer).handleRx cmds
    (cliEolChar :: (items.flatMap TelnetItem.typed).filter (· ≠ 0))
  have hlines : cliLines [] (cliEolChar :: (items.flatMap TelnetItem.typed).filter (· ≠ 0)) = [] :: lines := rfl
  rw [hlines, ← hall] at hwrites hexecuted
  simp only [List.mem_cons, forall_eq_or_imp, cliRoomy_nil, true_and] at hwrites hexecuted
  refine ⟨?_, fun hroomy => ?_⟩
  · rw [hwrites, and_iff_right]
    exact fun i hi => absurd hi List.not_mem_nil
  · rw [hexecuted hroomy]
    refine congrArg ([] :: ·) (List.map_congr_left fun line hline => ?_)
    refine (CliIntf.takeWhile_eq_cliCommand_iff (hroomy line hline)).2 fun hnull => ?_
    have hmem := mem_of_mem_cliLines hline (mem_of_mem_cliEdited hnull)
    rw [List.nil_append, List.mem_filter] at hmem
    exact of_decide_eq_true hmem.2 rfl

/-- Whatever else is on the wire, however it is cut up, whenever there is room in the socket, and whatever becomes of
    the answers: what is executed is, after an empty command for the first prompt, what was typed at the client. That
    is so as long as the subnegotiations fit the reader and the lines `cmd_buffer`; nulls are not typed, which makes a
    return of a carriage return and a null. -/
theorem typed_executed (mem : CliConnection) (items : List TelnetItem) (events : List ConnEvent)
    (hwire : events.flatMap ConnEvent.received = items.flatMap TelnetItem.encode)
    (hfits : ∀ payload, .sub payload ∈ items → TelnetFits payload) :
    let lines := cliLines [] ((items.flatMap TelnetItem.typed).filter (· ≠ 0))
    ∃ conn, run cmds prints writes mem events = some conn ∧
      (conn.cliIntf.WritesInside ↔ ∀ line ∈ lines, CliRoomy line) ∧
      ((∀ line ∈ lines, CliRoomy line) → conn.cliIntf.executed = [] :: lines.map cliCommand) := by
  intro lines
  obtain ⟨conn₀, halloc, hheard, htelnet⟩ := heard_alloc cmds prints writes mem
  obtain ⟨conn, hrun, hheard', htelnet'⟩ := hheard.events prints writes events
  have hattends : conn.Attends cmds (items.flatMap TelnetItem.encode) :=
    ⟨mem, hheard', by rw [htelnet', htelnet, hwire]⟩
  refine ⟨conn, ?_, hattends.executed hfits⟩
  rw [run, halloc]
  exact hrun

/-- Zeroed memory. -/
def blank : CliConnection := ⟨.blank, .register fun _ => 0, .init (fun _ => 0) 128, 0⟩

/-- An option in two pieces and `hi` with a carriage return and a null, to a socket that has no room. -/
theorem typed_executed_pieces :
    ∃ conn, run [] (fun _ _ => []) (fun _ => .again) blank
        [.rx [255, 253], .room 0, .rx [1, 104, 105, 13], .rx [0]] = some conn ∧
      conn.cliIntf.executed = [[], [104, 105]] := by
  obtain ⟨conn, hrun, -, hexecuted⟩ := typed_executed [] (fun _ _ => []) (fun _ => .again) blank
    [.option .do_ 1, .user 104, .user 105, .user 13, .user 0]
    [.rx [255, 253], .room 0, .rx [1, 104, 105, 13], .rx [0]] (by decide) (by simp)
  exact ⟨conn, hrun, hexecuted (by decide)⟩

/-! ## What the client gets to see -/

/-- Texts that fit `tx_buf` have all gone to the socket; or a beginning of them has, and the rest is queued for
    good. -/
def Told (s : Stream) (told : List (List UInt8)) : Prop :=
  (∀ text ∈ told, text.length ≤ 128) →
    s.txWatched = false ∧
      ((s.txBuf.dataSize = 0 ∧ s.socket = told.flatten) ∨ (s.txBuf.dataSize ≠ 0 ∧ s.socket <+: told.flatten))

/-- What holds of a stream and the texts it was given, and is kept by another text and by room in the socket. -/
structure Keeps (writes : ℕ → WriteRet) (Q : Stream → List (List UInt8) → Prop) : Prop where
  write : ∀ {s told text n r s'}, Q s told → s.streamWrite text (writes n) = some (r, s') → Q s' (told ++ [text])
  room : ∀ {s told n s'}, Q s told → s.txWatched = true → s.streamHandleTxEvent (.wrote (n + 1)) = some s' →
    Q s' told

variable {prints writes} {Q : Stream → List (List UInt8) → Prop} {conn' : CliConnection}

theorem Keeps.puts (hQ : Keeps writes Q) (conn : CliConnection) {told texts : List (List UInt8)}
    (h : Q conn.stream told) (hcall : texts.foldlM (cliPutTxData writes) conn = some conn') :
    Q conn'.stream (told ++ texts) ∧ conn'.cliIntf = conn.cliIntf := by
  induction texts generalizing conn told with
  | nil =>
      obtain rfl := Option.some.inj hcall
      rw [List.append_nil]
      exact ⟨h, rfl⟩
  | cons text texts ih =>
      rw [List.foldlM_cons] at hcall
      obtain ⟨conn₁, hput, hrest⟩ := Option.bind_eq_some_iff.1 hcall
      obtain ⟨⟨r, s₁⟩, hwrite, rfl⟩ := Option.map_eq_some_iff.1 hput
      rw [List.append_cons]
      exact ih { conn with stream := s₁, written := conn.written + 1 } (hQ.write h hwrite) hrest

theorem Keeps.cliHandleRx (hQ : Keeps writes Q) (h : Q conn.stream (conn.texts prints)) {d : UInt8}
    (hcall : conn.cliHandleRx cmds prints writes d = some conn') : Q conn'.stream (conn'.texts prints) := by
  obtain ⟨new, hnew⟩ := conn.cliIntf.out_handleByte cmds d
  obtain ⟨hkept, hintf⟩ := hQ.puts { conn with cliIntf := conn.cliIntf.handleByte cmds d } h hcall
  rw [← hnew, List.drop_left] at hkept
  have htexts : conn'.texts prints = conn.texts prints ++ cliTexts prints conn.cliIntf.out.length new := by
    rw [texts, hintf, ← hnew, cliTexts_append, Nat.zero_add]
    rfl
  rwa [htexts]

theorem Keeps.telnetCall (hQ : Keeps writes Q) (h : Q conn.stream (conn.texts prints)) {call : TelnetCall}
    (hcall : conn.telnetCall cmds prints writes call = some conn') : Q conn'.stream (conn'.texts prints) := by
  cases call with
  | cmd => exact Option.some.inj hcall ▸ h
  | data d =>
      simp only [CliConnection.telnetCall, telnetRxDataback] at hcall
      split at hcall
      · exact Option.some.inj hcall ▸ h
      · exact hQ.cliHandleRx cmds h hcall

theorem Keeps.feedByte (hQ : Keeps writes Q) (h : Q conn.stream (conn.texts prints)) {d : UInt8}
    (hcall : conn.feedByte cmds prints writes d = some conn') : Q conn'.stream (conn'.texts prints) := by
  have hstep (c : CliConnection) (call : TelnetCall) (c' : CliConnection) :
      Q c.stream (c.texts prints) → c.telnetCall cmds prints writes call = some c' →
        Q c'.stream (c'.texts prints) := fun h hcall => hQ.telnetCall cmds h hcall
  unfold CliConnection.feedByte at hcall
  refine Runs.foldlM_invariant hstep ?_ hcall
  exact h

theorem Keeps.handle (hQ : Keeps writes Q) (h : Q conn.stream (conn.texts prints)) {e : ConnEvent}
    (hcall : conn.handle cmds prints writes e = some conn') : Q conn'.stream (conn'.texts prints) := by
  cases e with
  | rx data =>
      have hstep (c : CliConnection) (d : UInt8) (c' : CliConnection) :
          Q c.stream (c.texts prints) → c.feedByte cmds prints writes d = some c' →
            Q c'.stream (c'.texts prints) := fun h hcall => hQ.feedByte cmds h hcall
      exact Runs.foldlM_invariant hstep h hcall
  | room n =>
      simp only [CliConnection.handle] at hcall
      split at hcall
      · obtain ⟨s, hroom, rfl⟩ := Option.map_eq_some_iff.1 hcall
        exact hQ.room h ‹_› hroom
      · exact Option.some.inj hcall ▸ h

theorem Keeps.events (hQ : Keeps writes Q) (h : Q conn.stream (conn.texts prints)) {events : List ConnEvent}
    (hcall : events.foldlM (CliConnection.handle cmds prints writes) conn = some conn') :
    Q conn'.stream (conn'.texts prints) := by
  have hstep (c : CliConnection) (e : ConnEvent) (c' : CliConnection) :
      Q c.stream (c.texts prints) → c.handle cmds prints writes e = some c' →
        Q c'.stream (c'.texts prints) := fun h hcall => hQ.handle cmds h hcall
  exact Runs.foldlM_invariant hstep h hcall

theorem keeps_told (hok : ∀ n, writes n ≠ .failed) : Keeps writes fun s told => s.Ready ∧ Told s told where
  write := by
    rintro s told text n r s' ⟨hready, h⟩ hwrite
    obtain ⟨r', s₁, hwrite', hready'⟩ := hready.write text (writes n)
    rw [hwrite] at hwrite'
    obtain ⟨-, rfl⟩ := Prod.mk.inj (Option.some.inj hwrite')
    refine ⟨hready', fun hfit => ?_⟩
    simp only [List.mem_append, List.mem_singleton, or_imp, forall_and, forall_eq] at hfit
    rw [List.flatten_append, List.flatten_singleton]
    obtain ⟨hunwatched, ⟨hempty, hsocket⟩ | ⟨hqueue, hsocket⟩⟩ := h hfit.1
    · obtain ⟨hsame, hcase⟩ := hready.write_empty hempty (hok n) hfit.2 hwrite
      refine ⟨hsame.trans hunwatched, ?_⟩
      rw [← hsocket]
      rcases hcase with hcase | ⟨hqueue, taken, -, htaken⟩
      · exact .inl hcase
      · refine .inr ⟨hqueue, ?_⟩
        rw [htaken, List.prefix_append_right_inj]
        exact List.take_prefix taken text
    · obtain ⟨⟨hqueue', hunwatched'⟩, hsame⟩ := Stream.Stalled.write ⟨hqueue, hunwatched⟩ hready hwrite
      refine ⟨hunwatched', .inr ⟨hqueue', ?_⟩⟩
      rw [hsame]
      exact hsocket.trans (List.prefix_append _ _)
  room := by
    rintro s told n s' ⟨hready, h⟩ hwatched hroom
    obtain ⟨s₁, hroom', hready'⟩ := hready.room n
    rw [hroom, Option.some_inj] at hroom'
    subst hroom'
    refine ⟨hready', fun hfit => ?_⟩
    rw [(h hfit).1] at hwatched
    cases hwatched

theorem keeps_stalled (socket : List UInt8) :
    Keeps writes fun s _ => s.Ready ∧ s.Stalled ∧ s.socket = socket where
  write := by
    rintro s told text n r s' ⟨hready, hstalled, rfl⟩ hwrite
    obtain ⟨r', s₁, hwrite', hready'⟩ := hready.write text (writes n)
    rw [hwrite] at hwrite'
    obtain ⟨-, rfl⟩ := Prod.mk.inj (Option.some.inj hwrite')
    exact ⟨hready', hstalled.write hready hwrite⟩
  room := by
    rintro s told n s' ⟨-, hstalled, -⟩ hwatched -
    rw [hstalled.2] at hwatched
    cases hwatched

theorem told_alloc (hok : ∀ n, writes n ≠ .failed) (mem : CliConnection)
    (halloc : mem.alloc cmds prints writes = some conn) : Told conn.stream (conn.texts prints) := by
  obtain ⟨conn₀, hput, hprompt⟩ := Option.bind_eq_some_iff.1 halloc
  have hQ := keeps_told hok
  have hinit : (Stream.init mem.stream.txBuf.buffer 128).Ready ∧ Told (.init mem.stream.txBuf.buffer 128) [] :=
    ⟨Stream.ready_init _, fun _ => ⟨rfl, .inl ⟨rfl, rfl⟩⟩⟩
  obtain ⟨⟨r, s⟩, hwrite, rfl⟩ := Option.map_eq_some_iff.1 hput
  exact (hQ.cliHandleRx cmds (hQ.write hinit hwrite) hprompt).2

variable (prints writes)

/-- The client gets to see a beginning of what is put out, as long as no text is too long for `tx_buf` and the socket
    does not fail. And as soon as that is not all of it, the client sees nothing more, whatever it sends and however
    much room there is. -/
theorem answered_until_short (hok : ∀ n, writes n ≠ .failed) (mem : CliConnection) (events more : List ConnEvent) :
    ∃ conn conn', run cmds prints writes mem events = some conn ∧
      more.foldlM (CliConnection.handle cmds prints writes) conn = some conn' ∧
      ((∀ text ∈ conn.texts prints, text.length ≤ 128) →
        conn.stream.socket <+: (conn.texts prints).flatten ∧
          (conn.stream.socket ≠ (conn.texts prints).flatten → conn'.stream.socket = conn.stream.socket)) := by
  obtain ⟨conn₀, halloc, hheard₀, -⟩ := heard_alloc cmds prints writes mem
  obtain ⟨conn, hevents, hheard, -⟩ := hheard₀.events prints writes events
  obtain ⟨conn', hmore, -, -⟩ := hheard.events prints writes more
  have hQ := keeps_told hok
  have htold : conn.stream.Ready ∧ Told conn.stream (conn.texts prints) :=
    hQ.events cmds ⟨hheard₀.ready, told_alloc cmds hok mem halloc⟩ hevents
  refine ⟨conn, conn', ?_, hmore, fun hfit => ?_⟩
  · rw [run, halloc]
    exact hevents
  · obtain ⟨hunwatched, ⟨-, hsocket⟩ | ⟨hqueue, hsocket⟩⟩ := htold.2 hfit
    · exact ⟨hsocket ▸ List.prefix_refl _, fun hne => absurd hsocket hne⟩
    · have hS : Keeps writes _ := keeps_stalled conn.stream.socket
      refine ⟨hsocket, fun _ => ?_⟩
      exact (hS.events cmds ⟨htold.1, ⟨hqueue, hunwatched⟩, rfl⟩ hmore).2.2

/-- A socket that takes three bytes of the first write shows no prompt, and no answer to `hi`. -/
theorem answered_until_short_first :
    ∃ conn conn', run [] (fun _ _ => []) (fun _ => .wrote 3) blank [.room 9] = some conn ∧
      [.rx [104, 105, 13, 0], .room 9].foldlM (handle [] (fun _ _ => []) (fun _ => .wrote 3)) conn = some conn' ∧
      conn.stream.socket.length = 3 ∧ conn'.stream.socket = conn.stream.socket := by
  obtain ⟨conn, conn', hrun, hmore, h⟩ := answered_until_short [] (fun _ _ => []) (fun _ => .wrote 3)
    (fun _ => WriteRet.noConfusion) blank [.room 9] [.rx [104, 105, 13, 0], .room 9]
  have htexts : (run [] (fun _ _ => []) (fun _ => .wrote 3) blank [.room 9]).all (fun conn =>
      conn.texts (fun _ _ => []) |>.all (·.length ≤ 128)) = true := by decide
  have hsocket : (run [] (fun _ _ => []) (fun _ => .wrote 3) blank [.room 9]).all (fun conn =>
      conn.stream.socket.length = 3 && conn.stream.socket ≠ (conn.texts fun _ _ => []).flatten) = true := by decide
  rw [hrun] at htexts hsocket
  simp only [Option.all_some, Bool.and_eq_true, decide_eq_true_eq, List.all_eq_true] at htexts hsocket
  exact ⟨conn, conn', hrun, hmore, hsocket.1, (h htexts).2 hsocket.2⟩

end CliConnection

end Prtp
