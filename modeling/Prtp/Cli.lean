import Prtp.Library.ByteMem

set_option autoImplicit false

/-! # The command line (`cli.c`)

`cli_handle_rx` collects what is typed in `cmd_buffer` and, at each carriage return, writes a null behind it
and hands the buffer to `cli_execute_command`, which splits it with `strtok_r` and looks the first argument up
among the commands. No line that is printed here is too long for `_print_buffer`. -/

namespace Prtp

/-- `CLI_MAX_COMMAND_LEN` -/
abbrev cliMaxCommandLen : ℕ := 252

/-- `CLI_COMMAND_MAX_ARGS` -/
abbrev cliCommandMaxArgs : ℕ := 32

/-- `CLI_EOL_CHAR` -/
abbrev cliEolChar : UInt8 := 13

/-- A text of the program. -/
def cliText (s : String) : List UInt8 := s.toList.map fun c => UInt8.ofNat c.toNat

/-- `CLI_EOL` -/
def cliEol : List UInt8 := cliText "\r\n"

/-- The names of `_core_commands`. -/
def cliCoreCommands : List (List UInt8) := ["help", "version", "cli_conn"].map cliText

/-- What an interface is asked to send, the strings handed to `cli_execute_command`, and the calls of command
    handlers. -/
inductive CliOut
  | tx (data : List UInt8)
  | execute (cmd : List UInt8)
  | handler (argv : List (List UInt8))
deriving DecidableEq

/-- `cli_intf_t`: the memory from `cmd_buffer` on, with the places in it that were written and what came of
    it. -/
structure CliIntf where
  cmdBufferNdx : UInt8
  cmdBuffer : ByteMem
  writes : List ℕ
  out : List CliOut

namespace CliIntf

/-- `cli_intf_register`, given the memory of the buffer. -/
def register (mem : ByteMem) : CliIntf := ⟨0, mem, [], []⟩

def emit (intf : CliIntf) (o : CliOut) : CliIntf := { intf with out := intf.out ++ [o] }

/-- `cli_printf` -/
def printf (intf : CliIntf) (text : List UInt8) : CliIntf := intf.emit (.tx text)

/-- A write to `cmd_buffer`. -/
def write (intf : CliIntf) (i : ℕ) (b : UInt8) : CliIntf :=
  { intf with cmdBuffer := intf.cmdBuffer.store i b, writes := intf.writes ++ [i] }

/-- `intf->cmd_buffer[intf->cmd_buffer_ndx++] = b` -/
def push (intf : CliIntf) (b : UInt8) : CliIntf :=
  { intf.write intf.cmdBufferNdx.toNat b with cmdBufferNdx := intf.cmdBufferNdx + 1 }

end CliIntf

/-! ## Commands -/

/-- `" \t"` -/
def cliDelim (b : UInt8) : Bool := b == 32 || b == 9

/-- `strtok_r` on a string at offset `off`: the token, where it ends, and what is behind it, with the
    delimiter. -/
def strtokR (off : ℕ) (s : List UInt8) : Option (List UInt8 × ℕ × List UInt8) :=
  let skipped := (s.takeWhile cliDelim).length
  let s := s.dropWhile cliDelim
  let token := s.takeWhile (!cliDelim ·)
  if s = [] then none else some (token, off + skipped + token.length, s.dropWhile (!cliDelim ·))

/-- The arguments of a command, with room for `room` of them, and where nulls are written behind them: `none`
    if there are too many. -/
def cliSplit : (room off : ℕ) → List UInt8 → Option (List (List UInt8)) × List ℕ
  | room, off, s =>
      match strtokR off s with
      | none => (some [], [])
      | some (token, stop, rest) =>
          -- no null is written where the string ends anyway
          let nulls := if rest = [] then [] else [stop]
          match room with
          | 0 => (none, nulls)
          | room + 1 =>
              let (argv, more) := cliSplit room (stop + 1) rest.tail
              (argv.map fun argv => token :: argv, nulls ++ more)

namespace CliIntf

/-- `cli_execute_command` for the string in `cmd_buffer`, where `cmds` are the names of `_user_commands`. -/
def executeCommand (cmds : List (List UInt8)) (intf : CliIntf) (cmd : List UInt8) : CliIntf :=
  let (argv, nulls) := cliSplit cliCommandMaxArgs 0 cmd
  let intf := nulls.foldl (fun intf i => intf.write i 0) (intf.emit (.execute cmd))
  match argv with
  | none => intf.printf (cliEol ++ cliText "Error: too many arguments" ++ cliEol)
  | some [] => intf
  | some (name :: args) =>
      if name ∈ cliCoreCommands ∨ name ∈ cmds then
        (intf.printf (cliEol ++ cliText "Executing " ++ name ++ cliEol)).emit (.handler (name :: args))
      else ((intf.printf (cliEol ++ cliText "Unknown Command: ")).printf name).printf cliEol

/-- `cli_prompt` -/
def prompt (intf : CliIntf) : CliIntf := intf.printf (cliText "\r\npRTP> ")

/-- The string at the start of `cmd_buffer`, which ends with the null at `stop` at the latest. -/
def cmdString (intf : CliIntf) (stop : ℕ) : List UInt8 :=
  (intf.cmdBuffer.slice 0 stop).takeWhile (· ≠ 0)

/-! ## Typing -/

/-- The body of the loop of `cli_handle_rx`. -/
def handleByte (cmds : List (List UInt8)) (intf : CliIntf) (b : UInt8) : CliIntf :=
  if b ≠ cliEolChar ∧ intf.cmdBufferNdx.toNat < cliMaxCommandLen then
    if b = 8 ∨ b = 127 then
      if 0 < intf.cmdBufferNdx then
        { intf.printf [8, 32, 8] with cmdBufferNdx := intf.cmdBufferNdx - 1 }
      else intf
    else (intf.printf [b]).push b
  else if b = cliEolChar then
    let stop := intf.cmdBufferNdx.toNat
    let intf := intf.push 0
    let intf := intf.executeCommand cmds (intf.cmdString stop)
    { intf with cmdBufferNdx := 0 }.prompt
  else intf

/-- `cli_handle_rx` -/
def handleRx (cmds : List (List UInt8)) (intf : CliIntf) (data : List UInt8) : CliIntf :=
  data.foldl (handleByte cmds) intf

/-- The strings that were handed to `cli_execute_command`. -/
def executed (intf : CliIntf) : List (List UInt8) :=
  intf.out.filterMap fun
    | .execute cmd => some cmd
    | .tx _ | .handler _ => none

end CliIntf

end Prtp
