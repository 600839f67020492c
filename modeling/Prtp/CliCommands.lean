import Prtp.Cli
import Mathlib.Data.List.Infix
import Mathlib.Data.List.TakeWhile

set_option autoImplicit false

/-! # What is typed and what is executed

A line may grow to 251 characters, with what was erased no longer counted. The 252nd is still taken, and with
it the buffer is full: backspaces are ignored from then on, and the null of the carriage return is written
behind the buffer. -/

namespace Prtp

/-! ## Lines -/

/-- What a line looks like once its backspaces are applied. -/
def cliEdited (typed : List UInt8) : List UInt8 :=
  typed.foldl (fun line b => if b = 8 ∨ b = 127 then line.dropLast else line ++ [b]) []

/-- The lines of a stream that are ended by a carriage return, the first of which has begun with `typed`. -/
def cliLines (typed : List UInt8) : List UInt8 → List (List UInt8)
  | [] => []
  | b :: bs => if b = cliEolChar then typed :: cliLines [] bs else cliLines (typed ++ [b]) bs

/-- The command a line stands for: what it looks like in the end, as far as it fits with a null behind it. -/
def cliCommand (typed : List UInt8) : List UInt8 := (cliEdited typed).take (cliMaxCommandLen - 1)

/-- The line leaves room for a null at any time. -/
def CliRoomy (typed : List UInt8) : Prop := ∀ p ∈ typed.inits, (cliEdited p).length < cliMaxCommandLen

/-- The line leaves room for a null at any time, and none is in it in the end. -/
def CliFits (typed : List UInt8) : Prop := CliRoomy typed ∧ 0 ∉ cliEdited typed

instance (typed : List UInt8) : Decidable (CliRoomy typed) :=
  inferInstanceAs (Decidable (∀ p ∈ typed.inits, _))

instance (typed : List UInt8) : Decidable (CliFits typed) := inferInstanceAs (Decidable (_ ∧ _))

theorem cliEdited_concat (typed : List UInt8) (b : UInt8) :
    cliEdited (typed ++ [b]) =
      if b = 8 ∨ b = 127 then (cliEdited typed).dropLast else cliEdited typed ++ [b] := by
  rw [cliEdited, List.foldl_append]
  rfl

theorem cliRoomy_nil : CliRoomy [] := by decide

theorem cliRoomy_concat (typed : List UInt8) (b : UInt8) :
    CliRoomy (typed ++ [b]) ↔
      CliRoomy typed ∧ (cliEdited (typed ++ [b])).length < cliMaxCommandLen := by
  simp only [CliRoomy, List.mem_inits, List.prefix_concat_iff, forall_eq_or_imp]
  exact and_comm

theorem CliRoomy.length_lt {typed : List UInt8} (h : CliRoomy typed) :
    (cliEdited typed).length < cliMaxCommandLen :=
  h typed ((List.mem_inits _ _).2 (List.prefix_refl _))

/-! ## `strtok_r` -/

theorem strtokR_length {off stop : ℕ} {s token rest : List UInt8}
    (h : strtokR off s = some (token, stop, rest)) : stop + rest.length = off + s.length := by
  simp only [strtokR] at h
  split at h
  · cases h
  · simp only [Option.some.injEq, Prod.mk.injEq] at h
    obtain ⟨rfl, rfl, rfl⟩ := h
    have hskipped := congrArg List.length (List.takeWhile_append_dropWhile (p := cliDelim) (l := s))
    have htoken := congrArg List.length
      (List.takeWhile_append_dropWhile (p := (!cliDelim ·)) (l := s.dropWhile cliDelim))
    rw [List.length_append] at hskipped htoken
    omega

/-- Nulls are written into the string only. -/
theorem cliSplit_lt (room off : ℕ) (s : List UInt8) :
    ∀ i ∈ (cliSplit room off s).2, i < off + s.length := by
  induction room generalizing off s with
  | zero =>
      rw [cliSplit]
      split
      · simp
      · rename_i token stop rest htok
        have hlen := strtokR_length htok
        cases rest with
        | nil => simp
        | cons b rest => simpa using hlen ▸ Nat.lt_add_of_pos_right (Nat.succ_pos _)
  | succ room ih =>
      rw [cliSplit]
      split
      · simp
      · rename_i token stop rest htok
        have hlen := strtokR_length htok
        have hmore := ih (stop + 1) rest.tail
        intro i hi
        rw [List.mem_append] at hi
        cases rest with
        | nil =>
            have hnil : cliSplit room (stop + 1) [] = (some [], []) := by
              cases room <;> rfl
            rw [List.tail_nil, hnil] at hi
            simp at hi
        | cons b rest =>
            rw [List.length_cons] at hlen
            rcases hi with hi | hi
            · have hstop : i = stop := by simpa using hi
              omega
            · have hlt := hmore i hi
              rw [List.tail_cons] at hlt
              omega

/-! ## One byte -/

namespace CliIntf

variable {intf : CliIntf}

/-- Every place written lies in the buffer. -/
def WritesInside (intf : CliIntf) : Prop := ∀ i ∈ intf.writes, i < cliMaxCommandLen

theorem executed_execute (intf : CliIntf) (cmd : List UInt8) :
    (intf.emit (.execute cmd)).executed = intf.executed ++ [cmd] := by
  simp [executed, emit]

theorem executed_printf (intf : CliIntf) (text : List UInt8) :
    (intf.printf text).executed = intf.executed := by
  simp [executed, printf, emit]

theorem executed_handler (intf : CliIntf) (argv : List (List UInt8)) :
    (intf.emit (.handler argv)).executed = intf.executed := by
  simp [executed, emit]

theorem foldl_write (intf : CliIntf) (places : List ℕ) :
    (places.foldl (fun intf i => intf.write i 0) intf).writes = intf.writes ++ places ∧
      (places.foldl (fun intf i => intf.write i 0) intf).out = intf.out := by
  induction places generalizing intf with
  | nil => exact ⟨(List.append_nil _).symm, rfl⟩
  | cons i places ih =>
      obtain ⟨hwrites, hout⟩ := ih (intf.write i 0)
      exact ⟨hwrites.trans (List.append_assoc _ [i] places), hout⟩

/-- Executing a command that lies in the buffer writes into the buffer. -/
theorem executeCommand_spec (cmds : List (List UInt8)) (intf : CliIntf) {cmd : List UInt8}
    (hcmd : cmd.length ≤ cliMaxCommandLen) :
    (intf.executeCommand cmds cmd).executed = intf.executed ++ [cmd] ∧
      ((intf.executeCommand cmds cmd).WritesInside ↔ intf.WritesInside) := by
  have hlt := cliSplit_lt cliCommandMaxArgs 0 cmd
  obtain ⟨hwrites, hout⟩ := foldl_write (intf.emit (.execute cmd)) (cliSplit cliCommandMaxArgs 0 cmd).2
  simp only [executeCommand]
  generalize (cliSplit cliCommandMaxArgs 0 cmd).2.foldl (fun intf i => intf.write i 0)
    (intf.emit (.execute cmd)) = t at hwrites hout ⊢
  have hexecuted : t.executed = intf.executed ++ [cmd] := by
    rw [← executed_execute, executed, hout]
    rfl
  have hinside : t.WritesInside ↔ intf.WritesInside := by
    simp only [WritesInside, hwrites, List.mem_append]
    constructor
    · exact fun h i hi => h i (Or.inl hi)
    · rintro h i (hi | hi)
      · exact h i hi
      · have := hlt i hi
        omega
  split
  · exact ⟨(executed_printf t _).trans hexecuted, hinside⟩
  · exact ⟨hexecuted, hinside⟩
  · split
    · exact ⟨(executed_handler _ _).trans ((executed_printf t _).trans hexecuted), hinside⟩
    · refine ⟨?_, hinside⟩
      rw [executed_printf, executed_printf, executed_printf, hexecuted]

/-- What the buffer holds once `typed` has been typed: the line, or so much that it is full. -/
inductive Kept (typed : List UInt8) (intf : CliIntf) : Prop
  | room (hroom : CliRoomy typed)
      (hline : intf.cmdBuffer.slice 0 intf.cmdBufferNdx.toNat = cliEdited typed)
  | full (hfull : ¬ CliRoomy typed) (hndx : intf.cmdBufferNdx.toNat = cliMaxCommandLen)

theorem kept_register (mem : ByteMem) : (register mem).Kept [] := .room cliRoomy_nil rfl

theorem Kept.length {typed : List UInt8} (hroom : CliRoomy typed) (h : intf.Kept typed) :
    intf.cmdBufferNdx.toNat = (cliEdited typed).length := by
  cases h with
  | room _ hline => rw [← hline, ByteMem.slice_length]
  | full hfull => exact absurd hroom hfull

theorem Kept.cmdBufferNdx_le {typed : List UInt8} (h : intf.Kept typed) :
    intf.cmdBufferNdx.toNat ≤ cliMaxCommandLen := by
  cases h with
  | room hroom hline => exact (Kept.length hroom (.room hroom hline)).trans_le hroom.length_lt.le
  | full _ hndx => exact hndx.le

theorem Kept.roomy_iff {typed : List UInt8} (h : intf.Kept typed) :
    CliRoomy typed ↔ intf.cmdBufferNdx.toNat < cliMaxCommandLen := by
  cases h with
  | room hroom hline =>
      exact iff_of_true hroom ((Kept.length hroom (.room hroom hline)).trans_lt hroom.length_lt)
  | full hfull hndx => exact iff_of_false hfull hndx.not_lt

/-- A character writes into the buffer if and only if the line has not reached its end. -/
theorem writesInside_push (intf : CliIntf) (b : UInt8) :
    (intf.push b).WritesInside ↔
      intf.WritesInside ∧ intf.cmdBufferNdx.toNat < cliMaxCommandLen := by
  simp only [WritesInside, push, write, List.mem_append, List.mem_singleton]
  constructor
  · exact fun h => ⟨fun i hi => h i (Or.inl hi), h _ (Or.inr rfl)⟩
  · rintro ⟨hbefore, hlast⟩ i (hi | rfl)
    · exact hbefore i hi
    · exact hlast

/-- A backspace takes the last character from the line, if there is one. -/
theorem Kept.backspace {typed : List UInt8} (hroom : CliRoomy typed) (h : intf.Kept typed) {b : UInt8}
    (hback : b = 8 ∨ b = 127) :
    (if 0 < intf.cmdBufferNdx then
      { intf.printf [8, 32, 8] with cmdBufferNdx := intf.cmdBufferNdx - 1 }
    else intf).Kept (typed ++ [b]) := by
  have hlen := Kept.length hroom h
  have hlt := hroom.length_lt
  have hedited := cliEdited_concat typed b
  rw [if_pos hback] at hedited
  have hroom' : CliRoomy (typed ++ [b]) := by
    rw [cliRoomy_concat, hedited, List.length_dropLast]
    exact ⟨hroom, by omega⟩
  cases h with
  | full hfull => exact absurd hroom hfull
  | room _ hline =>
      split
      · rename_i hpos
        have hpred : (intf.cmdBufferNdx - 1).toNat = intf.cmdBufferNdx.toNat - 1 :=
          UInt8.toNat_sub_of_le _ _ (UInt8.le_iff_toNat_le.2 (UInt8.lt_iff_toNat_lt.1 hpos))
        refine .room hroom' ?_
        rw [hedited, ← hline, ← ByteMem.slice_pred _ (UInt8.lt_iff_toNat_lt.1 hpos), ← hpred]
        rfl
      · rename_i hzero
        have hnil : cliEdited typed = [] := by
          rw [← List.length_eq_zero_iff, ← hlen]
          exact Nat.eq_zero_of_not_pos fun hpos => hzero (UInt8.lt_iff_toNat_lt.2 hpos)
        refine .room hroom' ?_
        rw [hedited, hline, hnil]
        rfl

/-- Any other character goes behind the line, which it may fill up. -/
theorem Kept.character {typed : List UInt8} (hroom : CliRoomy typed) (h : intf.Kept typed) {b : UInt8}
    (hchar : ¬ (b = 8 ∨ b = 127)) : ((intf.printf [b]).push b).Kept (typed ++ [b]) := by
  have hmax : cliMaxCommandLen = 252 := rfl
  have hlen := Kept.length hroom h
  have hlt := hroom.length_lt
  have hedited := cliEdited_concat typed b
  rw [if_neg hchar] at hedited
  have hnext : (intf.cmdBufferNdx + 1).toNat = intf.cmdBufferNdx.toNat + 1 := by
    have hsmall : intf.cmdBufferNdx.toNat + 1 < 2 ^ 8 := by omega
    rw [UInt8.toNat_add]
    exact Nat.mod_eq_of_lt hsmall
  cases h with
  | full hfull => exact absurd hroom hfull
  | room _ hline =>
      by_cases hroom' : CliRoomy (typed ++ [b])
      · refine .room hroom' ?_
        show (intf.cmdBuffer.store intf.cmdBufferNdx.toNat b).slice 0 (intf.cmdBufferNdx + 1).toNat = _
        rw [hnext, ByteMem.slice_push, hline, hedited]
      · refine .full hroom' ?_
        show (intf.cmdBufferNdx + 1).toNat = _
        rw [cliRoomy_concat, hedited, List.length_append, List.length_singleton,
          and_iff_right hroom] at hroom'
        omega

/-- A byte that goes into the line. -/
theorem Kept.typed {typed : List UInt8} (h : intf.Kept typed) (cmds : List (List UInt8)) {b : UInt8}
    (hb : b ≠ cliEolChar) :
    (intf.handleByte cmds b).Kept (typed ++ [b]) ∧
      (intf.handleByte cmds b).executed = intf.executed ∧
      ((intf.handleByte cmds b).WritesInside ↔ intf.WritesInside) := by
  by_cases hroom : CliRoomy typed
  · have hopen : b ≠ cliEolChar ∧ intf.cmdBufferNdx.toNat < cliMaxCommandLen :=
      ⟨hb, h.roomy_iff.1 hroom⟩
    rw [CliIntf.handleByte, if_pos hopen]
    split
    · rename_i hback
      refine ⟨h.backspace hroom hback, ?_⟩
      split
      · exact ⟨executed_printf intf _, Iff.rfl⟩
      · exact ⟨rfl, Iff.rfl⟩
    · rename_i hchar
      refine ⟨h.character hroom hchar, executed_printf intf _, ?_⟩
      exact (writesInside_push (intf.printf [b]) b).trans (and_iff_left hopen.2)
  · -- the buffer is full, and the byte is dropped
    have hskip : intf.handleByte cmds b = intf := by
      rw [CliIntf.handleByte, if_neg (fun hopen => hroom (h.roomy_iff.2 hopen.2)), if_neg hb]
    have hndx : intf.cmdBufferNdx.toNat = cliMaxCommandLen :=
      h.cmdBufferNdx_le.antisymm (not_lt.1 fun hlt => hroom (h.roomy_iff.2 hlt))
    rw [hskip]
    exact ⟨.full (fun h' => hroom ((cliRoomy_concat typed b).1 h').1) hndx, rfl, Iff.rfl⟩

/-- The null goes behind the line, and the string up to the first null is executed. -/
theorem Kept.entered {typed : List UInt8} (h : intf.Kept typed) (cmds : List (List UInt8)) :
    (intf.handleByte cmds cliEolChar).Kept [] ∧
      ((intf.handleByte cmds cliEolChar).WritesInside ↔ intf.WritesInside ∧ CliRoomy typed) ∧
      (CliRoomy typed → (intf.handleByte cmds cliEolChar).executed =
        intf.executed ++ [(cliEdited typed).takeWhile (· ≠ 0)]) := by
  have hle := h.cmdBufferNdx_le
  have hstring : (intf.push 0).cmdString intf.cmdBufferNdx.toNat =
      (intf.cmdBuffer.slice 0 intf.cmdBufferNdx.toNat).takeWhile (· ≠ 0) := by
    have hfront : (intf.push 0).cmdBuffer.slice 0 intf.cmdBufferNdx.toNat =
        intf.cmdBuffer.slice 0 intf.cmdBufferNdx.toNat :=
      ByteMem.slice_congr fun i _ hi => (ByteMem.store_apply _ _ _ _).trans (if_neg (by omega))
    rw [cmdString, hfront]
  have hfits : ((intf.push 0).cmdString intf.cmdBufferNdx.toNat).length ≤ cliMaxCommandLen := by
    have htaken := (List.takeWhile_sublist (fun b : UInt8 => decide (b ≠ 0))
      (l := intf.cmdBuffer.slice 0 intf.cmdBufferNdx.toNat)).length_le
    rw [ByteMem.slice_length] at htaken
    rw [hstring]
    exact htaken.trans hle
  obtain ⟨hexecuted, hinside⟩ := executeCommand_spec cmds (intf.push 0) hfits
  rw [CliIntf.handleByte, if_neg (fun h => h.1 rfl), if_pos rfl]
  refine ⟨.room cliRoomy_nil rfl, ?_, fun hroom => ?_⟩
  · rw [h.roomy_iff]
    exact Iff.trans hinside (writesInside_push intf 0)
  · refine (executed_printf _ _).trans (hexecuted.trans ?_)
    rw [hstring]
    cases h with
    | room _ hline =>
        rw [hline]
        rfl
    | full hfull => exact absurd hroom hfull

/-! ## Any number of bytes -/

theorem Kept.handleRx {typed : List UInt8} (h : intf.Kept typed) (cmds : List (List UInt8))
    (bs : List UInt8) :
    ((intf.handleRx cmds bs).WritesInside ↔
        intf.WritesInside ∧ ∀ line ∈ cliLines typed bs, CliRoomy line) ∧
      ((∀ line ∈ cliLines typed bs, CliRoomy line) → (intf.handleRx cmds bs).executed =
        intf.executed ++ (cliLines typed bs).map fun line => (cliEdited line).takeWhile (· ≠ 0)) := by
  induction bs generalizing typed intf with
  | nil => simp [cliLines, CliIntf.handleRx]
  | cons b bs ih =>
      show (((intf.handleByte cmds b).handleRx cmds bs).WritesInside ↔ _) ∧
        (_ → ((intf.handleByte cmds b).handleRx cmds bs).executed = _)
      rw [cliLines]
      split
      · rename_i hentered
        subst hentered
        obtain ⟨hkept, hwrites, hexecuted⟩ := h.entered cmds
        obtain ⟨ihwrites, ihexecuted⟩ := ih hkept
        simp only [List.mem_cons, forall_eq_or_imp, List.map_cons]
        constructor
        · rw [ihwrites, hwrites, and_assoc]
        · rintro ⟨hroom, hrest⟩
          rw [ihexecuted hrest, hexecuted hroom, List.append_assoc, List.singleton_append]
      · rename_i hb
        obtain ⟨hkept, hexecuted, hwrites⟩ := h.typed cmds hb
        obtain ⟨ihwrites, ihexecuted⟩ := ih hkept
        constructor
        · rw [ihwrites, hwrites]
        · intro hroom
          rw [ihexecuted hroom, hexecuted]

/-- The string that is executed is the command that was typed, for a line that leaves room for a null, if
    there is no null in it. -/
theorem takeWhile_eq_cliCommand_iff {typed : List UInt8} (h : CliRoomy typed) :
    (cliEdited typed).takeWhile (· ≠ 0) = cliCommand typed ↔ 0 ∉ cliEdited typed := by
  have hwhole : cliCommand typed = cliEdited typed := List.take_of_length_le (Nat.le_pred_of_lt h.length_lt)
  rw [hwhole, List.takeWhile_eq_self_iff]
  simp only [decide_eq_true_eq]
  exact ⟨fun hall hzero => hall 0 hzero rfl, fun hzero b hb hnull => hzero (hnull ▸ hb)⟩

theorem handleRx_flatten (cmds : List (List UInt8)) (intf : CliIntf) (calls : List (List UInt8)) :
    calls.foldl (CliIntf.handleRx cmds) intf = intf.handleRx cmds calls.flatten :=
  List.foldl_flatten.symm

/-- Whatever is typed, and however it arrives, the places written lie in the buffer and the strings executed
    are the commands typed if and only if every line that is entered fits. -/
theorem executed_commands_iff (mem : ByteMem) (cmds : List (List UInt8)) (calls : List (List UInt8)) :
    (calls.foldl (CliIntf.handleRx cmds) (register mem)).WritesInside ∧
        (calls.foldl (CliIntf.handleRx cmds) (register mem)).executed =
          (cliLines [] calls.flatten).map cliCommand ↔
      ∀ line ∈ cliLines [] calls.flatten, CliFits line := by
  obtain ⟨hwrites, hexecuted⟩ := (kept_register mem).handleRx cmds calls.flatten
  have hnone : (register mem).WritesInside := fun i hi => absurd hi List.not_mem_nil
  rw [handleRx_flatten, hwrites, and_iff_right hnone]
  constructor
  · rintro ⟨hroom, heq⟩ line hline
    have hsame := (hexecuted hroom).symm.trans heq
    have heach := List.map_eq_map_iff.1 hsame line hline
    exact ⟨hroom line hline, (takeWhile_eq_cliCommand_iff (hroom line hline)).1 heach⟩
  · intro hfits
    have hroom : ∀ line ∈ cliLines [] calls.flatten, CliRoomy line := fun line hline => (hfits line hline).1
    refine ⟨hroom, (hexecuted hroom).trans ?_⟩
    exact List.map_congr_left fun line hline =>
      (takeWhile_eq_cliCommand_iff (hroom line hline)).2 (hfits line hline).2

/-- 252 characters and a carriage return: the null is written behind the buffer. -/
theorem null_behind_buffer :
    252 ∈ ((register fun _ => 0).handleRx [] (List.replicate 252 97 ++ [13])).writes ∧
      ¬ ((register fun _ => 0).handleRx [] (List.replicate 252 97 ++ [13])).WritesInside := by
  have hwritten : 252 ∈ ((register fun _ => 0).handleRx [] (List.replicate 252 97 ++ [13])).writes := by
    decide +kernel
  exact ⟨hwritten, fun h => absurd (h 252 hwritten) (by decide)⟩

end CliIntf

end Prtp
