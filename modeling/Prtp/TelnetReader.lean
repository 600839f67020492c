import Prtp.Library.ByteMem

set_option autoImplicit false

/-! # The telnet reader (`telnet_reader.c`)

The reader takes a telnet stream apart byte by byte: what the user typed goes to the data callback, and
commands do not. A subnegotiation is over for the reader with the first 255 in it, whether that is doubled or
not, and with the first byte its buffer has no room for; what follows of it is taken for something typed. -/

namespace Prtp

/-- `IAC` -/
abbrev telnetIac : UInt8 := 255

/-- `DONT` -/
abbrev telnetDont : UInt8 := 254

/-- `DO` -/
abbrev telnetDo : UInt8 := 253

/-- `WONT` -/
abbrev telnetWont : UInt8 := 252

/-- `WILL` -/
abbrev telnetWill : UInt8 := 251

/-- `SB` -/
abbrev telnetSb : UInt8 := 250

/-- `SE` -/
abbrev telnetSe : UInt8 := 240

/-- `TELNET_READER_BUFFER_SIZE` -/
abbrev telnetReaderBufferSize : ℕ := 32

/-- `telnet_reader_state_t` -/
inductive TelnetReaderState
  | start
  | rxIac
  | rxDoDontWillWont
  | rxSb
  | waitForSe
deriving DecidableEq

/-- A call of `databack`, or one of `cmdback` with what the reader holds by then. -/
inductive TelnetCall
  | data (d : UInt8)
  | cmd (command opt : UInt8) (sub : List UInt8)
deriving DecidableEq

/-- `telnet_reader_t`, with the calls it has made. -/
structure TelnetReader where
  buffer : ByteMem
  bufNdx : UInt8
  state : TelnetReaderState
  command : UInt8
  opt : UInt8
  calls : List TelnetCall

namespace TelnetReader

/-! ## The reader -/

/-- `telnet_reader_move_state` -/
def moveState (tr : TelnetReader) (s : TelnetReaderState) : TelnetReader := { tr with state := s }

/-- `tr->databack` -/
def databack (tr : TelnetReader) (d : UInt8) : TelnetReader :=
  { tr with calls := tr.calls ++ [.data d] }

/-- `tr->cmdback` -/
def cmdback (tr : TelnetReader) : TelnetReader :=
  { tr with calls := tr.calls ++ [.cmd tr.command tr.opt (tr.buffer.slice 0 tr.bufNdx.toNat)] }

/-- `telnet_reader_handle_command` -/
def handleCommand (tr : TelnetReader) (d : UInt8) : Bool × TelnetReader :=
  let tr := { tr with command := d }
  if d = telnetDo ∨ d = telnetDont ∨ d = telnetWill ∨ d = telnetWont then
    (true, tr.moveState .rxDoDontWillWont)
  else if d = telnetSb then (true, { tr with bufNdx := 0 }.moveState .rxSb)
  else (false, tr)

/-- `telnet_reader_handle_subcommand` -/
def handleSubcommand (tr : TelnetReader) (d : UInt8) : Bool × TelnetReader :=
  if d = telnetIac then (true, tr.moveState .waitForSe)
  else if tr.bufNdx.toNat < telnetReaderBufferSize then
    (true, { tr with buffer := tr.buffer.store tr.bufNdx.toNat d, bufNdx := tr.bufNdx + 1 })
  else (false, tr)

/-- `telnet_reader_state_machine` -/
def stateMachine (tr : TelnetReader) (d : UInt8) : TelnetReader :=
  match tr.state with
  | .start => if d = telnetIac then tr.moveState .rxIac else tr.databack d
  | .rxIac =>
      if d = telnetIac then (tr.moveState .start).databack telnetIac
      else
        let (ok, tr) := tr.handleCommand d
        if ok then tr else tr.moveState .start
  | .rxDoDontWillWont => { tr with opt := d }.cmdback.moveState .start
  | .rxSb =>
      let (ok, tr) := tr.handleSubcommand d
      if ok then tr else tr.moveState .start
  | .waitForSe => (if d = telnetSe then tr.cmdback else tr).moveState .start

/-- `telnet_reader_init` -/
def init (tr : TelnetReader) : TelnetReader := { tr with state := .start, bufNdx := 0 }

/-- `telnet_reader_feed` -/
def feed (tr : TelnetReader) (data : List UInt8) : TelnetReader := data.foldl stateMachine tr

/-- What the data callback has been called with. -/
def received (tr : TelnetReader) : List UInt8 :=
  tr.calls.filterMap fun
    | .data d => some d
    | .cmd .. => none

end TelnetReader

/-! ## Telnet streams -/

/-- `DO`, `DONT`, `WILL` or `WONT` -/
inductive TelnetVerb
  | do_
  | dont
  | will
  | wont

/-- The byte of a verb. -/
def TelnetVerb.byte : TelnetVerb → UInt8
  | do_ => telnetDo
  | dont => telnetDont
  | will => telnetWill
  | wont => telnetWont

/-- What a telnet stream is made of. -/
inductive TelnetItem
  | user (b : UInt8)
  | option (verb : TelnetVerb) (opt : UInt8)
  | sub (payload : List UInt8)

/-- A byte that is no command: 255 is sent doubled. -/
def telnetEscape (b : UInt8) : List UInt8 := if b = telnetIac then [telnetIac, telnetIac] else [b]

namespace TelnetItem

/-- The bytes on the wire. -/
def encode : TelnetItem → List UInt8
  | user b => telnetEscape b
  | option verb opt => [telnetIac, verb.byte, opt]
  | sub payload => [telnetIac, telnetSb] ++ payload.flatMap telnetEscape ++ [telnetIac, telnetSe]

/-- What the user typed. -/
def typed : TelnetItem → List UInt8
  | user b => [b]
  | option .. => []
  | sub _ => []

end TelnetItem

/-- What is left of a subnegotiation when the reader thinks that it is over, with `n` bytes buffered before. -/
def telnetSpilled : ℕ → List UInt8 → List UInt8
  | _, [] => []
  | n, b :: bs =>
      if b = telnetIac then bs else if n < telnetReaderBufferSize then telnetSpilled (n + 1) bs else bs

/-- The reader gets to the end of a subnegotiation: it has no more than one byte too many for the buffer, and
    255 only in the last place. -/
def TelnetFits (payload : List UInt8) : Prop :=
  payload.length ≤ telnetReaderBufferSize + 1 ∧ telnetIac ∉ payload.dropLast

instance (payload : List UInt8) : Decidable (TelnetFits payload) :=
  inferInstanceAs (Decidable (_ ∧ _))

/-! ## One byte -/

namespace TelnetReader

variable {tr : TelnetReader}

@[simp] theorem received_databack (tr : TelnetReader) (d : UInt8) :
    (tr.databack d).received = tr.received ++ [d] := by
  simp [received, databack]

@[simp] theorem received_cmdback (tr : TelnetReader) : tr.cmdback.received = tr.received := by
  simp [received, cmdback]

theorem received_of_calls {t : TelnetReader} (h : t.calls = tr.calls) : t.received = tr.received := by
  rw [received, received, h]

theorem stateMachine_typed (h : tr.state = .start) {d : UInt8} (hd : d ≠ telnetIac) :
    tr.stateMachine d = tr.databack d := by
  simp only [stateMachine, h, if_neg hd]

theorem stateMachine_iac (h : tr.state = .start) : tr.stateMachine telnetIac = tr.moveState .rxIac := by
  simp only [stateMachine, h, if_true]

theorem stateMachine_doubled (h : tr.state = .rxIac) :
    tr.stateMachine telnetIac = (tr.moveState .start).databack telnetIac := by
  simp only [stateMachine, h, if_true]

theorem stateMachine_verb (h : tr.state = .rxIac) (verb : TelnetVerb) :
    tr.stateMachine verb.byte = { tr with command := verb.byte, state := .rxDoDontWillWont } := by
  cases verb <;> simp only [stateMachine, h] <;> rfl

theorem stateMachine_opt (h : tr.state = .rxDoDontWillWont) (opt : UInt8) :
    tr.stateMachine opt = { tr with opt := opt }.cmdback.moveState .start := by
  simp only [stateMachine, h]

theorem stateMachine_sb (h : tr.state = .rxIac) :
    tr.stateMachine telnetSb = { tr with command := telnetSb, bufNdx := 0, state := .rxSb } := by
  simp only [stateMachine, h]
  rfl

/-- The end of a subnegotiation is no command to a reader that is not in one. -/
theorem stateMachine_discarded (h : tr.state = .rxIac) :
    tr.stateMachine telnetSe = { tr with command := telnetSe, state := .start } := by
  simp only [stateMachine, h]
  rfl

theorem stateMachine_sub_iac (h : tr.state = .rxSb) :
    tr.stateMachine telnetIac = tr.moveState .waitForSe := by
  simp only [stateMachine, h, handleSubcommand, if_true]

theorem stateMachine_sub_stored (h : tr.state = .rxSb) {d : UInt8} (hd : d ≠ telnetIac)
    (hroom : tr.bufNdx.toNat < telnetReaderBufferSize) :
    tr.stateMachine d =
      { tr with buffer := tr.buffer.store tr.bufNdx.toNat d, bufNdx := tr.bufNdx + 1 } := by
  simp only [stateMachine, h, handleSubcommand, if_neg hd, if_pos hroom, if_true]

theorem stateMachine_sub_full (h : tr.state = .rxSb) {d : UInt8} (hd : d ≠ telnetIac)
    (hfull : ¬ tr.bufNdx.toNat < telnetReaderBufferSize) :
    tr.stateMachine d = tr.moveState .start := by
  simp only [stateMachine, h, handleSubcommand, if_neg hd, if_neg hfull, Bool.false_eq_true, if_false]

theorem stateMachine_se (h : tr.state = .waitForSe) :
    tr.stateMachine telnetSe = tr.cmdback.moveState .start := by
  simp only [stateMachine, h, if_true]

theorem stateMachine_no_se (h : tr.state = .waitForSe) {d : UInt8} (hd : d ≠ telnetSe) :
    tr.stateMachine d = tr.moveState .start := by
  simp only [stateMachine, h, if_neg hd]

/-! ## One item -/

theorem feed_cons (tr : TelnetReader) (d : UInt8) (ds : List UInt8) :
    tr.feed (d :: ds) = (tr.stateMachine d).feed ds := rfl

theorem feed_append (tr : TelnetReader) (xs ys : List UInt8) :
    tr.feed (xs ++ ys) = (tr.feed xs).feed ys :=
  List.foldl_append

/-- The reader is through with the bytes, and has taken `out` for typed. -/
structure Hands (tr : TelnetReader) (bytes out : List UInt8) : Prop where
  state : (tr.feed bytes).state = .start
  received : (tr.feed bytes).received = tr.received ++ out

theorem hands_nil (h : tr.state = .start) : tr.Hands [] [] := ⟨h, (List.append_nil _).symm⟩

theorem Hands.append {xs ys out out' : List UInt8} (h : tr.Hands xs out)
    (h' : ∀ {t : TelnetReader}, t.state = .start → t.Hands ys out') : tr.Hands (xs ++ ys) (out ++ out') := by
  have hrest := h' h.state
  constructor
  · rw [feed_append, hrest.state]
  · rw [feed_append, hrest.received, h.received, List.append_assoc]

/-- A byte that hands nothing on comes first. -/
theorem Hands.cons {t : TelnetReader} {d : UInt8} {ds out : List UInt8} (hd : tr.stateMachine d = t)
    (hquiet : t.received = tr.received) (h : t.Hands ds out) : tr.Hands (d :: ds) out := by
  constructor
  · rw [feed_cons, hd, h.state]
  · rw [feed_cons, hd, h.received, hquiet]

theorem hands_escape (h : tr.state = .start) (b : UInt8) : tr.Hands (telnetEscape b) [b] := by
  unfold telnetEscape
  split
  · rename_i hiac
    subst hiac
    refine .cons (stateMachine_iac h) (received_of_calls rfl) ?_
    constructor
    · rw [feed_cons, stateMachine_doubled rfl]
      rfl
    · rw [feed_cons, stateMachine_doubled rfl]
      exact received_databack _ _
  · rename_i hplain
    constructor
    · rw [feed_cons, stateMachine_typed h hplain]
      exact h
    · rw [feed_cons, stateMachine_typed h hplain]
      exact received_databack _ _

/-- Bytes that are no commands are taken for typed, which is what they are unless they belong to a
    subnegotiation. -/
theorem hands_typed (h : tr.state = .start) (bs : List UInt8) :
    tr.Hands (bs.flatMap telnetEscape) bs := by
  induction bs generalizing tr with
  | nil => exact hands_nil h
  | cons b bs ih => exact (hands_escape h b).append fun ht => ih ht

theorem hands_option (h : tr.state = .start) (verb : TelnetVerb) (opt : UInt8) :
    tr.Hands [telnetIac, verb.byte, opt] [] := by
  refine .cons (stateMachine_iac h) (received_of_calls rfl) ?_
  refine .cons (stateMachine_verb rfl verb) (received_of_calls rfl) ?_
  refine .cons (stateMachine_opt rfl opt) ?_ (hands_nil rfl)
  exact (received_of_calls rfl).trans (received_cmdback _)

theorem hands_discarded (h : tr.state = .start) : tr.Hands [telnetIac, telnetSe] [] := by
  refine .cons (stateMachine_iac h) (received_of_calls rfl) ?_
  exact .cons (stateMachine_discarded rfl) (received_of_calls rfl) (hands_nil rfl)

/-! ## Subnegotiations -/

/-- From the byte on that ends the subnegotiation for the reader, everything is taken for typed. -/
theorem hands_spilled (h : tr.state = .rxSb) (hndx : tr.bufNdx.toNat ≤ telnetReaderBufferSize)
    (payload : List UInt8) :
    tr.Hands (payload.flatMap telnetEscape ++ [telnetIac, telnetSe])
      (telnetSpilled tr.bufNdx.toNat payload) := by
  induction payload generalizing tr with
  | nil =>
      refine .cons (stateMachine_sub_iac h) (received_of_calls rfl) ?_
      refine .cons (stateMachine_se rfl) ?_ (hands_nil rfl)
      exact (received_of_calls rfl).trans (received_cmdback _)
  | cons b bs ih =>
      have hrest : ∀ {t : TelnetReader}, t.state = .start →
          t.Hands (bs.flatMap telnetEscape ++ [telnetIac, telnetSe]) bs := fun ht => by
        have hall := (hands_typed ht bs).append hands_discarded
        rwa [List.append_nil] at hall
      rw [List.flatMap_cons, List.append_assoc, telnetEscape, telnetSpilled]
      split
      · refine .cons (stateMachine_sub_iac h) (received_of_calls rfl) ?_
        exact .cons (stateMachine_no_se rfl (by decide)) (received_of_calls rfl) (hrest rfl)
      · rename_i hplain
        split
        · rename_i hroom
          have hsize : tr.bufNdx.toNat < 32 := hroom
          have hnext : (tr.bufNdx + 1).toNat = tr.bufNdx.toNat + 1 := by
            rw [UInt8.toNat_add]
            exact Nat.mod_eq_of_lt (Nat.lt_of_lt_of_le (Nat.succ_lt_succ hsize) (by decide))
          refine .cons (stateMachine_sub_stored h hplain hroom) (received_of_calls rfl) ?_
          rw [← hnext]
          exact ih h (hnext.trans_le hroom)
        · rename_i hfull
          exact .cons (stateMachine_sub_full h hplain hfull) (received_of_calls rfl) (hrest rfl)

theorem hands_sub (h : tr.state = .start) (payload : List UInt8) :
    tr.Hands (TelnetItem.sub payload).encode (telnetSpilled 0 payload) := by
  rw [TelnetItem.encode, List.append_assoc]
  refine .cons (stateMachine_iac h) (received_of_calls rfl) ?_
  refine .cons (stateMachine_sb rfl) (received_of_calls rfl) ?_
  exact hands_spilled rfl (Nat.zero_le _) payload

/-- Nothing is left of a subnegotiation that fits. -/
theorem telnetSpilled_eq_nil_iff {n : ℕ} (hn : n ≤ telnetReaderBufferSize) (payload : List UInt8) :
    telnetSpilled n payload = [] ↔
      n + payload.length ≤ telnetReaderBufferSize + 1 ∧ telnetIac ∉ payload.dropLast := by
  induction payload generalizing n with
  | nil => simpa [telnetSpilled] using Nat.le_succ_of_le hn
  | cons b bs ih =>
      rw [telnetSpilled]
      cases bs with
      | nil => simpa [telnetSpilled] using hn
      | cons c cs =>
          rw [List.dropLast_cons_cons, List.mem_cons, not_or, List.length_cons]
          split
          · rename_i hiac
            simp [hiac]
          · rename_i hplain
            split
            · rename_i hroom
              rw [ih hroom, and_iff_right (Ne.symm hplain), ← Nat.add_assoc, Nat.add_right_comm]
            · rename_i hfull
              have hbuf : telnetReaderBufferSize = 32 := rfl
              simp only [List.length_cons, reduceCtorEq, false_iff]
              omega

/-! ## Streams -/

/-- What the reader takes for typed. -/
def handed : TelnetItem → List UInt8
  | .user b => [b]
  | .option .. => []
  | .sub payload => telnetSpilled 0 payload

theorem hands_item (h : tr.state = .start) (item : TelnetItem) : tr.Hands item.encode (handed item) := by
  cases item with
  | user b => exact hands_escape h b
  | option verb opt => exact hands_option h verb opt
  | sub payload => exact hands_sub h payload

theorem hands_items (h : tr.state = .start) (items : List TelnetItem) :
    tr.Hands (items.flatMap TelnetItem.encode) (items.flatMap handed) := by
  induction items generalizing tr with
  | nil => exact hands_nil h
  | cons item items ih => exact (hands_item h item).append fun ht => ih ht

/-- What is handed on is never less than what was typed. -/
theorem length_typed_le (items : List TelnetItem) :
    (items.flatMap TelnetItem.typed).length ≤ (items.flatMap handed).length := by
  induction items with
  | nil => exact Nat.le_refl _
  | cons item items ih =>
      rw [List.flatMap_cons, List.flatMap_cons, List.length_append, List.length_append]
      cases item with
      | user | option => exact Nat.add_le_add_left ih _
      | sub payload => exact Nat.add_le_add (Nat.zero_le _) ih

theorem handed_eq_typed_iff (items : List TelnetItem) :
    items.flatMap handed = items.flatMap TelnetItem.typed ↔
      ∀ payload, .sub payload ∈ items → TelnetFits payload := by
  induction items with
  | nil => simp
  | cons item items ih =>
      rw [List.flatMap_cons, List.flatMap_cons]
      cases item with
      | user b => simp [handed, TelnetItem.typed, ih]
      | option verb opt => simp [handed, TelnetItem.typed, ih]
      | sub payload =>
          have hfits := telnetSpilled_eq_nil_iff (Nat.zero_le _) payload
          rw [Nat.zero_add] at hfits
          simp only [List.mem_cons, forall_eq_or_imp, TelnetItem.sub.injEq, handed, TelnetItem.typed,
            List.nil_append]
          constructor
          · intro heq
            have hlen := congrArg List.length heq
            rw [List.length_append] at hlen
            have hle := length_typed_le items
            have hnil : telnetSpilled 0 payload = [] := List.length_eq_zero_iff.1 (by omega)
            rw [hnil, List.nil_append] at heq
            exact ⟨hfits.1 hnil, ih.1 heq⟩
          · rintro ⟨hpayload, hrest⟩
            rw [hfits.2 hpayload, List.nil_append]
            exact ih.2 hrest

theorem feed_flatten (tr : TelnetReader) (chunks : List (List UInt8)) :
    chunks.foldl feed tr = tr.feed chunks.flatten :=
  List.foldl_flatten.symm

/-- However a telnet stream is cut up, the data callback receives what the user typed, and nothing else, if
    and only if every subnegotiation fits. -/
theorem received_typed_iff (mem : TelnetReader) (items : List TelnetItem) (chunks : List (List UInt8))
    (hchunks : chunks.flatten = items.flatMap TelnetItem.encode) :
    (chunks.foldl feed mem.init).received = mem.received ++ items.flatMap TelnetItem.typed ↔
      ∀ payload, .sub payload ∈ items → TelnetFits payload := by
  have hhands : mem.init.Hands (items.flatMap TelnetItem.encode) (items.flatMap handed) :=
    hands_items rfl items
  have hbefore : mem.init.received = mem.received := received_of_calls rfl
  rw [feed_flatten, hchunks, hhands.received, hbefore, List.append_right_inj]
  exact handed_eq_typed_iff items

/-- A reader on zeroed memory. -/
def blank : TelnetReader := ⟨fun _ => 0, 0, .start, 0, 0, []⟩

/-- An option, a subnegotiation with a 255 in the last place and a byte that was typed, in three pieces. -/
theorem received_typed_iff_pieces :
    ([[255], [253, 1, 255, 250, 24, 255], [255, 255, 240, 65]].foldl feed blank.init).received =
        blank.received ++
          [TelnetItem.option .do_ 1, .sub [24, 255], .user 65].flatMap TelnetItem.typed ↔
      ∀ payload, .sub payload ∈ [TelnetItem.option .do_ 1, .sub [24, 255], .user 65] → TelnetFits payload :=
  received_typed_iff blank _ _ (by decide)

/-- The subnegotiation of 255 and `A`: the `A` is taken for typed. So is what comes after 33 bytes. -/
theorem subnegotiation_spilled :
    (blank.init.feed [255, 250, 255, 255, 65, 255, 240]).received = [65] ∧
      [255, 250, 255, 255, 65, 255, 240] = [TelnetItem.sub [255, 65]].flatMap TelnetItem.encode ∧
      [TelnetItem.sub [255, 65]].flatMap TelnetItem.typed = [] ∧
      (blank.init.feed (TelnetItem.sub (List.replicate 33 0 ++ [65])).encode).received = [65] := by
  decide +kernel

end TelnetReader

end Prtp
