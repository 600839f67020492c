import Prtp.Library.BoundedQueue
import Prtp.Library.ByteMem

set_option autoImplicit false

/-! # The circular buffer (`circ_buffer.c`)

The octets of a `circ_buffer_t` lie in its buffer from `begin` on and go on at the first place behind the
last one, `data_size` of them; `end` is where the next one goes. Copies that reach past the last place are
made in two. The functions are about sizes that are not negative and whose sums are within `int`. -/

namespace Prtp

/-- `circ_buffer_t` -/
structure CircBuffer where
  buffer : ByteMem
  size : ℕ
  dataSize : ℕ
  beginNdx : ℕ
  endNdx : ℕ

namespace CircBuffer

/-- `circ_buffer_init`, given the memory that `malloc` returns. -/
def init (mem : ByteMem) (size : ℕ) : CircBuffer := ⟨mem, size, 0, 0, 0⟩

/-- `circ_buffer_reset` -/
def reset (cb : CircBuffer) : CircBuffer := { cb with beginNdx := 0, endNdx := 0, dataSize := 0 }

/-- `memcpy` to offset `off` of the buffer; `none` if it would not stay in the buffer. -/
def copyIn (cb : CircBuffer) (off : ℕ) (bs : List UInt8) : Option CircBuffer :=
  if off + bs.length ≤ cb.size then some { cb with buffer := cb.buffer.storeBytes off bs } else none

/-- `memcpy` from offset `off` of the buffer; `none` if it would not stay in the buffer. -/
def copyOut (cb : CircBuffer) (off n : ℕ) : Option (List UInt8) :=
  if off + n ≤ cb.size then some (cb.buffer.slice off n) else none

/-- `ndx % cb->size`; `none` is the division by zero. -/
def wrap (cb : CircBuffer) (ndx : ℕ) : Option ℕ := if cb.size = 0 then none else some (ndx % cb.size)

/-- The copies of `circ_buffer_put`. -/
def copyBehind (cb : CircBuffer) (bs : List UInt8) : Option CircBuffer :=
  if cb.size < cb.endNdx + bs.length then
    let beginLen := cb.size - cb.endNdx
    (cb.copyIn cb.endNdx (bs.take beginLen)).bind fun cb => cb.copyIn 0 (bs.drop beginLen)
  else cb.copyIn cb.endNdx bs

/-- The copies of `circ_buffer_get` and `circ_buffer_peek`. -/
def copyOldest (cb : CircBuffer) (size : ℕ) : Option (List UInt8) :=
  if cb.beginNdx + size ≤ cb.size then cb.copyOut cb.beginNdx size
  else
    let beginLen := cb.size - cb.beginNdx
    (cb.copyOut cb.beginNdx beginLen).bind fun bs =>
      (cb.copyOut 0 (size - beginLen)).map fun bs' => bs ++ bs'

/-- `circ_buffer_put`: what it returns, and the buffer. -/
def put (cb : CircBuffer) (bs : List UInt8) : Option (ℤ × CircBuffer) :=
  if cb.size < cb.dataSize + bs.length then some (-1, cb)
  else
    (cb.copyBehind bs).bind fun copied =>
      (cb.wrap (cb.endNdx + bs.length)).map fun endNdx =>
        (0, { copied with endNdx := endNdx, dataSize := cb.dataSize + bs.length })

/-- `circ_buffer_advance` -/
def advance (cb : CircBuffer) (size : ℕ) : Option (ℤ × CircBuffer) :=
  if cb.dataSize < size then some (-1, cb)
  else
    (cb.wrap (cb.beginNdx + size)).map fun beginNdx =>
      (0, { cb with beginNdx := beginNdx, dataSize := cb.dataSize - size })

/-- `circ_buffer_peek`: what it returns, and what it copies to the caller. -/
def peek (cb : CircBuffer) (size : ℕ) : Option (ℤ × List UInt8) :=
  if cb.dataSize < size then some (-1, [])
  else (cb.copyOldest size).map fun bs => (0, bs)

/-- `circ_buffer_get` -/
def get (cb : CircBuffer) (size : ℕ) : Option (ℤ × List UInt8 × CircBuffer) :=
  if cb.dataSize < size then some (-1, [], cb)
  else
    (cb.copyOldest size).bind fun bs =>
      (cb.wrap (cb.beginNdx + size)).map fun beginNdx =>
        (0, bs, { cb with beginNdx := beginNdx, dataSize := cb.dataSize - size })

/-! ## The queue in the buffer -/

/-- The buffer holds the items of `q`, the oldest at `begin`. -/
structure Refines {cap : ℕ} (cb : CircBuffer) (q : BoundedQueue UInt8 cap) : Prop where
  size : cb.size = cap
  dataSize : cb.dataSize = q.items.length
  beginNdx : cb.beginNdx ≤ cap - 1
  endNdx : cb.endNdx = (cb.beginNdx + cb.dataSize) % cap
  items : ringSlice cb.buffer cap cb.beginNdx cb.dataSize = q.items

/-- The octets in the buffer, the oldest first. -/
def contents (cb : CircBuffer) : List UInt8 := ringSlice cb.buffer cb.size cb.beginNdx cb.dataSize

theorem Refines.contents {cap : ℕ} {cb : CircBuffer} {q : BoundedQueue UInt8 cap} (h : cb.Refines q) :
    cb.contents = q.items := by
  rw [CircBuffer.contents, h.size, h.items]

theorem refines_init (mem : ByteMem) (cap : ℕ) : (init mem cap).Refines (.empty cap) :=
  ⟨rfl, rfl, Nat.zero_le _, (Nat.zero_mod cap).symm, rfl⟩

theorem refines_reset {cap : ℕ} {cb : CircBuffer} {q : BoundedQueue UInt8 cap} (h : cb.Refines q) :
    cb.reset.Refines (.empty cap) :=
  ⟨h.size, rfl, Nat.zero_le _, (Nat.zero_mod cap).symm, rfl⟩

theorem slice_eq_map (m : ByteMem) (off n : ℕ) :
    m.slice off n = (List.range n).map fun i => m (off + i) := by
  induction n generalizing off with
  | zero => rfl
  | succ n ih =>
      rw [ByteMem.slice, ih, List.range_succ_eq_map, List.map_cons, List.map_map]
      congr 1
      refine List.map_congr_left fun i _ => ?_
      rw [Function.comp_apply, Nat.succ_eq_add_one, Nat.add_right_comm, Nat.add_assoc]

theorem copyIn_of_le {cb : CircBuffer} {off : ℕ} {bs : List UInt8} (h : off + bs.length ≤ cb.size) :
    cb.copyIn off bs = some { cb with buffer := cb.buffer.storeBytes off bs } :=
  if_pos h

theorem copyOut_of_le {cb : CircBuffer} {off n : ℕ} (h : off + n ≤ cb.size) :
    cb.copyOut off n = some (cb.buffer.slice off n) :=
  if_pos h

theorem wrap_of_pos {cb : CircBuffer} (h : 0 < cb.size) (ndx : ℕ) :
    cb.wrap ndx = some (ndx % cb.size) :=
  if_neg h.ne'

/-- One copy or two, the octets come to lie in the ring from `end` on, and the rest of the ring is kept. -/
theorem copyBehind_ring {cb : CircBuffer} (bs : List UInt8) (hend : cb.endNdx < cb.size)
    (hlen : bs.length ≤ cb.size) :
    ∃ buffer, cb.copyBehind bs = some { cb with buffer := buffer } ∧
      ringSlice buffer cb.size cb.endNdx bs.length = bs ∧
      ∀ i < cb.size, (∀ j < bs.length, (cb.endNdx + j) % cb.size ≠ i) → buffer i = cb.buffer i := by
  by_cases hwrap : cb.size < cb.endNdx + bs.length
  · have hfirst : (bs.take (cb.size - cb.endNdx)).length = cb.size - cb.endNdx := by
      rw [List.length_take]
      omega
    have hrest : (bs.drop (cb.size - cb.endNdx)).length = bs.length - (cb.size - cb.endNdx) :=
      List.length_drop
    refine ⟨(cb.buffer.storeBytes cb.endNdx (bs.take (cb.size - cb.endNdx))).storeBytes 0
      (bs.drop (cb.size - cb.endNdx)), ?_, ?_, fun i hi hout => ?_⟩
    · simp only [copyBehind, if_pos hwrap]
      rw [copyIn_of_le (by omega), Option.bind_some, copyIn_of_le (by simp only; omega)]
    · rw [ringSlice_wrapped _ _ _ _ hend.le hwrap hlen, ← slice_eq_map]
      have hsecond := slice_eq_map ((cb.buffer.storeBytes cb.endNdx
        (bs.take (cb.size - cb.endNdx))).storeBytes 0 (bs.drop (cb.size - cb.endNdx))) 0
        (bs.length - (cb.size - cb.endNdx))
      simp only [Nat.zero_add] at hsecond
      rw [← hsecond, ← hrest, ByteMem.slice_storeBytes,
        ByteMem.slice_storeBytes_of_disjoint _ _ _ _ _ (by omega)]
      have hback := ByteMem.slice_storeBytes cb.buffer cb.endNdx (bs.take (cb.size - cb.endNdx))
      rw [hfirst] at hback
      rw [hback, List.take_append_drop]
    · -- what is stored at the first places comes after what is stored at the last ones
      have hlow : bs.length - (cb.size - cb.endNdx) ≤ i := by
        by_contra hlt
        refine hout (i + (cb.size - cb.endNdx)) (by omega) ?_
        rw [show cb.endNdx + (i + (cb.size - cb.endNdx)) = i + cb.size by omega,
          Nat.add_mod_right, Nat.mod_eq_of_lt hi]
      have hhigh : i < cb.endNdx := by
        by_contra hge
        refine hout (i - cb.endNdx) (by omega) ?_
        rw [Nat.add_sub_cancel' (Nat.not_lt.1 hge), Nat.mod_eq_of_lt hi]
      rw [ByteMem.storeBytes_apply_of_lt _ _ _ _ (by omega),
        ByteMem.storeBytes_apply_of_lt _ _ _ _ (by omega)]
  · refine ⟨cb.buffer.storeBytes cb.endNdx bs, ?_, ?_, fun i hi hout => ?_⟩
    · rw [copyBehind, if_neg hwrap, copyIn_of_le (Nat.not_lt.1 hwrap)]
    · rw [ringSlice_straight _ _ _ _ (Nat.not_lt.1 hwrap), ← slice_eq_map, ByteMem.slice_storeBytes]
    · refine ByteMem.storeBytes_apply_of_lt _ _ _ _ ?_
      by_contra hin
      refine hout (i - cb.endNdx) (by omega) ?_
      rw [Nat.add_sub_cancel' (by omega), Nat.mod_eq_of_lt hi]

/-- One copy or two, the caller gets the octets in the ring from `begin` on. -/
theorem copyOldest_ring {cb : CircBuffer} {n : ℕ} (hbegin : cb.beginNdx ≤ cb.size) (hn : n ≤ cb.size) :
    cb.copyOldest n = some (ringSlice cb.buffer cb.size cb.beginNdx n) := by
  by_cases hwrap : cb.beginNdx + n ≤ cb.size
  · rw [copyOldest, if_pos hwrap, copyOut_of_le hwrap, ringSlice_straight _ _ _ _ hwrap, slice_eq_map]
  · simp only [copyOldest, if_neg hwrap]
    rw [copyOut_of_le (by omega), Option.bind_some, copyOut_of_le (by omega), Option.map_some,
      ringSlice_wrapped _ _ _ _ hbegin (Nat.not_le.1 hwrap) hn, slice_eq_map, slice_eq_map]
    simp only [Nat.zero_add]

section

variable {cap : ℕ} {cb : CircBuffer} {q : BoundedQueue UInt8 cap}

theorem Refines.dataSize_le (h : cb.Refines q) : cb.dataSize ≤ cap := h.dataSize.trans_le q.length_le

theorem put_of_full {bs : List UInt8} (h : cb.size < cb.dataSize + bs.length) : cb.put bs = some (-1, cb) := if_pos h

/-- The items stay where they are, and the batch goes behind them. -/
theorem Refines.put (h : cb.Refines q) (hcap : 0 < cap) {bs : List UInt8}
    (hfits : q.items.length + bs.length ≤ cap) {q' : BoundedQueue UInt8 cap}
    (hq' : q'.items = q.items ++ bs) : ∃ cb', cb.put bs = some (0, cb') ∧ cb'.Refines q' := by
  obtain ⟨hsize, hdata, hbegin, hend, hitems⟩ := h
  have hroom : cb.dataSize + bs.length ≤ cb.size := by rw [hdata, hsize]; exact hfits
  have hinside : cb.endNdx < cb.size := by rw [hend, hsize]; exact Nat.mod_lt _ hcap
  obtain ⟨buffer, hcopied, hnew, hkept⟩ := copyBehind_ring bs hinside (by omega)
  refine ⟨{ cb with
    buffer := buffer, endNdx := (cb.endNdx + bs.length) % cb.size, dataSize := cb.dataSize + bs.length },
    ?_, hsize, ?_, hbegin, ?_, ?_⟩
  · rw [CircBuffer.put, if_neg (by omega), hcopied, Option.bind_some, wrap_of_pos (by omega),
      Option.map_some]
  · show cb.dataSize + bs.length = q'.items.length
    rw [hq', List.length_append, hdata]
  · show (cb.endNdx + bs.length) % cb.size = (cb.beginNdx + (cb.dataSize + bs.length)) % cap
    rw [hend, hsize, Nat.mod_add_mod, Nat.add_assoc]
  · show ringSlice buffer cap cb.beginNdx (cb.dataSize + bs.length) = q'.items
    rw [hsize, hend] at hnew hkept
    rw [hq', ← hitems]
    exact ringSlice_append (hsize ▸ hroom) hkept hnew

/-- A call of `circ_buffer_put` that stays in the buffer: all of the batch, or nothing. -/
theorem Refines.put_cases (h : cb.Refines q) {bs : List UInt8} {code : ℤ} {cb' : CircBuffer}
    (hcall : cb.put bs = some (code, cb')) :
    (code = 0 ∧ ∃ q' : BoundedQueue UInt8 cap, q'.items = q.items ++ bs ∧ cb'.Refines q') ∨
      (code = -1 ∧ cb' = cb ∧ cap < q.items.length + bs.length) := by
  have hdata := h.dataSize
  have hsize := h.size
  by_cases hfits : q.items.length + bs.length ≤ cap
  · left
    rcases Nat.eq_zero_or_pos cap with hcap | hcap
    · -- the division by zero
      have hwrap : cb.wrap (cb.endNdx + bs.length) = none := if_pos (hsize.trans hcap)
      rw [CircBuffer.put, if_neg (by omega), hwrap] at hcall
      simp only [Option.map_none, Option.bind_fun_none] at hcall
      exact absurd hcall (by simp)
    · obtain ⟨q', -, hitems⟩ := BoundedQueue.put_of_fits hfits
      obtain ⟨cb₁, hput, href⟩ := h.put hcap hfits hitems
      rw [hput, Option.some_inj] at hcall
      obtain ⟨rfl, rfl⟩ := Prod.mk.inj hcall
      exact ⟨rfl, q', hitems, href⟩
  · right
    rw [put_of_full (by omega), Option.some_inj] at hcall
    obtain ⟨rfl, rfl⟩ := Prod.mk.inj hcall
    exact ⟨rfl, rfl, Nat.lt_of_not_le hfits⟩

/-- What is copied to the caller is the oldest items. -/
theorem Refines.copyOldest (h : cb.Refines q) {n : ℕ} (hn : n ≤ q.items.length) :
    cb.copyOldest n = some (q.items.take n) := by
  have hbegin := h.beginNdx
  have hdata := h.dataSize
  have hle := h.dataSize_le
  have hsize := h.size
  rw [copyOldest_ring (by omega) (by omega), ← h.items, hsize,
    ringSlice_take _ _ _ _ _ (by omega)]

/-- The oldest items are dropped. -/
theorem Refines.advanced (h : cb.Refines q) (hcap : 0 < cap) {n : ℕ} (hn : n ≤ q.items.length)
    {q' : BoundedQueue UInt8 cap} (hq' : q'.items = q.items.drop n) :
    { cb with beginNdx := (cb.beginNdx + n) % cb.size, dataSize := cb.dataSize - n }.Refines q' := by
  obtain ⟨hsize, hdata, -, hend, hitems⟩ := h
  have hlt := Nat.mod_lt (cb.beginNdx + n) hcap
  refine ⟨hsize, ?_, ?_, ?_, ?_⟩
  · rw [hq', List.length_drop, hdata]
  · rw [hsize]
    exact Nat.le_sub_one_of_lt hlt
  · show cb.endNdx = ((cb.beginNdx + n) % cb.size + (cb.dataSize - n)) % cap
    rw [hend, hsize, Nat.mod_add_mod, Nat.add_assoc, Nat.add_sub_cancel' (hdata ▸ hn)]
  · show ringSlice cb.buffer cap ((cb.beginNdx + n) % cb.size) (cb.dataSize - n) = q'.items
    rw [hq', ← hitems, hsize, ringSlice_drop _ _ _ _ _ (hdata ▸ hn)]

theorem Refines.peek (h : cb.Refines q) {n : ℕ} (hn : n ≤ q.items.length) :
    cb.peek n = some (0, q.items.take n) := by
  have hdata := h.dataSize
  rw [CircBuffer.peek, if_neg (by omega), h.copyOldest hn, Option.map_some]

theorem Refines.advance (h : cb.Refines q) (hcap : 0 < cap) {n : ℕ} (hn : n ≤ q.items.length)
    {q' : BoundedQueue UInt8 cap} (hq' : q'.items = q.items.drop n) :
    ∃ cb', cb.advance n = some (0, cb') ∧ cb'.Refines q' := by
  have hdata := h.dataSize
  have hsize := h.size
  refine ⟨_, ?_, h.advanced hcap hn hq'⟩
  rw [CircBuffer.advance, if_neg (by omega), wrap_of_pos (by omega), Option.map_some]

theorem Refines.get (h : cb.Refines q) (hcap : 0 < cap) {n : ℕ} (hn : n ≤ q.items.length)
    {q' : BoundedQueue UInt8 cap} (hq' : q'.items = q.items.drop n) :
    ∃ cb', cb.get n = some (0, q.items.take n, cb') ∧ cb'.Refines q' := by
  have hdata := h.dataSize
  have hsize := h.size
  refine ⟨_, ?_, h.advanced hcap hn hq'⟩
  rw [CircBuffer.get, if_neg (by omega), h.copyOldest hn, Option.bind_some, wrap_of_pos (by omega),
    Option.map_some]

end

end CircBuffer

/-! ## Sequences of calls -/

/-- A call with its arguments. -/
inductive CircCall
  | put (bs : List UInt8)
  | get (size : ℕ)
  | peek (size : ℕ)
  | advance (size : ℕ)
  | reset

namespace CircCall

/-- What the call returns, what it copies to the caller, and the buffer it leaves; `none` if it reaches
    outside the buffer. -/
def apply (cb : CircBuffer) : CircCall → Option (ℤ × List UInt8 × CircBuffer)
  | .put bs => (cb.put bs).map fun r => (r.1, [], r.2)
  | .get size => cb.get size
  | .peek size => (cb.peek size).map fun r => (r.1, r.2, cb)
  | .advance size => (cb.advance size).map fun r => (r.1, [], r.2)
  | .reset => some (0, [], cb.reset)

/-- What the call is to do with a queue; `none` if it is to fail. -/
def onQueue {cap : ℕ} (q : BoundedQueue UInt8 cap) :
    CircCall → Option (List UInt8 × BoundedQueue UInt8 cap)
  | .put bs => (q.put bs).map fun q' => ([], q')
  | .get size => q.get size
  | .peek size => (q.peek size).map fun bs => (bs, q)
  | .advance size => (q.advance size).map fun q' => ([], q')
  | .reset => some ([], .empty cap)

end CircCall

/-- The call does with the buffer what it is to do with the queue, and where it is to fail it returns -1 and
    the buffer it was given. -/
def CircBuffer.CallOk {cap : ℕ} (cb : CircBuffer) (q : BoundedQueue UInt8 cap) (call : CircCall) : Prop :=
  match call.onQueue q with
  | some (bs, q') => ∃ cb', call.apply cb = some (0, bs, cb') ∧ cb'.Refines q'
  | none => call.apply cb = some (-1, [], cb)

/-- The buffer after calls; `none` if one of them reached outside it. -/
def CircBuffer.after (cb : CircBuffer) : List CircCall → Option CircBuffer
  | [] => some cb
  | call :: calls => (call.apply cb).bind fun r => r.2.2.after calls

/-- The queue after the same calls. -/
def queueAfter {cap : ℕ} (q : BoundedQueue UInt8 cap) (calls : List CircCall) :
    BoundedQueue UInt8 cap :=
  calls.foldl (fun q call => ((call.onQueue q).map Prod.snd).getD q) q

namespace CircBuffer

variable {cap : ℕ} {cb : CircBuffer} {q : BoundedQueue UInt8 cap}

/-- One call. -/
theorem Refines.call (h : cb.Refines q) (hcap : 0 < cap) (call : CircCall) : cb.CallOk q call := by
  have hdata := h.dataSize
  have hsize := h.size
  cases call with
  | put bs =>
      by_cases hfits : q.items.length + bs.length ≤ cap
      · obtain ⟨q', hput, hitems⟩ := BoundedQueue.put_of_fits hfits
        obtain ⟨cb', hcall, href⟩ := h.put hcap hfits hitems
        simp only [CallOk, CircCall.onQueue, CircCall.apply, hput, hcall, Option.map_some]
        exact ⟨cb', rfl, href⟩
      · have hput := BoundedQueue.put_of_full (Nat.lt_of_not_le hfits)
        have hcall : cb.put bs = some (-1, cb) := put_of_full (by omega)
        simp only [CallOk, CircCall.onQueue, CircCall.apply, hput, hcall, Option.map_some,
          Option.map_none]
  | get n =>
      by_cases hn : n ≤ q.items.length
      · obtain ⟨q', hadvance, hitems⟩ := BoundedQueue.advance_of_stored hn
        have hget := BoundedQueue.get_of_stored hn hadvance
        obtain ⟨cb', hcall, href⟩ := h.get hcap hn hitems
        simp only [CallOk, CircCall.onQueue, CircCall.apply, hget, hcall]
        exact ⟨cb', rfl, href⟩
      · have hget := BoundedQueue.get_of_fewer (Nat.lt_of_not_le hn)
        have hcall : cb.get n = some (-1, [], cb) := if_pos (by omega)
        simp only [CallOk, CircCall.onQueue, CircCall.apply, hget, hcall]
  | peek n =>
      by_cases hn : n ≤ q.items.length
      · have hpeek := BoundedQueue.peek_of_stored hn
        have hcall := h.peek hn
        simp only [CallOk, CircCall.onQueue, CircCall.apply, hpeek, hcall, Option.map_some]
        exact ⟨cb, rfl, h⟩
      · have hpeek := BoundedQueue.peek_of_fewer (Nat.lt_of_not_le hn)
        have hcall : cb.peek n = some (-1, []) := if_pos (by omega)
        simp only [CallOk, CircCall.onQueue, CircCall.apply, hpeek, hcall, Option.map_some,
          Option.map_none]
  | advance n =>
      by_cases hn : n ≤ q.items.length
      · obtain ⟨q', hadvance, hitems⟩ := BoundedQueue.advance_of_stored hn
        obtain ⟨cb', hcall, href⟩ := h.advance hcap hn hitems
        simp only [CallOk, CircCall.onQueue, CircCall.apply, hadvance, hcall, Option.map_some]
        exact ⟨cb', rfl, href⟩
      · have hadvance := BoundedQueue.advance_of_fewer (Nat.lt_of_not_le hn)
        have hcall : cb.advance n = some (-1, cb) := if_pos (by omega)
        simp only [CallOk, CircCall.onQueue, CircCall.apply, hadvance, hcall, Option.map_some,
          Option.map_none]
  | reset => exact ⟨cb.reset, rfl, refines_reset h⟩

/-- Any number of calls. -/
theorem Refines.calls (h : cb.Refines q) (hcap : 0 < cap) (calls : List CircCall) :
    ∃ cb', cb.after calls = some cb' ∧ cb'.Refines (queueAfter q calls) := by
  induction calls generalizing cb q with
  | nil => exact ⟨cb, rfl, h⟩
  | cons call calls ih =>
      have hcall := h.call hcap call
      simp only [after, queueAfter, List.foldl_cons]
      simp only [CallOk] at hcall
      cases hq : call.onQueue q with
      | some r =>
          obtain ⟨bs, q'⟩ := r
          simp only [hq] at hcall
          obtain ⟨cb', hret, href⟩ := hcall
          rw [hret, Option.bind_some]
          exact ih href
      | none =>
          simp only [hq] at hcall
          rw [hcall, Option.bind_some]
          exact ih h

/-- Whatever was called before, the buffer is a queue of at most `cap` octets, and the next call treats it
    as one. -/
theorem circBuffer_queue (mem : ByteMem) {cap : ℕ} (hcap : 1 ≤ cap) (calls : List CircCall)
    (call : CircCall) :
    ∃ cb, (init mem cap).after calls = some cb ∧
      cb.Refines (queueAfter (.empty cap) calls) ∧
      cb.CallOk (queueAfter (.empty cap) calls) call := by
  obtain ⟨cb, hafter, href⟩ := (refines_init mem cap).calls hcap calls
  exact ⟨cb, hafter, href, href.call hcap call⟩

/-- Three octets through a buffer of four, and three more past its last place. -/
theorem circBuffer_queue_wrapped :
    ∃ cb, (init (fun _ => 0) 4).after [.put [1, 2, 3], .advance 2, .put [4, 5, 6]] = some cb ∧
      cb.Refines (queueAfter (.empty 4) [.put [1, 2, 3], .advance 2, .put [4, 5, 6]]) ∧
      cb.CallOk (queueAfter (.empty 4) [.put [1, 2, 3], .advance 2, .put [4, 5, 6]]) (.get 4) :=
  circBuffer_queue (fun _ => 0) (by decide) _ _

end CircBuffer

end Prtp
