import Prtp.CircBuffer
import Prtp.Library.Runs

set_option autoImplicit false

/-! # Streams (`stream.c`)

`stream_write` hands its data to the socket, and queues in `tx_buf` what the socket does not take; the driver
reports when there is room again, as long as the TX event is watched. `circ_buffer_put` returns 0 on success,
and `stream_write` holds that against `FALSE`: what could be queued is reported as an overflow and is not
watched for, and what could not be queued is reported as written. -/

namespace Prtp

/-- What the `write` of a socket comes to: it takes that many octets, or all there are, it has no room, or
    it fails. -/
inductive WriteRet
  | wrote (n : ℕ)
  | again
  | failed
  deriving DecidableEq

/-- What `write` returns for `len` octets. -/
def WriteRet.ret (w : WriteRet) (len : ℕ) : ℤ :=
  match w with
  | .wrote n => (min n len : ℕ)
  | .again | .failed => -1

/-- The transmit side of a `stream_t`: `tx_buf`, whether the TX event is watched, and what the socket has
    taken so far. -/
structure Stream where
  txBuf : CircBuffer
  txWatched : Bool
  socket : List UInt8

namespace Stream

/-- `stream_init_with_fd`, given the memory `tx_buf` is allocated in. -/
def init (mem : ByteMem) (txBufSize : ℕ) : Stream := ⟨.init mem txBufSize, false, []⟩

/-- `stream_write`: what it returns, and the stream. -/
def streamWrite (s : Stream) (data : List UInt8) (w : WriteRet) : Option (Bool × Stream) :=
  if s.txBuf.dataSize ≠ 0 then
    (s.txBuf.put data).map fun r => (decide (r.1 = 0), { s with txBuf := r.2 })
  else
    let ret := w.ret data.length
    if ret = data.length then some (true, { s with socket := s.socket ++ data })
    else if w = .failed then some (false, s)
    else
      -- `ret` is set to 0 if there was no room
      let taken := ret.toNat
      let s := { s with socket := s.socket ++ data.take taken }
      (s.txBuf.put (data.drop taken)).map fun r =>
        -- `== FALSE`
        if r.1 = 0 then (false, { s with txBuf := r.2 })
        else (true, { s with txBuf := r.2, txWatched := true })

/-- `stream_handle_tx_event`: `none` is the crash on a socket that was ready and takes nothing. -/
def streamHandleTxEvent (s : Stream) (w : WriteRet) : Option Stream :=
  if s.txBuf.dataSize = 0 then some { s with txWatched := false }
  else
    let len := min s.txBuf.dataSize 128
    (s.txBuf.peek len).bind fun r =>
      let ret := w.ret len
      if ret ≤ 0 then none
      else
        (s.txBuf.advance ret.toNat).map fun r' =>
          { txBuf := r'.2
            txWatched := s.txWatched && decide (r'.2.dataSize ≠ 0)
            socket := s.socket ++ r.2.take ret.toNat }

/-- What happens to a stream: a call of `stream_write`, or room in the socket. -/
inductive Event
  | write (data : List UInt8) (w : WriteRet)
  | txReady (w : WriteRet)

/-- One event, with what `stream_write` returns; the driver reports room only to a stream that watches for
    it. -/
def handle (s : Stream) : Event → Option (Bool × Stream)
  | .write data w => s.streamWrite data w
  | .txReady w =>
      if s.txWatched then (s.streamHandleTxEvent w).map fun s' => (true, s') else some (true, s)

/-- The data a call is given. -/
def Event.data : Event → List UInt8
  | .write data _ => data
  | .txReady _ => []

/-- The octets the socket has taken and those that are queued, in order. -/
def carried (s : Stream) : List UInt8 := s.socket ++ s.txBuf.contents

/-- The buffer is a queue. -/
def Sound (s : Stream) : Prop := ∃ cap, ∃ q : BoundedQueue UInt8 cap, s.txBuf.Refines q

theorem sound_init (mem : ByteMem) (txBufSize : ℕ) : (init mem txBufSize).Sound :=
  ⟨txBufSize, _, CircBuffer.refines_init mem txBufSize⟩

/-- The queued octets go out in order: what the socket takes is dropped from the queue. -/
theorem streamHandleTxEvent_carried {s s' : Stream} (h : s.Sound) {w : WriteRet}
    (hcall : s.streamHandleTxEvent w = some s') : s'.Sound ∧ s'.carried = s.carried := by
  obtain ⟨cap, q, href⟩ := h
  have hdata := href.dataSize
  unfold streamHandleTxEvent at hcall
  split at hcall
  · obtain rfl := Option.some.inj hcall
    exact ⟨⟨cap, q, href⟩, rfl⟩
  · rename_i hne
    have hcap : 0 < cap := by
      have hle := q.length_le
      omega
    simp only [href.peek (n := min s.txBuf.dataSize 128) (by omega), Option.bind_some] at hcall
    have hret : w.ret (min s.txBuf.dataSize 128) ≤ (min s.txBuf.dataSize 128 : ℕ) := by
      cases w with
      | wrote n => exact Int.ofNat_le.2 (Nat.min_le_right _ _)
      | again | failed => exact (by decide : (-1 : ℤ) ≤ 0).trans (Int.natCast_nonneg _)
    generalize w.ret (min s.txBuf.dataSize 128) = ret at hcall hret
    split at hcall
    · exact absurd hcall (by simp)
    · have hstored : ret.toNat ≤ q.items.length := by omega
      obtain ⟨q', -, hitems⟩ := BoundedQueue.advance_of_stored hstored
      obtain ⟨cb', hadvance, href'⟩ := href.advance hcap hstored hitems
      rw [hadvance, Option.map_some, Option.some_inj] at hcall
      obtain rfl := hcall
      refine ⟨⟨cap, q', href'⟩, ?_⟩
      rw [carried, carried, href'.contents, href.contents, hitems, List.take_take,
        Nat.min_eq_left (by omega), List.append_assoc, List.take_append_drop]

/-- The data of a call goes behind what is queued, or nothing does. -/
theorem put_carried {s : Stream} (h : s.Sound) {bs : List UInt8} {code : ℤ} {cb : CircBuffer}
    (hput : s.txBuf.put bs = some (code, cb)) (watched : Bool) (socket : List UInt8) :
    Sound ⟨cb, watched, socket⟩ ∧
      (code = 0 ∧ cb.contents = s.txBuf.contents ++ bs ∨ code = -1 ∧ cb = s.txBuf ∧ bs ≠ []) := by
  obtain ⟨cap, q, href⟩ := h
  rcases href.put_cases hput with ⟨hcode, q', hitems, href'⟩ | ⟨hcode, rfl, hfull⟩
  · refine ⟨⟨cap, q', href'⟩, Or.inl ⟨hcode, ?_⟩⟩
    rw [href'.contents, hitems, href.contents]
  · refine ⟨⟨cap, q, href⟩, Or.inr ⟨hcode, rfl, fun hnil => ?_⟩⟩
    rw [hnil, List.length_nil] at hfull
    exact absurd q.length_le (Nat.not_le.2 hfull)

/-- `stream_write` by the path the data takes. -/
inductive Written (s : Stream) (data : List UInt8) (w : WriteRet) : Bool → Stream → Prop
  | queued (hqueue : s.txBuf.dataSize ≠ 0) (cb : CircBuffer)
      (hsound : Sound { s with txBuf := cb }) (h : cb.contents = s.txBuf.contents ++ data) :
      Written s data w true { s with txBuf := cb }
  | refused (hqueue : s.txBuf.dataSize ≠ 0) (hdata : data ≠ []) : Written s data w false s
  | direct (hempty : s.txBuf.dataSize = 0) (hret : w.ret data.length = data.length) :
      Written s data w true { s with socket := s.socket ++ data }
  | fault (hempty : s.txBuf.dataSize = 0) (hret : w.ret data.length ≠ data.length) (hw : w = .failed) :
      Written s data w false s
  | rest (hempty : s.txBuf.dataSize = 0) (hret : w.ret data.length ≠ data.length) (hw : w ≠ .failed)
      (cb : CircBuffer) (taken : ℕ)
      (hsound : Sound { s with txBuf := cb, socket := s.socket ++ data.take taken })
      (h : cb.contents = data.drop taken) :
      Written s data w false { s with txBuf := cb, socket := s.socket ++ data.take taken }
  | lost (hempty : s.txBuf.dataSize = 0) (hret : w.ret data.length ≠ data.length) (hw : w ≠ .failed)
      (taken : ℕ) (hlost : data.drop taken ≠ []) :
      Written s data w true { s with txWatched := true, socket := s.socket ++ data.take taken }

theorem streamWrite_written {s s' : Stream} (h : s.Sound) {data : List UInt8} {w : WriteRet} {r : Bool}
    (hcall : s.streamWrite data w = some (r, s')) : s.Written data w r s' := by
  unfold streamWrite at hcall
  split at hcall
  · rename_i hqueue
    obtain ⟨⟨code, cb⟩, hput, hret⟩ := Option.map_eq_some_iff.1 hcall
    obtain ⟨rfl, rfl⟩ := Prod.mk.inj hret
    obtain ⟨hsound, ⟨rfl, hcontents⟩ | ⟨rfl, rfl, hne⟩⟩ := put_carried h hput s.txWatched s.socket
    · exact .queued hqueue cb hsound hcontents
    · exact .refused hqueue hne
  · rename_i hqueue
    rw [not_not] at hqueue
    simp only at hcall
    split at hcall
    · rename_i hret
      obtain ⟨rfl, rfl⟩ := Prod.mk.inj (Option.some.inj hcall)
      exact .direct hqueue hret
    rename_i hret
    split at hcall
    · rename_i hw
      obtain ⟨rfl, rfl⟩ := Prod.mk.inj (Option.some.inj hcall)
      exact .fault hqueue hret hw
    rename_i hw
    have hempty : s.txBuf.contents = [] := by rw [CircBuffer.contents, hqueue, ringSlice_zero]
    generalize (w.ret data.length).toNat = taken at hcall
    obtain ⟨⟨code, cb⟩, hput, hr⟩ := Option.map_eq_some_iff.1 hcall
    obtain ⟨hsound, hcode⟩ := put_carried h hput s.txWatched (s.socket ++ data.take taken)
    rcases hcode with ⟨rfl, hcontents⟩ | ⟨rfl, rfl, hne⟩
    · obtain ⟨rfl, rfl⟩ := Prod.mk.inj hr
      rw [hempty, List.nil_append] at hcontents
      exact .rest hqueue hret hw cb taken hsound hcontents
    · obtain ⟨rfl, rfl⟩ := Prod.mk.inj hr
      exact .lost hqueue hret hw taken hne

/-- The buffer is a queue after every event. -/
theorem sound_handle {s s' : Stream} (h : s.Sound) {e : Event} {r : Bool}
    (hcall : s.handle e = some (r, s')) : s'.Sound := by
  cases e with
  | write data w =>
      have hwritten := streamWrite_written h hcall
      cases hwritten with
      | queued hqueue cb hsound hcontents => exact hsound
      | refused | fault => exact h
      | direct | lost => exact h
      | rest hempty hret hw cb taken hsound hcontents => exact hsound
  | txReady w =>
      simp only [handle] at hcall
      split at hcall
      · obtain ⟨s₁, hready, hr⟩ := Option.map_eq_some_iff.1 hcall
        obtain ⟨rfl, rfl⟩ := Prod.mk.inj hr
        exact (streamHandleTxEvent_carried h hready).1
      · obtain ⟨rfl, rfl⟩ := Prod.mk.inj (Option.some.inj hcall)
        exact h

/-! ## Runs -/

/-- The data accepted so far, that of the calls that return `TRUE`. -/
def Event.accepted (acc : List UInt8) (e : Event) (r : Bool) : List UInt8 :=
  if r then acc ++ e.data else acc

/-- A stream and the data it has accepted, after one more event; nothing follows a crash. -/
def runEvent : Option (Stream × List UInt8) → Event → Option (Stream × List UInt8)
  | none, _ => none
  | some (s, acc), e => (s.handle e).map fun r => (r.2, e.accepted acc r.1)

/-- What has to hold of an event: what is queued is watched for, a call of `stream_write` returns `TRUE` if
    and only if all of its data went to the socket or the queue, and the socket has taken a beginning of what
    was accepted. -/
structure EventOk (s : Stream) (e : Event) (acc : List UInt8) (r : Bool) (s' : Stream) : Prop where
  watched : s'.txBuf.dataSize ≠ 0 → s'.txWatched = true
  returned : ∀ data w, e = .write data w → w ≠ .failed → (r = true ↔ s'.carried = s.carried ++ data)
  inOrder : s'.socket <+: acc

/-- The event comes to an end, and is as it has to be; a crash is not. -/
def Keeps : Option (Stream × List UInt8) → Event → Prop
  | none, _ => False
  | some (s, acc), e => ∃ r s', s.handle e = some (r, s') ∧ s.EventOk e (e.accepted acc r) r s'

/-- A call of `stream_write` that finds nothing queued gets rid of all its data at once. -/
def TakesAll : Option (Stream × List UInt8) → Event → Prop
  | none, _ => True
  | some (s, _), e => ∀ data w, e = .write data w → s.txBuf.dataSize = 0 →
      w = .failed ∨ w.ret data.length = data.length

theorem carried_mk {cb : CircBuffer} (h : cb.dataSize = 0) (watched : Bool) (socket : List UInt8) :
    carried ⟨cb, watched, socket⟩ = socket := by
  rw [carried, CircBuffer.contents, h, ringSlice_zero, List.append_nil]

theorem carried_of_empty {s : Stream} (h : s.txBuf.dataSize = 0) : s.carried = s.socket :=
  carried_mk h s.txWatched s.socket

/-- Data that the socket took in part is reported as lost where it was queued, and as written where it was
    lost. -/
theorem takesAll_of_keeps {s : Stream} (h : s.Sound) {acc : List UInt8} {e : Event}
    (hkeeps : Keeps (some (s, acc)) e) : TakesAll (some (s, acc)) e := by
  rintro data w rfl hempty
  obtain ⟨r, s', hcall, hok⟩ := hkeeps
  have hreturned := hok.returned data w rfl
  have hwritten := streamWrite_written h hcall
  rw [carried_of_empty hempty] at hreturned
  cases hwritten with
  | queued hqueue | refused hqueue => exact absurd hempty hqueue
  | direct _ hret => exact Or.inr hret
  | fault _ _ hw => exact Or.inl hw
  | rest _ _ hw cb taken hsound hcontents =>
      have hall := (hreturned hw).2 (by
        rw [carried, hcontents, List.append_assoc, List.take_append_drop])
      exact absurd hall Bool.false_ne_true
  | lost _ _ hw taken hlost =>
      have hall := (hreturned hw).1 rfl
      rw [carried_mk hempty, List.append_cancel_left_eq] at hall
      have hsplit := List.take_append_drop taken data
      rw [hall] at hsplit
      exact absurd (List.append_right_eq_self.1 hsplit) hlost

/-- Nothing is queued, and the socket has taken what was accepted. -/
def Direct : Option (Stream × List UInt8) → Prop
  | none => False
  | some (s, acc) => s.Sound ∧ s.txBuf.dataSize = 0 ∧ s.socket = acc

/-- Room in the socket changes nothing but what is watched, when nothing is queued. -/
theorem txReady_of_empty {s : Stream} (hempty : s.txBuf.dataSize = 0) (w : WriteRet) :
    ∃ watched, s.handle (.txReady w) = some (true, { s with txWatched := watched }) := by
  simp only [handle, streamHandleTxEvent, if_pos hempty, Option.map_some]
  split
  · exact ⟨false, rfl⟩
  · exact ⟨s.txWatched, rfl⟩

/-- Data that the socket takes at once leave the buffer alone, whatever its size. -/
theorem write_of_empty {s : Stream} (hempty : s.txBuf.dataSize = 0) {data : List UInt8} {w : WriteRet}
    (htakes : w = .failed ∨ w.ret data.length = data.length) :
    s.handle (.write data w) = some (true, { s with socket := s.socket ++ data }) ∨
      w = .failed ∧ s.handle (.write data w) = some (false, s) := by
  simp only [handle, streamWrite, hempty, ne_eq, not_true_eq_false, if_false]
  split
  · exact .inl rfl
  · rename_i hret
    have hw := htakes.resolve_right hret
    exact .inr ⟨hw, if_pos hw⟩

theorem direct_of_takesAll {s : Stream} {acc : List UInt8} (h : Direct (some (s, acc))) {e : Event}
    (htakes : TakesAll (some (s, acc)) e) :
    Keeps (some (s, acc)) e ∧ Direct (runEvent (some (s, acc)) e) := by
  obtain ⟨hsound, hempty, rfl⟩ := h
  suffices hstep : ∃ r s', s.handle e = some (r, s') ∧ s.EventOk e (e.accepted s.socket r) r s' ∧
      s'.txBuf.dataSize = 0 ∧ s'.socket = e.accepted s.socket r by
    obtain ⟨r, s', hcall, hok, hempty', hsocket⟩ := hstep
    refine ⟨⟨r, s', hcall, hok⟩, ?_⟩
    rw [runEvent, hcall]
    exact ⟨sound_handle hsound hcall, hempty', hsocket⟩
  cases e with
  | write data w =>
      rcases write_of_empty hempty (htakes data w rfl hempty) with hcall | ⟨hw, hcall⟩
      · refine ⟨true, _, hcall, ⟨fun hne => absurd hempty hne, ?_, List.prefix_refl _⟩, hempty, rfl⟩
        rintro _ _ ⟨⟩ -
        rw [carried_mk hempty, carried_of_empty hempty]
        exact iff_of_true rfl rfl
      · refine ⟨false, s, hcall, ⟨fun hne => absurd hempty hne, ?_, List.prefix_refl _⟩, hempty, rfl⟩
        rintro _ _ ⟨⟩ hw'
        exact absurd hw hw'
  | txReady w =>
      obtain ⟨watched, hcall⟩ := txReady_of_empty hempty w
      have hnodata : Event.accepted s.socket (.txReady w) true = s.socket := List.append_nil _
      refine ⟨true, _, hcall, ⟨fun hne => absurd hempty hne, ?_, hnodata.symm ▸ List.prefix_refl s.socket⟩,
        hempty, hnodata.symm⟩
      rintro _ _ ⟨⟩

/-- In a run of calls and of room in the socket, every event comes to an end and is as it has to be if and only if
    every call that finds nothing queued gets rid of its data at once, so that nothing is ever queued. -/
theorem run_keeps_iff (mem : ByteMem) (txBufSize : ℕ) (events : List Event) :
    Runs.Guarded runEvent Keeps (some (init mem txBufSize, [])) events ↔
      Runs.Guarded runEvent TakesAll (some (init mem txBufSize, [])) events := by
  constructor
  · intro h
    refine h.of_invariant (P := fun st => ∀ s acc, st = some (s, acc) → s.Sound) ?_ ?_
    · intro st e hP hkeeps
      cases st with
      | none => exact hkeeps.elim
      | some st =>
          obtain ⟨s, acc⟩ := st
          have hsound := hP s acc rfl
          refine ⟨takesAll_of_keeps hsound hkeeps, fun s' acc' hst => ?_⟩
          obtain ⟨res, hcall, hres⟩ := Option.map_eq_some_iff.1 hst
          obtain ⟨rfl, -⟩ := Prod.mk.inj hres
          exact sound_handle hsound hcall
    · rintro _ _ ⟨⟩
      exact sound_init mem txBufSize
  · intro h
    refine h.of_invariant (P := Direct) ?_ ⟨sound_init mem txBufSize, rfl, rfl⟩
    intro st e hP htakes
    cases st with
    | none => exact hP.elim
    | some st => exact direct_of_takesAll hP htakes

/-- The socket takes one octet of three. The other two fit the queue, yet the call returns `FALSE`, and
    nothing watches for room. -/
theorem short_write_not_watched :
    ¬ Runs.Guarded runEvent Keeps (some (init (fun _ => 0) 8, [])) [.write [1, 2, 3] (.wrote 1)] := by
  rintro ⟨hkeeps, -⟩
  obtain ⟨r, s', hcall, hok⟩ := hkeeps
  obtain ⟨-, rfl⟩ := Prod.mk.inj (Option.some.inj hcall)
  exact absurd (hok.watched (by decide)) (by decide)

end Stream

end Prtp
