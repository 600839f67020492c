import Prtp.Types

set_option autoImplicit false

/-! # The timeouts of a member

What the three timers of a member are for, apart from the code that starts and stops them. `Watch` is
what an observer of a session notices of each SSRC: when it was last heard, when it last sent data,
when it was first said to leave. A slot of the member table is `Timed` if its timers run exactly until
the ticks these times call for. `SlotMoves` and `SlotFires` are all that can happen to a slot between
two ticks and when a timer fires; both keep it timed. -/

namespace Prtp

/-- What has been noticed of each SSRC, in ticks: when it was last heard, when it was last heard
    sending data, and the first BYE for it since it became a member. -/
structure Watch where
  now : ℕ
  heard : UInt32 → ℕ
  heardRtp : UInt32 → ℕ
  bye : UInt32 → Option ℕ

namespace Watch

/-- Nothing has been noticed. -/
def start : Watch := ⟨0, fun _ => 0, fun _ => 0, fun _ => none⟩

/-- A source is heard, by a data packet if `data`; one that is `fresh` becomes a member now. -/
def hear (w : Watch) (ssrc : UInt32) (fresh data : Bool) : Watch :=
  { w with
    heard := Function.update w.heard ssrc w.now
    heardRtp := if data then Function.update w.heardRtp ssrc w.now else w.heardRtp
    bye := if fresh then Function.update w.bye ssrc none else w.bye }

/-- A BYE for a member; the first one counts. -/
def quit (w : Watch) (ssrc : UInt32) : Watch :=
  { w with bye := Function.update w.bye ssrc (some ((w.bye ssrc).getD w.now)) }

/-- A tick passes. -/
def tick (w : Watch) : Watch := { w with now := w.now + 1 }

/-- The tick in which a member is due to be removed: 30 after its BYE, or 100 after it was heard. -/
def removal (w : Watch) (ssrc : UInt32) : ℕ :=
  match w.bye ssrc with
  | some t => t + 30
  | none => w.heard ssrc + 100

/-- The two have noticed the same of an SSRC, at the same time. -/
structure Agree (w w' : Watch) (ssrc : UInt32) : Prop where
  now : w'.now = w.now
  heard : w'.heard ssrc = w.heard ssrc
  heardRtp : w'.heardRtp ssrc = w.heardRtp ssrc
  bye : w'.bye ssrc = w.bye ssrc

theorem Agree.refl (w : Watch) (ssrc : UInt32) : Agree w w ssrc := ⟨rfl, rfl, rfl, rfl⟩

theorem agree_hear (w : Watch) {ssrc other : UInt32} (hne : other ≠ ssrc) (fresh data : Bool) :
    Agree w (w.hear ssrc fresh data) other := by
  refine ⟨rfl, Function.update_of_ne hne .., ?_, ?_⟩
  · cases data
    · rfl
    · exact Function.update_of_ne hne ..
  · cases fresh
    · rfl
    · exact Function.update_of_ne hne ..

theorem agree_quit (w : Watch) {ssrc other : UInt32} (hne : other ≠ ssrc) :
    Agree w (w.quit ssrc) other :=
  ⟨rfl, rfl, rfl, Function.update_of_ne hne ..⟩

end Watch

/-- What a slot of the table says of its member, with the ticks its three timers have left. -/
@[ext] structure SlotView where
  used : Bool
  ssrc : UInt32
  bye : Bool
  heard : Bool
  member : Option ℕ
  sender : Option ℕ
  leave : Option ℕ

namespace SlotView

/-- A new member takes the slot. -/
def join (x : SlotView) (ssrc : UInt32) (data : Bool) : SlotView :=
  { x with
    used := true, ssrc := ssrc, bye := false, heard := data, member := some 100
    sender := if data then some 50 else x.sender }

/-- The member is heard. -/
def hear (x : SlotView) (data : Bool) : SlotView :=
  { x with
    heard := x.heard || data, member := some 100, sender := if data then some 50 else x.sender }

/-- A BYE for the member. -/
def quit (x : SlotView) : SlotView :=
  { x with bye := true, member := none, sender := none, leave := some 30 }

/-- The member is removed. -/
def vacate (x : SlotView) : SlotView :=
  { x with used := false, member := none, sender := none, leave := none }

/-- The member has stopped sending data. -/
def silence (x : SlotView) : SlotView := { x with heard := false, sender := none }

/-- A tick passes. -/
def tick (x : SlotView) : SlotView :=
  { x with member := x.member.map (· - 1), sender := x.sender.map (· - 1), leave := x.leave.map (· - 1) }

end SlotView

/-- What can happen to a slot between two ticks, with what is noticed of it. -/
inductive SlotMoves (w : Watch) (x : SlotView) : Watch → SlotView → Prop
  /-- something else happens -/
  | spared {w' : Watch} (hnow : w'.now = w.now) (h : x.used = true → w.Agree w' x.ssrc) :
      SlotMoves w x w' x
  | joined (ssrc : UInt32) (data : Bool) (hfree : x.used = false) :
      SlotMoves w x (w.hear ssrc true data) (x.join ssrc data)
  | heard (data : Bool) (hused : x.used = true) (hbye : x.bye = false) :
      SlotMoves w x (w.hear x.ssrc false data) (x.hear data)
  /-- the member is heard while it is leaving -/
  | ignored (data : Bool) (hbye : x.bye = true) : SlotMoves w x (w.hear x.ssrc false data) x
  | left (hused : x.used = true) (hbye : x.bye = false) : SlotMoves w x (w.quit x.ssrc) x.quit
  /-- another BYE -/
  | leftAgain (hused : x.used = true) (hbye : x.bye = true) : SlotMoves w x (w.quit x.ssrc) x

/-- What the firing of a timer can do to a slot. -/
inductive SlotFires (x : SlotView) : SlotView → Prop
  | spared : SlotFires x x
  | member (hdue : x.member = some 0) : SlotFires x x.vacate
  | sender (hdue : x.sender = some 0) : SlotFires x x.silence
  | leave (hdue : x.leave = some 0) : SlotFires x x.vacate

/-- Every timer of the slot runs until the tick it should: a free slot has none, a member that is
    leaving is removed, one that is not times out, as a sender and as a member. -/
structure Timed (w : Watch) (x : SlotView) : Prop where
  bye : x.used = true → x.bye = (w.bye x.ssrc).isSome
  member : x.member.map (w.now + ·) =
    if x.used && !x.bye then some (w.heard x.ssrc + 100) else none
  sender : x.sender.map (w.now + ·) =
    if x.used && !x.bye && x.heard then some (w.heardRtp x.ssrc + 50) else none
  leave : x.leave.map (w.now + ·) =
    if x.used && x.bye then (w.bye x.ssrc).map (· + 30) else none

namespace Timed

variable {w w' : Watch} {x x' : SlotView}

theorem of_agree (h : Timed w x) (hnow : w'.now = w.now)
    (hagree : x.used = true → w.Agree w' x.ssrc) : Timed w' x := by
  cases hused : x.used with
  | false =>
      obtain ⟨-, hmem, hsnd, hlv⟩ := h
      simp only [hused, Bool.false_and, Bool.false_eq_true, if_false] at hmem hsnd hlv
      refine ⟨fun htrue => absurd (hused.symm.trans htrue) (by decide), ?_, ?_, ?_⟩
      · rw [hnow, hmem, hused]; rfl
      · rw [hnow, hsnd, hused]; rfl
      · rw [hnow, hlv, hused]; rfl
  | true =>
      obtain ⟨-, hheard, hrtp, hbye⟩ := hagree hused
      refine ⟨?_, ?_, ?_, ?_⟩
      · rw [hbye]; exact h.bye
      · rw [hnow, hheard]; exact h.member
      · rw [hnow, hrtp]; exact h.sender
      · rw [hnow, hbye]; exact h.leave

/-- The timers of a member that has not left. -/
theorem of_present (h : Timed w x) (hused : x.used = true) (hbye : x.bye = false) :
    w.bye x.ssrc = none ∧ x.member.map (w.now + ·) = some (w.heard x.ssrc + 100) ∧
      (x.sender.map (w.now + ·) = if x.heard then some (w.heardRtp x.ssrc + 50) else none) ∧
      x.leave = none := by
  have hnone := h.bye hused
  rw [hbye] at hnone
  have hlv := h.leave
  simp only [hused, hbye, Bool.and_false, Bool.false_eq_true, if_false, Option.map_eq_none_iff] at hlv
  refine ⟨by simpa using hnone, ?_, ?_, hlv⟩
  · simpa [hused, hbye] using h.member
  · simpa [hused, hbye] using h.sender

/-- The timers of a free slot stand still. -/
theorem of_free (h : Timed w x) (hused : x.used = false) :
    x.member = none ∧ x.sender = none ∧ x.leave = none := by
  obtain ⟨-, hmem, hsnd, hlv⟩ := h
  simp only [hused, Bool.false_and, Bool.false_eq_true, if_false, Option.map_eq_none_iff]
    at hmem hsnd hlv
  exact ⟨hmem, hsnd, hlv⟩

theorem moves (h : Timed w x) (hmoves : SlotMoves w x w' x') : Timed w' x' := by
  cases hmoves with
  | spared hnow hagree => exact h.of_agree hnow hagree
  | joined ssrc data hfree =>
      obtain ⟨-, hsnd, hlv⟩ := h.of_free hfree
      refine ⟨?_, ?_, ?_, ?_⟩
      · simp [SlotView.join, Watch.hear]
      · simp [SlotView.join, Watch.hear]
      · cases data <;> simp [SlotView.join, Watch.hear, hsnd]
      · simp [SlotView.join, hlv]
  | heard data hused hbye =>
      obtain ⟨hnone, -, hsnd, hlv⟩ := h.of_present hused hbye
      refine ⟨?_, ?_, ?_, ?_⟩
      · simp [SlotView.hear, Watch.hear, hbye, hnone]
      · simp [SlotView.hear, Watch.hear, hused, hbye]
      · cases data with
        | false => simpa [SlotView.hear, Watch.hear, hused, hbye] using hsnd
        | true => simp [SlotView.hear, Watch.hear, hused, hbye]
      · simp [SlotView.hear, hlv, hbye]
  | ignored data hbye =>
      obtain ⟨hb, hmem, hsnd, hlv⟩ := h
      simp only [hbye, Bool.not_true, Bool.and_false, Bool.false_and] at hmem hsnd
      refine ⟨hb, ?_, ?_, hlv⟩
      · simpa [hbye] using hmem
      · simpa [hbye] using hsnd
  | left hused hbye =>
      obtain ⟨hnone, -⟩ := h.of_present hused hbye
      exact ⟨by simp [SlotView.quit, Watch.quit], by simp [SlotView.quit], by simp [SlotView.quit],
        by simp [SlotView.quit, Watch.quit, hused, hnone]⟩
  | leftAgain hused hbye =>
      have hsome := h.bye hused
      rw [hbye] at hsome
      obtain ⟨t, ht⟩ := Option.isSome_iff_exists.1 hsome.symm
      have hsame : Function.update w.bye x.ssrc (some ((w.bye x.ssrc).getD w.now)) = w.bye := by
        rw [ht, Option.getD_some, ← ht, Function.update_eq_self]
      rw [Watch.quit, hsame]
      exact h

/-- A free slot is timed if its timers stand still. -/
theorem vacate (w : Watch) (x : SlotView) : Timed w x.vacate :=
  ⟨by simp [SlotView.vacate], by simp [SlotView.vacate], by simp [SlotView.vacate],
    by simp [SlotView.vacate]⟩

theorem fires (h : Timed w x) (hfires : SlotFires x x') : Timed w x' := by
  cases hfires with
  | spared => exact h
  | member hdue => exact vacate w x
  | sender hdue => exact ⟨h.bye, h.member, by simp [SlotView.silence], h.leave⟩
  | leave hdue => exact vacate w x

/-- A tick passes of which every running timer still had one to go. -/
theorem tick (h : Timed w x) (hmember : x.member ≠ some 0) (hsender : x.sender ≠ some 0)
    (hleave : x.leave ≠ some 0) : Timed w.tick x.tick := by
  have hpass : ∀ o : Option ℕ, o ≠ some 0 →
      (o.map (· - 1)).map (w.now + 1 + ·) = o.map (w.now + ·) := by
    intro o ho
    cases o with
    | none => rfl
    | some n =>
        have hn : n ≠ 0 := fun h0 => ho (h0 ▸ rfl)
        simp only [Option.map_some, Option.some_inj]
        omega
  exact ⟨h.bye, (hpass _ hmember).trans h.member, (hpass _ hsender).trans h.sender,
    (hpass _ hleave).trans h.leave⟩

/-- A timer of a member of which none is due shows that the member's times lie ahead. -/
theorem ahead (h : Timed w x) (hused : x.used = true) (hmember : x.member ≠ some 0)
    (hsender : x.sender ≠ some 0) (hleave : x.leave ≠ some 0) :
    w.now < w.removal x.ssrc ∧
      (x.bye = false → x.heard = true → w.now < w.heardRtp x.ssrc + 50) := by
  have hlater : ∀ {o : Option ℕ} {t : ℕ}, o ≠ some 0 → o.map (w.now + ·) = some t → w.now < t := by
    intro o t ho hdue
    obtain ⟨n, hn, rfl⟩ := Option.map_eq_some_iff.1 hdue
    have hpos : n ≠ 0 := fun h0 => ho (h0 ▸ hn)
    omega
  cases hbye : x.bye with
  | false =>
      obtain ⟨hnone, hmem, hsnd, -⟩ := h.of_present hused hbye
      refine ⟨?_, fun _ hheard => ?_⟩
      · rw [Watch.removal, hnone]
        exact hlater hmember hmem
      · rw [hheard, if_pos rfl] at hsnd
        exact hlater hsender hsnd
  | true =>
      have hsome := h.bye hused
      rw [hbye] at hsome
      obtain ⟨t, ht⟩ := Option.isSome_iff_exists.1 hsome.symm
      have hlv := h.leave
      rw [hused, hbye, ht] at hlv
      refine ⟨?_, fun hfalse => absurd hfalse (by decide)⟩
      rw [Watch.removal, ht]
      exact hlater hleave hlv

/-- What a member that is removed, or has stopped sending, in the current tick shows of its times. -/
theorem due (h : Timed w x) (hfires : SlotFires x x') :
    (x.used = true → x'.used = false → w.removal x.ssrc = w.now) ∧
      (x'.used = true → x'.ssrc = x.ssrc ∧ x'.bye = x.bye) ∧
      (x'.used = true → x.heard = true → x'.heard = false →
        x.bye = false ∧ w.heardRtp x.ssrc + 50 = w.now) := by
  cases hfires with
  | spared =>
      exact ⟨fun hused hfree => absurd (hused.symm.trans hfree) (by decide), fun _ => ⟨rfl, rfl⟩,
        fun _ hheard hnot => absurd (hheard.symm.trans hnot) (by decide)⟩
  | member hdue =>
      refine ⟨fun hused _ => ?_, fun hused => absurd hused (by simp [SlotView.vacate]),
        fun hused => absurd hused (by simp [SlotView.vacate])⟩
      have hmem := h.member
      rw [hdue, hused] at hmem
      cases hbye : x.bye with
      | true => simp [hbye] at hmem
      | false =>
          obtain ⟨hnone, -⟩ := h.of_present hused hbye
          simp only [hbye, Option.map_some, Nat.add_zero, Bool.not_false, Bool.and_true, if_true,
            Option.some_inj] at hmem
          rw [Watch.removal, hnone]
          exact hmem.symm
  | sender hdue =>
      refine ⟨fun hused hfree => absurd (hused.symm.trans hfree) (by decide), fun _ => ⟨rfl, rfl⟩,
        fun hused hheard _ => ?_⟩
      have hsnd := h.sender
      have hused' : x.used = true := hused
      rw [hdue, hused', hheard] at hsnd
      cases hbye : x.bye with
      | true => simp [hbye] at hsnd
      | false =>
          simp only [hbye, Option.map_some, Nat.add_zero, Bool.not_false, Bool.and_true, if_true,
            Option.some_inj] at hsnd
          exact ⟨rfl, hsnd.symm⟩
  | leave hdue =>
      refine ⟨fun hused _ => ?_, fun hused => absurd hused (by simp [SlotView.vacate]),
        fun hused => absurd hused (by simp [SlotView.vacate])⟩
      have hlv := h.leave
      rw [hdue, hused] at hlv
      cases hbye : x.bye with
      | false => simp [hbye] at hlv
      | true =>
          simp only [hbye, Option.map_some, Nat.add_zero, Bool.and_true, if_true] at hlv
          obtain ⟨t, ht, hdue'⟩ := Option.map_eq_some_iff.1 hlv.symm
          rw [Watch.removal, ht]
          exact hdue'

end Timed

/-- Between two ticks a member stays, under its SSRC, and does not stop sending. -/
structure Stays (x x' : SlotView) : Prop where
  used : x'.used = true
  ssrc : x'.ssrc = x.ssrc
  heard : x.heard = true → x'.heard = true

theorem Stays.moves {w w' : Watch} {x x' x'' : SlotView} (h : Stays x x')
    (hmoves : SlotMoves w x' w' x'') : Stays x x'' := by
  cases hmoves with
  | spared | ignored | leftAgain => exact h
  | joined ssrc data hfree => exact absurd (h.used.symm.trans hfree) (by decide)
  | heard data hused hbye =>
      exact ⟨h.used, h.ssrc, fun hx => by simp [SlotView.hear, h.heard hx]⟩
  | left hused hbye => exact ⟨h.used, h.ssrc, h.heard⟩

/-- What the firings of a tick have come to for the slot that looked like `x`. -/
structure Ticked (w : Watch) (x x' : SlotView) : Prop where
  removed : x'.used = false → w.removal x.ssrc = w.now
  same : x'.used = true → x'.ssrc = x.ssrc ∧ x'.bye = x.bye
  cleared : x'.used = true → x.heard = true → x'.heard = false →
    x.bye = false ∧ w.heardRtp x.ssrc + 50 = w.now

theorem Ticked.fires {w : Watch} {x x' x'' : SlotView} (h : Ticked w x x') (ht : Timed w x')
    (hfires : SlotFires x' x'') : Ticked w x x'' := by
  obtain ⟨hremoved, hsame, hcleared⟩ := ht.due hfires
  have hused : x''.used = true → x'.used = true := by
    cases hfires with
    | spared => exact id
    | member | leave => simp [SlotView.vacate]
    | sender hdue => exact id
  refine ⟨fun hfree => ?_, fun hx => ?_, fun hx hheard hnot => ?_⟩
  · cases hx : x'.used with
    | false => exact h.removed hx
    | true =>
        rw [← (h.same hx).1]
        exact hremoved hx hfree
  · obtain ⟨hssrc, hbye⟩ := hsame hx
    obtain ⟨hssrc', hbye'⟩ := h.same (hused hx)
    exact ⟨hssrc.trans hssrc', hbye.trans hbye'⟩
  · obtain ⟨hssrc, hbye⟩ := h.same (hused hx)
    cases hmid : x'.heard with
    | false => exact h.cleared (hused hx) hheard hmid
    | true =>
        rw [← hssrc, ← hbye]
        exact hcleared hx hmid hnot

end Prtp
