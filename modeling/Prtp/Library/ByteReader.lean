import Prtp.Library.ByteMem

set_option autoImplicit false

/-! # Programs that read memory, with the offsets they read

A `ByteReader α` computes a value from a memory and lists the offsets it looked at. It carries the
proof that it looks at nothing else: on a second memory with the same bytes at those offsets it
takes the same steps. So a bound on `reads` is at once a non-interference statement, and every
program composed from `byte` with `pure` and `>>=` has it by construction. -/

/-- A program over a byte memory: its value, the offsets it reads, and the fact that it depends on
    no others. -/
structure ByteReader (α : Type) where
  run : ByteMem → α × List Nat
  local_run : ∀ m m' : ByteMem, (∀ i ∈ (run m).2, m i = m' i) → run m' = run m

namespace ByteReader

variable {α β : Type}

/-- The value computed on memory `m`. -/
def val (x : ByteReader α) (m : ByteMem) : α := (x.run m).1

/-- The offsets read on memory `m`, in order. -/
def reads (x : ByteReader α) (m : ByteMem) : List Nat := (x.run m).2

/-- A program's value and reads are settled by the bytes it reads. -/
theorem val_congr (x : ByteReader α) {m m' : ByteMem} (h : ∀ i ∈ x.reads m, m i = m' i) :
    x.val m' = x.val m := by
  simp only [val, x.local_run m m' h]

instance : Monad ByteReader where
  pure a := ⟨fun _ => (a, []), fun _ _ _ => rfl⟩
  bind x f :=
    ⟨fun m =>
      let p := x.run m
      let q := (f p.1).run m
      (q.1, p.2 ++ q.2), by
      intro m m' h
      simp only [List.mem_append] at h
      have hx : x.run m' = x.run m := x.local_run m m' fun i hi => h i (Or.inl hi)
      simp only [hx, (f (x.run m).1).local_run m m' fun i hi => h i (Or.inr hi)]⟩

/-- Read one byte. -/
def byte (i : Nat) : ByteReader UInt8 :=
  ⟨fun m => (m i, [i]), fun m m' h => by simp [h i (by simp)]⟩

@[simp] theorem val_pure (a : α) (m : ByteMem) : (pure a : ByteReader α).val m = a := rfl

@[simp] theorem reads_pure (a : α) (m : ByteMem) : (pure a : ByteReader α).reads m = [] := rfl

@[simp] theorem val_bind (x : ByteReader α) (f : α → ByteReader β) (m : ByteMem) :
    (x >>= f).val m = (f (x.val m)).val m := (rfl)

@[simp] theorem reads_bind (x : ByteReader α) (f : α → ByteReader β) (m : ByteMem) :
    (x >>= f).reads m = x.reads m ++ (f (x.val m)).reads m := rfl

@[simp] theorem val_byte (i : Nat) (m : ByteMem) : (byte i).val m = m i := (rfl)

@[simp] theorem reads_byte (i : Nat) (m : ByteMem) : (byte i).reads m = [i] := rfl

@[simp] theorem val_ite (c : Prop) [Decidable c] (x y : ByteReader α) (m : ByteMem) :
    (if c then x else y).val m = if c then x.val m else y.val m := by
  split <;> rfl

@[simp] theorem reads_ite (c : Prop) [Decidable c] (x y : ByteReader α) (m : ByteMem) :
    (if c then x else y).reads m = if c then x.reads m else y.reads m := by
  split <;> rfl

/-! ## Words and byte strings -/

/-- Read a 16-bit word in network order. -/
def be16 (i : Nat) : ByteReader UInt16 := do
  let a ← byte i
  let b ← byte (i + 1)
  pure (be16Word a b)

/-- Read a 16-bit word stored low octet first. -/
def le16 (i : Nat) : ByteReader UInt16 := do
  let a ← byte i
  let b ← byte (i + 1)
  pure (be16Word b a)

/-- Read a 32-bit word in network order. -/
def be32 (i : Nat) : ByteReader UInt32 := do
  let a ← byte i
  let b ← byte (i + 1)
  let c ← byte (i + 2)
  let d ← byte (i + 3)
  pure (be32Word a b c d)

/-- Read `n` consecutive bytes. -/
def bytes (i : Nat) : Nat → ByteReader (List UInt8)
  | 0 => pure []
  | n + 1 => do
      let b ← byte i
      let bs ← bytes (i + 1) n
      pure (b :: bs)

@[simp] theorem val_be16 (i : Nat) (m : ByteMem) :
    (be16 i).val m = be16Word (m i) (m (i + 1)) := (rfl)

@[simp] theorem val_le16 (i : Nat) (m : ByteMem) :
    (le16 i).val m = be16Word (m (i + 1)) (m i) := (rfl)

@[simp] theorem val_be32 (i : Nat) (m : ByteMem) :
    (be32 i).val m = be32Word (m i) (m (i + 1)) (m (i + 2)) (m (i + 3)) := (rfl)

/-- A word is read back from its octets. -/
theorem val_be16_of_holds {m : ByteMem} {i : Nat} {x : UInt16} (h : m.Holds i (be16Bytes x)) :
    (be16 i).val m = x := by
  obtain ⟨ha, hb⟩ : m i = _ ∧ m (i + 1) = _ := by
    simpa only [be16Bytes, ByteMem.holds_cons, ByteMem.holds_nil, and_true] using h
  rw [val_be16, ha, hb, be16Word_be16Bytes]

theorem val_be32_of_holds {m : ByteMem} {i : Nat} {x : UInt32} (h : m.Holds i (be32Bytes x)) :
    (be32 i).val m = x := by
  obtain ⟨ha, hb, hc, hd⟩ : m i = _ ∧ m (i + 1) = _ ∧ m (i + 2) = _ ∧ m (i + 3) = _ := by
    simpa only [be32Bytes, ByteMem.holds_cons, ByteMem.holds_nil, and_true] using h
  rw [val_be32, ha, hb, hc, hd, be32Word_be32Bytes]

@[simp] theorem val_bytes (i n : Nat) (m : ByteMem) : (bytes i n).val m = m.slice i n := by
  induction n generalizing i with
  | zero => rfl
  | succ n ih => simp [bytes, ByteMem.slice, ih]

@[simp] theorem mem_reads_be16 (i j : Nat) (m : ByteMem) :
    j ∈ (be16 i).reads m ↔ i ≤ j ∧ j < i + 2 := by
  simp [be16]; omega

@[simp] theorem mem_reads_le16 (i j : Nat) (m : ByteMem) :
    j ∈ (le16 i).reads m ↔ i ≤ j ∧ j < i + 2 := by
  simp [le16]; omega

@[simp] theorem mem_reads_be32 (i j : Nat) (m : ByteMem) :
    j ∈ (be32 i).reads m ↔ i ≤ j ∧ j < i + 4 := by
  simp [be32]; omega

@[simp] theorem mem_reads_bytes (i n j : Nat) (m : ByteMem) :
    j ∈ (bytes i n).reads m ↔ i ≤ j ∧ j < i + n := by
  induction n generalizing i with
  | zero => simp [bytes]
  | succ n ih => simp [bytes, ih]; omega

/-! ## Windows -/

/-- Every offset read on memory `m` lies in the window from `lo` to `hi`. -/
def ReadsWithin (x : ByteReader α) (m : ByteMem) (lo hi : Nat) : Prop :=
  ∀ i ∈ x.reads m, lo ≤ i ∧ i < hi

/-- A program that reads within a window computes the same value on every memory with the same
    bytes there. -/
theorem ReadsWithin.val_congr {x : ByteReader α} {m m' : ByteMem} {lo hi : Nat}
    (h : x.ReadsWithin m lo hi) (hm : ∀ i, lo ≤ i → i < hi → m i = m' i) : x.val m' = x.val m :=
  x.val_congr fun i hi' => hm i (h i hi').1 (h i hi').2

section

variable (m : ByteMem) (lo hi : Nat)

@[simp] theorem readsWithin_pure (a : α) : (pure a : ByteReader α).ReadsWithin m lo hi := by
  simp [ReadsWithin]

@[simp] theorem readsWithin_bind (x : ByteReader α) (f : α → ByteReader β) :
    (x >>= f).ReadsWithin m lo hi ↔
      x.ReadsWithin m lo hi ∧ (f (x.val m)).ReadsWithin m lo hi := by
  rw [ReadsWithin, reads_bind, List.forall_mem_append]
  rfl

@[simp] theorem readsWithin_ite (c : Prop) [Decidable c] (x y : ByteReader α) :
    (if c then x else y).ReadsWithin m lo hi ↔
      if c then x.ReadsWithin m lo hi else y.ReadsWithin m lo hi := by
  split <;> rfl

@[simp] theorem readsWithin_byte (i : Nat) : (byte i).ReadsWithin m lo hi ↔ lo ≤ i ∧ i < hi := by
  simp [ReadsWithin]

@[simp] theorem readsWithin_be16 (i : Nat) :
    (be16 i).ReadsWithin m lo hi ↔ lo ≤ i ∧ i + 2 ≤ hi := by
  simp [be16]; omega

@[simp] theorem readsWithin_le16 (i : Nat) :
    (le16 i).ReadsWithin m lo hi ↔ lo ≤ i ∧ i + 2 ≤ hi := by
  simp [le16]; omega

@[simp] theorem readsWithin_be32 (i : Nat) :
    (be32 i).ReadsWithin m lo hi ↔ lo ≤ i ∧ i + 4 ≤ hi := by
  simp [be32]; omega

@[simp] theorem readsWithin_bytes (i n : Nat) :
    (bytes i n).ReadsWithin m lo hi ↔ n = 0 ∨ lo ≤ i ∧ i + n ≤ hi := by
  induction n generalizing i with
  | zero => simp [bytes]
  | succ n ih =>
      simp only [bytes, readsWithin_bind, readsWithin_byte, ih, readsWithin_pure, and_true]
      omega

end

end ByteReader
