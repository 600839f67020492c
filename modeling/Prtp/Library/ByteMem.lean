import Mathlib.Logic.Function.Basic
import Mathlib.Data.List.Range
import Mathlib.Tactic.Common

set_option autoImplicit false

/-! # Byte memory

A region of memory as a total function from byte offsets: what lies beyond the end of an object is
there to be read like everything else, so that a program which reads or writes too far is modelled
as doing just that. Multi-byte words are big-endian (network order) unless said otherwise. -/

/-- Bytes by offset from some base address. -/
abbrev ByteMem := Nat → UInt8

/-! ## Words -/

/-- The four octets of a 32-bit word, most significant first. -/
def be32Bytes (x : UInt32) : List UInt8 :=
  [UInt8.ofNat (x.toNat / 16777216), UInt8.ofNat (x.toNat / 65536), UInt8.ofNat (x.toNat / 256),
    UInt8.ofNat x.toNat]

/-- The two octets of a 16-bit word, most significant first. -/
def be16Bytes (x : UInt16) : List UInt8 :=
  [UInt8.ofNat (x.toNat / 256), UInt8.ofNat x.toNat]

/-- The 32-bit word with the given octets, most significant first. -/
def be32Word (a b c d : UInt8) : UInt32 :=
  UInt32.ofNat (((a.toNat * 256 + b.toNat) * 256 + c.toNat) * 256 + d.toNat)

/-- The 16-bit word with the given octets, most significant first. -/
def be16Word (a b : UInt8) : UInt16 := UInt16.ofNat (a.toNat * 256 + b.toNat)

@[simp] theorem be32Bytes_length (x : UInt32) : (be32Bytes x).length = 4 := rfl

@[simp] theorem be16Bytes_length (x : UInt16) : (be16Bytes x).length = 2 := rfl

/-- The octets of a word make up the word. -/
theorem be32Word_be32Bytes (x : UInt32) :
    be32Word (UInt8.ofNat (x.toNat / 16777216)) (UInt8.ofNat (x.toNat / 65536))
      (UInt8.ofNat (x.toNat / 256)) (UInt8.ofNat x.toNat) = x := by
  have hlt := x.toNat_lt
  rw [be32Word, ← UInt32.toNat_inj, UInt32.toNat_ofNat']
  simp only [UInt8.toNat_ofNat']
  omega

theorem be16Word_be16Bytes (x : UInt16) :
    be16Word (UInt8.ofNat (x.toNat / 256)) (UInt8.ofNat x.toNat) = x := by
  have hlt := x.toNat_lt
  rw [be16Word, ← UInt16.toNat_inj, UInt16.toNat_ofNat']
  simp only [UInt8.toNat_ofNat']
  omega

theorem toNat_be16Word (a b : UInt8) : (be16Word a b).toNat = a.toNat * 256 + b.toNat := by
  have ha := a.toNat_lt
  have hb := b.toNat_lt
  rw [be16Word, UInt16.toNat_ofNat']
  omega

/-! ## Stores and slices -/

namespace ByteMem

/-- Store one byte. -/
def store (m : ByteMem) (i : Nat) (b : UInt8) : ByteMem := Function.update m i b

/-- Store bytes one after the other, the first at offset `off`. -/
def storeBytes (m : ByteMem) (off : Nat) : List UInt8 → ByteMem
  | [] => m
  | b :: bs => (m.store off b).storeBytes (off + 1) bs

/-- The `n` bytes from offset `off` on. -/
def slice (m : ByteMem) (off : Nat) : Nat → List UInt8
  | 0 => []
  | n + 1 => m off :: m.slice (off + 1) n

theorem store_apply (m : ByteMem) (i j : Nat) (b : UInt8) :
    m.store i b j = if j = i then b else m j := by
  simp [store, Function.update_apply]

@[simp] theorem slice_length (m : ByteMem) (off n : Nat) : (m.slice off n).length = n := by
  induction n generalizing off with
  | zero => rfl
  | succ n ih => simp [slice, ih]

theorem slice_congr {m m' : ByteMem} {off n : Nat}
    (h : ∀ i, off ≤ i → i < off + n → m i = m' i) : m.slice off n = m'.slice off n := by
  induction n generalizing off with
  | zero => rfl
  | succ n ih =>
      simp only [slice]
      rw [h off (by omega) (by omega), ih fun i hi hi' => h i (by omega) (by omega)]

theorem apply_eq_of_slice_eq {m m' : ByteMem} {off n : Nat} (h : m.slice off n = m'.slice off n) :
    ∀ i, off ≤ i → i < off + n → m i = m' i := by
  induction n generalizing off with
  | zero =>
      intro i hi hi'
      omega
  | succ n ih =>
      simp only [slice, List.cons.injEq] at h
      obtain ⟨hfirst, hrest⟩ := h
      intro i hi hi'
      rcases Nat.eq_or_lt_of_le hi with rfl | hlt
      · exact hfirst
      · exact ih hrest i hlt (by omega)

/-- A slice splits at any point. -/
theorem slice_add (m : ByteMem) (off n k : Nat) :
    m.slice off (n + k) = m.slice off n ++ m.slice (off + n) k := by
  induction n generalizing off with
  | zero => simp [slice]
  | succ n ih =>
      rw [Nat.add_right_comm, slice, ih]
      simp [slice, Nat.add_assoc, Nat.add_comm 1]

/-- A byte is stored behind a slice. -/
theorem slice_push (m : ByteMem) (n : Nat) (b : UInt8) :
    (m.store n b).slice 0 (n + 1) = m.slice 0 n ++ [b] := by
  have hfront : (m.store n b).slice 0 n = m.slice 0 n :=
    slice_congr fun i _ hi => by rw [store_apply, if_neg (by omega)]
  rw [slice_add, hfront, Nat.zero_add]
  simp [slice, store_apply]

/-- A slice loses its last byte. -/
theorem slice_pred (m : ByteMem) {n : Nat} (hn : 0 < n) : m.slice 0 (n - 1) = (m.slice 0 n).dropLast := by
  obtain ⟨k, rfl⟩ := Nat.exists_eq_succ_of_ne_zero hn.ne'
  rw [Nat.succ_eq_add_one, slice_add, Nat.add_sub_cancel]
  simp [slice]

/-- Stores outside a byte's offset leave it. -/
theorem storeBytes_apply_of_lt (m : ByteMem) (off : Nat) (bs : List UInt8) (i : Nat)
    (h : i < off ∨ off + bs.length ≤ i) : m.storeBytes off bs i = m i := by
  induction bs generalizing m off with
  | nil => rfl
  | cons b bs ih =>
      simp only [List.length_cons] at h
      rw [storeBytes, ih _ _ (by omega), store_apply, if_neg (by omega)]

/-- Inside the stored bytes nothing is left of what the memory held. -/
theorem storeBytes_congr (m m' : ByteMem) {off i : Nat} {bs : List UInt8} (hi : off ≤ i)
    (hi' : i < off + bs.length) : m.storeBytes off bs i = m'.storeBytes off bs i := by
  induction bs generalizing m m' off with
  | nil => simp at hi'; omega
  | cons b bs ih =>
      simp only [List.length_cons] at hi'
      rw [storeBytes, storeBytes]
      rcases Nat.lt_or_ge off i with hlt | hge
      · exact ih _ _ hlt (by omega)
      · obtain rfl : off = i := Nat.le_antisymm hi hge
        rw [storeBytes_apply_of_lt _ _ _ _ (by omega), storeBytes_apply_of_lt _ _ _ _ (by omega),
          store_apply, store_apply, if_pos rfl, if_pos rfl]

/-- Reading back the bytes just stored. -/
theorem slice_storeBytes (m : ByteMem) (off : Nat) (bs : List UInt8) :
    (m.storeBytes off bs).slice off bs.length = bs := by
  induction bs generalizing m off with
  | nil => rfl
  | cons b bs ih =>
      rw [storeBytes, List.length_cons, slice, ih, storeBytes_apply_of_lt _ _ _ _ (by omega),
        store_apply, if_pos rfl]

/-- A store below or above a slice leaves it. -/
theorem slice_storeBytes_of_disjoint (m : ByteMem) (off n o : Nat) (bs : List UInt8)
    (h : o + bs.length ≤ off ∨ off + n ≤ o) : (m.storeBytes o bs).slice off n = m.slice off n :=
  slice_congr fun i _ _ => storeBytes_apply_of_lt _ _ _ _ (by omega)

/-! ## Contents -/

/-- The memory holds `bs` from offset `off` on. -/
def Holds (m : ByteMem) (off : Nat) (bs : List UInt8) : Prop := m.slice off bs.length = bs

@[simp] theorem holds_nil (m : ByteMem) (off : Nat) : m.Holds off [] := rfl

/-- A memory holds what is read from it. -/
theorem holds_slice (m : ByteMem) (off n : Nat) : m.Holds off (m.slice off n) := by
  rw [Holds, slice_length]

@[simp] theorem holds_singleton (m : ByteMem) (off : Nat) (b : UInt8) :
    m.Holds off [b] ↔ m off = b := by
  simp [Holds, slice]

@[simp] theorem holds_cons (m : ByteMem) (off : Nat) (b : UInt8) (bs : List UInt8) :
    m.Holds off (b :: bs) ↔ m off = b ∧ m.Holds (off + 1) bs := by
  rw [Holds, List.length_cons, slice, List.cons.injEq]
  rfl

theorem holds_append (m : ByteMem) (off : Nat) (bs bs' : List UInt8) :
    m.Holds off (bs ++ bs') ↔ m.Holds off bs ∧ m.Holds (off + bs.length) bs' := by
  rw [Holds, List.length_append, slice_add]
  constructor
  · exact fun h => List.append_inj h (slice_length ..)
  · rintro ⟨h, h'⟩
    rw [h, h']

namespace Holds

variable {m : ByteMem} {off : Nat} {bs : List UInt8}

/-- What was just stored is there. -/
theorem storeBytes_self (m : ByteMem) (off : Nat) (bs : List UInt8) :
    (m.storeBytes off bs).Holds off bs :=
  slice_storeBytes ..

/-- Stores above or below leave the contents. -/
theorem storeBytes (h : m.Holds off bs) {o : Nat} {l : List UInt8}
    (hdisj : o + l.length ≤ off ∨ off + bs.length ≤ o) : (m.storeBytes o l).Holds off bs := by
  rw [Holds, slice_storeBytes_of_disjoint _ _ _ _ _ hdisj]
  exact h

theorem store (h : m.Holds off bs) {o : Nat} (b : UInt8) (hdisj : o < off ∨ off + bs.length ≤ o) :
    (m.store o b).Holds off bs :=
  h.storeBytes (l := [b]) (by simp only [List.length_singleton]; omega)

/-- A copy of the first `n` octets holds what they held. -/
theorem of_slice {m' : ByteMem} {n : Nat} (h : m.Holds off bs) (hcopy : m'.Holds 0 (m.slice 0 n))
    (hn : off + bs.length ≤ n) : m'.Holds off bs := by
  rw [Holds, slice_length] at hcopy
  have hsame := apply_eq_of_slice_eq hcopy
  rw [Holds, slice_congr fun i _ hi => hsame i (Nat.zero_le i) (by omega)]
  exact h

end Holds

end ByteMem
