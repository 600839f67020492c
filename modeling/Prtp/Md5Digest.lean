import Prtp.Library.SineWords
import Prtp.Md5

set_option autoImplicit false

/-! # What MD5 is

The digest by its definition: the message is padded, cut into blocks, and each block goes into the chaining value
in 64 steps, every one the same but for its function, its word, its turn and a digit string of a sine.
`MD5Transform` has the steps written out, with the four variables exchanged in place of their values. -/

namespace Prtp

namespace Md5

/-! ## The definition -/

/-- The number with the given octets, least significant first. -/
def leNat (bs : List UInt8) : ℕ := bs.foldr (fun b v => b.toNat + 256 * v) 0

/-- The lowest `n` octets of a number, least significant first. -/
def leBytes : ℕ → ℕ → List UInt8
  | 0, _ => []
  | n + 1, v => UInt8.ofNat v :: leBytes n (v / 256)

/-- Word `i` of a block of octets. -/
def leWord (block : List UInt8) (i : ℕ) : UInt32 := UInt32.ofNat (leNat ((block.drop (4 * i)).take 4))

/-- The function of step `i`. -/
def stepFunction (i : ℕ) : UInt32 → UInt32 → UInt32 → UInt32 :=
  if i < 16 then roundF else if i < 32 then roundG else if i < 48 then roundH else roundI

/-- The word that step `i` uses. -/
def stepWord (i : ℕ) : ℕ :=
  if i < 16 then i else if i < 32 then (5 * i + 1) % 16 else if i < 48 then (3 * i + 5) % 16 else 7 * i % 16

/-- By how many bits step `i` turns. -/
def stepTurn (i : ℕ) : ℕ :=
  let turns := if i < 16 then [7, 12, 17, 22] else if i < 32 then [5, 9, 14, 20]
    else if i < 48 then [4, 11, 16, 23] else [6, 10, 15, 21]
  turns.getD (i % 4) 0

/-- The constant of step `i`: 32 bits of the sine of `i + 1`. -/
noncomputable def sineWord (i : ℕ) : UInt32 := UInt32.ofNat ⌊(2 ^ 32 : ℕ) * |Real.sin (i + 1 : ℕ)|⌋₊

/-- Step `i` on the block with words `x`; the four words move on by one place. -/
def step (sines : ℕ → UInt32) (x : ℕ → UInt32) (t : Md5State) (i : ℕ) : Md5State :=
  let sum := t.a + stepFunction i t.b t.c t.d + x (stepWord i) + sines i
  ⟨t.d, t.b + ⟨sum.toBitVec.rotateLeft (stepTurn i)⟩, t.b, t.c⟩

/-- A block goes into the chaining value. -/
noncomputable def compress (t : Md5State) (block : List UInt8) : Md5State :=
  let s := (List.range 64).foldl (step sineWord (leWord block)) t
  ⟨t.a + s.a, t.b + s.b, t.c + s.c, t.d + s.d⟩

/-- The chaining value before the first block. -/
def initial : Md5State :=
  let octets := [0x01, 0x23, 0x45, 0x67, 0x89, 0xab, 0xcd, 0xef, 0xfe, 0xdc, 0xba, 0x98, 0x76, 0x54, 0x32, 0x10]
  ⟨leWord octets 0, leWord octets 1, leWord octets 2, leWord octets 3⟩

/-- How many zero octets a message of `n` is padded with. -/
def zeros (n : ℕ) : ℕ := (119 - n % 64) % 64

/-- A message padded to whole blocks: a single one bit, zeros, and the number of bits modulo `2 ^ 64`. -/
def pad (message : List UInt8) : List UInt8 :=
  message ++ (0x80 :: List.replicate (zeros message.length) 0) ++ leBytes 8 (8 * message.length)

/-- The digest of a message. -/
noncomputable def digest (message : List UInt8) : List UInt8 :=
  let t := (BlockHash.blocks 64 (pad message)).foldl compress initial
  leBytes 4 t.a.toNat ++ leBytes 4 t.b.toNat ++ leBytes 4 t.c.toNat ++ leBytes 4 t.d.toNat

/-! ## The constants -/

/-- The last arguments in `MD5Transform`. -/
def sines : List UInt32 :=
  [0xd76aa478, 0xe8c7b756, 0x242070db, 0xc1bdceee, 0xf57c0faf, 0x4787c62a, 0xa8304613, 0xfd469501,
    0x698098d8, 0x8b44f7af, 0xffff5bb1, 0x895cd7be, 0x6b901122, 0xfd987193, 0xa679438e, 0x49b40821,
    0xf61e2562, 0xc040b340, 0x265e5a51, 0xe9b6c7aa, 0xd62f105d, 0x2441453, 0xd8a1e681, 0xe7d3fbc8,
    0x21e1cde6, 0xc33707d6, 0xf4d50d87, 0x455a14ed, 0xa9e3e905, 0xfcefa3f8, 0x676f02d9, 0x8d2a4c8a,
    0xfffa3942, 0x8771f681, 0x6d9d6122, 0xfde5380c, 0xa4beea44, 0x4bdecfa9, 0xf6bb4b60, 0xbebfbc70,
    0x289b7ec6, 0xeaa127fa, 0xd4ef3085, 0x4881d05, 0xd9d4d039, 0xe6db99e5, 0x1fa27cf8, 0xc4ac5665,
    0xf4292244, 0x432aff97, 0xab9423a7, 0xfc93a039, 0x655b59c3, 0x8f0ccc92, 0xffeff47d, 0x85845dd1,
    0x6fa87e4f, 0xfe2ce6e0, 0xa3014314, 0x4e0811a1, 0xf7537e82, 0xbd3af235, 0x2ad7d2bb, 0xeb86d391]

theorem sineWord_eq {i : ℕ} (hi : i < 64) : sineWord i = sines.getD i 0 := by
  have hall : ∀ i < 64, SineWords.roundsTo (2 ^ 32) 20 (i + 1) (sines.getD i 0).toNat = true := by
    decide +kernel
  rw [sineWord, SineWords.floor_sin (hall i hi), UInt32.ofNat_toNat]

/-! ## The steps -/

/-- Which argument list follows which. -/
def next : Md5Args → Md5Args
  | .abcd => .dabc
  | .dabc => .cdab
  | .cdab => .bcda
  | .bcda => .abcd

/-- The argument list of line `i`. -/
def args : ℕ → Md5Args
  | 0 => .abcd
  | i + 1 => next (args i)

/-- Line `i` of `MD5Transform`. -/
def line (x : ℕ → UInt32) (t : Md5State) (i : ℕ) : Md5State :=
  t.mixed (stepFunction i) (args i) (x (stepWord i)) (.ofNat (stepTurn i)) (sines.getD i 0)

/-- The four words in the order of an argument list. -/
def ordered (t : Md5State) : Md5Args → Md5State
  | .abcd => t
  | .dabc => ⟨t.d, t.a, t.b, t.c⟩
  | .cdab => ⟨t.c, t.d, t.a, t.b⟩
  | .bcda => ⟨t.b, t.c, t.d, t.a⟩

theorem rounds_eq (x : ℕ → UInt32) (t : Md5State) :
    md5Round4 x (md5Round3 x (md5Round2 x (md5Round1 x t))) = (List.range 64).foldl (line x) t := by
  have h1 : ∀ t, md5Round1 x t = (List.range' 0 16).foldl (line x) t := fun _ => rfl
  have h2 : ∀ t, md5Round2 x t = (List.range' 16 16).foldl (line x) t := fun _ => rfl
  have h3 : ∀ t, md5Round3 x t = (List.range' 32 16).foldl (line x) t := fun _ => rfl
  have h4 : ∀ t, md5Round4 x t = (List.range' 48 16).foldl (line x) t := fun _ => rfl
  rw [h1, h2, h3, h4, ← List.foldl_append, ← List.foldl_append, ← List.foldl_append]
  rfl

theorem rotateLeft_eq (x : UInt32) {n : ℕ} (hpos : 0 < n) (hlt : n < 32) :
    rotateLeft x (.ofNat n) = ⟨x.toBitVec.rotateLeft n⟩ := by
  have hn : (UInt32.ofNat n).toNat = n := UInt32.toNat_ofNat_of_lt' (lt_trans hlt (by decide))
  have hsub : (32 - UInt32.ofNat n).toNat = 32 - n := by
    rw [UInt32.toNat_sub_of_le _ _ (by rw [UInt32.le_iff_toNat_le, hn]; exact hlt.le), hn]
    rfl
  have hleft : x <<< UInt32.ofNat n = ⟨x.toBitVec <<< n⟩ := by
    rw [← UInt32.toNat_inj, UInt32.toNat_shiftLeft, hn, Nat.mod_eq_of_lt hlt]
    exact (BitVec.toNat_shiftLeft ..).symm
  have hright : x >>> (32 - UInt32.ofNat n) = ⟨x.toBitVec >>> (32 - n)⟩ := by
    rw [← UInt32.toNat_inj, UInt32.toNat_shiftRight, hsub, Nat.mod_eq_of_lt (by omega)]
    exact (BitVec.toNat_ushiftRight ..).symm
  rw [rotateLeft, hleft, hright, BitVec.rotateLeft_def, Nat.mod_eq_of_lt hlt]
  rfl

theorem mix_eq (fn : UInt32 → UInt32 → UInt32 → UInt32) (a b c d x ac : UInt32) {n : ℕ} (hpos : 0 < n)
    (hlt : n < 32) :
    mix fn a b c d x (.ofNat n) ac = b + ⟨(a + fn b c d + x + ac).toBitVec.rotateLeft n⟩ := by
  rw [mix, rotateLeft_eq _ hpos hlt, ← UInt32.add_assoc, ← UInt32.add_assoc, UInt32.add_comm b]

/-- A line is a step, seen in the order of its arguments. -/
theorem ordered_line (x : ℕ → UInt32) (t : Md5State) {i : ℕ} (hi : i < 64) :
    ordered (line x t i) (args (i + 1)) = step sineWord x (ordered t (args i)) i := by
  have hturn : ∀ i < 64, 0 < stepTurn i ∧ stepTurn i < 32 := by decide
  obtain ⟨hpos, hlt⟩ := hturn i hi
  have hmix := fun a b c d => mix_eq (stepFunction i) a b c d (x (stepWord i)) (sines.getD i 0) hpos hlt
  rw [args, line, step, sineWord_eq hi]
  cases args i <;> simp only [next, Md5State.mixed, ordered, hmix]

theorem ordered_lines (x : ℕ → UInt32) (t : Md5State) {n : ℕ} (hn : n ≤ 64) :
    ordered ((List.range n).foldl (line x) t) (args n) = (List.range n).foldl (step sineWord x) t := by
  induction n with
  | zero => rfl
  | succ n ih =>
      rw [List.range_succ, List.foldl_append, List.foldl_append, ← ih (Nat.le_of_succ_le hn)]
      exact ordered_line x _ hn

/-! ## Octets and words -/

@[simp] theorem leBytes_length (n v : ℕ) : (leBytes n v).length = n := by
  induction n generalizing v with
  | zero => rfl
  | succ n ih => rw [leBytes, List.length_cons, ih]

theorem or_shiftLeft {x k : ℕ} (hx : x < 2 ^ k) (y : ℕ) : x ||| y <<< k = x + y * 2 ^ k := by
  rw [Nat.or_comm, ← Nat.shiftLeft_add_eq_or_of_lt hx, Nat.shiftLeft_eq, Nat.add_comm]

theorem toNat_word (a b c d : UInt8) :
    (a.toUInt32 ||| (b.toUInt32 <<< 8) ||| (c.toUInt32 <<< 16) ||| (d.toUInt32 <<< 24)).toNat
      = leNat [a, b, c, d] := by
  have ha := a.toNat_lt
  have hb := b.toNat_lt
  have hc := c.toNat_lt
  have hd := d.toNat_lt
  have hshift : (b.toUInt32 <<< 8).toNat = b.toNat <<< 8 ∧ (c.toUInt32 <<< 16).toNat = c.toNat <<< 16 ∧
      (d.toUInt32 <<< 24).toNat = d.toNat <<< 24 := by
    refine ⟨?_, ?_, ?_⟩ <;> simp [Nat.shiftLeft_eq] <;> omega
  obtain ⟨hb8, hc16, hd24⟩ := hshift
  have hab : a.toNat + b.toNat * 2 ^ 8 < 2 ^ 16 := by omega
  have habc : a.toNat + b.toNat * 2 ^ 8 + c.toNat * 2 ^ 16 < 2 ^ 24 := by omega
  rw [UInt32.toNat_or, UInt32.toNat_or, UInt32.toNat_or, hb8, hc16, hd24, UInt8.toNat_toUInt32,
    or_shiftLeft ha, or_shiftLeft hab, or_shiftLeft habc]
  simp only [leNat, List.foldr]
  omega

theorem decode_eq (input : ByteMem) (off : ℕ) {i : ℕ} (hi : i < 16) :
    decode input off i = leWord (input.slice off 64) i := by
  have hsplit : input.slice off 64
      = input.slice off (4 * i) ++
        (input.slice (off + 4 * i) 4 ++ input.slice (off + 4 * i + 4) (60 - 4 * i)) := by
    rw [← ByteMem.slice_add, ← ByteMem.slice_add]
    congr 1
    omega
  have hword : ((input.slice off 64).drop (4 * i)).take 4 = input.slice (off + 4 * i) 4 := by
    rw [hsplit, List.drop_left' (ByteMem.slice_length ..), List.take_left' (ByteMem.slice_length ..)]
  rw [leWord, hword, decode]
  exact (UInt32.ofNat_toNat ..).symm.trans (congrArg UInt32.ofNat (toNat_word ..))

theorem encode_eq (ws : List UInt32) : encode ws = ws.flatMap fun x => leBytes 4 x.toNat := by
  refine List.flatMap_congr fun x _ => ?_
  have hbyte : ∀ y : UInt32, (y &&& 0xff).toUInt8 = UInt8.ofNat y.toNat := fun y => by
    rw [← UInt8.toNat_inj, UInt32.toNat_toUInt8, UInt32.toNat_and, UInt8.toNat_ofNat']
    exact (congrArg (· % 2 ^ 8) (Nat.and_two_pow_sub_one_eq_mod _ 8)).trans (Nat.mod_mod ..)
  have hshift : (x >>> 8).toNat = x.toNat / 256 ∧ (x >>> 16).toNat = x.toNat / 256 / 256 ∧
      (x >>> 24).toNat = x.toNat / 256 / 256 / 256 := by
    refine ⟨?_, ?_, ?_⟩ <;> simp [Nat.shiftRight_eq_div_pow] <;> omega
  obtain ⟨h8, h16, h24⟩ := hshift
  simp only [hbyte, h8, h16, h24, leBytes]

/-- `MD5Transform` is the compression of the block. -/
theorem md5Transform_eq (t : Md5State) (block : ByteMem) (off : ℕ) :
    md5Transform t block off = compress t (block.slice off 64) := by
  have hword : ∀ i < 64, stepWord i < 16 := by decide
  have hsteps : (List.range 64).foldl (line (decode block off)) t
      = (List.range 64).foldl (step sineWord (leWord (block.slice off 64))) t := by
    have hlines := ordered_lines (decode block off) t (le_refl 64)
    have hargs : args 64 = .abcd := rfl
    rw [hargs, ordered] at hlines
    refine hlines.trans (List.foldl_ext _ _ _ fun s i hi => ?_)
    rw [step, step, decode_eq _ _ (hword i (List.mem_range.1 hi))]
  rw [md5Transform, rounds_eq, hsteps, compress]

end Md5

end Prtp
