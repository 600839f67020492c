import Prtp.Library.BlockHash
import Prtp.Library.ByteMem

set_option autoImplicit false

/-! # The message digest (`md5.c`)

`rtp_random32` draws SSRCs and sequence numbers from an MD5 digest. The context takes its input in pieces of any
length: what does not fill a block of 64 octets waits in `buffer`, and `count` is the number of bits so far,
in two words. -/

namespace Prtp

/-- `state` of `MD5_CTX`, and the variables `a` to `d` of `MD5Transform`. -/
@[ext] structure Md5State where
  a : UInt32
  b : UInt32
  c : UInt32
  d : UInt32
  deriving DecidableEq

/-- `MD5_CTX` -/
structure Md5Ctx where
  state : Md5State
  count0 : UInt32
  count1 : UInt32
  buffer : ByteMem

/-- The first four arguments of `FF`, `GG`, `HH` and `II`, in the orders they come in. -/
inductive Md5Args where
  | abcd
  | dabc
  | cdab
  | bcda

namespace Md5

/-! ## Functions of three words -/

/-- `F` -/
def roundF (x y z : UInt32) : UInt32 := (x &&& y) ||| (~~~x &&& z)

/-- `G` -/
def roundG (x y z : UInt32) : UInt32 := (x &&& z) ||| (y &&& ~~~z)

/-- `H` -/
def roundH (x y z : UInt32) : UInt32 := x ^^^ y ^^^ z

/-- `I` -/
def roundI (x y z : UInt32) : UInt32 := y ^^^ (x ||| ~~~z)

/-- `ROTATE_LEFT` -/
def rotateLeft (x n : UInt32) : UInt32 := (x <<< n) ||| (x >>> (32 - n))

/-- What `FF`, `GG`, `HH` and `II` make of their first argument, each by its own function. -/
def mix (fn : UInt32 → UInt32 → UInt32 → UInt32) (a b c d x s ac : UInt32) : UInt32 :=
  rotateLeft (a + (fn b c d + x + ac)) s + b

end Md5

namespace Md5State

/-- `FF`, `GG`, `HH` and `II`: the first argument is assigned. -/
def mixed (fn : UInt32 → UInt32 → UInt32 → UInt32) (t : Md5State) (args : Md5Args) (x s ac : UInt32) :
    Md5State :=
  match args with
  | .abcd => { t with a := Md5.mix fn t.a t.b t.c t.d x s ac }
  | .dabc => { t with d := Md5.mix fn t.d t.a t.b t.c x s ac }
  | .cdab => { t with c := Md5.mix fn t.c t.d t.a t.b x s ac }
  | .bcda => { t with b := Md5.mix fn t.b t.c t.d t.a x s ac }

/-- `FF` -/
def ff : Md5State → Md5Args → UInt32 → UInt32 → UInt32 → Md5State := mixed Md5.roundF

/-- `GG` -/
def gg : Md5State → Md5Args → UInt32 → UInt32 → UInt32 → Md5State := mixed Md5.roundG

/-- `HH` -/
def hh : Md5State → Md5Args → UInt32 → UInt32 → UInt32 → Md5State := mixed Md5.roundH

/-- `II` -/
def ii : Md5State → Md5Args → UInt32 → UInt32 → UInt32 → Md5State := mixed Md5.roundI

end Md5State

namespace Md5

/-! ## The transform -/

def s11 : UInt32 := 7
def s12 : UInt32 := 12
def s13 : UInt32 := 17
def s14 : UInt32 := 22
def s21 : UInt32 := 5
def s22 : UInt32 := 9
def s23 : UInt32 := 14
def s24 : UInt32 := 20
def s31 : UInt32 := 4
def s32 : UInt32 := 11
def s33 : UInt32 := 16
def s34 : UInt32 := 23
def s41 : UInt32 := 6
def s42 : UInt32 := 10
def s43 : UInt32 := 15
def s44 : UInt32 := 21

/-- Round 1 of `MD5Transform`. -/
def md5Round1 (x : ℕ → UInt32) (t : Md5State) : Md5State :=
  let t := t.ff .abcd (x 0) s11 0xd76aa478
  let t := t.ff .dabc (x 1) s12 0xe8c7b756
  let t := t.ff .cdab (x 2) s13 0x242070db
  let t := t.ff .bcda (x 3) s14 0xc1bdceee
  let t := t.ff .abcd (x 4) s11 0xf57c0faf
  let t := t.ff .dabc (x 5) s12 0x4787c62a
  let t := t.ff .cdab (x 6) s13 0xa8304613
  let t := t.ff .bcda (x 7) s14 0xfd469501
  let t := t.ff .abcd (x 8) s11 0x698098d8
  let t := t.ff .dabc (x 9) s12 0x8b44f7af
  let t := t.ff .cdab (x 10) s13 0xffff5bb1
  let t := t.ff .bcda (x 11) s14 0x895cd7be
  let t := t.ff .abcd (x 12) s11 0x6b901122
  let t := t.ff .dabc (x 13) s12 0xfd987193
  let t := t.ff .cdab (x 14) s13 0xa679438e
  let t := t.ff .bcda (x 15) s14 0x49b40821
  t

/-- Round 2 of `MD5Transform`. -/
def md5Round2 (x : ℕ → UInt32) (t : Md5State) : Md5State :=
  let t := t.gg .abcd (x 1) s21 0xf61e2562
  let t := t.gg .dabc (x 6) s22 0xc040b340
  let t := t.gg .cdab (x 11) s23 0x265e5a51
  let t := t.gg .bcda (x 0) s24 0xe9b6c7aa
  let t := t.gg .abcd (x 5) s21 0xd62f105d
  let t := t.gg .dabc (x 10) s22 0x2441453
  let t := t.gg .cdab (x 15) s23 0xd8a1e681
  let t := t.gg .bcda (x 4) s24 0xe7d3fbc8
  let t := t.gg .abcd (x 9) s21 0x21e1cde6
  let t := t.gg .dabc (x 14) s22 0xc33707d6
  let t := t.gg .cdab (x 3) s23 0xf4d50d87
  let t := t.gg .bcda (x 8) s24 0x455a14ed
  let t := t.gg .abcd (x 13) s21 0xa9e3e905
  let t := t.gg .dabc (x 2) s22 0xfcefa3f8
  let t := t.gg .cdab (x 7) s23 0x676f02d9
  let t := t.gg .bcda (x 12) s24 0x8d2a4c8a
  t

/-- Round 3 of `MD5Transform`. -/
def md5Round3 (x : ℕ → UInt32) (t : Md5State) : Md5State :=
  let t := t.hh .abcd (x 5) s31 0xfffa3942
  let t := t.hh .dabc (x 8) s32 0x8771f681
  let t := t.hh .cdab (x 11) s33 0x6d9d6122
  let t := t.hh .bcda (x 14) s34 0xfde5380c
  let t := t.hh .abcd (x 1) s31 0xa4beea44
  let t := t.hh .dabc (x 4) s32 0x4bdecfa9
  let t := t.hh .cdab (x 7) s33 0xf6bb4b60
  let t := t.hh .bcda (x 10) s34 0xbebfbc70
  let t := t.hh .abcd (x 13) s31 0x289b7ec6
  let t := t.hh .dabc (x 0) s32 0xeaa127fa
  let t := t.hh .cdab (x 3) s33 0xd4ef3085
  let t := t.hh .bcda (x 6) s34 0x4881d05
  let t := t.hh .abcd (x 9) s31 0xd9d4d039
  let t := t.hh .dabc (x 12) s32 0xe6db99e5
  let t := t.hh .cdab (x 15) s33 0x1fa27cf8
  let t := t.hh .bcda (x 2) s34 0xc4ac5665
  t

/-- Round 4 of `MD5Transform`. -/
def md5Round4 (x : ℕ → UInt32) (t : Md5State) : Md5State :=
  let t := t.ii .abcd (x 0) s41 0xf4292244
  let t := t.ii .dabc (x 7) s42 0x432aff97
  let t := t.ii .cdab (x 14) s43 0xab9423a7
  let t := t.ii .bcda (x 5) s44 0xfc93a039
  let t := t.ii .abcd (x 12) s41 0x655b59c3
  let t := t.ii .dabc (x 3) s42 0x8f0ccc92
  let t := t.ii .cdab (x 10) s43 0xffeff47d
  let t := t.ii .bcda (x 1) s44 0x85845dd1
  let t := t.ii .abcd (x 8) s41 0x6fa87e4f
  let t := t.ii .dabc (x 15) s42 0xfe2ce6e0
  let t := t.ii .cdab (x 6) s43 0xa3014314
  let t := t.ii .bcda (x 13) s44 0x4e0811a1
  let t := t.ii .abcd (x 4) s41 0xf7537e82
  let t := t.ii .dabc (x 11) s42 0xbd3af235
  let t := t.ii .cdab (x 2) s43 0x2ad7d2bb
  let t := t.ii .bcda (x 9) s44 0xeb86d391
  t

/-- `Decode`: word `i` of the input at offset `off`. -/
def decode (input : ByteMem) (off : ℕ) (i : ℕ) : UInt32 :=
  (input (off + 4 * i)).toUInt32 ||| ((input (off + 4 * i + 1)).toUInt32 <<< 8) |||
    ((input (off + 4 * i + 2)).toUInt32 <<< 16) ||| ((input (off + 4 * i + 3)).toUInt32 <<< 24)

/-- `Encode` -/
def encode (input : List UInt32) : List UInt8 :=
  input.flatMap fun x : UInt32 => [(x &&& 0xff).toUInt8, ((x >>> 8) &&& 0xff).toUInt8,
    ((x >>> 16) &&& 0xff).toUInt8, ((x >>> 24) &&& 0xff).toUInt8]

/-- `MD5Transform` of the block at offset `off`. -/
def md5Transform (s : Md5State) (block : ByteMem) (off : ℕ) : Md5State :=
  let x := decode block off
  let t := md5Round4 x (md5Round3 x (md5Round2 x (md5Round1 x s)))
  ⟨s.a + t.a, s.b + t.b, s.c + t.c, s.d + t.d⟩

/-! ## The context -/

/-- `MD5_memcpy` of `len` octets from offset `src` of `input` to offset `off` of `output`. -/
def md5Memcpy (output : ByteMem) (off : ℕ) (input : ByteMem) (src len : ℕ) : ByteMem :=
  output.storeBytes off (input.slice src len)

/-- `MD5Init` in a context that lies in `buffer`. -/
def md5Init (buffer : ByteMem) : Md5Ctx :=
  ⟨⟨0x67452301, 0xefcdab89, 0x98badcfe, 0x10325476⟩, 0, 0, buffer⟩

/-- The loop of `MD5Update` over the blocks of the input; `none` if it is not over after `fuel` turns. -/
def md5Blocks (input : ByteMem) (inputLen : UInt32) : ℕ → UInt32 → Md5State → Option (UInt32 × Md5State)
  | 0, _, _ => none
  | fuel + 1, i, s =>
      if i + 63 < inputLen then md5Blocks input inputLen fuel (i + 64) (md5Transform s input i.toNat)
      else some (i, s)

/-- `MD5Update`; `none` if its loop is not over after `fuel` turns. -/
def md5Update (fuel : ℕ) (ctx : Md5Ctx) (input : ByteMem) (inputLen : UInt32) : Option Md5Ctx :=
  let index := (ctx.count0 >>> 3) &&& 0x3f
  let count0 := ctx.count0 + (inputLen <<< 3)
  let carried := if count0 < inputLen <<< 3 then ctx.count1 + 1 else ctx.count1
  let count1 := carried + (inputLen >>> 29)
  let partLen := 64 - index
  if partLen ≤ inputLen then
    let buffer := md5Memcpy ctx.buffer index.toNat input 0 partLen.toNat
    (md5Blocks input inputLen fuel partLen (md5Transform ctx.state buffer 0)).map fun (i, state) =>
      ⟨state, count0, count1, md5Memcpy buffer 0 input i.toNat (inputLen - i).toNat⟩
  else some ⟨ctx.state, count0, count1, md5Memcpy ctx.buffer index.toNat input 0 inputLen.toNat⟩

/-- `PADDING` -/
def padding : List UInt8 := 0x80 :: List.replicate 63 0

/-- `MD5Final`: the digest, and the context with nothing left in it. -/
def md5Final (fuel : ℕ) (ctx : Md5Ctx) : Option (List UInt8 × Md5Ctx) :=
  let bits := encode [ctx.count0, ctx.count1]
  let index := (ctx.count0 >>> 3) &&& 0x3f
  let padLen := if index < 56 then 56 - index else 120 - index
  (md5Update fuel ctx (ByteMem.storeBytes (fun _ => 0) 0 padding) padLen).bind fun ctx =>
    (md5Update fuel ctx (ByteMem.storeBytes (fun _ => 0) 0 bits) 8).map fun ctx =>
      (encode [ctx.state.a, ctx.state.b, ctx.state.c, ctx.state.d], ⟨⟨0, 0, 0, 0⟩, 0, 0, fun _ => 0⟩)

end Md5

end Prtp
