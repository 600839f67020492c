import Prtp.Md5Digest

set_option autoImplicit false

/-! # The digest of a message in pieces

`MD5Update` takes any number of pieces of any length, and `MD5Final` gives the digest of them all, one behind the
other. Only the loop over the blocks of one piece can fail to: where its octets and those that wait are
`2 ^ 32` or more, `i + 63` turns over before the loop is done, and it goes on for ever. -/

namespace Prtp

namespace Md5

open BlockHash (absorb)

variable {fuel : ℕ} {input : ByteMem} {inputLen : UInt32} {ctx ctx' : Md5Ctx} {message : List UInt8}

/-! ## The loop -/

/-- Fuel that is left over does no harm. -/
theorem md5Blocks_mono {i j : UInt32} {s t : Md5State} (k : ℕ)
    (h : md5Blocks input inputLen fuel i s = some (j, t)) :
    md5Blocks input inputLen (fuel + k) i s = some (j, t) := by
  induction fuel generalizing i s with
  | zero => cases h
  | succ fuel ih =>
      rw [Nat.add_right_comm]
      rw [md5Blocks] at h ⊢
      split at h
      · next hlt => rw [if_pos hlt, ih h]
      · next hge => rw [if_neg hge, h]

theorem md5Update_mono (k : ℕ) (h : md5Update fuel ctx input inputLen = some ctx') :
    md5Update (fuel + k) ctx input inputLen = some ctx' := by
  simp only [md5Update] at h ⊢
  split at h
  · next hle =>
      obtain ⟨⟨j, t⟩, hrun, hctx⟩ := Option.map_eq_some_iff.1 h
      rw [if_pos hle, md5Blocks_mono k hrun, Option.map_some, hctx]
  · next hlt => rw [if_neg hlt, h]

theorem md5Final_mono {digest : List UInt8} (k : ℕ) (h : md5Final fuel ctx = some (digest, ctx')) :
    md5Final (fuel + k) ctx = some (digest, ctx') := by
  simp only [md5Final] at h ⊢
  obtain ⟨padded, hrun, h⟩ := Option.bind_eq_some_iff.1 h
  obtain ⟨ended, hrun', hdigest⟩ := Option.map_eq_some_iff.1 h
  rw [md5Update_mono k hrun, Option.bind_some, md5Update_mono k hrun', Option.map_some, hdigest]

/-- In steps of a block from behind the octets that wait, the loop comes to less than a block before the end. -/
theorem md5Blocks_eq (input : ByteMem) {index : ℕ} (hfit : index + inputLen.toNat < 2 ^ 32) {i : UInt32}
    (s : Md5State) (hi : (index + i.toNat) % 64 = 0) (hle : i.toNat ≤ inputLen.toNat)
    (hfuel : (inputLen.toNat - i.toNat) / 64 < fuel) :
    ∃ j t, md5Blocks input inputLen fuel i s = some (j, t) ∧ j.toNat ≤ inputLen.toNat ∧
      (⟨t, input.slice j.toNat (inputLen.toNat - j.toNat)⟩ : BlockHash Md5State UInt8)
        = absorb compress 64 ⟨s, []⟩ (input.slice i.toNat (inputLen.toNat - i.toNat)) := by
  induction fuel generalizing i s with
  | zero => omega
  | succ fuel ih =>
      have hlen := inputLen.toNat_lt
      have h63 : (i + 63).toNat = i.toNat + 63 := by
        rw [UInt32.toNat_add]
        exact Nat.mod_eq_of_lt (by change _ + 63 < _; omega)
      have hlt : i + 63 < inputLen ↔ i.toNat + 63 < inputLen.toNat := by rw [UInt32.lt_iff_toNat_lt, h63]
      rw [md5Blocks]
      by_cases hmore : i.toNat + 63 < inputLen.toNat
      · have h64 : (i + 64).toNat = i.toNat + 64 := by
          rw [UInt32.toNat_add]
          exact Nat.mod_eq_of_lt (by change _ + 64 < _; omega)
        have hsplit : input.slice i.toNat (inputLen.toNat - i.toNat)
            = input.slice i.toNat 64 ++ input.slice (i + 64).toNat (inputLen.toNat - (i + 64).toNat) := by
          rw [h64, ← ByteMem.slice_add]
          congr 1
          omega
        obtain ⟨j, t, hrun, hj, habsorb⟩ := ih (i := i + 64) (md5Transform s input i.toNat)
          (by omega) (by omega) (by omega)
        refine ⟨j, t, (if_pos (hlt.2 hmore)).trans hrun, hj, ?_⟩
        rw [habsorb, hsplit, BlockHash.absorb_append,
          BlockHash.absorb_block s _ (by decide) (ByteMem.slice_length ..), md5Transform_eq]
      · refine ⟨i, s, if_neg fun h => hmore (hlt.1 h), hle, ?_⟩
        rw [BlockHash.absorb_of_lt _ _ (by rw [List.length_nil, ByteMem.slice_length]; omega)]
        rfl

/-- Where the piece is too long, the loop never comes to an end. -/
theorem md5Blocks_none (fuel : ℕ) (input : ByteMem) (s : Md5State) {index : ℕ} (hindex : index < 64)
    (hlong : 2 ^ 32 ≤ index + inputLen.toNat) {i : UInt32} (hi : (index + i.toNat) % 64 = 0) :
    md5Blocks input inputLen fuel i s = none := by
  induction fuel generalizing i s with
  | zero => rfl
  | succ fuel ih =>
      have hlen := inputLen.toNat_lt
      have hilt := i.toNat_lt
      have h63 : (i + 63).toNat = (i.toNat + 63) % 2 ^ 32 := UInt32.toNat_add ..
      have h64 : (i + 64).toNat = (i.toNat + 64) % 2 ^ 32 := UInt32.toNat_add ..
      have hlt : i + 63 < inputLen := by
        rw [UInt32.lt_iff_toNat_lt, h63]
        omega
      exact (if_pos hlt).trans (ih _ (by omega))

/-! ## Pieces -/

/-- The context has taken `message` so far. -/
structure Taken (ctx : Md5Ctx) (message : List UInt8) : Prop where
  hash : (⟨ctx.state, ctx.buffer.slice 0 (message.length % 64)⟩ : BlockHash Md5State UInt8)
    = absorb compress 64 ⟨initial, []⟩ message
  count : ctx.count1.toNat * 2 ^ 32 + ctx.count0.toNat = 8 * message.length % 2 ^ 64

theorem state_md5Init (buffer : ByteMem) : (md5Init buffer).state = initial := by
  show (⟨0x67452301, 0xefcdab89, 0x98badcfe, 0x10325476⟩ : Md5State) = initial
  decide

theorem taken_md5Init (buffer : ByteMem) : Taken (md5Init buffer) [] where
  hash := by
    rw [state_md5Init]
    rfl
  count := by simp [md5Init]

/-- Where the next octet goes. -/
theorem Taken.index (h : Taken ctx message) :
    ((ctx.count0 >>> 3) &&& 0x3f).toNat = message.length % 64 := by
  have hcount := h.count
  have hlt := ctx.count0.toNat_lt
  have hmask : ((ctx.count0 >>> 3) &&& 0x3f).toNat = (ctx.count0 >>> 3).toNat % 2 ^ 6 :=
    Nat.and_two_pow_sub_one_eq_mod _ 6
  have hshift : (ctx.count0 >>> 3).toNat = ctx.count0.toNat / 8 := Nat.shiftRight_eq_div_pow _ 3
  rw [hmask, hshift]
  omega

/-- The count of bits goes on in the second word. -/
theorem count_add (count0 count1 len : UInt32) :
    ((if count0 + (len <<< 3) < len <<< 3 then count1 + 1 else count1) + (len >>> 29)).toNat * 2 ^ 32
        + (count0 + (len <<< 3)).toNat
      = (count1.toNat * 2 ^ 32 + count0.toNat + 8 * len.toNat) % 2 ^ 64 := by
  have h0 := count0.toNat_lt
  have h1 := count1.toNat_lt
  have hlen := len.toNat_lt
  have hlow : (len <<< 3).toNat = len.toNat * 8 % 2 ^ 32 :=
    (UInt32.toNat_shiftLeft ..).trans (congrArg (· % 2 ^ 32) (Nat.shiftLeft_eq ..))
  have hhigh : (len >>> 29).toNat = len.toNat / 2 ^ 29 := Nat.shiftRight_eq_div_pow _ 29
  have hsum : (count0 + (len <<< 3)).toNat = (count0.toNat + len.toNat * 8 % 2 ^ 32) % 2 ^ 32 := by
    rw [UInt32.toNat_add, hlow]
  have hone : (count1 + 1).toNat = (count1.toNat + 1) % 2 ^ 32 := UInt32.toNat_add ..
  split
  · next hlt =>
      rw [UInt32.lt_iff_toNat_lt, hsum, hlow] at hlt
      rw [UInt32.toNat_add, hsum, hone, hhigh]
      omega
  · next hge =>
      rw [UInt32.lt_iff_toNat_lt, hsum, hlow] at hge
      rw [UInt32.toNat_add, hsum, hhigh]
      omega

/-- What `MD5_memcpy` adds behind the octets that wait. -/
theorem slice_md5Memcpy (output : ByteMem) (off : ℕ) (input : ByteMem) (src len : ℕ) :
    (md5Memcpy output off input src len).slice 0 (off + len) = output.slice 0 off ++ input.slice src len := by
  have hfront := ByteMem.slice_storeBytes_of_disjoint output 0 off off (input.slice src len)
    (.inr (Nat.zero_add off).le)
  have hback := ByteMem.slice_storeBytes output off (input.slice src len)
  rw [ByteMem.slice_length] at hback
  rw [md5Memcpy, ByteMem.slice_add, hfront, Nat.zero_add, hback]

/-- The count does not depend on what becomes of the octets. -/
theorem count_md5Update (h : md5Update fuel ctx input inputLen = some ctx') :
    ctx'.count0 = ctx.count0 + (inputLen <<< 3) ∧
      ctx'.count1 = (if ctx.count0 + (inputLen <<< 3) < inputLen <<< 3 then ctx.count1 + 1 else ctx.count1)
        + (inputLen >>> 29) := by
  rw [md5Update] at h
  split at h
  · obtain ⟨⟨j, t⟩, -, rfl⟩ := Option.map_eq_some_iff.1 h
    exact ⟨rfl, rfl⟩
  · cases h
    exact ⟨rfl, rfl⟩

/-- `partLen` -/
theorem Taken.partLen (h : Taken ctx message) :
    ((64 : UInt32) - ((ctx.count0 >>> 3) &&& 0x3f)).toNat = 64 - message.length % 64 := by
  rw [UInt32.toNat_sub_of_le _ _ (by rw [UInt32.le_iff_toNat_le, h.index]; change _ ≤ 64; omega), h.index]
  rfl

/-- A piece that fills no block waits. -/
theorem md5Update_short (h : Taken ctx message) (hshort : message.length % 64 + inputLen.toNat < 64) :
    ∃ ctx', md5Update fuel ctx input inputLen = some ctx' ∧
      (⟨ctx'.state, ctx'.buffer.slice 0 ((message.length + inputLen.toNat) % 64)⟩ : BlockHash Md5State UInt8)
        = absorb compress 64 ⟨initial, []⟩ (message ++ input.slice 0 inputLen.toNat) := by
  have hless : ¬ (64 : UInt32) - ((ctx.count0 >>> 3) &&& 0x3f) ≤ inputLen := by
    rw [UInt32.le_iff_toNat_le, h.partLen]
    omega
  have hlast := slice_md5Memcpy ctx.buffer (message.length % 64) input 0 inputLen.toNat
  rw [md5Update, if_neg hless, h.index]
  refine ⟨_, rfl, ?_⟩
  rw [BlockHash.absorb_append, ← h.hash,
    BlockHash.absorb_of_lt _ _ (by rw [ByteMem.slice_length, ByteMem.slice_length]; exact hshort), ← hlast]
  congr 2
  omega

/-- The blocks that a piece fills. -/
theorem md5Update_full (h : Taken ctx message) (hfit : message.length % 64 + inputLen.toNat < 2 ^ 32)
    (hfuel : inputLen.toNat / 64 < fuel) (hfull : 64 ≤ message.length % 64 + inputLen.toNat) :
    ∃ ctx', md5Update fuel ctx input inputLen = some ctx' ∧
      (⟨ctx'.state, ctx'.buffer.slice 0 ((message.length + inputLen.toNat) % 64)⟩ : BlockHash Md5State UInt8)
        = absorb compress 64 ⟨initial, []⟩ (message ++ input.slice 0 inputLen.toNat) := by
  have hindex := h.index
  have hpart := h.partLen
  rw [md5Update]
  generalize (64 : UInt32) - ((ctx.count0 >>> 3) &&& 0x3f) = partLen at hpart
  generalize (ctx.count0 >>> 3) &&& 0x3f = index at hindex
  have hle : partLen.toNat ≤ inputLen.toNat := by omega
  obtain ⟨j, t, hrun, hj, habsorb⟩ := md5Blocks_eq input hfit (i := partLen)
    (md5Transform ctx.state (md5Memcpy ctx.buffer index.toNat input 0 partLen.toNat) 0)
    (by omega) hle (show (inputLen.toNat - partLen.toNat) / 64 < fuel by omega)
  simp only [if_pos (UInt32.le_iff_toNat_le.2 hle), hrun, Option.map_some]
  refine ⟨_, rfl, ?_⟩
  have hsplit : input.slice 0 inputLen.toNat
      = input.slice 0 partLen.toNat ++ input.slice partLen.toNat (inputLen.toNat - partLen.toNat) := by
    conv_lhs => rw [← Nat.add_sub_cancel' hle, ByteMem.slice_add, Nat.zero_add]
  have hfirst := slice_md5Memcpy ctx.buffer index.toNat input 0 partLen.toNat
  rw [show index.toNat + partLen.toNat = 64 by omega] at hfirst
  have hblock : absorb compress 64 ⟨ctx.state, ctx.buffer.slice 0 (message.length % 64)⟩
        (input.slice 0 partLen.toNat)
      = ⟨md5Transform ctx.state (md5Memcpy ctx.buffer index.toNat input 0 partLen.toNat) 0, []⟩ := by
    rw [md5Transform_eq, hfirst, hindex]
    exact BlockHash.absorb_of_eq _ (by rw [ByteMem.slice_length]; omega)
      (by rw [ByteMem.slice_length, ByteMem.slice_length]; omega)
  have hall : absorb compress 64 ⟨initial, []⟩ (message ++ input.slice 0 inputLen.toNat)
      = ⟨t, input.slice j.toNat (inputLen.toNat - j.toNat)⟩ := by
    rw [BlockHash.absorb_append, ← h.hash, hsplit, BlockHash.absorb_append, hblock, habsorb]
  have hlength : inputLen.toNat - j.toNat = (message.length + inputLen.toNat) % 64 := by
    have h := BlockHash.length_tail_absorb compress ⟨initial, []⟩ (message ++ input.slice 0 inputLen.toNat)
      (show ([] : List UInt8).length < 64 by decide)
    rwa [hall, ByteMem.slice_length, List.length_nil, Nat.zero_add, List.length_append,
      ByteMem.slice_length] at h
  have hlast := slice_md5Memcpy (md5Memcpy ctx.buffer index.toNat input 0 partLen.toNat) 0 input j.toNat
    (inputLen.toNat - j.toNat)
  rw [Nat.zero_add, ByteMem.slice, List.nil_append] at hlast
  rw [hall, ← hlength, UInt32.toNat_sub_of_le _ _ (UInt32.le_iff_toNat_le.2 hj), hlast]

/-- `MD5Update` takes a piece. -/
theorem md5Update_eq (input : ByteMem) (h : Taken ctx message)
    (hfit : message.length % 64 + inputLen.toNat < 2 ^ 32) (hfuel : inputLen.toNat / 64 < fuel) :
    ∃ ctx', md5Update fuel ctx input inputLen = some ctx' ∧
      Taken ctx' (message ++ input.slice 0 inputLen.toNat) := by
  have hlength : (message ++ input.slice 0 inputLen.toNat).length = message.length + inputLen.toNat := by
    rw [List.length_append, ByteMem.slice_length]
  have hcount : ∀ {ctx'}, md5Update fuel ctx input inputLen = some ctx' →
      ctx'.count1.toNat * 2 ^ 32 + ctx'.count0.toNat
        = 8 * (message ++ input.slice 0 inputLen.toNat).length % 2 ^ 64 := by
    intro ctx' hrun
    obtain ⟨h0, h1⟩ := count_md5Update hrun
    rw [h0, h1, count_add, h.count, hlength]
    omega
  obtain ⟨ctx', hrun, hhash⟩ := (Nat.lt_or_ge (message.length % 64 + inputLen.toNat) 64).elim
    (md5Update_short h) (md5Update_full h hfit hfuel)
  exact ⟨ctx', hrun, by rw [hlength, hhash], hcount hrun⟩

/-- Where the octets that wait and those of the piece are too many, `MD5Update` does not return. -/
theorem md5Update_none (h : Taken ctx message) (hlong : 2 ^ 32 ≤ message.length % 64 + inputLen.toNat) :
    md5Update fuel ctx input inputLen = none := by
  have hpart := h.partLen
  have hlen := inputLen.toNat_lt
  have hle : (64 : UInt32) - ((ctx.count0 >>> 3) &&& 0x3f) ≤ inputLen := by
    rw [UInt32.le_iff_toNat_le, hpart]
    omega
  have hloop := fun s => md5Blocks_none fuel input s (Nat.mod_lt _ (by decide)) hlong
    (i := (64 : UInt32) - ((ctx.count0 >>> 3) &&& 0x3f)) (by omega)
  simp only [md5Update, if_pos hle, hloop, Option.map_none]

/-- A call of `MD5Update` that returns has had room for the piece, and has taken it. -/
theorem Taken.update (h : Taken ctx message) (hrun : md5Update fuel ctx input inputLen = some ctx') :
    message.length % 64 + inputLen.toNat < 2 ^ 32 ∧ Taken ctx' (message ++ input.slice 0 inputLen.toNat) := by
  rcases Nat.lt_or_ge (message.length % 64 + inputLen.toNat) (2 ^ 32) with hfit | hlong
  · obtain ⟨ctx'', hlater, htaken⟩ := md5Update_eq input h hfit
      (show inputLen.toNat / 64 < fuel + (inputLen.toNat + 1) by omega)
    rw [md5Update_mono (inputLen.toNat + 1) hrun] at hlater
    cases hlater
    exact ⟨hfit, htaken⟩
  · rw [md5Update_none h hlong] at hrun
    cases hrun

/-! ## The end of the message -/

theorem leBytes_mod (n v : ℕ) : leBytes n (v % 256 ^ n) = leBytes n v := by
  induction n generalizing v with
  | zero => rfl
  | succ n ih =>
      have hrest : v % 256 ^ (n + 1) / 256 = v / 256 % 256 ^ n := by
        rw [pow_succ', Nat.mod_mul_right_div_self]
      have hfirst : UInt8.ofNat (v % 256 ^ (n + 1)) = UInt8.ofNat v := by
        rw [← UInt8.toNat_inj, UInt8.toNat_ofNat', UInt8.toNat_ofNat']
        exact Nat.mod_mod_of_dvd v (Dvd.intro_left _ (pow_succ 256 n).symm)
      rw [leBytes, leBytes, hrest, hfirst, ih]

theorem leBytes_add (n k v : ℕ) : leBytes (n + k) v = leBytes n v ++ leBytes k (v / 256 ^ n) := by
  induction n generalizing v with
  | zero => rw [Nat.zero_add, pow_zero, Nat.div_one, leBytes, List.nil_append]
  | succ n ih =>
      rw [Nat.succ_add, leBytes, leBytes, ih, Nat.div_div_eq_div_mul, ← pow_succ', List.cons_append]

/-- The octets of `count` are those of the number of bits. -/
theorem Taken.bits (h : Taken ctx message) : encode [ctx.count0, ctx.count1] = leBytes 8 (8 * message.length) := by
  have hlow := ctx.count0.toNat_lt
  have h4 : (256 : ℕ) ^ 4 = 2 ^ 32 := by norm_num
  have h8 : (256 : ℕ) ^ 8 = 2 ^ 64 := by norm_num
  have hdiv : (ctx.count1.toNat * 2 ^ 32 + ctx.count0.toNat) / 2 ^ 32 = ctx.count1.toNat := by omega
  have hmod : (ctx.count1.toNat * 2 ^ 32 + ctx.count0.toNat) % 2 ^ 32 = ctx.count0.toNat := by omega
  rw [encode_eq, ← leBytes_mod 8, h8, ← h.count, leBytes_add 4 4, h4, hdiv, ← leBytes_mod 4, h4, hmod]
  rfl

theorem Taken.result (h : Taken ctx (pad message)) :
    encode [ctx.state.a, ctx.state.b, ctx.state.c, ctx.state.d] = digest message := by
  have hchain := congrArg BlockHash.chain h.hash
  rw [BlockHash.chain_absorb _ _ (by decide)] at hchain
  rw [encode_eq, digest, ← hchain]
  simp only [List.flatMap_cons, List.flatMap_nil, List.append_nil, List.append_assoc]

/-- `padLen` -/
theorem Taken.padLen (h : Taken ctx message) :
    (if (ctx.count0 >>> 3) &&& 0x3f < 56 then (56 : UInt32) - ((ctx.count0 >>> 3) &&& 0x3f)
      else (120 : UInt32) - ((ctx.count0 >>> 3) &&& 0x3f)).toNat = zeros message.length + 1 := by
  have hindex := h.index
  generalize (ctx.count0 >>> 3) &&& 0x3f = index at hindex
  have h56 : (56 : UInt32).toNat = 56 := rfl
  have h120 : (120 : UInt32).toNat = 120 := rfl
  rw [zeros]
  split
  · next hlt =>
      rw [UInt32.lt_iff_toNat_lt, h56] at hlt
      rw [UInt32.toNat_sub_of_le _ _ (UInt32.le_iff_toNat_le.2 hlt.le), h56]
      omega
  · next hge =>
      rw [UInt32.lt_iff_toNat_lt, h56] at hge
      rw [UInt32.toNat_sub_of_le _ _ (UInt32.le_iff_toNat_le.2 (by omega)), h120]
      omega

/-- A piece of `PADDING`. -/
theorem slice_padding {n : ℕ} (hn : n < 64) :
    (ByteMem.storeBytes (fun _ => 0) 0 padding).slice 0 (n + 1) = 0x80 :: List.replicate n 0 := by
  have hall := ByteMem.slice_storeBytes (fun _ => 0) 0 padding
  have hsplit : padding = 0x80 :: List.replicate n 0 ++ List.replicate (63 - n) 0 := by
    rw [padding, List.cons_append, ← List.replicate_add]
    congr 2
    omega
  have hlength : padding.length = n + 1 + (63 - n) := by
    rw [padding, List.length_cons, List.length_replicate]
    omega
  rw [hlength, ByteMem.slice_add] at hall
  exact List.append_inj_left (hall.trans hsplit) (by simp)

/-- `MD5Final` pads the message. -/
theorem md5Final_eq (h : Taken ctx message) (hfuel : 1 < fuel) :
    ∃ wiped, md5Final fuel ctx = some (digest message, wiped) := by
  have hpadLen := h.padLen
  have hzeros : zeros message.length < 64 := Nat.mod_lt _ (by decide)
  have hbits := h.bits
  simp only [md5Final, hbits]
  generalize (if (ctx.count0 >>> 3) &&& 0x3f < 56 then (56 : UInt32) - ((ctx.count0 >>> 3) &&& 0x3f)
    else (120 : UInt32) - ((ctx.count0 >>> 3) &&& 0x3f)) = padLen at hpadLen
  obtain ⟨padded, hrun, hpadded⟩ := md5Update_eq (ByteMem.storeBytes (fun _ => 0) 0 padding) h
    (show message.length % 64 + padLen.toNat < 2 ^ 32 by omega) (show padLen.toNat / 64 < fuel by omega)
  have h8 : (8 : UInt32).toNat = 8 := rfl
  obtain ⟨ended, hrun', hended⟩ := md5Update_eq
    (ByteMem.storeBytes (fun _ => 0) 0 (leBytes 8 (8 * message.length))) hpadded
    (show _ + (8 : UInt32).toNat < 2 ^ 32 by rw [h8]; omega)
    (show (8 : UInt32).toNat / 64 < fuel by rw [h8]; omega)
  have hslice := ByteMem.slice_storeBytes (fun _ => 0) 0 (leBytes 8 (8 * message.length))
  rw [leBytes_length] at hslice
  rw [hpadLen, slice_padding hzeros, h8, hslice] at hended
  rw [hrun, Option.bind_some, hrun', Option.map_some, hended.result]
  exact ⟨_, rfl⟩

/-! ## Any number of pieces -/

/-- The calls of `md_32`, with `MD5Update` called once for each piece; `none` if one of them has not returned
    after `fuel` turns of its loop. -/
def md5 (fuel : ℕ) (buffer : ByteMem) (pieces : List (ByteMem × UInt32)) : Option (List UInt8) :=
  (pieces.foldlM (fun ctx (input, inputLen) => md5Update fuel ctx input inputLen) (md5Init buffer)).bind
    fun ctx => (md5Final fuel ctx).map Prod.fst

/-- The pieces put together. -/
def joined (pieces : List (ByteMem × UInt32)) : List UInt8 :=
  pieces.flatMap fun (input, inputLen) => input.slice 0 inputLen.toNat

/-- No piece is too long, each with what waits of the `n` octets before it. -/
def fits : ℕ → List (ByteMem × UInt32) → Prop
  | _, [] => True
  | n, (_, inputLen) :: pieces => n % 64 + inputLen.toNat < 2 ^ 32 ∧ fits (n + inputLen.toNat) pieces

theorem Taken.pieces {taken : List UInt8} (h : Taken ctx taken) {pieces : List (ByteMem × UInt32)}
    (hrun : pieces.foldlM (fun ctx (input, inputLen) => md5Update fuel ctx input inputLen) ctx = some ctx') :
    fits taken.length pieces ∧ Taken ctx' (taken ++ joined pieces) := by
  induction pieces generalizing ctx taken with
  | nil =>
      cases hrun
      exact ⟨trivial, by rwa [joined, List.flatMap_nil, List.append_nil]⟩
  | cons piece pieces ih =>
      obtain ⟨input, inputLen⟩ := piece
      rw [List.foldlM_cons] at hrun
      obtain ⟨ctx₁, hfirst, hrest⟩ := Option.bind_eq_some_iff.1 hrun
      obtain ⟨hfit, htaken⟩ := h.update hfirst
      obtain ⟨hfits, hall⟩ := ih htaken hrest
      rw [List.length_append, ByteMem.slice_length] at hfits
      exact ⟨⟨hfit, hfits⟩, by rwa [List.append_assoc] at hall⟩

theorem Taken.returns {taken : List UInt8} (h : Taken ctx taken) {pieces : List (ByteMem × UInt32)}
    (hfits : fits taken.length pieces) (hfuel : 2 ^ 26 < fuel) :
    ∃ ctx', pieces.foldlM (fun ctx (input, inputLen) => md5Update fuel ctx input inputLen) ctx = some ctx' := by
  induction pieces generalizing ctx taken with
  | nil => exact ⟨ctx, rfl⟩
  | cons piece pieces ih =>
      obtain ⟨input, inputLen⟩ := piece
      have hlen := inputLen.toNat_lt
      obtain ⟨ctx₁, hfirst, htaken⟩ := md5Update_eq input h hfits.1 (show inputLen.toNat / 64 < fuel by omega)
      obtain ⟨ctx', hrest⟩ := ih htaken (by rw [List.length_append, ByteMem.slice_length]; exact hfits.2)
      exact ⟨ctx', by rw [List.foldlM_cons]; exact Option.bind_eq_some_iff.2 ⟨ctx₁, hfirst, hrest⟩⟩

/-- The code returns the MD5 digest of the pieces put together, however they were cut, with the constants being
    the sines they are supposed to be; and it returns exactly if no piece, with the octets that wait for it, is of
    `2 ^ 32` octets or more. -/
theorem md5_returns_iff (buffer : ByteMem) (pieces : List (ByteMem × UInt32)) (result : List UInt8) :
    (∃ fuel, md5 fuel buffer pieces = some result) ↔ fits 0 pieces ∧ result = digest (joined pieces) := by
  constructor
  · rintro ⟨fuel, hrun⟩
    obtain ⟨ctx, hpieces, hfinal⟩ := Option.bind_eq_some_iff.1 hrun
    obtain ⟨⟨d, wiped⟩, hlast, rfl⟩ := Option.map_eq_some_iff.1 hfinal
    obtain ⟨hfits, htaken⟩ := (taken_md5Init buffer).pieces hpieces
    obtain ⟨wiped', heq⟩ := md5Final_eq htaken (show 1 < fuel + 2 by omega)
    rw [md5Final_mono 2 hlast] at heq
    cases heq
    exact ⟨hfits, rfl⟩
  · rintro ⟨hfits, rfl⟩
    obtain ⟨ctx, hpieces⟩ := (taken_md5Init buffer).returns hfits (show 2 ^ 26 < 2 ^ 26 + 1 by omega)
    obtain ⟨-, htaken⟩ := (taken_md5Init buffer).pieces hpieces
    obtain ⟨wiped, hfinal⟩ := md5Final_eq htaken (show 1 < 2 ^ 26 + 1 by omega)
    exact ⟨2 ^ 26 + 1, Option.bind_eq_some_iff.2 ⟨ctx, hpieces, Option.map_eq_some_iff.2 ⟨_, hfinal, rfl⟩⟩⟩

example : md5 2 (fun _ => 7) [(fun _ => 0x61, 1)] = some [0x0c, 0xc1, 0x75, 0xb9, 0xc0, 0xf1, 0xb6, 0xa8,
    0x31, 0xc3, 0x99, 0xe2, 0x69, 0x77, 0x26, 0x61] := by decide +kernel

end Md5

end Prtp
