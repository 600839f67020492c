import Prtp.RtcpEncoder

set_option autoImplicit false

/-! # What the encoder calls build

The buffer of an encoder seen as octet strings: a finished part, and a sub-packet under way with
its count, its type and its body so far. Each encoder call that has the room extends the body or
opens a sub-packet; `rtcp_encoder_end_packet` moves the sub-packet to the finished part. -/

namespace Prtp

/-- A finished sub-packet: its header word, with the length in words less one, and its body. -/
def rtcpSubPkt (count : Nat) (pt : UInt8) (body : List UInt8) : List UInt8 :=
  [UInt8.ofNat (128 + count), pt] ++ be16Bytes (UInt16.ofNat (body.length / 4)) ++ body

@[simp] theorem rtcpSubPkt_length (count : Nat) (pt : UInt8) (body : List UInt8) :
    (rtcpSubPkt count pt body).length = 4 + body.length := by
  simp [rtcpSubPkt]; omega

namespace RtcpEncoder

/-- The buffer holds the finished sub-packets `done`, and nothing is under way. -/
structure Complete (re : RtcpEncoder) (cap : Nat) (done : List UInt8) : Prop where
  bufLen : re.bufLen = cap
  writeNdx : re.writeNdx = done.length
  holds : re.buf.Holds 0 done

/-- The buffer holds the finished sub-packets `done` and, behind them, a sub-packet with the given
    count, type and body, whose length word is not settled yet. -/
structure Building (re : RtcpEncoder) (cap : Nat) (done : List UInt8) (count : Nat) (pt : UInt8)
    (body : List UInt8) : Prop where
  bufLen : re.bufLen = cap
  rtcp : re.rtcp = done.length
  writeNdx : re.writeNdx = done.length + 4 + body.length
  before : re.buf.Holds 0 done
  head : re.buf.Holds done.length [UInt8.ofNat (128 + count), pt]
  content : re.buf.Holds (done.length + 4) body
  count_lt : count < 32

variable {re : RtcpEncoder} {cap count : Nat} {done body : List UInt8} {pt : UInt8}

theorem Complete.init (stack : ByteMem) (bufLen : Nat) : Complete (init stack bufLen) bufLen [] :=
  ⟨rfl, rfl, ByteMem.holds_nil ..⟩

theorem Complete.spaceLeft_eq (h : Complete re cap done) : re.spaceLeft = cap - done.length := by
  rw [spaceLeft, h.bufLen, h.writeNdx]

theorem Building.spaceLeft_eq (h : Building re cap done count pt body) :
    re.spaceLeft = cap - (done.length + 4 + body.length) := by
  rw [spaceLeft, h.bufLen, h.writeNdx]

/-- The three `begin` calls: a header word, and a body of fixed size. -/
theorem Complete.beginPkt (h : Complete re cap done) (pt : UInt8) (body : List UInt8) :
    Building (((re.setCurrentPkt.setPt pt).put (re.writeNdx + 4) body).advance (4 + body.length))
      cap done 0 pt body where
  bufLen := h.bufLen
  rtcp := h.writeNdx
  writeNdx := by simp only [advance, put, setPt, setCurrentPkt, h.writeNdx, Nat.add_assoc]
  before := by
    simp only [advance, put, setPt, setCurrentPkt, h.writeNdx]
    have hstore := h.holds.store 0x80 (o := done.length) (by omega)
    have hlength := hstore.storeBytes (o := done.length + 2) (l := [0, 0]) (by omega)
    exact (hlength.store pt (by omega)).storeBytes (by omega)
  head := by
    simp only [advance, put, setPt, setCurrentPkt, h.writeNdx]
    refine ByteMem.Holds.storeBytes ?_ (by simp only [List.length_cons, List.length_nil]; omega)
    rw [show [UInt8.ofNat (128 + 0), pt] = [0x80] ++ [pt] from rfl, ByteMem.holds_append]
    refine ⟨ByteMem.Holds.store ?_ _ (by simp), by simp [ByteMem.store_apply]⟩
    refine ByteMem.Holds.storeBytes ?_ (by simp)
    simp [ByteMem.store_apply]
  content := by
    simp only [advance, put, setPt, setCurrentPkt, h.writeNdx]
    exact ByteMem.Holds.storeBytes_self ..
  count_lt := by decide

/-- Writing at the write index extends the body. -/
theorem Building.append (h : Building re cap done count pt body) (bs : List UInt8) :
    Building ((re.put re.writeNdx bs).advance bs.length) cap done count pt (body ++ bs) where
  bufLen := h.bufLen
  rtcp := h.rtcp
  writeNdx := by simp only [advance, put, h.writeNdx, List.length_append, Nat.add_assoc]
  before := h.before.storeBytes (by rw [h.writeNdx]; omega)
  head := h.head.storeBytes (by
    rw [h.writeNdx]; simp only [List.length_cons, List.length_nil]; omega)
  content := by
    rw [ByteMem.holds_append]
    refine ⟨h.content.storeBytes (by rw [h.writeNdx]; omega), ?_⟩
    rw [← h.writeNdx]
    exact ByteMem.Holds.storeBytes_self ..
  count_lt := h.count_lt

theorem Building.head_eq (h : Building re cap done count pt body) :
    (re.buf re.rtcp).toNat = 128 + count ∧ re.buf (re.rtcp + 1) = pt := by
  have hcount := h.count_lt
  have hhead := h.head
  rw [show [UInt8.ofNat (128 + count), pt] = [UInt8.ofNat (128 + count)] ++ [pt] from rfl,
    ByteMem.holds_append, ByteMem.holds_singleton, ByteMem.holds_singleton] at hhead
  rw [h.rtcp, hhead.1]
  refine ⟨?_, hhead.2⟩
  rw [UInt8.toNat_ofNat']
  omega

theorem Building.count_eq (h : Building re cap done count pt body) : re.count = count := by
  have hcount := h.count_lt
  rw [RtcpEncoder.count, h.head_eq.1]
  omega

theorem Building.setCount (h : Building re cap done count pt body) (n : Nat) :
    Building (re.setCount n) cap done (n % 32) pt body where
  bufLen := h.bufLen
  rtcp := h.rtcp
  writeNdx := h.writeNdx
  before := h.before.store _ (by rw [h.rtcp]; omega)
  head := by
    have hcount := h.count_lt
    rw [show [UInt8.ofNat (128 + n % 32), pt] = [UInt8.ofNat (128 + n % 32)] ++ [pt] from rfl,
      ByteMem.holds_append, ByteMem.holds_singleton, ByteMem.holds_singleton]
    simp only [RtcpEncoder.setCount, ByteMem.store_apply]
    refine ⟨?_, ?_⟩
    · rw [if_pos h.rtcp.symm, h.head_eq.1]
      congr 1
      omega
    · rw [if_neg (by rw [h.rtcp]; simp), ← h.rtcp]
      exact h.head_eq.2
  content := h.content.store _ (by rw [h.rtcp]; omega)
  count_lt := Nat.mod_lt _ (by decide)

/-- A finished sub-packet of whole words joins the finished part. -/
theorem Building.endPacket (h : Building re cap done count pt body) (halign : body.length % 4 = 0) :
    ∃ re', re.endPacket = some re' ∧ Complete re' cap (done ++ rtcpSubPkt count pt body) := by
  have hlen : re.writeNdx - re.rtcp = 4 + body.length := by
    rw [h.writeNdx, h.rtcp]; omega
  have hword : UInt16.ofNat ((4 + body.length) / 4 + 65535) = UInt16.ofNat (body.length / 4) := by
    apply UInt16.toNat.inj
    simp only [UInt16.toNat_ofNat']
    omega
  simp only [RtcpEncoder.endPacket, hlen, hword]
  rw [if_neg (by omega)]
  refine ⟨_, rfl, h.bufLen, ?_, ?_⟩
  · simp only [put, h.writeNdx, List.length_append, rtcpSubPkt_length, Nat.add_assoc]
  · simp only [put, h.rtcp]
    rw [ByteMem.holds_append, rtcpSubPkt, ByteMem.holds_append, ByteMem.holds_append]
    simp only [List.length_append, List.length_cons, List.length_nil, be16Bytes_length, Nat.zero_add]
    refine ⟨h.before.storeBytes (by omega), ⟨h.head.storeBytes ?_, ?_⟩, h.content.storeBytes ?_⟩
    · simp
    · exact ByteMem.Holds.storeBytes_self ..
    · simp only [be16Bytes_length]; omega

/-! ## The calls of a report -/

theorem Complete.srBegin (h : Complete re cap done) (hroom : done.length + 28 ≤ cap)
    (ssrc ntpMsb ntpLsb rtpTs pktCount octetCount : UInt32) :
    ∃ re', re.srBegin ssrc ntpMsb ntpLsb rtpTs pktCount octetCount = (true, re') ∧
      Building re' cap done 0 rtcpSr
        (be32Bytes ssrc ++ be32Bytes ntpMsb ++ be32Bytes ntpLsb ++ be32Bytes rtpTs ++
          be32Bytes pktCount ++ be32Bytes octetCount) := by
  rw [RtcpEncoder.srBegin, if_neg (by rw [h.spaceLeft_eq]; omega)]
  exact ⟨_, rfl, h.beginPkt ..⟩

theorem Complete.rrBegin (h : Complete re cap done) (hroom : done.length + 8 ≤ cap)
    (ssrc : UInt32) :
    ∃ re', re.rrBegin ssrc = (true, re') ∧ Building re' cap done 0 rtcpRr (be32Bytes ssrc) := by
  rw [RtcpEncoder.rrBegin, if_neg (by rw [h.spaceLeft_eq]; omega)]
  exact ⟨_, rfl, h.beginPkt ..⟩

theorem Complete.sdesBegin (h : Complete re cap done) (hroom : done.length + 4 ≤ cap) :
    ∃ re', re.sdesBegin = (true, re') ∧ Building re' cap done 0 rtcpSdes [] := by
  rw [RtcpEncoder.sdesBegin, if_neg (by rw [h.spaceLeft_eq]; omega)]
  exact ⟨_, rfl, h.beginPkt rtcpSdes []⟩

/-- A report block goes to the end of the sub-packet. -/
theorem Building.addRr (h : Building re cap done count pt body) {base : Nat}
    (hbase : 4 + body.length = base + 24 * count) (hcount : count + 1 < 32)
    (hroom : done.length + 4 + body.length + 24 ≤ cap) (rr : RtcpRr) :
    ∃ re', RtcpEncoder.addRr base re rr = (true, re') ∧
      Building re' cap done (count + 1) pt (body ++ rr.bytes) := by
  have hoff : re.rtcp + base + 24 * count = re.writeNdx := by
    rw [h.rtcp, h.writeNdx]; omega
  rw [RtcpEncoder.addRr, if_neg (by rw [h.spaceLeft_eq]; omega)]
  simp only [h.count_eq, hoff]
  have hadd := (h.append rr.bytes).setCount (count + 1)
  rw [Nat.mod_eq_of_lt hcount] at hadd
  exact ⟨_, rfl, hadd⟩

/-- An encoder without room for a report block is left alone. -/
theorem Building.addRr_full (h : Building re cap done count pt body) {base : Nat}
    (hfull : cap < done.length + 4 + body.length + 24) (rr : RtcpRr) :
    RtcpEncoder.addRr base re rr = (false, re) := by
  rw [RtcpEncoder.addRr, if_pos (by rw [h.spaceLeft_eq]; omega)]

/-- The octets `rtcp_encoder_sdes_chunk_end` pads a chunk with, after its null octet. -/
def chunkPad (chunkSize : Nat) : Nat := (4 - chunkSize % 4) % 4

/-- A chunk: its SSRC, a CNAME item, and null octets up to the next word, at least one. -/
def sdesChunk (ssrc : UInt32) (cname : List UInt8) : List UInt8 :=
  be32Bytes ssrc ++ ([rtcpSdesCname, UInt8.ofNat cname.length] ++ cname) ++ [0] ++
    List.replicate (chunkPad (7 + cname.length)) 0

@[simp] theorem sdesChunk_length (ssrc : UInt32) (cname : List UInt8) :
    (sdesChunk ssrc cname).length = 4 * ((10 + cname.length) / 4) := by
  simp [sdesChunk, chunkPad]; omega

/-- The room an SDES sub-packet with one chunk takes. -/
def sdesSize (cnameLen : Nat) : Nat := 4 + 4 * ((10 + cnameLen) / 4)

theorem Building.sdesChunkBegin (h : Building re cap done count pt body)
    (hroom : done.length + 4 + body.length + 4 ≤ cap) (ssrc : UInt32) :
    ∃ re', re.sdesChunkBegin ssrc = (true, re') ∧ re'.chunkBegin = re.writeNdx ∧
      Building re' cap done ((count + 1) % 32) pt (body ++ be32Bytes ssrc) := by
  rw [RtcpEncoder.sdesChunkBegin, if_neg (by rw [h.spaceLeft_eq]; omega), h.count_eq]
  have happ := (h.setCount (count + 1)).append (be32Bytes ssrc)
  exact ⟨_, rfl, rfl, happ.1, happ.2, happ.3, happ.4, happ.5, happ.6, happ.7⟩

theorem Building.sdesChunkAddCname (h : Building re cap done count pt body) (name : ByteMem)
    (len : UInt8) (hroom : done.length + 4 + body.length + (len.toNat + 2) ≤ cap) :
    ∃ re', re.sdesChunkAddCname name len = (true, re') ∧ re'.chunkBegin = re.chunkBegin ∧
      Building re' cap done count pt (body ++ ([rtcpSdesCname, len] ++ name.slice 0 len.toNat)) := by
  rw [RtcpEncoder.sdesChunkAddCname, if_neg (by rw [h.spaceLeft_eq]; omega)]
  refine ⟨_, rfl, rfl, ?_⟩
  have happ := h.append ([rtcpSdesCname, len] ++ name.slice 0 len.toNat)
  rw [List.length_append, ByteMem.slice_length] at happ
  exact happ

theorem Building.padChunk (h : Building re cap done count pt body)
    (hroom : re.writeNdx + chunkPad (re.writeNdx - re.chunkBegin) ≤ cap) :
    ∃ re', re.padChunk = (true, re') ∧
      Building re' cap done count pt
        (body ++ List.replicate (chunkPad (re.writeNdx - re.chunkBegin)) 0) := by
  rw [RtcpEncoder.padChunk]
  rw [chunkPad] at hroom ⊢
  split
  · rename_i halign
    rw [halign]
    exact ⟨re, rfl, by simpa using h⟩
  · rename_i halign
    rw [Nat.mod_eq_of_lt (show 4 - (re.writeNdx - re.chunkBegin) % 4 < 4 by omega)] at hroom ⊢
    rw [if_neg (by rw [h.spaceLeft_eq, ← h.writeNdx]; omega)]
    have hpad := h.append (List.replicate (4 - (re.writeNdx - re.chunkBegin) % 4) 0)
    rw [List.length_replicate] at hpad
    exact ⟨_, rfl, hpad⟩

theorem Building.padChunk_full (h : Building re cap done count pt body)
    (hndx : re.writeNdx ≤ cap) (hfull : cap < re.writeNdx + chunkPad (re.writeNdx - re.chunkBegin)) :
    re.padChunk.1 = false := by
  rw [RtcpEncoder.padChunk]
  rw [chunkPad] at hfull
  rw [if_neg (by omega), if_pos]
  rw [h.spaceLeft_eq, ← h.writeNdx]
  omega

/-- A chunk is ended with a null octet and padding. -/
theorem Building.sdesChunkEnd (h : Building re cap done count pt body)
    (hroom : re.writeNdx + 1 + chunkPad (re.writeNdx + 1 - re.chunkBegin) ≤ cap) :
    ∃ re', re.sdesChunkEnd = (true, re') ∧
      Building re' cap done count pt
        (body ++ [0] ++ List.replicate (chunkPad (re.writeNdx + 1 - re.chunkBegin)) 0) := by
  rw [RtcpEncoder.sdesChunkEnd, if_neg (by rw [h.spaceLeft_eq, ← h.writeNdx]; omega)]
  exact (h.append [0]).padChunk hroom

/-- A chunk without room for its null octets is not ended. -/
theorem Building.sdesChunkEnd_full (h : Building re cap done count pt body)
    (hfull : cap < re.writeNdx + 1 + chunkPad (re.writeNdx + 1 - re.chunkBegin)) :
    re.sdesChunkEnd.1 = false := by
  rw [RtcpEncoder.sdesChunkEnd]
  split
  · rfl
  · rename_i hone
    rw [h.spaceLeft_eq, ← h.writeNdx] at hone
    refine (h.append [0]).padChunk_full ?_ hfull
    simp only [advance, put, List.length_singleton]
    omega

/-! ## The calls of a BYE -/

theorem Complete.byeBegin (h : Complete re cap done) (hroom : done.length + 4 ≤ cap) :
    ∃ re', re.byeBegin = (true, re') ∧ Building re' cap done 0 rtcpBye [] := by
  rw [RtcpEncoder.byeBegin, if_neg (by rw [h.spaceLeft_eq]; omega)]
  exact ⟨_, rfl, h.beginPkt rtcpBye []⟩

/-- A source goes to the place the count says. That is the end of the sub-packet as long as the count has
    not wrapped, and somewhere inside it afterwards. -/
theorem Building.byeAddSsrc (h : Building re cap done count pt body)
    (hroom : done.length + 4 + body.length + 4 ≤ cap) (ssrc : UInt32) :
    ∃ re' body', re.byeAddSsrc ssrc = (true, re') ∧ body'.length = body.length + 4 ∧
      (4 * count = body.length → body' = body ++ be32Bytes ssrc) ∧
      Building re' cap done ((count + 1) % 32) pt body' := by
  let mem := re.buf.storeBytes (re.rtcp + 4 + 4 * count) (be32Bytes ssrc)
  have hoff : done.length + 4 ≤ re.rtcp + 4 + 4 * count := by
    rw [h.rtcp]
    omega
  have hput : Building ((re.put (re.rtcp + 4 + 4 * count) (be32Bytes ssrc)).advance 4) cap done
      count pt (mem.slice (done.length + 4) (body.length + 4)) := by
    refine ⟨h.bufLen, h.rtcp, ?_, h.before.storeBytes (by omega), h.head.storeBytes ?_, ?_, h.count_lt⟩
    · simp only [advance, put, h.writeNdx, ByteMem.slice_length, Nat.add_assoc]
    · rw [List.length_cons, List.length_singleton]
      omega
    · exact ByteMem.holds_slice ..
  rw [RtcpEncoder.byeAddSsrc, if_neg (by rw [h.spaceLeft_eq]; omega), h.count_eq]
  refine ⟨_, _, rfl, ByteMem.slice_length .., fun hend => ?_, hput.setCount (count + 1)⟩
  have hsame : mem.Holds (done.length + 4) (body ++ be32Bytes ssrc) := by
    rw [ByteMem.holds_append, ← hend]
    refine ⟨h.content.storeBytes (by rw [h.rtcp]; omega), ?_⟩
    rw [← h.rtcp]
    exact ByteMem.Holds.storeBytes_self ..
  rwa [ByteMem.Holds, List.length_append, be32Bytes_length] at hsame

/-- The room the reason for leaving takes: a length octet, the text, and null octets up to the next word. -/
def reasonSize (len : Nat) : Nat := 4 * ((len % 256 + 4) / 4)

theorem reason_total (len : Nat) :
    1 + len % 256 + (if (1 + len % 256) % 4 = 0 then 0 else 4 - (1 + len % 256) % 4) =
      reasonSize len := by
  rw [reasonSize]
  split
  · omega
  · omega

theorem Building.byeAddReason (h : Building re cap done count pt body) (reason : List UInt8)
    (hroom : done.length + 4 + body.length + reasonSize reason.length ≤ cap) :
    ∃ re' text, re.byeAddReason reason = (true, re') ∧ text.length = reasonSize reason.length ∧
      Building re' cap done count pt (body ++ text) := by
  have hle : reason.length % 256 ≤ reason.length := Nat.mod_le ..
  simp only [RtcpEncoder.byeAddReason, reason_total]
  rw [if_neg (by rw [h.spaceLeft_eq]; omega)]
  have happ := h.append ([UInt8.ofNat (reason.length % 256)] ++ reason.take (reason.length % 256) ++
    List.replicate (if (1 + reason.length % 256) % 4 = 0 then 0
      else 4 - (1 + reason.length % 256) % 4) 0)
  have hlen : ([UInt8.ofNat (reason.length % 256)] ++ reason.take (reason.length % 256) ++
      List.replicate (if (1 + reason.length % 256) % 4 = 0 then 0
        else 4 - (1 + reason.length % 256) % 4) 0).length = reasonSize reason.length := by
    rw [List.length_append, List.length_append, List.length_singleton, List.length_take,
      List.length_replicate, Nat.min_eq_left hle, reason_total]
  rw [hlen] at happ
  exact ⟨_, _, rfl, hlen, happ⟩

theorem Building.byeAddReason_full (h : Building re cap done count pt body) {reason : List UInt8}
    (hfull : cap < done.length + 4 + body.length + reasonSize reason.length) :
    re.byeAddReason reason = (false, re) := by
  simp only [RtcpEncoder.byeAddReason, reason_total]
  rw [if_pos]
  rw [h.spaceLeft_eq, reasonSize] at *
  omega

end RtcpEncoder

end Prtp
