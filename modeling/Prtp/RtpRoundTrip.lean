import Prtp.RtpTransmit

set_option autoImplicit false

/-! # What a data packet becomes at the other end

`rtp_tx` puts the pieces of a packet where the header size macro says, `rtp_header_validity_check` takes it
apart by what the first octet says. The two agree on everything as long as the number of CSRCs fits the four
bits of `cc`; from sixteen on the header is written for more CSRCs than it announces, and the rest of the
list is taken for payload. -/

namespace Prtp

open ByteReader

namespace Session

/-! ## What is stored -/

/-- A packet lies in memory as `rtp_tx` puts it together, with `pad` octets of padding. -/
structure PktAt (s : Session) (payload : ByteMem) (payloadLen : ℕ) (rtpTs : UInt32) (csrc : ℕ → UInt32)
    (ncsrc pad : ℕ) (m : ByteMem) : Prop where
  first : (m 0).toNat = 128 + (if pad = 0 then 0 else 32) + ncsrc % 16
  second : (m 1).toNat = s.config.pt.toNat % 128
  seq : m.Holds 2 (be16Bytes s.seq)
  ts : m.Holds 4 (be32Bytes rtpTs)
  ssrc : m.Holds 8 (be32Bytes s.selfMember.ssrc)
  csrcs : m.Holds 12 (csrcBytes csrc ncsrc)
  payload : m.Holds (rtpHdrSize ncsrc) (payload.slice 0 payloadLen)
  padding : pad ≠ 0 → (m (rtpPktSize ncsrc payloadLen + pad - 1)).toNat = pad

/-- The stores of the header, the CSRC list and the payload leave the packet without padding. -/
theorem pktAt_hdrStores (s : Session) (payload : ByteMem) (payloadLen : ℕ) (rtpTs : UInt32)
    (csrc : ℕ → UInt32) (ncsrc : ℕ) (m : ByteMem) :
    PktAt s payload payloadLen rtpTs csrc ncsrc 0
      ((s.rtpTxHdrStores payload payloadLen rtpTs csrc ncsrc).foldl (fun m w => m.store w.1 w.2) m) := by
  have hhdr : rtpHdrSize ncsrc = 12 + 4 * ncsrc := by
    rw [rtpHdrSize]
    omega
  simp only [rtpTxHdrStores, List.foldl_append, foldl_storesAt]
  generalize hfixed : ([UInt8.ofNat (128 + ncsrc % 16), UInt8.ofNat (s.config.pt.toNat % 128)] ++
    be16Bytes s.seq ++ be32Bytes rtpTs ++ be32Bytes s.selfMember.ssrc) = fixed
  have hlen : fixed.length = 12 := by
    rw [← hfixed]
    rfl
  have hstored := ByteMem.Holds.storeBytes_self
    (m.storeBytes (rtpHdrSize ncsrc) (payload.slice 0 payloadLen)) 0 fixed
  have hkept := hstored.storeBytes (o := 12) (l := csrcBytes csrc ncsrc) (by omega)
  have hpayload : ((m.storeBytes (rtpHdrSize ncsrc) (payload.slice 0 payloadLen)).storeBytes 0
      fixed).Holds (rtpHdrSize ncsrc) (payload.slice 0 payloadLen) :=
    (ByteMem.Holds.storeBytes_self ..).storeBytes (by omega)
  rw [← hfixed] at hkept
  rw [ByteMem.holds_append, ByteMem.holds_append, ByteMem.holds_append, ByteMem.holds_cons,
    ByteMem.holds_singleton] at hkept
  obtain ⟨⟨⟨⟨hfirst, hsecond⟩, hseq⟩, hts⟩, hssrc⟩ := hkept
  rw [hfixed] at hfirst hsecond hseq hts hssrc
  refine ⟨?_, ?_, hseq, hts, hssrc, ByteMem.Holds.storeBytes_self .., ?_, fun h => absurd rfl h⟩
  · rw [hfirst, UInt8.toNat_ofNat', if_pos rfl]
    omega
  · rw [hsecond, UInt8.toNat_ofNat']
    omega
  · refine hpayload.storeBytes ?_
    rw [csrcBytes_length]
    omega

/-- The stores of the padding add it to the packet. -/
theorem PktAt.pad {s : Session} {payload : ByteMem} {payloadLen : ℕ} {rtpTs : UInt32}
    {csrc : ℕ → UInt32} {ncsrc : ℕ} {m : ByteMem}
    (h : PktAt s payload payloadLen rtpTs csrc ncsrc 0 m) {pad : ℕ} (hpos : 0 < pad) (hlt : pad < 4) :
    PktAt s payload payloadLen rtpTs csrc ncsrc pad
      ((rtpTxPadStores ncsrc (rtpPktSize ncsrc payloadLen) pad).foldl
        (fun m w => m.store w.1 w.2) m) := by
  have hhdr : rtpHdrSize ncsrc = 12 + 4 * ncsrc := by
    rw [rtpHdrSize]
    omega
  have hsize : rtpPktSize ncsrc payloadLen = rtpHdrSize ncsrc + payloadLen := rfl
  simp only [rtpTxPadStores, List.foldl_append, foldl_storesAt, List.foldl_cons, List.foldl_nil]
  have hkept : ∀ {off : ℕ} {bs : List UInt8}, m.Holds off bs → 1 ≤ off →
      off + bs.length ≤ rtpPktSize ncsrc payloadLen →
      ((m.storeBytes (rtpPktSize ncsrc payloadLen) (List.replicate (pad - 1) 0 ++
        [UInt8.ofNat pad])).store 0 (UInt8.ofNat (160 + ncsrc % 16))).Holds off bs :=
    fun hbs hlo hhi => (hbs.storeBytes (Or.inr hhi)).store _ (Or.inl hlo)
  have hpadding := ByteMem.Holds.storeBytes_self m (rtpPktSize ncsrc payloadLen)
    (List.replicate (pad - 1) 0 ++ [UInt8.ofNat pad])
  rw [ByteMem.holds_append, List.length_replicate, ByteMem.holds_singleton] at hpadding
  refine ⟨?_, ?_, hkept h.seq (by omega) ?_, hkept h.ts (by omega) ?_, hkept h.ssrc (by omega) ?_,
    hkept h.csrcs (by omega) ?_, hkept h.payload (by omega) ?_, fun _ => ?_⟩
  · rw [ByteMem.store_apply, if_pos rfl, UInt8.toNat_ofNat', if_neg (Nat.pos_iff_ne_zero.1 hpos)]
    omega
  · have hsecond : m.Holds 1 [m 1] := (ByteMem.holds_singleton ..).2 rfl
    have hone := (ByteMem.holds_singleton ..).1 (hkept hsecond (Nat.le_refl 1)
      (by rw [List.length_singleton]; omega))
    rw [hone]
    exact h.second
  · rw [be16Bytes_length]
    omega
  · rw [be32Bytes_length]
    omega
  · rw [be32Bytes_length]
    omega
  · rw [csrcBytes_length]
    omega
  · rw [ByteMem.slice_length]
    omega
  · rw [ByteMem.store_apply, if_neg (by omega), Nat.add_sub_assoc hpos, hpadding.2, UInt8.toNat_ofNat']
    omega

/-- A packet that is handed to `tx_rtp`, as it lies in `rtp_pkt`. -/
theorem pktAt_rtpTxBuild {s : Session} {payload : ByteMem} {payloadLen : UInt32} {rtpTs : UInt32}
    {csrc : ℕ → UInt32} {ncsrc : UInt8} {size : ℕ}
    (h : (s.rtpTxBuild payload payloadLen rtpTs csrc ncsrc).2 = some size) (m : ByteMem) :
    ∃ pad, size = rtpPktSize ncsrc.toNat payloadLen.toNat + pad ∧ pad < 4 ∧
      (pad ≠ 0 → rtpPktSize ncsrc.toNat payloadLen.toNat % 4 ≠ 0) ∧
      PktAt s payload payloadLen.toNat rtpTs csrc ncsrc.toNat pad
        ((s.rtpTxBuild payload payloadLen rtpTs csrc ncsrc).1.foldl
          (fun m w => m.store w.1 w.2) m) := by
  have hhdr := pktAt_hdrStores s payload payloadLen.toNat rtpTs csrc ncsrc.toNat m
  simp only [rtpTxBuild] at h ⊢
  split at h
  · exact absurd h (by simp)
  · rename_i hsize
    rw [if_neg hsize]
    split at h
    · rename_i halign
      rw [if_pos halign]
      split at h
      · exact absurd h (by simp)
      · rename_i hpad
        rw [if_neg hpad, List.foldl_append]
        obtain rfl := Option.some.inj h
        have hmod := Nat.mod_lt (rtpPktSize ncsrc.toNat payloadLen.toNat) (show 0 < 4 by decide)
        have hne := halign.2
        exact ⟨_, rfl, by omega, fun _ => halign.2, hhdr.pad (by omega) (by omega)⟩
    · rename_i halign
      rw [if_neg halign]
      obtain rfl := Option.some.inj h
      exact ⟨0, rfl, by decide, fun hne => absurd rfl hne, hhdr⟩

/-! ## What is received -/

variable {s : Session} {payload : ByteMem} {payloadLen rtpTs : UInt32} {csrc : ℕ → UInt32}
  {ncsrc : ℕ} {pad : ℕ} {m pkt : ByteMem} {len : UInt32}

/-- A copy of the packet is as good. -/
theorem PktAt.copy {n : ℕ} (h : PktAt s payload n rtpTs csrc ncsrc pad m)
    (hcopy : pkt.Holds 0 (m.slice 0 (rtpPktSize ncsrc n + pad))) :
    PktAt s payload n rtpTs csrc ncsrc pad pkt := by
  have hhdr : rtpPktSize ncsrc n = 12 + 4 * ncsrc + n := by
    rw [rtpPktSize, rtpHdrSize]
    omega
  have hoctet : ∀ i, i < rtpPktSize ncsrc n + pad → pkt i = m i := by
    intro i hi
    have hone : m.Holds i [m i] := (ByteMem.holds_singleton ..).2 rfl
    exact (ByteMem.holds_singleton ..).1 (hone.of_slice hcopy (by rw [List.length_singleton]; omega))
  refine ⟨?_, ?_, h.seq.of_slice hcopy ?_, h.ts.of_slice hcopy ?_, h.ssrc.of_slice hcopy ?_,
    h.csrcs.of_slice hcopy ?_, h.payload.of_slice hcopy ?_, fun hpad => ?_⟩
  · rw [hoctet 0 (by omega)]
    exact h.first
  · rw [hoctet 1 (by omega)]
    exact h.second
  · rw [be16Bytes_length]
    omega
  · rw [be32Bytes_length]
    omega
  · rw [be32Bytes_length]
    omega
  · rw [csrcBytes_length]
    omega
  · rw [ByteMem.slice_length, rtpHdrSize]
    omega
  · rw [hoctet _ (by omega)]
    exact h.padding hpad

theorem PktAt.cc {n : ℕ} (h : PktAt s payload n rtpTs csrc ncsrc pad pkt) :
    hdrCc (pkt 0) = ncsrc % 16 := by
  have hfirst := h.first
  rw [hdrCc, hfirst]
  split
  · omega
  · omega

theorem readWords_length (i n : ℕ) : ((readWords i n).val pkt).length = n := by
  induction n generalizing i with
  | zero => rfl
  | succ n ih =>
      simp only [readWords, val_bind, val_pure, List.length_cons]
      rw [ih]

/-- The words of the list are read back as they were written. -/
theorem readWords_of_holds {ws : List UInt32} {i : ℕ} (h : pkt.Holds i (ws.flatMap be32Bytes)) :
    (readWords i ws.length).val pkt = ws := by
  induction ws generalizing i with
  | nil => rfl
  | cons w ws ih =>
      rw [List.flatMap_cons, ByteMem.holds_append, be32Bytes_length] at h
      obtain ⟨hw, hrest⟩ := h
      rw [List.length_cons]
      simp only [readWords, val_bind, val_pure]
      rw [ih hrest]
      exact congrArg (fun x => x :: ws) (val_be32_of_holds hw)

theorem csrcBytes_eq (csrc : ℕ → UInt32) (ncsrc : ℕ) :
    csrcBytes csrc ncsrc = ((List.range ncsrc).map csrc).flatMap be32Bytes := by
  rw [csrcBytes, List.flatMap_map]

/-- With the whole list announced the header is read back as it was written. -/
theorem PktAt.hdr {n : ℕ} (h : PktAt s payload n rtpTs csrc ncsrc pad pkt) (hcc : ncsrc < 16) :
    readRtpHdr.val pkt =
      ⟨s.seq, rtpTs, s.selfMember.ssrc, (List.range ncsrc).map csrc⟩ := by
  have hcsrcs := h.csrcs
  rw [csrcBytes_eq] at hcsrcs
  have hlist := readWords_of_holds hcsrcs
  rw [List.length_map, List.length_range] at hlist
  simp only [readRtpHdr, val_bind, val_pure]
  rw [val_be16_of_holds h.seq, val_be32_of_holds h.ts, val_be32_of_holds h.ssrc]
  have hcount : hdrCc ((byte 0).val pkt) = ncsrc := h.cc.trans (Nat.mod_eq_of_lt hcc)
  rw [hcount, hlist]

theorem sub_ofNat_eq {len n : UInt32} {k : ℕ} (h : len.toNat = k + n.toNat) :
    len - UInt32.ofNat k = n := by
  have hlt := len.toNat_lt
  apply UInt32.toNat.inj
  rw [UInt32.toNat_sub, UInt32.toNat_ofNat']
  omega

/-- With the whole list announced the check lets the packet pass, and finds the payload. -/
theorem PktAt.valid (h : PktAt s payload payloadLen.toNat rtpTs csrc ncsrc pad pkt)
    (hcc : ncsrc < 16) (hpt : s.config.pt.toNat < 128)
    (hlen : len.toNat = rtpPktSize ncsrc payloadLen.toNat + pad)
    (hpad : pad ≠ 0 → rtpPktSize ncsrc payloadLen.toNat % 4 ≠ 0) :
    (rtpHeaderValidityCheck len s.config.pt).val pkt = .ok (rtpHdrSize ncsrc, payloadLen) := by
  have hhdr : rtpHdrSize ncsrc = 12 + 4 * ncsrc := by
    rw [rtpHdrSize]
    omega
  have hsize : rtpPktSize ncsrc payloadLen.toNat = 12 + 4 * ncsrc + payloadLen.toNat := by
    rw [rtpPktSize, hhdr]
  have hcount : hdrCc (pkt 0) = ncsrc := h.cc.trans (Nat.mod_eq_of_lt hcc)
  have hfirst := h.first
  have hsecond := h.second
  rw [Nat.mod_eq_of_lt hcc] at hfirst
  rw [Nat.mod_eq_of_lt hpt] at hsecond
  have hlt := len.toNat_lt
  simp only [rtpHeaderValidityCheck, val_ite, val_bind, val_byte, val_pure, hcount]
  rw [if_neg (by omega), if_neg (by omega)]
  by_cases hnone : pad = 0
  · rw [if_pos hnone] at hfirst
    rw [if_neg (by omega), if_neg (by omega), if_neg (by omega), if_neg (by omega),
      sub_ofNat_eq (by omega : len.toNat = 12 + 4 * ncsrc + payloadLen.toNat), hhdr]
  · have hlast := h.padding hnone
    have hmod := hpad hnone
    rw [← hlen] at hlast
    rw [if_neg hnone] at hfirst
    rw [if_neg (by omega), if_neg (by omega), if_pos (by omega), if_neg (by omega), if_neg (by omega),
      hhdr]
    have hoctet : (pkt (len.toNat - 1)).toUInt32 = UInt32.ofNat pad := by
      apply UInt32.toNat.inj
      rw [UInt8.toNat_toUInt32, UInt32.toNat_ofNat', hlast]
      omega
    have hrest : len - UInt32.ofNat (12 + 4 * ncsrc) = payloadLen + UInt32.ofNat pad := by
      apply sub_ofNat_eq
      rw [UInt32.toNat_add, UInt32.toNat_ofNat']
      omega
    rw [hoctet, hrest, UInt32.add_sub_cancel]

/-! ## The round trip -/

/-- What a transmit writes down before it builds the packet leaves the packet's fields alone. -/
theorem rtpTxCount_fields (s : Session) (payloadLen : UInt32) :
    (s.rtpTxCount payloadLen).out = s.out ∧ (s.rtpTxCount payloadLen).seq = s.seq ∧
      (s.rtpTxCount payloadLen).config = s.config ∧
      (s.rtpTxCount payloadLen).selfMember.ssrc = s.selfMember.ssrc := by
  cases hsent : s.rtcpVar.weSent with
  | true =>
      simp only [rtpTxCount, hsent, if_true]
      exact ⟨rfl, rfl, rfl, rfl⟩
  | false =>
      simp only [rtpTxCount, hsent, Bool.false_eq_true, if_false]
      refine ⟨rfl, rfl, rfl, ?_⟩
      show ((modifyMember { s with rtcpVar := { s.rtcpVar with weSent := true } } s.self
        RtpMember.setSender).member s.self).ssrc = _
      rw [member_modifyMember, if_pos rfl]
      rfl

/-- The packet fits `rtp_pkt`, and `rtp_tx` hands these octets to `tx_rtp`. -/
structure SendsRtp (s : Session) (payload : ByteMem) (payloadLen rtpTs : UInt32) (csrc : ℕ → UInt32)
    (ncsrc : UInt8) (bytes : List UInt8) : Prop where
  fits : rtpPktSize ncsrc.toNat payloadLen.toNat ≤ rtpPktLen
  out : (s.rtpTx payload payloadLen rtpTs csrc ncsrc).out = s.out ++ [.txRtp bytes]

/-- The octets a transmit hands out lie in memory as a packet. -/
theorem pktAt_of_sendsRtp {ncsrc : UInt8} {bytes : List UInt8}
    (hsent : s.SendsRtp payload payloadLen rtpTs csrc ncsrc bytes) (hpkt : pkt.Holds 0 bytes) :
    ∃ pad, bytes.length = rtpPktSize ncsrc.toNat payloadLen.toNat + pad ∧
      (pad ≠ 0 → rtpPktSize ncsrc.toNat payloadLen.toNat % 4 ≠ 0) ∧
      PktAt s payload payloadLen.toNat rtpTs csrc ncsrc.toNat pad pkt := by
  obtain ⟨hout, hseq, hconfig, hssrc⟩ := s.rtpTxCount_fields payloadLen
  have hsent := hsent.out
  rw [rtpTx] at hsent
  cases hsize : ((s.rtpTxCount payloadLen).rtpTxBuild payload payloadLen rtpTs csrc ncsrc).2 with
  | none =>
      simp only [hsize, hout] at hsent
      simp at hsent
  | some size =>
      obtain ⟨pad, rfl, -, hpad, hat⟩ := pktAt_rtpTxBuild hsize (s.rtpTxCount payloadLen).rtpPkt
      simp only [hsize, emit, hout] at hsent
      obtain rfl := Output.txRtp.inj (List.singleton_inj.1 (List.append_cancel_left hsent))
      rw [ByteMem.slice_length]
      refine ⟨pad, rfl, hpad, ?_⟩
      obtain ⟨hfirst, hsecond, hatseq, hts, hatssrc, hcsrcs, hpayload, hpadding⟩ := hat.copy hpkt
      rw [hconfig] at hsecond
      rw [hseq] at hatseq
      rw [hssrc] at hatssrc
      exact ⟨hfirst, hsecond, hatseq, hts, hatssrc, hcsrcs, hpayload, hpadding⟩

/-- What a receiver finds in a packet: the header check accepts it, and every field is what the sender
    passed to `rtp_tx` or had at that moment; so is what `rtp_rx` goes on with. -/
structure Recovered (s : Session) (payload : ByteMem) (payloadLen rtpTs : UInt32) (csrc : ℕ → UInt32)
    (ncsrc : UInt8) (pkt : ByteMem) (len : UInt32) : Prop where
  valid : ∃ off, (rtpHeaderValidityCheck len s.config.pt).val pkt = .ok (off, payloadLen) ∧
    pkt.slice off payloadLen.toNat = payload.slice 0 payloadLen.toNat
  hdr : readRtpHdr.val pkt =
    ⟨s.seq, rtpTs, s.selfMember.ssrc, (List.range ncsrc.toNat).map csrc⟩
  received : ∀ (t : Session) (fromAddr : SockaddrIn), t.config.pt = s.config.pt →
    (t.rtpRx len fromAddr).val pkt =
      t.rtpSessionTimestamp.2.rtpRxData
        ⟨s.seq, rtpTs, s.selfMember.ssrc, (List.range ncsrc.toNat).map csrc⟩
        (payload.slice 0 payloadLen.toNat) payloadLen t.rtpSessionTimestamp.1 fromAddr

/-- No more CSRCs are found than `cc` can count. -/
theorem Recovered.csrcs_le {ncsrc : UInt8} {bytes : List UInt8}
    (h : Recovered s payload payloadLen rtpTs csrc ncsrc pkt len)
    (hsent : s.SendsRtp payload payloadLen rtpTs csrc ncsrc bytes) (hpkt : pkt.Holds 0 bytes) :
    ncsrc.toNat ≤ 15 := by
  obtain ⟨pad, -, -, hat⟩ := pktAt_of_sendsRtp hsent hpkt
  have hlist := congrArg (fun hdr => hdr.csrc.length) h.hdr
  have hcount : (readRtpHdr.val pkt).csrc.length = ncsrc.toNat % 16 := by
    rw [← hat.cc]
    exact readWords_length ..
  rw [hcount, List.length_map, List.length_range] at hlist
  omega

/-- A packet that fits `rtp_pkt` and is handed to `tx_rtp` is recovered at the other end exactly when it
    has no more than 15 CSRCs. -/
theorem recovered_iff (s : Session) (payload : ByteMem) (payloadLen rtpTs : UInt32)
    (csrc : ℕ → UInt32) (ncsrc : UInt8) (bytes : List UInt8) (pkt : ByteMem) (len : UInt32)
    (hpt : s.config.pt.toNat < 128)
    (hsent : s.SendsRtp payload payloadLen rtpTs csrc ncsrc bytes) (hpkt : pkt.Holds 0 bytes)
    (hlen : len.toNat = bytes.length) :
    Recovered s payload payloadLen rtpTs csrc ncsrc pkt len ↔ ncsrc.toNat ≤ 15 := by
  obtain ⟨pad, hsize, hpad, hat⟩ := pktAt_of_sendsRtp hsent hpkt
  constructor
  · exact fun h => h.csrcs_le hsent hpkt
  · intro hfew
    have hcc : ncsrc.toNat < 16 := Nat.lt_succ_of_le hfew
    have hvalid := hat.valid hcc hpt (hlen.trans hsize) hpad
    have hhdr := hat.hdr hcc
    have hpayload : pkt.slice (rtpHdrSize ncsrc.toNat) payloadLen.toNat =
        payload.slice 0 payloadLen.toNat := by
      have hholds := hat.payload
      rwa [ByteMem.Holds, ByteMem.slice_length] at hholds
    refine ⟨⟨_, hvalid, hpayload⟩, hhdr, fun t fromAddr hsame => ?_⟩
    have hcheck : (rtpHeaderValidityCheck len t.config.pt).val pkt =
        .ok (rtpHdrSize ncsrc.toNat, payloadLen) := by
      rw [← hvalid]
      exact congrArg (fun pt => (rtpHeaderValidityCheck len pt).val pkt) hsame
    rw [t.val_rtpRx_of_ok hcheck, val_bytes, hhdr, hpayload]

/-- A session that pads its packets. -/
def paddingSession : Session :=
  (zeroed (.still .zero)).rtpSessionInit { plainConfig 1000 4 with alignBy4 := true }

/-- Five octets of payload and two CSRCs, with three octets of padding. -/
def paddedPkt : List UInt8 :=
  [162, 0, 0, 1, 0, 0, 0, 77, 0, 0, 0, 2, 0, 0, 0, 8, 0, 0, 0, 9, 1, 2, 3, 4, 5, 0, 0, 3]

theorem recovered_padded :
    Recovered paddingSession (pktOf [1, 2, 3, 4, 5]) 5 77 (fun i => UInt32.ofNat (i + 8)) 2
      (pktOf paddedPkt) 28 ↔ (2 : UInt8).toNat ≤ 15 :=
  recovered_iff paddingSession (pktOf [1, 2, 3, 4, 5]) 5 77 (fun i => UInt32.ofNat (i + 8)) 2 paddedPkt
    (pktOf paddedPkt) 28 (by decide) ⟨by decide, by decide +kernel⟩
    (holds_pktOf [] _) rfl

/-- The octets of a packet with sixteen CSRCs and no payload. -/
def crowdedPkt : List UInt8 :=
  [128, 0, 0, 1, 0, 0, 0, 77, 0, 0, 0, 2] ++
    (List.range 16).flatMap fun i => [0, 0, 0, UInt8.ofNat (i + 8)]

/-- Sixteen CSRCs are sent, and the receiver finds none. -/
theorem csrcs_lost : ¬ ∀ (s : Session) (payload : ByteMem) (payloadLen rtpTs : UInt32)
    (csrc : ℕ → UInt32) (ncsrc : UInt8) (bytes : List UInt8) (pkt : ByteMem) (len : UInt32),
    s.config.pt.toNat < 128 → s.SendsRtp payload payloadLen rtpTs csrc ncsrc bytes →
    pkt.Holds 0 bytes → len.toNat = bytes.length →
    Recovered s payload payloadLen rtpTs csrc ncsrc pkt len := by
  intro h
  have hsent : paddingSession.SendsRtp (pktOf []) 0 77 (fun i => UInt32.ofNat (i + 8)) 16
      crowdedPkt := ⟨by decide, by decide +kernel⟩
  have hpkt : (pktOf crowdedPkt).Holds 0 crowdedPkt := holds_pktOf [] _
  have hrecovered := h _ _ _ _ _ _ _ (pktOf crowdedPkt) 76 (by decide) hsent hpkt (by decide)
  exact absurd (hrecovered.csrcs_le hsent hpkt) (by decide)

end Session

end Prtp
