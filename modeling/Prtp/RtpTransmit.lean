import Prtp.Session

set_option autoImplicit false

/-! # What a transmit writes

`rtp_tx` bounds the packet by `RTP_CONFIG_MAX_RTP_PKT_SIZE`, but `rtp_pkt` is declared with
`RTP_CONFIG_AVERAGE_RTCP_SIZE`. The stores of a transmit are therefore inside the array exactly
when the packet fits the smaller of the two numbers, or is so large that nothing is stored. -/

namespace Prtp

/-- Every store has an index below `n`. -/
def StoresBelow (n : Nat) (stores : List (Nat × UInt8)) : Prop := ∀ w ∈ stores, w.1 < n

namespace StoresBelow

variable {n : Nat}

@[simp] theorem append_iff (ws ws' : List (Nat × UInt8)) :
    StoresBelow n (ws ++ ws') ↔ StoresBelow n ws ∧ StoresBelow n ws' := by
  simp only [StoresBelow, List.mem_append, or_imp, forall_and]

@[simp] theorem singleton_iff (w : Nat × UInt8) : StoresBelow n [w] ↔ w.1 < n := by
  simp [StoresBelow]

@[simp] theorem storesAt_iff (off : Nat) (bs : List UInt8) :
    StoresBelow n (Session.storesAt off bs) ↔ bs = [] ∨ off + bs.length ≤ n := by
  induction bs generalizing off with
  | nil => simp [Session.storesAt, StoresBelow]
  | cons b bs ih =>
      have hcons : StoresBelow n (Session.storesAt off (b :: bs)) ↔
          off < n ∧ StoresBelow n (Session.storesAt (off + 1) bs) := by
        simp [Session.storesAt, StoresBelow]
      rw [hcons, ih]
      cases bs with
      | nil =>
          simp only [true_or, and_true, List.length_singleton, reduceCtorEq, false_or]
          omega
      | cons c cs => simp only [List.length_cons, reduceCtorEq, false_or]; omega

end StoresBelow

namespace Session

@[simp] theorem csrcBytes_length (csrc : Nat → UInt32) (ncsrc : Nat) :
    (csrcBytes csrc ncsrc).length = 4 * ncsrc := by
  simp [csrcBytes, List.length_flatMap]; omega

/-- Every store `rtp_tx` makes into `rtp_pkt`. -/
def rtpTxStores (s : Session) (payload : ByteMem) (payloadLen : UInt32) (rtpTs : UInt32)
    (csrc : Nat → UInt32) (ncsrc : UInt8) : List (Nat × UInt8) :=
  ((s.rtpTxCount payloadLen).rtpTxBuild payload payloadLen rtpTs csrc ncsrc).1

/-- The header, the CSRC list and the payload end where the packet does. -/
theorem storesBelow_rtpTxHdrStores (s : Session) (payload : ByteMem) (payloadLen : Nat)
    (rtpTs : UInt32) (csrc : Nat → UInt32) (ncsrc n : Nat) (hn : 12 ≤ n) :
    StoresBelow n (s.rtpTxHdrStores payload payloadLen rtpTs csrc ncsrc) ↔
      rtpPktSize ncsrc payloadLen ≤ n := by
  have hpayload : payload.slice 0 payloadLen = [] ↔ payloadLen = 0 := by
    rw [← List.length_eq_zero_iff, ByteMem.slice_length]
  have hcsrc : csrcBytes csrc ncsrc = [] ↔ ncsrc = 0 := by
    rw [← List.length_eq_zero_iff, csrcBytes_length]; omega
  simp only [rtpTxHdrStores, StoresBelow.append_iff, StoresBelow.storesAt_iff, hpayload, hcsrc,
    csrcBytes_length, ByteMem.slice_length, rtpPktSize, rtpHdrSize]
  simp
  omega

/-- Padding a packet up to a multiple of four stays below any bound that is one. -/
theorem storesBelow_rtpTxPadStores (ncsrc pktSize n : Nat) (hn : 0 < n) :
    StoresBelow n (rtpTxPadStores ncsrc pktSize (4 - pktSize % 4)) ↔
      pktSize + (4 - pktSize % 4) ≤ n := by
  simp only [rtpTxPadStores, StoresBelow.append_iff, StoresBelow.storesAt_iff,
    StoresBelow.singleton_iff]
  simp
  omega

/-! ## What the packet array held before -/

theorem mem_storesAt (off : Nat) (bs : List UInt8) (i : Nat) :
    i ∈ (storesAt off bs).map Prod.fst ↔ off ≤ i ∧ i < off + bs.length := by
  induction bs generalizing off with
  | nil => simp [storesAt]
  | cons b bs ih =>
      rw [storesAt, List.map_cons, List.mem_cons, ih, List.length_cons]
      omega

/-- Stores of consecutive octets store the octets one after the other. -/
theorem foldl_storesAt (m : ByteMem) (off : Nat) (bs : List UInt8) :
    (storesAt off bs).foldl (fun m w => m.store w.1 w.2) m = m.storeBytes off bs := by
  induction bs generalizing m off with
  | nil => rfl
  | cons b bs ih => exact ih (m.store off b) (off + 1)

/-- After stores that reach an octet nothing is left there of what the memory held. -/
theorem foldl_store_congr (ws : List (Nat × UInt8)) {m m' : ByteMem} {i : Nat}
    (h : i ∈ ws.map Prod.fst ∨ m i = m' i) :
    ws.foldl (fun m w => m.store w.1 w.2) m i = ws.foldl (fun m w => m.store w.1 w.2) m' i := by
  induction ws generalizing m m' with
  | nil => exact h.resolve_left (by simp)
  | cons w ws ih =>
      apply ih
      by_cases hi : i = w.1
      · right
        show m.store w.1 w.2 i = m'.store w.1 w.2 i
        rw [ByteMem.store_apply, ByteMem.store_apply, if_pos hi, if_pos hi]
      · refine h.imp (fun hmem => ?_) fun heq => ?_
        · exact (List.mem_cons.1 hmem).resolve_left hi
        · show m.store w.1 w.2 i = m'.store w.1 w.2 i
          rw [ByteMem.store_apply, ByteMem.store_apply, if_neg hi, if_neg hi, heq]

/-- A packet that is sent is stored as a whole. -/
theorem mem_rtpTxBuild {s : Session} {payload : ByteMem} {payloadLen : UInt32} {rtpTs : UInt32}
    {csrc : Nat → UInt32} {ncsrc : UInt8} {size : Nat}
    (h : (s.rtpTxBuild payload payloadLen rtpTs csrc ncsrc).2 = some size) {i : Nat}
    (hi : i < size) :
    i ∈ (s.rtpTxBuild payload payloadLen rtpTs csrc ncsrc).1.map Prod.fst := by
  have hhdr : i < rtpPktSize ncsrc.toNat payloadLen.toNat →
      i ∈ (s.rtpTxHdrStores payload payloadLen.toNat rtpTs csrc ncsrc.toNat).map Prod.fst := by
    intro hlt
    simp only [rtpTxHdrStores, List.map_append, List.mem_append, mem_storesAt, ByteMem.slice_length,
      csrcBytes_length, List.length_append, List.length_cons, List.length_nil, be16Bytes_length,
      be32Bytes_length]
    simp only [rtpPktSize, rtpHdrSize] at hlt ⊢
    omega
  simp only [rtpTxBuild] at h ⊢
  split at h
  · exact absurd h (by simp)
  · rename_i hsize
    rw [if_neg hsize]
    split at h
    · rename_i halign
      rw [if_pos halign]
      split at h
      · exact absurd h (by simp)
      · rename_i hpad
        rw [if_neg hpad, List.map_append, List.mem_append]
        obtain rfl := Option.some.inj h
        rcases Nat.lt_or_ge i (rtpPktSize ncsrc.toNat payloadLen.toNat) with hlt | hge
        · exact Or.inl (hhdr hlt)
        · -- the rest are the padding octets
          right
          rw [rtpTxPadStores, List.map_append, List.mem_append, mem_storesAt]
          left
          simp only [List.length_append, List.length_replicate, List.length_cons, List.length_nil]
          omega
    · rename_i halign
      rw [if_neg halign]
      obtain rfl := Option.some.inj h
      exact hhdr hi

/-- The packet fits `rtp_pkt`, or it is rejected before anything is stored. -/
def TxFits (payloadLen : UInt32) (ncsrc : UInt8) : Prop :=
  rtpPktSize ncsrc.toNat payloadLen.toNat ≤ rtpPktLen ∨
    rtpConfigMaxRtpPktSize < rtpPktSize ncsrc.toNat payloadLen.toNat

instance (payloadLen : UInt32) (ncsrc : UInt8) : Decidable (TxFits payloadLen ncsrc) :=
  inferInstanceAs (Decidable (_ ∨ _))

/-- A transmit stays inside `rtp_pkt` exactly when the packet has at most 256 octets or more than
    1024. -/
theorem rtpTx_stores_in_rtpPkt_iff (s : Session) (payload : ByteMem) (payloadLen : UInt32)
    (rtpTs : UInt32) (csrc : Nat → UInt32) (ncsrc : UInt8) :
    StoresBelow rtpPktLen (s.rtpTxStores payload payloadLen rtpTs csrc ncsrc) ↔
      TxFits payloadLen ncsrc := by
  have hlen : rtpPktLen = 256 := rfl
  have hmax : rtpConfigMaxRtpPktSize = 1024 := rfl
  simp only [rtpTxStores, rtpTxBuild, TxFits]
  split
  · rename_i hbig
    exact ⟨fun _ => Or.inr hbig, fun _ => by simp [StoresBelow]⟩
  · rename_i hsize
    have hhdr := storesBelow_rtpTxHdrStores (s.rtpTxCount payloadLen) payload payloadLen.toNat rtpTs
      csrc ncsrc.toNat rtpPktLen (by decide)
    split
    · rename_i halign
      split
      · rw [hhdr]; omega
      · rw [StoresBelow.append_iff, hhdr,
          storesBelow_rtpTxPadStores _ _ _ (by decide)]
        omega
    · rw [hhdr]; omega

/-- A payload of 300 octets, on a session just initialised, passes the size check and is stored past
    the end of `rtp_pkt`. -/
theorem rtpTx_writes_past_rtpPkt :
    ¬ StoresBelow rtpPktLen
      (((zeroed (.still .zero)).rtpSessionInit (plainConfig 1000 4)).rtpTxStores (fun _ => 0) 300 0
        (fun _ => 0) 0) :=
  fun h => absurd (h (311, 0) (by decide +kernel)) (by decide)

end Session

end Prtp
