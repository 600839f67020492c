import Prtp.SsrcCases

set_option autoImplicit false

/-! # What the RTCP handlers read

`rtcp_check_pkt` follows the length words only; the handlers then trust the five-bit count and the
item lengths. A sub-packet is read within its own bounds exactly when what these announce fits its
length, and `rtcp_handle_sdes` moreover takes its bound from the length word in host order. -/

namespace Prtp

open ByteReader

namespace Session

/-! ## When a source is accepted -/

/-- `rtcp_handle_ssrc` returns a member for this source: one it can create, or a known one without
    BYE whose RTCP address is new or matches. -/
def RtcpAccepts (s : Session) (ssrc : UInt32) (fromAddr : SockaddrIn) : Prop :=
  match s.rtpSessionLookupMember ssrc with
  | none => s.freeList ≠ []
  | some m =>
    (s.member m).flags.byeReceived = false ∧
      ((s.member m).flags.self = false ∧ (s.member m).flags.rtcpHeard = false ∨
        (s.member m).rtcpAddr = fromAddr)

instance (s : Session) (ssrc : UInt32) (fromAddr : SockaddrIn) :
    Decidable (s.RtcpAccepts ssrc fromAddr) := by
  unfold RtcpAccepts
  split <;> infer_instance

theorem rtcpHandleSsrc_isSome_iff (s : Session) (ssrc : UInt32) (fromAddr : SockaddrIn)
    (pktSize : UInt32) :
    (s.rtcpHandleSsrc ssrc fromAddr pktSize).1.isSome ↔ s.RtcpAccepts ssrc fromAddr := by
  have hcase := s.rtcpHandleSsrc_case ssrc fromAddr pktSize
  generalize s.rtcpHandleSsrc ssrc fromAddr pktSize = res at hcase
  rw [RtcpAccepts]
  cases hcase with
  | tableFull hnone hfull => simp [hnone, hfull]
  | created m s' hnone halloc =>
      have hfree : s.freeList ≠ [] := fun hnil => by
        simp [rtpSessionAllocMember_eq_none.2 hnil] at halloc
      simp [hnone, hfree]
  | leaving m hm hbye => simp [hm, hbye]
  | joined m hm hbye hself hnew => simp [hm, hbye, hself, hnew]
  | thirdParty m hm hbye hknown haddr hother =>
      rcases hknown with h | h <;> simp [hm, hbye, haddr, h]
  | collision m hm hbye hknown haddr hown err =>
      rcases hknown with h | h <;> simp [hm, hbye, haddr, h]
  | refreshed m hm hbye hknown haddr => simp [hm, hbye, haddr]

/-! ## The handlers -/

@[simp] theorem val_readSize (r : Nat) (m : ByteMem) :
    (readSize r).val m = 4 * ((be16Word (m (r + 2)) (m (r + 3))).toNat + 1) := rfl

@[simp] theorem val_readCount (r : Nat) (m : ByteMem) :
    (readCount r).val m = (m r).toNat % 32 := rfl

@[simp] theorem readsWithin_readSize (r : Nat) (m : ByteMem) (lo hi : Nat) :
    (readSize r).ReadsWithin m lo hi ↔ lo ≤ r + 2 ∧ r + 4 ≤ hi := by
  simp [readSize]

@[simp] theorem readsWithin_readCount (r : Nat) (m : ByteMem) (lo hi : Nat) :
    (readCount r).ReadsWithin m lo hi ↔ lo ≤ r ∧ r < hi := by
  simp [readCount]

@[simp] theorem readsWithin_readSdesEnd (r : Nat) (m : ByteMem) (lo hi : Nat) :
    (readSdesEnd r).ReadsWithin m lo hi ↔ lo ≤ r + 2 ∧ r + 4 ≤ hi := by
  simp [readSdesEnd]

/-- The report blocks are read whole. -/
theorem readsWithin_rrItems (ssrc : UInt32) (n rr : Nat) (s : Session) (m : ByteMem)
    (lo hi : Nat) :
    (rtcpHandleRrItems ssrc n rr s).ReadsWithin m lo hi ↔ n = 0 ∨ lo ≤ rr ∧ rr + 24 * n ≤ hi := by
  induction n generalizing rr s with
  | zero => simp [rtcpHandleRrItems]
  | succ n ih =>
      simp only [rtcpHandleRrItems, readsWithin_bind, readsWithin_bytes, ih]
      omega

/-- The sources of a BYE are read whole. -/
theorem readsWithin_byeSources (pktSize : UInt32) (n src : Nat) (s : Session) (m : ByteMem)
    (lo hi : Nat) :
    (rtcpHandleByeSources pktSize n src s).ReadsWithin m lo hi ↔
      n = 0 ∨ lo ≤ src ∧ src + 4 * n ≤ hi := by
  induction n generalizing src s with
  | zero => simp [rtcpHandleByeSources]
  | succ n ih =>
      simp only [rtcpHandleByeSources, readsWithin_bind, readsWithin_be32, ih]
      omega

/-- The size of the sub-packet at `r`, in octets. -/
def subPktSize (pkt : ByteMem) (r : Nat) : Nat := (readSize r).val pkt

/-- The count of the sub-packet at `r`. -/
def subPktCount (pkt : ByteMem) (r : Nat) : Nat := (readCount r).val pkt

/-- The first word after the header of the sub-packet at `r`. -/
def subPktSsrc (pkt : ByteMem) (r : Nat) : UInt32 := (be32 (r + 4)).val pkt

theorem four_le_subPktSize (pkt : ByteMem) (r : Nat) : 4 ≤ subPktSize pkt r := by
  simp only [subPktSize, val_readSize]; omega

/-- The program `x`, run on the sub-packet at `r`, reads nothing outside it. -/
def ReadsInside {α : Type} (x : ByteReader α) (pkt : ByteMem) (r : Nat) : Prop :=
  x.ReadsWithin pkt r (r + subPktSize pkt r)

theorem readsInside_rtcpHandleSr (s : Session) (pkt : ByteMem) (r : Nat) (fromAddr : SockaddrIn)
    (len : UInt32) :
    ReadsInside (s.rtcpHandleSr r fromAddr len) pkt r ↔
      8 ≤ subPktSize pkt r ∧
        (s.RtcpAccepts (subPktSsrc pkt r) fromAddr →
          28 + 24 * subPktCount pkt r ≤ subPktSize pkt r) := by
  have hsize := four_le_subPktSize pkt r
  rw [ReadsInside, rtcpHandleSr, readsWithin_bind, readsWithin_be32,
    ← rtcpHandleSsrc_isSome_iff s (subPktSsrc pkt r) fromAddr len]
  change _ ∧ ReadsWithin (match (s.rtcpHandleSsrc (subPktSsrc pkt r) fromAddr len).1 with
    | none => _ | some m => _) _ _ _ ↔ _
  cases (s.rtcpHandleSsrc (subPktSsrc pkt r) fromAddr len).1 with
  | none => simp; omega
  | some m =>
      simp only [readsWithin_bind, readsWithin_be32, readsWithin_readCount, readsWithin_readSize,
        readsWithin_rrItems, readsWithin_bytes, readsWithin_pure, Option.isSome_some, true_imp_iff,
        and_true]
      rw [← subPktCount, ← subPktSize]
      omega

theorem readsInside_rtcpHandleRr (s : Session) (pkt : ByteMem) (r : Nat) (fromAddr : SockaddrIn)
    (len : UInt32) :
    ReadsInside (s.rtcpHandleRr r fromAddr len) pkt r ↔
      8 ≤ subPktSize pkt r ∧
        (s.RtcpAccepts (subPktSsrc pkt r) fromAddr →
          8 + 24 * subPktCount pkt r ≤ subPktSize pkt r) := by
  have hsize := four_le_subPktSize pkt r
  rw [ReadsInside, rtcpHandleRr, readsWithin_bind, readsWithin_be32,
    ← rtcpHandleSsrc_isSome_iff s (subPktSsrc pkt r) fromAddr len]
  change _ ∧ ReadsWithin (match (s.rtcpHandleSsrc (subPktSsrc pkt r) fromAddr len).1 with
    | none => _ | some _ => _) _ _ _ ↔ _
  cases (s.rtcpHandleSsrc (subPktSsrc pkt r) fromAddr len).1 with
  | none => simp; omega
  | some m =>
      simp only [readsWithin_bind, readsWithin_readCount, readsWithin_rrItems, Option.isSome_some,
        true_imp_iff]
      rw [← subPktCount]
      omega

theorem readsInside_rtcpHandleBye (s : Session) (pkt : ByteMem) (r : Nat) (len : UInt32) :
    ReadsInside (s.rtcpHandleBye r len) pkt r ↔ 4 + 4 * subPktCount pkt r ≤ subPktSize pkt r := by
  have hsize := four_le_subPktSize pkt r
  rw [ReadsInside, rtcpHandleBye, readsWithin_bind, readsWithin_readCount, readsWithin_byeSources,
    ← subPktCount]
  omega

/-! ## SDES -/

/-- The inner loop of `rtcp_handle_sdes` on the octets alone: the items it looks at, and where it
    leaves `rsp`. -/
def sdesItemWalk (pkt : ByteMem) (stop : Nat) : Nat → Nat → List Nat × Nat
  | 0, rsp => ([], rsp)
  | n + 1, rsp =>
      if pkt rsp = 0 then ([rsp], rsp)
      else
        let rspn := rsp + (pkt (rsp + 1)).toNat + 2
        if stop ≤ rspn then ([rsp], rspn)
        else
          let rest := sdesItemWalk pkt stop n rspn
          (rsp :: rest.1, rest.2)

/-- The outer loop of `rtcp_handle_sdes` on the octets alone: the items of all chunks. -/
def sdesChunkWalk (pkt : ByteMem) (stop : Nat) : Nat → Nat → List Nat
  | 0, _ => []
  | count + 1, sd =>
      if stop ≤ sd + 4 then []
      else
        let chunk := sdesItemWalk pkt stop (stop - (sd + 4)) (sd + 4)
        chunk.1 ++ sdesChunkWalk pkt stop count (sd + 4 * ((chunk.2 - sd) / 4 + 1))

/-- The offsets of the items `rtcp_handle_sdes` looks at in the sub-packet at `r`. -/
def sdesItems (pkt : ByteMem) (r : Nat) : List Nat :=
  sdesChunkWalk pkt ((readSdesEnd r).val pkt) (subPktCount pkt r) (r + 4)

/-- The item at `i` starts before `hi`, and so does its length octet unless it is a null item. -/
def ItemBefore (pkt : ByteMem) (hi i : Nat) : Prop := i < hi ∧ (pkt i ≠ 0 → i + 1 < hi)

instance (pkt : ByteMem) (hi i : Nat) : Decidable (ItemBefore pkt hi i) :=
  inferInstanceAs (Decidable (_ ∧ _))

theorem le_sdesItemWalk (pkt : ByteMem) (stop n rsp : Nat) :
    rsp ≤ (sdesItemWalk pkt stop n rsp).2 := by
  induction n generalizing rsp with
  | zero => exact Nat.le_refl _
  | succ n ih =>
      simp only [sdesItemWalk]
      split
      · exact Nat.le_refl _
      · split
        · simp only; omega
        · exact Nat.le_trans (by omega) (ih _)

theorem val_sdesItems_fst (m : Option Slot) (pkt : ByteMem) (stop n rsp : Nat) (s : Session) :
    ((rtcpHandleSdesItems m stop n rsp s).val pkt).1 = (sdesItemWalk pkt stop n rsp).2 := by
  induction n generalizing rsp s with
  | zero => rfl
  | succ n ih =>
      simp only [rtcpHandleSdesItems, sdesItemWalk, val_bind, val_byte, val_ite, val_pure]
      split
      · rfl
      · split
        · rfl
        · cases m with
          | none => exact ih ..
          | some x =>
              simp only [val_ite, val_bind]
              split <;> exact ih ..

/-- The items of one chunk: a CNAME is copied only when the walk goes on behind it, so it ends
    before the next item starts. -/
theorem readsWithin_sdesItems (m : Option Slot) (pkt : ByteMem) {stop lo hi : Nat} (n rsp : Nat)
    (s : Session) (hn : stop - rsp ≤ n) (hrsp : rsp < stop) (hlo : lo ≤ rsp) :
    (rtcpHandleSdesItems m stop n rsp s).ReadsWithin pkt lo hi ↔
      ∀ i ∈ (sdesItemWalk pkt stop n rsp).1, ItemBefore pkt hi i := by
  induction n generalizing rsp s with
  | zero => omega
  | succ n ih =>
      simp only [rtcpHandleSdesItems, sdesItemWalk, readsWithin_bind, readsWithin_byte,
        readsWithin_ite, readsWithin_pure, val_byte]
      split
      · rename_i hnull
        simp [ItemBefore, hnull, hlo]
      · rename_i hitem
        split
        · simp only [List.mem_singleton, forall_eq, ItemBefore, hitem, not_false_eq_true, ne_eq,
            true_imp_iff, and_true]
          omega
        · rename_i hnext
          have hhead : ∃ n', n = n' + 1 := ⟨n - 1, by omega⟩
          have hmem : rsp + (pkt (rsp + 1)).toNat + 2 ∈
              (sdesItemWalk pkt stop n (rsp + (pkt (rsp + 1)).toNat + 2)).1 := by
            obtain ⟨n', rfl⟩ := hhead
            simp only [sdesItemWalk]
            split
            · simp
            · split <;> simp
          have hrest := fun s' => ih (rsp + (pkt (rsp + 1)).toNat + 2) s' (by omega) (by omega)
            (by omega)
          simp only [List.forall_mem_cons, ItemBefore, hitem, not_false_eq_true, ne_eq,
            true_imp_iff]
          cases m with
          | none =>
              simp only [hrest]
              constructor
              · exact fun h => ⟨⟨h.1.2, h.2.1.2⟩, h.2.2⟩
              · exact fun h => ⟨⟨hlo, h.1.1⟩, ⟨by omega, h.1.2⟩, h.2⟩
          | some x =>
              simp only [readsWithin_ite, readsWithin_bind, readsWithin_bytes, val_bytes, hrest]
              constructor
              · intro h
                refine ⟨⟨h.1.2, h.2.1.2⟩, ?_⟩
                have hdata := h.2.2
                split at hdata
                · exact hdata.2
                · exact hdata
              · intro h
                refine ⟨⟨hlo, h.1.1⟩, ⟨by omega, h.1.2⟩, ?_⟩
                have hbehind := (h.2 _ hmem).1
                split
                · exact ⟨Or.inr ⟨by omega, by omega⟩, h.2⟩
                · exact h.2

theorem readsWithin_sdesChunks (fromAddr : SockaddrIn) (len : UInt32) (pkt : ByteMem)
    {stop lo hi : Nat} (count sd : Nat) (s : Session) (hlo : lo ≤ sd) :
    (rtcpHandleSdesChunks fromAddr len stop count sd s).ReadsWithin pkt lo hi ↔
      ∀ i ∈ sdesChunkWalk pkt stop count sd, ItemBefore pkt hi i := by
  induction count generalizing sd s with
  | zero => simp [rtcpHandleSdesChunks, sdesChunkWalk]
  | succ count ih =>
      simp only [rtcpHandleSdesChunks, sdesChunkWalk]
      split
      · simp
      · rename_i hsd
        have hwalk := le_sdesItemWalk pkt stop (stop - (sd + 4)) (sd + 4)
        have hfirst : sd + 4 ∈ (sdesItemWalk pkt stop (stop - (sd + 4)) (sd + 4)).1 := by
          obtain ⟨n', hn'⟩ : ∃ n', stop - (sd + 4) = n' + 1 := ⟨stop - (sd + 4) - 1, by omega⟩
          rw [hn']
          simp only [sdesItemWalk]
          split
          · simp
          · split <;> simp
        rw [readsWithin_bind, readsWithin_be32, readsWithin_bind,
          readsWithin_sdesItems _ _ _ _ _ (Nat.le_refl _) (by omega) (by omega), val_sdesItems_fst,
          ih _ _ (by omega), List.forall_mem_append]
        constructor
        · exact fun h => h.2
        · exact fun h => ⟨⟨hlo, Nat.le_of_lt (h.1 _ hfirst).1⟩, h⟩

theorem readsInside_rtcpHandleSdes (s : Session) (pkt : ByteMem) (r : Nat) (fromAddr : SockaddrIn)
    (len : UInt32) :
    ReadsInside (s.rtcpHandleSdes r fromAddr len) pkt r ↔
      ∀ i ∈ sdesItems pkt r, ItemBefore pkt (r + subPktSize pkt r) i := by
  have hsize := four_le_subPktSize pkt r
  rw [ReadsInside, rtcpHandleSdes, readsWithin_bind, readsWithin_readCount, readsWithin_bind,
    readsWithin_readSdesEnd, readsWithin_sdesChunks _ _ _ _ _ _ (Nat.le_add_right _ _)]
  rw [sdesItems, ← subPktCount]
  constructor
  · exact fun h => h.2.2
  · exact fun h => ⟨⟨by omega, by omega⟩, ⟨by omega, by omega⟩, h⟩

/-! ## Sub-packets -/

/-- What the sub-packet at `r` announces fits its length: the fixed fields and the report blocks if
    its source is accepted, the items the SDES walk looks at, or the sources of a BYE. -/
def SubPktFits (s : Session) (pkt : ByteMem) (fromAddr : SockaddrIn) (r : Nat) : Prop :=
  if pkt (r + 1) = rtcpSr then
    8 ≤ subPktSize pkt r ∧
      (s.RtcpAccepts (subPktSsrc pkt r) fromAddr →
        28 + 24 * subPktCount pkt r ≤ subPktSize pkt r)
  else if pkt (r + 1) = rtcpRr then
    8 ≤ subPktSize pkt r ∧
      (s.RtcpAccepts (subPktSsrc pkt r) fromAddr → 8 + 24 * subPktCount pkt r ≤ subPktSize pkt r)
  else if pkt (r + 1) = rtcpSdes then
    ∀ i ∈ sdesItems pkt r, ItemBefore pkt (r + subPktSize pkt r) i
  else if pkt (r + 1) = rtcpBye then 4 + 4 * subPktCount pkt r ≤ subPktSize pkt r
  else True

instance (s : Session) (pkt : ByteMem) (fromAddr : SockaddrIn) (r : Nat) :
    Decidable (s.SubPktFits pkt fromAddr r) := by
  unfold SubPktFits
  infer_instance

theorem readsInside_rtcpDispatch (s : Session) (pkt : ByteMem) (r : Nat) (fromAddr : SockaddrIn)
    (len : UInt32) :
    ReadsInside (s.rtcpDispatch r fromAddr len) pkt r ↔ s.SubPktFits pkt fromAddr r := by
  have hsize := four_le_subPktSize pkt r
  have htype : (r ≤ r + 1 ∧ r + 1 < r + subPktSize pkt r) = True := eq_true (by omega)
  rw [SubPktFits, ReadsInside, rtcpDispatch, readsWithin_bind, readsWithin_byte, htype, true_and,
    val_byte]
  simp only [readsWithin_ite, readsWithin_pure]
  split
  · exact s.readsInside_rtcpHandleSr pkt r fromAddr len
  · split
    · exact s.readsInside_rtcpHandleRr pkt r fromAddr len
    · split
      · exact s.readsInside_rtcpHandleSdes pkt r fromAddr len
      · split
        · exact s.readsInside_rtcpHandleBye pkt r len
        · rfl

/-! ## The compound packet -/

/-- The sub-packets the loop of `rtcp_rx` dispatches, each with the session it is dispatched in. -/
def rtcpRxSteps (fromAddr : SockaddrIn) (len : UInt32) (pkt : ByteMem) :
    Nat → Nat → Session → List (Nat × Session)
  | 0, _, _ => []
  | n + 1, r, s =>
      if len.toNat ≤ r then []
      else
        (r, s) :: rtcpRxSteps fromAddr len pkt n (r + subPktSize pkt r)
          ((s.rtcpDispatch r fromAddr len).val pkt)

/-- The sub-packets `rtcp_rx` dispatches: none if `rtcp_check_pkt` rejects the packet. -/
def rtcpSubPkts (s : Session) (pkt : ByteMem) (len : UInt32) (fromAddr : SockaddrIn) :
    List (Nat × Session) :=
  if (rtcpCheckPkt len).val pkt = .noError then
    rtcpRxSteps fromAddr len pkt (len.toNat / 4) 0 (s.setRtcpError .noError)
  else []

/-- The loop of `rtcp_rx` reads what its sub-packets' handlers read, and their length words. -/
theorem mem_reads_rtcpRxLoop (fromAddr : SockaddrIn) (len : UInt32) (pkt : ByteMem) (n r : Nat)
    (s : Session) (i : Nat) :
    i ∈ (rtcpRxLoop fromAddr len n r s).reads pkt ↔
      ∃ p ∈ rtcpRxSteps fromAddr len pkt n r s,
        i ∈ (p.2.rtcpDispatch p.1 fromAddr len).reads pkt ∨ p.1 + 2 ≤ i ∧ i < p.1 + 4 := by
  induction n generalizing r s with
  | zero => simp [rtcpRxLoop, rtcpRxSteps]
  | succ n ih =>
      simp only [rtcpRxLoop, rtcpRxSteps, reads_ite]
      split
      · simp
      · have hlength : i ∈ (readSize r).reads pkt ↔ r + 2 ≤ i ∧ i < r + 4 := by
          simp [readSize]
        simp only [reads_bind, List.mem_append, hlength, ih, List.mem_cons, exists_eq_or_imp]
        exact or_assoc.symm

/-- Every handler `rtcp_rx` runs on this packet reads within the sub-packet it is given, and so
    leaves the same session, callbacks included, whatever follows the sub-packet. -/
def RtcpRxInside (s : Session) (pkt : ByteMem) (len : UInt32) (fromAddr : SockaddrIn) : Prop :=
  ∀ p ∈ s.rtcpSubPkts pkt len fromAddr,
    ReadsInside (p.2.rtcpDispatch p.1 fromAddr len) pkt p.1 ∧
    ∀ pkt' : ByteMem, (∀ i, p.1 ≤ i → i < p.1 + subPktSize pkt p.1 → pkt i = pkt' i) →
      (p.2.rtcpDispatch p.1 fromAddr len).val pkt' = (p.2.rtcpDispatch p.1 fromAddr len).val pkt

/-- A packet is handled within its sub-packets exactly when everything they announce fits them. -/
theorem rtcpRxInside_iff (s : Session) (pkt : ByteMem) (len : UInt32) (fromAddr : SockaddrIn) :
    s.RtcpRxInside pkt len fromAddr ↔
      ∀ p ∈ s.rtcpSubPkts pkt len fromAddr, p.2.SubPktFits pkt fromAddr p.1 := by
  constructor
  · intro h p hp
    exact (readsInside_rtcpDispatch p.2 pkt p.1 fromAddr len).1 (h p hp).1
  · intro h p hp
    have hinside := (readsInside_rtcpDispatch p.2 pkt p.1 fromAddr len).2 (h p hp)
    exact ⟨hinside, fun _ hsame => hinside.val_congr hsame⟩

/-- A receiver report of two words whose count announces a report block is accepted, and its
    handler hands the 24 octets behind the packet to `rr_rpt`. -/
theorem short_rr_read_outside :
    ¬ ((zeroed (.still .zero)).rtpSessionInit (plainConfig 1000 4)).RtcpRxInside
      (pktOf [0x81, 201, 0, 1, 0, 0, 0, 5]) 8 (.ofPort 7) := by
  intro h
  have hne : ((zeroed (.still .zero)).rtpSessionInit (plainConfig 1000 4)).rtcpSubPkts
      (pktOf [0x81, 201, 0, 1, 0, 0, 0, 5]) 8 (.ofPort 7) ≠ [] := by decide +kernel
  have hinside := (h _ (List.head_mem hne)).1
  rw [readsInside_rtcpDispatch] at hinside
  exact absurd hinside (by decide +kernel +revert)

end Session

end Prtp
