import Prtp.Library.Records
import Prtp.RtcpCompound
import Prtp.RtcpReads

set_option autoImplicit false

/-! # Which compound packets are accepted

`rtcp_check_pkt` and the loop of `rtcp_rx` are two walks over the same length words. The first comes out
at the end of the packet exactly when the sub-packets lie end to end in it; the second then dispatches
each of them. -/

namespace Prtp

open ByteReader

/-! ## Well-formed packets -/

/-- A compound packet of `len` octets whose sub-packets start at `offs`. -/
structure CompoundPkt (pkt : ByteMem) (len : UInt32) (offs : List ℕ) : Prop where
  nonempty : 0 < len.toNat
  aligned : len.toNat % 4 = 0
  padding : (pkt 0).toNat / 32 % 2 = 0
  type : pkt 1 = rtcpSr ∨ pkt 1 = rtcpRr
  tiles : Records.Tiles (Session.subPktSize pkt) len.toNat 0 offs
  version : ∀ r ∈ offs, (pkt r).toNat / 64 = 2

/-- `RTCP_VALID_MASK`: version 2, no padding, and a SR or a RR. -/
theorem valid_mask_iff (b0 b1 : UInt8) : (¬ (b0.toNat / 32 ≠ 4 ∨ b1.toNat / 2 ≠ 100)) ↔
    b0.toNat / 64 = 2 ∧ b0.toNat / 32 % 2 = 0 ∧ (b1 = rtcpSr ∨ b1 = rtcpRr) := by
  have htype : (b1 = rtcpSr ∨ b1 = rtcpRr) ↔ b1.toNat = 200 ∨ b1.toNat = 201 := by
    rw [← UInt8.toNat_inj, ← UInt8.toNat_inj]
    rfl
  rw [htype]
  omega

namespace Session

theorem four_dvd_subPktSize (pkt : ByteMem) (r : Nat) : subPktSize pkt r % 4 = 0 := by
  simp only [subPktSize, val_readSize]
  omega

/-! ## Encoded sub-packets -/

/-- A sub-packet with this count, type and body lies at `r`. -/
structure SubPktAt (pkt : ByteMem) (r count : ℕ) (pt : UInt8) (body : List UInt8) : Prop where
  count : subPktCount pkt r = count
  version : (pkt r).toNat / 64 = 2
  padding : (pkt r).toNat / 32 % 2 = 0
  type : pkt (r + 1) = pt
  size : subPktSize pkt r = 4 + body.length
  holds : pkt.Holds (r + 4) body

/-- The header of an encoded sub-packet says what it was encoded from. -/
theorem subPktAt_of_holds {pkt : ByteMem} {r count : ℕ} {pt : UInt8} {body : List UInt8}
    (h : pkt.Holds r (rtcpSubPkt count pt body)) (hcount : count < 32)
    (haligned : body.length % 4 = 0) (hsize : body.length / 4 < 65536) :
    SubPktAt pkt r count pt body := by
  rw [rtcpSubPkt, ByteMem.holds_append, ByteMem.holds_append, ByteMem.holds_cons,
    ByteMem.holds_singleton] at h
  obtain ⟨⟨⟨hhead, htype⟩, hlength⟩, hbody⟩ := h
  have hfirst : (pkt r).toNat = 128 + count := by
    rw [hhead, UInt8.toNat_ofNat']
    omega
  refine ⟨?_, by omega, by omega, htype, ?_, hbody⟩
  · rw [subPktCount, val_readCount, hfirst]
    omega
  · have hword : (be16 (r + 2)).val pkt = UInt16.ofNat (body.length / 4) :=
      val_be16_of_holds hlength
    change 4 * (((be16 (r + 2)).val pkt).toNat + 1) = 4 + body.length
    rw [hword, UInt16.toNat_ofNat']
    omega

/-! ## The check -/

/-- The version of the sub-packet at `r` is 2. -/
def versionOk (pkt : ByteMem) (r : Nat) : Bool := decide ((pkt r).toNat / 64 = 2)

theorem val_rtcpCheckWalk (pkt : ByteMem) (stop n r : Nat) :
    (rtcpCheckWalk stop n r).val pkt =
      Records.walk (subPktSize pkt) (versionOk pkt) stop n r := by
  induction n generalizing r with
  | zero => rfl
  | succ n ih =>
      simp only [rtcpCheckWalk, Records.walk, val_bind, val_ite, val_byte, val_pure, ih, versionOk,
        decide_eq_true_eq]
      rfl

/-- The check walk reads headers that start before the end. -/
theorem readsWithin_rtcpCheckWalk {pkt : ByteMem} {stop : Nat} (hstop : stop % 4 = 0) (n r : Nat)
    (hr : r % 4 = 0) (hlt : r < stop) : (rtcpCheckWalk stop n r).ReadsWithin pkt 0 stop := by
  induction n generalizing r with
  | zero => simp [rtcpCheckWalk]
  | succ n ih =>
      have hsize := four_dvd_subPktSize pkt r
      simp only [rtcpCheckWalk, readsWithin_bind, readsWithin_readSize, readsWithin_ite,
        readsWithin_pure, readsWithin_byte, val_byte]
      refine ⟨by omega, ?_⟩
      split
      · rename_i hinside
        refine ⟨⟨Nat.zero_le _, hinside⟩, ?_⟩
        split
        · exact ih _ (by rw [← subPktSize]; omega) hinside
        · trivial
      · trivial

theorem readsWithin_rtcpCheckPkt (pkt : ByteMem) (len : UInt32) :
    (rtcpCheckPkt len).ReadsWithin pkt 0 len.toNat := by
  simp only [rtcpCheckPkt, readsWithin_ite, readsWithin_bind, readsWithin_pure, readsWithin_byte]
  split
  · trivial
  · split
    · trivial
    · refine ⟨by omega, by omega, ?_⟩
      split
      · trivial
      · refine ⟨readsWithin_rtcpCheckWalk (by omega) _ 0 rfl (by omega), ?_⟩
        split
        · trivial
        · trivial

/-- `rtcp_check_pkt` accepts the well-formed packets. -/
theorem rtcpCheckPkt_iff (pkt : ByteMem) (len : UInt32) :
    (rtcpCheckPkt len).val pkt = .noError ↔ ∃ offs, CompoundPkt pkt len offs := by
  have hwalk : 4 ≤ len.toNat → len.toNat % 4 = 0 →
      ((rtcpCheckWalk len.toNat (len.toNat / 4) 0).val pkt = len.toNat ↔
        ∃ offs, Records.Tiles (subPktSize pkt) len.toNat 0 (0 :: offs) ∧
          ∀ x ∈ offs, versionOk pkt x = true) := by
    intro hlong haligned
    rw [val_rtcpCheckWalk]
    exact Records.walk_eq_stop_iff (four_le_subPktSize pkt) (by omega) (by omega)
  simp only [rtcpCheckPkt, val_ite, val_bind, val_byte, val_pure]
  constructor
  · intro h
    split at h
    · exact absurd h (by decide)
    · rename_i hlong
      split at h
      · exact absurd h (by decide)
      · rename_i haligned
        split at h
        · exact absurd h (by decide)
        · rename_i hmask
          split at h
          · exact absurd h (by decide)
          · rename_i hend
            obtain ⟨hversion, hpadding, htype⟩ := (valid_mask_iff _ _).1 hmask
            obtain ⟨offs, htiles, hall⟩ :=
              (hwalk (by omega) (by omega)).1 (Classical.not_not.1 hend)
            refine ⟨0 :: offs, by omega, by omega, hpadding, htype, htiles, ?_⟩
            exact List.forall_mem_cons.2 ⟨hversion, fun x hx => of_decide_eq_true (hall x hx)⟩
  · rintro ⟨offs, h⟩
    have hlong : 4 ≤ len.toNat := by
      have hpos := h.nonempty
      have haligned := h.aligned
      omega
    cases offs with
    | nil => exact absurd h.tiles (by simp only [Records.Tiles]; omega)
    | cons x offs =>
        obtain ⟨rfl, hrest⟩ := h.tiles
        obtain ⟨hversion, hall⟩ := List.forall_mem_cons.1 h.version
        have hend := (hwalk hlong h.aligned).2
          ⟨offs, ⟨rfl, hrest⟩, fun x hx => decide_eq_true (hall x hx)⟩
        rw [if_neg (by omega), if_neg (not_not.2 h.aligned),
          if_neg ((valid_mask_iff _ _).2 ⟨hversion, h.padding, h.type⟩), if_neg (not_not.2 hend)]

/-! ## The walk -/

theorem val_rtcpRxLoop_loop (fromAddr : SockaddrIn) (len : UInt32) (pkt : ByteMem) (n r : Nat)
    (s : Session) :
    (rtcpRxLoop fromAddr len n r s).val pkt =
      Records.loop (subPktSize pkt) (fun s r => (s.rtcpDispatch r fromAddr len).val pkt)
        len.toNat n r s := by
  induction n generalizing r s with
  | zero => rfl
  | succ n ih =>
      simp only [rtcpRxLoop, Records.loop, val_ite, val_bind, val_pure, ih]
      rfl

/-- The sub-packets the loop dispatches are those it finds end to end. -/
theorem rtcpRxSteps_fst (fromAddr : SockaddrIn) (len : UInt32) (pkt : ByteMem) {offs : List ℕ}
    {n r : Nat} (h : Records.Tiles (subPktSize pkt) len.toNat r offs) (hn : len.toNat ≤ r + 4 * n)
    (s : Session) : (rtcpRxSteps fromAddr len pkt n r s).map Prod.fst = offs := by
  induction offs generalizing n r s with
  | nil =>
      cases n with
      | zero => rfl
      | succ n =>
          have hend : len.toNat ≤ r := Nat.le_of_eq (show r = len.toNat from h).symm
          rw [rtcpRxSteps, if_pos hend]
          rfl
  | cons x offs ih =>
      have hlt := h.lt (four_le_subPktSize pkt) (by decide)
      obtain ⟨rfl, hrest⟩ := h
      cases n with
      | zero => omega
      | succ n =>
          have hsize := four_le_subPktSize pkt x
          rw [rtcpRxSteps, if_neg (by omega), List.map_cons, ih hrest (by omega)]

/-- What `rtcp_rx` does with a packet: it takes the well-formed ones apart and counts the others. -/
structure WalksCompound (s : Session) (pkt : ByteMem) (len : UInt32) (fromAddr : SockaddrIn) :
    Prop where
  accepts : (rtcpCheckPkt len).val pkt = .noError ↔ ∃ offs, CompoundPkt pkt len offs
  /-- every sub-packet is dispatched once, in order, and no number of rounds changes that -/
  dispatches : ∀ offs, CompoundPkt pkt len offs →
    (s.rtcpSubPkts pkt len fromAddr).map Prod.fst = offs ∧ offs.Pairwise (· < ·) ∧
      (s.rtcpRx len fromAddr).val pkt =
        offs.foldl (fun s r => (s.rtcpDispatch r fromAddr len).val pkt)
          (s.setRtcpError .noError) ∧
      ∀ n, len.toNat / 4 ≤ n →
        (rtcpRxLoop fromAddr len n 0 (s.setRtcpError .noError)).val pkt =
          (s.rtcpRx len fromAddr).val pkt
  rejects : (¬ ∃ offs, CompoundPkt pkt len offs) → ∃ e, e ≠ .noError ∧
    (s.rtcpRx len fromAddr).val pkt =
      { s with lastRtcpError := e, invalidRtcpPkt := s.invalidRtcpPkt + 1 }
  /-- the check walk ends, whatever it walks over -/
  checkEnds : 0 < len.toNat → len.toNat % 4 = 0 → ∀ n, len.toNat / 4 ≤ n →
    (rtcpCheckWalk len.toNat n 0).val pkt =
      (rtcpCheckWalk len.toNat (len.toNat / 4) 0).val pkt
  checkReads : (rtcpCheckPkt len).ReadsWithin pkt 0 len.toNat
  /-- headers are inside; what is read outside is read by a handler, behind its header -/
  walkReads : (∀ p ∈ s.rtcpSubPkts pkt len fromAddr, p.1 + 4 ≤ len.toNat) ∧
    ∀ i ∈ (s.rtcpRx len fromAddr).reads pkt, i < len.toNat ∨
      ∃ p ∈ s.rtcpSubPkts pkt len fromAddr,
        p.1 + 4 ≤ i ∧ i ∈ (p.2.rtcpDispatch p.1 fromAddr len).reads pkt

theorem rtcpSubPkts_fst (s : Session) (fromAddr : SockaddrIn) {pkt : ByteMem} {len : UInt32}
    {offs : List ℕ} (h : CompoundPkt pkt len offs) :
    (s.rtcpSubPkts pkt len fromAddr).map Prod.fst = offs := by
  have haligned := h.aligned
  rw [rtcpSubPkts, if_pos ((rtcpCheckPkt_iff pkt len).2 ⟨offs, h⟩)]
  exact rtcpRxSteps_fst fromAddr len pkt h.tiles (by omega) _

theorem rtcpSubPkts_inside (s : Session) (pkt : ByteMem) (len : UInt32) (fromAddr : SockaddrIn) :
    ∀ p ∈ s.rtcpSubPkts pkt len fromAddr, p.1 + 4 ≤ len.toNat := by
  intro p hp
  by_cases hgood : ∃ offs, CompoundPkt pkt len offs
  · obtain ⟨offs, h⟩ := hgood
    have hmem : p.1 ∈ offs := by
      rw [← rtcpSubPkts_fst s fromAddr h]
      exact List.mem_map_of_mem hp
    have hbounds := h.tiles.bounds p.1 hmem
    have hsize := four_le_subPktSize pkt p.1
    omega
  · rw [rtcpSubPkts, if_neg fun hok => hgood ((rtcpCheckPkt_iff pkt len).1 hok)] at hp
    exact absurd hp List.not_mem_nil

/-- Every octet string is treated as it should be by `rtcp_rx`. -/
theorem rtcpRx_walks (s : Session) (pkt : ByteMem) (len : UInt32) (fromAddr : SockaddrIn) :
    WalksCompound s pkt len fromAddr where
  accepts := rtcpCheckPkt_iff pkt len
  dispatches offs h := by
    have haligned := h.aligned
    have hrounds : ∀ n, len.toNat / 4 ≤ n →
        (rtcpRxLoop fromAddr len n 0 (s.setRtcpError .noError)).val pkt =
          offs.foldl (fun s r => (s.rtcpDispatch r fromAddr len).val pkt)
            (s.setRtcpError .noError) := by
      intro n hn
      rw [val_rtcpRxLoop_loop]
      exact Records.loop_eq_foldl (four_le_subPktSize pkt) (by decide) _ h.tiles (by omega) _
    have hrx : (s.rtcpRx len fromAddr).val pkt =
        offs.foldl (fun s r => (s.rtcpDispatch r fromAddr len).val pkt)
          (s.setRtcpError .noError) := by
      have hok := (rtcpCheckPkt_iff pkt len).2 ⟨offs, h⟩
      rw [rtcpRx, val_bind, hok, if_pos rfl]
      exact hrounds _ (Nat.le_refl _)
    refine ⟨rtcpSubPkts_fst s fromAddr h, h.tiles.pairwise (four_le_subPktSize pkt) (by decide), hrx, ?_⟩
    intro n hn
    rw [hrx]
    exact hrounds n hn
  rejects h := by
    refine ⟨(rtcpCheckPkt len).val pkt, fun hok => h ((rtcpCheckPkt_iff pkt len).1 hok), ?_⟩
    rw [rtcpRx, val_bind, if_neg fun hok => h ((rtcpCheckPkt_iff pkt len).1 hok)]
    rfl
  checkEnds hpos haligned n hn := by
    rw [val_rtcpCheckWalk, val_rtcpCheckWalk]
    exact Records.walk_rounds (four_le_subPktSize pkt) (by omega) (by omega) hpos
  checkReads := readsWithin_rtcpCheckPkt pkt len
  walkReads := by
    refine ⟨s.rtcpSubPkts_inside pkt len fromAddr, fun i hi => ?_⟩
    rw [or_iff_not_imp_left]
    intro houtside
    rw [rtcpRx, reads_bind, List.mem_append] at hi
    rcases hi with hcheck | hloop
    · exact absurd ((readsWithin_rtcpCheckPkt pkt len) i hcheck).2 houtside
    · have hinside := s.rtcpSubPkts_inside pkt len fromAddr
      rw [rtcpSubPkts] at hinside ⊢
      rw [reads_ite] at hloop
      split at hloop
      · rename_i hok
        rw [if_pos hok] at hinside ⊢
        rw [hok, mem_reads_rtcpRxLoop] at hloop
        obtain ⟨p, hp, hdispatch | hlength⟩ := hloop
        · have hp4 := hinside p hp
          exact ⟨p, hp, by omega, hdispatch⟩
        · have hp4 := hinside p hp
          omega
      · exact absurd hloop (by simp)

end Session

end Prtp
