import Prtp.Deliveries

set_option autoImplicit false

/-! # Which data packets are valid

`rtp_header_validity_check` admits a packet by its length, its first two octets and its last one. The
padding count in the last octet is held against what lies behind the header, but not against zero: a packet
whose padding flag is set and whose count is 0 is admitted as if it had no padding. -/

namespace Prtp

open ByteReader

/-- The header, the CSRC list included. -/
def hdrLen (pkt : ByteMem) : ℕ := 12 + 4 * hdrCc (pkt 0)

/-- The padding flag. -/
def Padded (pkt : ByteMem) : Prop := (pkt 0).toNat / 32 % 2 = 1

instance (pkt : ByteMem) : Decidable (Padded pkt) := inferInstanceAs (Decidable (_ = 1))

/-- The last octet of a packet with padding, `padding_len` of the others. -/
def paddingLen (pkt : ByteMem) (len : ℕ) : ℕ := if Padded pkt then (pkt (len - 1)).toNat else 0

/-- A data packet that is well formed, where a padding count has to be at least `least`. -/
structure RtpPktValid (least : ℕ) (pkt : ByteMem) (len : ℕ) (pt : UInt8) : Prop where
  header : hdrLen pkt ≤ len
  version : (pkt 0).toNat / 64 = 2
  type : (pkt 1).toNat % 128 = pt.toNat
  extension : (pkt 0).toNat / 16 % 2 = 0
  padding : Padded pkt → least ≤ (pkt (len - 1)).toNat ∧ (pkt (len - 1)).toNat < len - hdrLen pkt

/-- A packet that is well formed but for its padding count, which is 0. -/
def ZeroPadding (pkt : ByteMem) (len : ℕ) (pt : UInt8) : Prop :=
  RtpPktValid 0 pkt len pt ∧ Padded pkt ∧ pkt (len - 1) = 0

theorem RtpPktValid.zero {least : ℕ} {pkt : ByteMem} {len : ℕ} {pt : UInt8}
    (h : RtpPktValid least pkt len pt) : RtpPktValid 0 pkt len pt :=
  { h with padding := fun hp => ⟨Nat.zero_le _, (h.padding hp).2⟩ }

/-- What is well formed with a padding count of 0 allowed. -/
theorem rtpPktValid_zero_iff {pkt : ByteMem} {len : ℕ} {pt : UInt8} :
    RtpPktValid 0 pkt len pt ↔ RtpPktValid 1 pkt len pt ∨ ZeroPadding pkt len pt := by
  refine ⟨fun h => ?_, fun h => h.elim RtpPktValid.zero And.left⟩
  by_cases hzero : Padded pkt ∧ pkt (len - 1) = 0
  · exact Or.inr ⟨h, hzero⟩
  · refine Or.inl { h with padding := fun hp => ⟨Nat.pos_of_ne_zero fun hcount => ?_, (h.padding hp).2⟩ }
    exact hzero ⟨hp, UInt8.toNat_inj.1 hcount⟩

theorem not_rtpPktValid_of_zeroPadding {pkt : ByteMem} {len : ℕ} {pt : UInt8}
    (h : ZeroPadding pkt len pt) : ¬ RtpPktValid 1 pkt len pt := by
  intro hvalid
  have hcount := (hvalid.padding h.2.1).1
  rw [h.2.2] at hcount
  exact absurd hcount (by decide)

/-! ## The check -/

/-- What the check returns: an error, or the payload between the CSRC list and the padding. -/
inductive HdrChecked (pkt : ByteMem) (len : UInt32) (pt : UInt8) :
    Except RtpRxError (ℕ × UInt32) → Prop
  | refused (e : RtpRxError) (h : ¬ RtpPktValid 0 pkt len.toNat pt) : HdrChecked pkt len pt (.error e)
  | admitted (payloadLen : UInt32) (h : RtpPktValid 0 pkt len.toNat pt)
      (hlen : hdrLen pkt + payloadLen.toNat + paddingLen pkt len.toNat = len.toNat) :
      HdrChecked pkt len pt (.ok (hdrLen pkt, payloadLen))

theorem rtpHeaderValidityCheck_checked (pkt : ByteMem) (len : UInt32) (pt : UInt8) :
    HdrChecked pkt len pt ((rtpHeaderValidityCheck len pt).val pkt) := by
  have hcc : hdrCc (pkt 0) < 16 := Nat.mod_lt _ (by decide)
  have hhdr : hdrLen pkt = 12 + 4 * hdrCc (pkt 0) := rfl
  have hsize : (UInt32.ofNat (hdrLen pkt)).toNat = hdrLen pkt := by
    rw [UInt32.toNat_ofNat']
    omega
  have hsub : hdrLen pkt ≤ len.toNat →
      (len - UInt32.ofNat (hdrLen pkt)).toNat = len.toNat - hdrLen pkt := fun hle => by
    rw [UInt32.toNat_sub_of_le _ _ (UInt32.le_iff_toNat_le.2 (hsize.symm ▸ hle)), hsize]
  simp only [rtpHeaderValidityCheck, val_ite, val_bind, val_byte, val_pure, ← hhdr]
  split
  · rename_i hshort
    exact .refused _ fun h => absurd h.header (by omega)
  split
  · rename_i hcount
    exact .refused _ fun h => absurd h.header (by omega)
  rename_i hfits
  rw [Nat.not_lt] at hfits
  split
  · rename_i hversion
    exact .refused _ fun h => hversion h.version
  rename_i hversion
  split
  · rename_i htype
    exact .refused _ fun h => htype h.type
  rename_i htype
  rw [not_not] at hversion htype
  split
  · rename_i hflag
    have hpadded : Padded pkt := hflag
    split
    · rename_i hcount
      exact .refused _ fun h => absurd (h.padding hpadded).2 (Nat.not_lt.2 hcount)
    rename_i hcount
    rw [Nat.not_le] at hcount
    split
    · rename_i hext
      exact .refused _ fun h => absurd (h.extension.symm.trans hext) (by decide)
    · rename_i hext
      refine .admitted _ ⟨hfits, hversion, htype, by omega, fun _ => ⟨Nat.zero_le _, hcount⟩⟩ ?_
      have hpadding : (pkt (len.toNat - 1)).toUInt32.toNat = (pkt (len.toNat - 1)).toNat :=
        UInt8.toNat_toUInt32 _
      have hle : (pkt (len.toNat - 1)).toUInt32 ≤ len - UInt32.ofNat (hdrLen pkt) := by
        rw [UInt32.le_iff_toNat_le, hsub hfits, hpadding]
        omega
      rw [paddingLen, if_pos hpadded, UInt32.toNat_sub_of_le _ _ hle, hsub hfits, hpadding]
      omega
  · rename_i hflag
    have hpadded : ¬ Padded pkt := hflag
    split
    · rename_i hext
      exact .refused _ fun h => absurd (h.extension.symm.trans hext) (by decide)
    · rename_i hext
      refine .admitted _ ⟨hfits, hversion, htype, by omega, fun hp => absurd hp hpadded⟩ ?_
      rw [paddingLen, if_neg hpadded, hsub hfits]
      omega

theorem rtpHeaderValidityCheck_iff (pkt : ByteMem) (len : UInt32) (pt : UInt8) :
    ((rtpHeaderValidityCheck len pt).val pkt).toBool = true ↔ RtpPktValid 0 pkt len.toNat pt := by
  have hchecked := rtpHeaderValidityCheck_checked pkt len pt
  generalize (rtpHeaderValidityCheck len pt).val pkt = res at hchecked
  cases hchecked with
  | refused e h => simpa [Except.toBool] using h
  | admitted payloadLen h hlen => simpa [Except.toBool] using h

/-! ## What is read -/

theorem readsWithin_rtpHeaderValidityCheck (pkt : ByteMem) (len : UInt32) (pt : UInt8) :
    (rtpHeaderValidityCheck len pt).ReadsWithin pkt 0 len.toNat := by
  rw [rtpHeaderValidityCheck, readsWithin_ite]
  split
  · exact readsWithin_pure _ _ _ _
  · rename_i hlen
    simp only [readsWithin_ite, readsWithin_bind, readsWithin_byte, readsWithin_pure, ite_self,
      if_true_left, if_true_right, and_true]
    omega

theorem readsWithin_readWords (i n : ℕ) (pkt : ByteMem) (lo hi : ℕ) :
    (Session.readWords i n).ReadsWithin pkt lo hi ↔ n = 0 ∨ lo ≤ i ∧ i + 4 * n ≤ hi := by
  induction n generalizing i with
  | zero => simp [Session.readWords]
  | succ n ih =>
      simp only [Session.readWords, readsWithin_bind, readsWithin_be32, ih, readsWithin_pure, and_true]
      omega

/-- The fields of the header lie in the header. -/
theorem readsWithin_readRtpHdr (pkt : ByteMem) {hi : ℕ} (hle : hdrLen pkt ≤ hi) :
    Session.readRtpHdr.ReadsWithin pkt 0 hi := by
  have hhdr : hdrLen pkt = 12 + 4 * hdrCc (pkt 0) := rfl
  simp only [Session.readRtpHdr, readsWithin_bind, readsWithin_be16, readsWithin_be32, readsWithin_byte,
    readsWithin_readWords, readsWithin_pure, and_true, val_byte]
  omega

namespace Session

theorem readsWithin_rtpRx (s : Session) (pkt : ByteMem) (len : UInt32) (fromAddr : SockaddrIn) :
    (s.rtpRx len fromAddr).ReadsWithin pkt 0 len.toNat := by
  have hchecked := rtpHeaderValidityCheck_checked pkt len s.rtpSessionTimestamp.2.config.pt
  simp only [rtpRx, readsWithin_bind]
  refine ⟨readsWithin_rtpHeaderValidityCheck _ _ _, ?_⟩
  generalize (rtpHeaderValidityCheck len s.rtpSessionTimestamp.2.config.pt).val pkt = res at hchecked
  cases hchecked with
  | refused e h => exact readsWithin_pure _ _ _ _
  | admitted payloadLen h hlen =>
      simp only [readsWithin_bind, readsWithin_bytes, readsWithin_pure, and_true]
      exact ⟨readsWithin_readRtpHdr pkt h.header, by omega⟩

/-! ## What is reported -/

/-- The payload lies between the CSRC list and the padding. -/
structure PayloadOf (pkt : ByteMem) (len : ℕ) (rpt : RtpRxReport) : Prop where
  octets : rpt.payload = pkt.slice (hdrLen pkt) rpt.payloadLen.toNat
  length : hdrLen pkt + rpt.payloadLen.toNat + paddingLen pkt len = len

theorem payloadOf_rxRtpCall {s t : Session} {pkt : ByteMem} {len : UInt32} {fromAddr : SockaddrIn}
    {rpt : RtpRxReport} (h : s.rxRtpCall pkt len fromAddr = some (t, rpt)) :
    PayloadOf pkt len.toNat rpt := by
  have hchecked := rtpHeaderValidityCheck_checked pkt len s.rtpSessionTimestamp.2.config.pt
  simp only [rxRtpCall] at h
  generalize (rtpHeaderValidityCheck len s.rtpSessionTimestamp.2.config.pt).val pkt = res at hchecked h
  cases hchecked with
  | refused e hinvalid => exact absurd h (by simp)
  | admitted payloadLen hvalid hlen =>
      simp only at h
      split at h
      · rw [Option.some_inj, Prod.mk.injEq] at h
        obtain ⟨-, rfl⟩ := h
        exact ⟨val_bytes .., hlen⟩
      · exact absurd h (by simp)

theorem payloadOf_rtpRx {s : Session} {pkt : ByteMem} {len : UInt32} {fromAddr : SockaddrIn}
    {rpt : RtpRxReport} (h : ((s.rtpRx len fromAddr).val pkt).out = s.out ++ [.rxRtp rpt]) :
    PayloadOf pkt len.toNat rpt := by
  cases hcall : s.rxRtpCall pkt len fromAddr with
  | none =>
      rw [rtpRx_silent hcall] at h
      exact absurd h (by simp)
  | some call =>
      obtain ⟨t, rpt'⟩ := call
      have hreport := payloadOf_rxRtpCall hcall
      rw [rtpRx_of_call hcall] at h
      have hlast : [Output.rxRtp rpt'] = [.rxRtp rpt] := (List.append_inj' h rfl).2
      rw [List.cons.injEq, Output.rxRtp.injEq] at hlast
      exact hlast.1 ▸ hreport

/-- A packet that is refused counts as invalid, and that is all. -/
theorem rtpRx_refused {s : Session} {pkt : ByteMem} {len : UInt32}
    (h : ¬ RtpPktValid 0 pkt len.toNat s.config.pt) (fromAddr : SockaddrIn) :
    ∃ e, (s.rtpRx len fromAddr).val pkt =
      { s with
        env := s.rtpSessionTimestamp.2.env
        lastRtpError := e
        invalidRtpPkt := s.invalidRtpPkt + 1 } := by
  have hchecked := rtpHeaderValidityCheck_checked pkt len s.config.pt
  generalize hres : (rtpHeaderValidityCheck len s.config.pt).val pkt = res at hchecked
  cases hchecked with
  | refused e hinvalid => exact ⟨e, s.val_rtpRx_of_error hres fromAddr⟩
  | admitted payloadLen hvalid hlen => exact absurd hvalid h

/-- What `rtp_rx` has to do with a packet: take it for valid if it is, report the payload between the CSRC
    list and the padding, read nothing outside the packet, and count it as invalid if it is not. -/
structure RtpRxByRules (s : Session) (pkt : ByteMem) (len : UInt32) (fromAddr : SockaddrIn) : Prop where
  valid : ((rtpHeaderValidityCheck len s.config.pt).val pkt).toBool = true ↔
    RtpPktValid 1 pkt len.toNat s.config.pt
  payload : ∀ rpt, ((s.rtpRx len fromAddr).val pkt).out = s.out ++ [.rxRtp rpt] →
    PayloadOf pkt len.toNat rpt
  inside : (s.rtpRx len fromAddr).ReadsWithin pkt 0 len.toNat
  rejected : ¬ RtpPktValid 1 pkt len.toNat s.config.pt →
    ∃ e, (s.rtpRx len fromAddr).val pkt =
      { s with
        env := s.rtpSessionTimestamp.2.env
        lastRtpError := e
        invalidRtpPkt := s.invalidRtpPkt + 1 }

/-- `rtp_rx` does with a packet what it has to, unless the packet announces padding of no octets. -/
theorem rtpRxByRules_iff (s : Session) (pkt : ByteMem) (len : UInt32) (fromAddr : SockaddrIn) :
    s.RtpRxByRules pkt len fromAddr ↔ ¬ ZeroPadding pkt len.toNat s.config.pt := by
  constructor
  · intro h hzero
    have hadmitted := (rtpHeaderValidityCheck_iff pkt len s.config.pt).2 hzero.1
    exact not_rtpPktValid_of_zeroPadding hzero (h.valid.1 hadmitted)
  · intro hzero
    have hvalid : RtpPktValid 0 pkt len.toNat s.config.pt ↔ RtpPktValid 1 pkt len.toNat s.config.pt := by
      rw [rtpPktValid_zero_iff, or_iff_left hzero]
    exact ⟨(rtpHeaderValidityCheck_iff ..).trans hvalid, fun rpt => payloadOf_rtpRx,
      s.readsWithin_rtpRx pkt len fromAddr, fun h => rtpRx_refused (mt hvalid.1 h) fromAddr⟩

/-- The padding flag is set, and the thirteenth and last octet is 0: the packet is taken for valid. -/
theorem zero_padding_admitted :
    ¬ ((zeroed (.still .zero)).rtpSessionInit (plainConfig 1000 4)).RtpRxByRules
      (pktOf [0xA0, 0, 0, 7, 0, 0, 0, 0, 0, 0, 0, 5, 0]) 13 (.ofPort 7) := by
  intro h
  have hvalid := (h.valid.1 (by decide +kernel)).padding (by decide)
  exact absurd hvalid.1 (by decide)

end Session

end Prtp
