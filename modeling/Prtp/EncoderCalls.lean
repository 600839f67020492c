import Prtp.RtcpWalk

set_option autoImplicit false

/-! # Sequences of encoder calls

A compound packet is the work of many calls: a `begin` opens a sub-packet, further calls add to it, and
`rtcp_encoder_end_packet` closes it. Which call may follow which is a grammar with few states. Along every
sequence it allows, the encoder is where the state says: closed sub-packets of whole words lie end to end in
the buffer, and at most one more is under way. So the crash of `rtcp_encoder_end_packet` is out of reach,
and `rtcp_check_pkt` finds the sub-packets where the `begin` calls put them. -/

namespace Prtp

/-! ## Closed sub-packets -/

/-- A sub-packet of whole words, with a count that fits its header. -/
structure RtcpFrame where
  count : ℕ
  pt : UInt8
  body : List UInt8
  count_lt : count < 32
  aligned : body.length % 4 = 0

namespace RtcpFrame

def bytes (f : RtcpFrame) : List UInt8 := rtcpSubPkt f.count f.pt f.body

@[simp] theorem bytes_length (f : RtcpFrame) : f.bytes.length = 4 + f.body.length :=
  rtcpSubPkt_length ..

/-- The octets of frames laid end to end. -/
def octets (frames : List RtcpFrame) : List UInt8 := frames.flatMap bytes

@[simp] theorem octets_nil : octets [] = [] := rfl

@[simp] theorem octets_cons (f : RtcpFrame) (fs : List RtcpFrame) :
    octets (f :: fs) = f.bytes ++ octets fs :=
  List.flatMap_cons ..

theorem octets_concat (frames : List RtcpFrame) (f : RtcpFrame) :
    octets (frames ++ [f]) = octets frames ++ f.bytes := by
  rw [octets, List.flatMap_append, List.flatMap_singleton, octets]

/-- Where the frames start, the first one at `r`. -/
def offsets : ℕ → List RtcpFrame → List ℕ
  | _, [] => []
  | r, f :: fs => r :: offsets (r + f.bytes.length) fs

theorem offsets_concat (r : ℕ) (frames : List RtcpFrame) (f : RtcpFrame) :
    offsets r (frames ++ [f]) = offsets r frames ++ [r + (octets frames).length] := by
  induction frames generalizing r with
  | nil => rfl
  | cons g gs ih =>
      rw [List.cons_append, offsets, ih, offsets, octets_cons, List.length_append, Nat.add_assoc,
        List.cons_append]

theorem octets_aligned (frames : List RtcpFrame) : (octets frames).length % 4 = 0 := by
  induction frames with
  | nil => rfl
  | cons f fs ih =>
      have haligned := f.aligned
      rw [octets_cons, List.length_append, bytes_length]
      omega

open Session in
/-- Frames in memory are sub-packets, each with the size its header says. -/
theorem subPkts_of_holds {pkt : ByteMem} {r : ℕ} {frames : List RtcpFrame}
    (h : pkt.Holds r (octets frames)) (hsize : (octets frames).length ≤ 262144) :
    Records.Tiles (subPktSize pkt) (r + (octets frames).length) r (offsets r frames) ∧
      ∀ x ∈ offsets r frames, (pkt x).toNat / 64 = 2 := by
  induction frames generalizing r with
  | nil => exact ⟨rfl, by simp [offsets]⟩
  | cons f fs ih =>
      rw [octets_cons, ByteMem.holds_append] at h
      rw [octets_cons, List.length_append] at hsize ⊢
      have hlen := f.bytes_length
      have hat := subPktAt_of_holds h.1 f.count_lt f.aligned (by omega)
      obtain ⟨htiles, hversion⟩ := ih h.2 (by omega)
      rw [← Nat.add_assoc]
      refine ⟨⟨rfl, ?_⟩, List.forall_mem_cons.2 ⟨hat.version, hversion⟩⟩
      rw [hat.size, ← hlen]
      exact htiles

/-- Frames that start with a report make up a well-formed compound packet. -/
theorem compoundPkt_of_holds {pkt : ByteMem} {len : UInt32} {f : RtcpFrame} {fs : List RtcpFrame}
    (h : pkt.Holds 0 (octets (f :: fs))) (hreport : f.pt = rtcpSr ∨ f.pt = rtcpRr)
    (hlen : len.toNat = (octets (f :: fs)).length) (hsize : (octets (f :: fs)).length ≤ 262144) :
    CompoundPkt pkt len (offsets 0 (f :: fs)) := by
  obtain ⟨htiles, hversion⟩ := subPkts_of_holds h hsize
  have haligned := octets_aligned (f :: fs)
  rw [Nat.zero_add, ← hlen] at htiles
  rw [octets_cons, ByteMem.holds_append] at h
  rw [octets_cons, List.length_append, bytes_length] at hsize hlen haligned
  have hat := Session.subPktAt_of_holds h.1 f.count_lt f.aligned (by omega)
  refine ⟨by omega, by omega, hat.padding, ?_, htiles, hversion⟩
  have htype : pkt 1 = f.pt := hat.type
  rw [htype]
  exact hreport

end RtcpFrame

/-! ## Calls and their order -/

/-- A call of the encoder with its arguments. -/
inductive EncoderCall
  | srBegin (ssrc ntpMsb ntpLsb rtpTs pktCount octetCount : UInt32)
  | srAddRr (rr : RtcpRr)
  | rrBegin (ssrc : UInt32)
  | rrAddRr (rr : RtcpRr)
  | sdesBegin
  | sdesChunkBegin (ssrc : UInt32)
  | sdesChunkAddCname (name : ByteMem) (len : UInt8)
  | sdesChunkEnd
  | byeBegin
  | byeAddSsrc (ssrc : UInt32)
  | byeAddReason (reason : List UInt8)
  | endPacket

namespace EncoderCall

/-- What the call returns, and the encoder it leaves; `none` is the crash. -/
def apply (re : RtcpEncoder) : EncoderCall → Option (Bool × RtcpEncoder)
  | .srBegin ssrc ntpMsb ntpLsb rtpTs pktCount octetCount =>
      some (re.srBegin ssrc ntpMsb ntpLsb rtpTs pktCount octetCount)
  | .srAddRr rr => some (re.srAddRr rr)
  | .rrBegin ssrc => some (re.rrBegin ssrc)
  | .rrAddRr rr => some (re.rrAddRr rr)
  | .sdesBegin => some re.sdesBegin
  | .sdesChunkBegin ssrc => some (re.sdesChunkBegin ssrc)
  | .sdesChunkAddCname name len => some (re.sdesChunkAddCname name len)
  | .sdesChunkEnd => some re.sdesChunkEnd
  | .byeBegin => some re.byeBegin
  | .byeAddSsrc ssrc => some (re.byeAddSsrc ssrc)
  | .byeAddReason reason => some (re.byeAddReason reason)
  | .endPacket => re.endPacket.map fun re => (true, re)

/-- Does the call open a sub-packet? -/
def opens : EncoderCall → Bool
  | .srBegin .. | .rrBegin _ | .sdesBegin | .byeBegin => true
  | _ => false

end EncoderCall

/-- What a sequence of calls comes to: the crash, a call that returns `RTP_FALSE`, or an encoder, with the
    write indices at which the `begin` calls found it. -/
inductive Encoded
  | crashed
  | refused
  | built (re : RtcpEncoder) (begins : List ℕ)

/-- Make the calls one after the other, up to the first that fails. -/
def encodeCalls (re : RtcpEncoder) (begins : List ℕ) : List EncoderCall → Encoded
  | [] => .built re begins
  | call :: calls =>
      match call.apply re with
      | none => .crashed
      | some (false, _) => .refused
      | some (true, re') =>
          encodeCalls re' (if call.opens then begins ++ [re.writeNdx] else begins) calls

/-- Where a compound packet stands between two calls. -/
inductive EncoderPhase
  | empty
  | between
  | sr
  | rr
  | sdes
  | chunk
  | bye
  | byeReason
  deriving DecidableEq

namespace EncoderPhase

/-- The grammar of compound packets: a report first, then any sub-packets. -/
def next : EncoderPhase → EncoderCall → Option EncoderPhase
  | .empty, .srBegin .. | .between, .srBegin .. => some .sr
  | .empty, .rrBegin _ | .between, .rrBegin _ => some .rr
  | .between, .sdesBegin => some .sdes
  | .between, .byeBegin => some .bye
  | .sr, .srAddRr _ => some .sr
  | .rr, .rrAddRr _ => some .rr
  | .sdes, .sdesChunkBegin _ => some .chunk
  | .chunk, .sdesChunkAddCname .. => some .chunk
  | .chunk, .sdesChunkEnd => some .sdes
  | .bye, .byeAddSsrc _ => some .bye
  | .bye, .byeAddReason _ => some .byeReason
  | .sr, .endPacket | .rr, .endPacket | .sdes, .endPacket | .bye, .endPacket
  | .byeReason, .endPacket => some .between
  | _, _ => none

/-- Between which phases a call leads. -/
theorem next_cases {ph ph' : EncoderPhase} {call : EncoderCall} (h : ph.next call = some ph') :
    match call with
    | .srBegin .. => (ph = .empty ∨ ph = .between) ∧ ph' = .sr
    | .srAddRr _ => ph = .sr ∧ ph' = .sr
    | .rrBegin _ => (ph = .empty ∨ ph = .between) ∧ ph' = .rr
    | .rrAddRr _ => ph = .rr ∧ ph' = .rr
    | .sdesBegin => ph = .between ∧ ph' = .sdes
    | .sdesChunkBegin _ => ph = .sdes ∧ ph' = .chunk
    | .sdesChunkAddCname .. => ph = .chunk ∧ ph' = .chunk
    | .sdesChunkEnd => ph = .chunk ∧ ph' = .sdes
    | .byeBegin => ph = .between ∧ ph' = .bye
    | .byeAddSsrc _ => ph = .bye ∧ ph' = .bye
    | .byeAddReason _ => ph = .bye ∧ ph' = .byeReason
    | .endPacket => (ph ≠ .empty ∧ ph ≠ .between ∧ ph ≠ .chunk) ∧ ph' = .between := by
  cases call <;> cases ph <;> cases h <;> simp

/-- What a sub-packet under way looks like: the blocks behind the fixed part of a report are counted, and a
    chunk starts at a word. -/
def Shape (re : RtcpEncoder) (count : ℕ) (pt : UInt8) (body : List UInt8) : EncoderPhase → Prop
  | .empty | .between => False
  | .sr => pt = rtcpSr ∧ 4 + body.length = 28 + 24 * count
  | .rr => pt = rtcpRr ∧ 4 + body.length = 8 + 24 * count
  | .sdes | .bye | .byeReason => body.length % 4 = 0
  | .chunk => re.chunkBegin % 4 = 0 ∧ re.chunkBegin ≤ re.writeNdx

end EncoderPhase

/-- The first of these packet types is that of a report. -/
def LedByReport (pts : List UInt8) : Prop := ∀ pt ∈ pts.head?, pt = rtcpSr ∨ pt = rtcpRr

theorem LedByReport.concat {pts : List UInt8} (h : LedByReport pts) {pt : UInt8}
    (hpt : pts = [] → pt = rtcpSr ∨ pt = rtcpRr) : LedByReport (pts ++ [pt]) := by
  cases pts with
  | nil => simpa [LedByReport] using hpt rfl
  | cons p pts => exact h

open RtcpEncoder in
/-- How the encoder stands in a phase: what it holds, and that the sub-packets start at `begins`. -/
inductive Stands (re : RtcpEncoder) (cap : ℕ) (begins : List ℕ) (ph : EncoderPhase) : Prop
  | idle (frames : List RtcpFrame)
      (hph : ph = .empty ∧ frames = [] ∨ ph = .between ∧ frames ≠ [])
      (hbegins : begins = RtcpFrame.offsets 0 frames)
      (hled : LedByReport (frames.map RtcpFrame.pt))
      (hcap : (RtcpFrame.octets frames).length ≤ cap)
      (h : Complete re cap (RtcpFrame.octets frames))
  | underWay (frames : List RtcpFrame) (count : ℕ) (pt : UInt8) (body : List UInt8)
      (hbegins : begins = RtcpFrame.offsets 0 frames ++ [(RtcpFrame.octets frames).length])
      (hled : LedByReport (frames.map RtcpFrame.pt ++ [pt]))
      (hcap : (RtcpFrame.octets frames).length + 4 + body.length ≤ cap)
      (hshape : ph.Shape re count pt body)
      (h : Building re cap (RtcpFrame.octets frames) count pt body)

/-- The call is refused, or it leaves the encoder as it stands in `ph`. -/
def CallOk (re : RtcpEncoder) (cap : ℕ) (begins : List ℕ) (call : EncoderCall) (ph : EncoderPhase) :
    Prop :=
  (∃ re', call.apply re = some (false, re')) ∨
    ∃ re', call.apply re = some (true, re') ∧
      Stands re' cap (if call.opens then begins ++ [re.writeNdx] else begins) ph

namespace Stands

open RtcpEncoder

variable {re : RtcpEncoder} {cap : ℕ} {begins : List ℕ} {ph : EncoderPhase}

/-- The four `begin` calls, each with the room it asks for. -/
theorem opened (h : Stands re cap begins ph) {call : EncoderCall} (hopens : call.opens = true)
    {ph' : EncoderPhase} (pt : UInt8) (body : List UInt8) {n : ℕ} (hn : 4 + body.length = n)
    (hidle : ph = .between ∨ ph = .empty ∧ (pt = rtcpSr ∨ pt = rtcpRr))
    (hrefused : re.spaceLeft < n → call.apply re = some (false, re))
    (hbegin : ∀ done : List UInt8, Complete re cap done → done.length + n ≤ cap →
      ∃ re', call.apply re = some (true, re') ∧ Building re' cap done 0 pt body)
    (hshape : ∀ re', ph'.Shape re' 0 pt body) : CallOk re cap begins call ph' := by
  cases h with
  | underWay frames count pt body hbegins hled hcap hshape h =>
      rcases hidle with rfl | ⟨rfl, -⟩
      · exact hshape.elim
      · exact hshape.elim
  | idle frames hph hbegins hled hcap h =>
      by_cases hroom : (RtcpFrame.octets frames).length + n ≤ cap
      · obtain ⟨re', hcall, h'⟩ := hbegin _ h hroom
        refine Or.inr ⟨re', hcall, ?_⟩
        rw [if_pos hopens, hbegins, h.writeNdx]
        refine .underWay frames 0 pt body rfl (hled.concat fun hnil => ?_) (by omega) (hshape re') h'
        rcases hidle with rfl | ⟨-, hpt⟩
        · -- between two sub-packets there is a first one already
          rw [List.map_eq_nil_iff] at hnil
          rcases hph with ⟨hempty, -⟩ | ⟨-, hne⟩
          · exact absurd hempty (by decide)
          · exact absurd hnil hne
        · exact hpt
      · refine Or.inl ⟨re, hrefused ?_⟩
        rw [h.spaceLeft_eq]
        omega

theorem added {re' : RtcpEncoder} {call : EncoderCall} {ph' : EncoderPhase}
    (hopens : call.opens = false) (hcall : call.apply re = some (true, re'))
    (h : Stands re' cap begins ph') : CallOk re cap begins call ph' := by
  refine Or.inr ⟨re', hcall, ?_⟩
  rw [hopens]
  exact h

/-- A report block, in either report. -/
theorem addRr (h : Stands re cap begins ph) (hcap : cap ≤ rtpConfigRtcpEncoderBufferLen)
    {call : EncoderCall} {base : ℕ} {rr : RtcpRr} {type : UInt8} (hopens : call.opens = false)
    (hcall : call.apply re = some (RtcpEncoder.addRr base re rr)) (hbase : 0 < base)
    (hshape : ∀ re count pt body, ph.Shape re count pt body ↔
      pt = type ∧ 4 + body.length = base + 24 * count)
    (hopen : ph ≠ .empty ∧ ph ≠ .between) : CallOk re cap begins call ph := by
  have hbuf : rtpConfigRtcpEncoderBufferLen ≤ 512 := by decide
  cases h with
  | idle frames hph =>
      rcases hph with ⟨rfl, -⟩ | ⟨rfl, -⟩
      · exact absurd rfl hopen.1
      · exact absurd rfl hopen.2
  | underWay frames count pt body hbegins hled hroom hbody h =>
      obtain ⟨rfl, hsize⟩ := (hshape _ _ _ _).1 hbody
      by_cases hfits : (RtcpFrame.octets frames).length + 4 + body.length + 24 ≤ cap
      · obtain ⟨re', hadd, h'⟩ := h.addRr hsize (by omega) hfits rr
        rw [hadd] at hcall
        refine added hopens hcall (.underWay frames (count + 1) pt (body ++ rr.bytes) hbegins hled ?_
          ((hshape _ _ _ _).2 ⟨rfl, ?_⟩) h')
        · rw [List.length_append, RtcpRr.bytes_length]
          omega
        · rw [List.length_append, RtcpRr.bytes_length]
          omega
      · rw [h.addRr_full (Nat.lt_of_not_le hfits) rr] at hcall
        exact Or.inl ⟨re, hcall⟩

theorem sdesChunkBegin (h : Stands re cap begins .sdes) (ssrc : UInt32) :
    CallOk re cap begins (.sdesChunkBegin ssrc) .chunk := by
  cases h with
  | idle frames hph => simp at hph
  | underWay frames count pt body hbegins hled hroom hbody h =>
      by_cases hfits : (RtcpFrame.octets frames).length + 4 + body.length + 4 ≤ cap
      · obtain ⟨re', hcall, hchunk, h'⟩ := h.sdesChunkBegin hfits ssrc
        have haligned := RtcpFrame.octets_aligned frames
        have hword : body.length % 4 = 0 := hbody
        refine added rfl (congrArg some hcall) (.underWay frames _ pt _ hbegins hled ?_ ?_ h')
        · rw [List.length_append, be32Bytes_length]
          omega
        · rw [EncoderPhase.Shape, hchunk, h'.writeNdx, h.writeNdx, List.length_append]
          omega
      · refine Or.inl ⟨re, congrArg some ?_⟩
        rw [RtcpEncoder.sdesChunkBegin, if_pos (by rw [h.spaceLeft_eq]; omega)]

theorem sdesChunkAddCname (h : Stands re cap begins .chunk) (name : ByteMem) (len : UInt8) :
    CallOk re cap begins (.sdesChunkAddCname name len) .chunk := by
  cases h with
  | idle frames hph => simp at hph
  | underWay frames count pt body hbegins hled hroom hbody h =>
      by_cases hfits : (RtcpFrame.octets frames).length + 4 + body.length + (len.toNat + 2) ≤ cap
      · obtain ⟨re', hcall, hchunk, h'⟩ := h.sdesChunkAddCname name len hfits
        obtain ⟨hword, hbehind⟩ := hbody
        refine added rfl (congrArg some hcall) (.underWay frames _ pt _ hbegins hled ?_ ?_ h')
        · simp only [List.length_append, ByteMem.slice_length, List.length_cons, List.length_nil]
          omega
        · rw [h.writeNdx] at hbehind
          rw [EncoderPhase.Shape, hchunk, h'.writeNdx, List.length_append]
          exact ⟨hword, by omega⟩
      · refine Or.inl ⟨re, congrArg some ?_⟩
        rw [RtcpEncoder.sdesChunkAddCname, if_pos (by rw [h.spaceLeft_eq]; omega)]

theorem sdesChunkEnd (h : Stands re cap begins .chunk) :
    CallOk re cap begins .sdesChunkEnd .sdes := by
  cases h with
  | idle frames hph => simp at hph
  | underWay frames count pt body hbegins hled hroom hbody h =>
      by_cases hfits : re.writeNdx + 1 + chunkPad (re.writeNdx + 1 - re.chunkBegin) ≤ cap
      · obtain ⟨re', hcall, h'⟩ := h.sdesChunkEnd hfits
        have haligned := RtcpFrame.octets_aligned frames
        obtain ⟨hword, hbehind⟩ := hbody
        rw [h.writeNdx] at hfits hbehind
        have hlen : (body ++ [0] ++ List.replicate
            (chunkPad (re.writeNdx + 1 - re.chunkBegin)) 0).length =
            body.length + 1 + chunkPad ((RtcpFrame.octets frames).length + 4 + body.length + 1 -
              re.chunkBegin) := by
          rw [h.writeNdx, List.length_append, List.length_append, List.length_singleton,
            List.length_replicate]
        refine added rfl (congrArg some hcall) (.underWay frames _ pt _ hbegins hled ?_ ?_ h')
        · rw [hlen]
          omega
        · rw [EncoderPhase.Shape, hlen]
          rw [chunkPad] at hfits ⊢
          omega
      · exact Or.inl ⟨re.sdesChunkEnd.2, congrArg some
          (Prod.ext (h.sdesChunkEnd_full (Nat.lt_of_not_le hfits)) rfl)⟩

theorem byeAddSsrc (h : Stands re cap begins .bye) (ssrc : UInt32) :
    CallOk re cap begins (.byeAddSsrc ssrc) .bye := by
  cases h with
  | idle frames hph => simp at hph
  | underWay frames count pt body hbegins hled hroom hbody h =>
      by_cases hfits : (RtcpFrame.octets frames).length + 4 + body.length + 4 ≤ cap
      · obtain ⟨re', body', hcall, hlen, -, h'⟩ := h.byeAddSsrc hfits ssrc
        have hword : body.length % 4 = 0 := hbody
        refine added rfl (congrArg some hcall) (.underWay frames _ pt body' hbegins hled ?_ ?_ h')
        · omega
        · rw [EncoderPhase.Shape, hlen]
          omega
      · refine Or.inl ⟨re, congrArg some ?_⟩
        rw [RtcpEncoder.byeAddSsrc, if_pos (by rw [h.spaceLeft_eq]; omega)]

theorem byeAddReason (h : Stands re cap begins .bye) (reason : List UInt8) :
    CallOk re cap begins (.byeAddReason reason) .byeReason := by
  cases h with
  | idle frames hph => simp at hph
  | underWay frames count pt body hbegins hled hroom hbody h =>
      by_cases hfits : (RtcpFrame.octets frames).length + 4 + body.length +
          reasonSize reason.length ≤ cap
      · obtain ⟨re', text, hcall, hlen, h'⟩ := h.byeAddReason reason hfits
        have hword : body.length % 4 = 0 := hbody
        refine added rfl (congrArg some hcall) (.underWay frames _ pt _ hbegins hled ?_ ?_ h')
        · rw [List.length_append, hlen]
          omega
        · rw [EncoderPhase.Shape, List.length_append, hlen, reasonSize]
          omega
      · exact Or.inl ⟨re, congrArg some (h.byeAddReason_full (Nat.lt_of_not_le hfits))⟩

/-- The end of a packet: what was under way is whole words, so there is no crash. -/
theorem endPacket (h : Stands re cap begins ph)
    (hopen : ph ≠ .empty ∧ ph ≠ .between ∧ ph ≠ .chunk) :
    CallOk re cap begins .endPacket .between := by
  cases h with
  | idle frames hph =>
      rcases hph with ⟨rfl, -⟩ | ⟨rfl, -⟩
      · exact absurd rfl hopen.1
      · exact absurd rfl hopen.2.1
  | underWay frames count pt body hbegins hled hroom hbody h =>
      have haligned : body.length % 4 = 0 := by
        cases ph with
        | empty | between => exact hbody.elim
        | sr | rr =>
            have hsize := hbody.2
            omega
        | sdes | bye | byeReason => exact hbody
        | chunk => exact absurd rfl hopen.2.2
      obtain ⟨re', hcall, h'⟩ := h.endPacket haligned
      obtain ⟨f, rfl, rfl, rfl⟩ : ∃ f : RtcpFrame, f.count = count ∧ f.pt = pt ∧ f.body = body :=
        ⟨⟨count, pt, body, h.count_lt, haligned⟩, rfl, rfl, rfl⟩
      refine added rfl (congrArg (Option.map fun re => (true, re)) hcall)
        (.idle (frames ++ [f]) (Or.inr ⟨rfl, by simp⟩) ?_ ?_ ?_ ?_)
      · rw [hbegins, RtcpFrame.offsets_concat, Nat.zero_add]
      · rw [List.map_append]
        exact hled
      · rw [RtcpFrame.octets_concat, List.length_append, RtcpFrame.bytes_length]
        omega
      · rw [RtcpFrame.octets_concat]
        exact h'

/-- One call, whichever it is. -/
theorem call (h : Stands re cap begins ph) (hcap : cap ≤ rtpConfigRtcpEncoderBufferLen)
    {call : EncoderCall} {ph' : EncoderPhase} (hnext : ph.next call = some ph') :
    CallOk re cap begins call ph' := by
  have hcase := EncoderPhase.next_cases hnext
  cases call with
  | srBegin ssrc ntpMsb ntpLsb rtpTs pktCount octetCount =>
      obtain ⟨hidle, rfl⟩ := hcase
      refine h.opened rfl rtcpSr (be32Bytes ssrc ++ be32Bytes ntpMsb ++ be32Bytes ntpLsb ++
          be32Bytes rtpTs ++ be32Bytes pktCount ++ be32Bytes octetCount) rfl
        (hidle.symm.imp id fun he => ⟨he, Or.inl rfl⟩)
        (fun hfull => congrArg some (if_pos hfull)) (fun done hd hroom => ?_) fun _ => ⟨rfl, rfl⟩
      obtain ⟨re', hcall, h'⟩ := hd.srBegin hroom ssrc ntpMsb ntpLsb rtpTs pktCount octetCount
      exact ⟨re', congrArg some hcall, h'⟩
  | rrBegin ssrc =>
      obtain ⟨hidle, rfl⟩ := hcase
      refine h.opened rfl rtcpRr (be32Bytes ssrc) rfl (hidle.symm.imp id fun he => ⟨he, Or.inr rfl⟩)
        (fun hfull => congrArg some (if_pos hfull)) (fun done hd hroom => ?_) fun _ => ⟨rfl, rfl⟩
      obtain ⟨re', hcall, h'⟩ := hd.rrBegin hroom ssrc
      exact ⟨re', congrArg some hcall, h'⟩
  | sdesBegin =>
      obtain ⟨rfl, rfl⟩ := hcase
      refine h.opened rfl rtcpSdes [] rfl (Or.inl rfl)
        (fun hfull => congrArg some (if_pos hfull)) (fun done hd hroom => ?_) fun _ => rfl
      obtain ⟨re', hcall, h'⟩ := hd.sdesBegin hroom
      exact ⟨re', congrArg some hcall, h'⟩
  | byeBegin =>
      obtain ⟨rfl, rfl⟩ := hcase
      refine h.opened rfl rtcpBye [] rfl (Or.inl rfl)
        (fun hfull => congrArg some (if_pos hfull)) (fun done hd hroom => ?_) fun _ => rfl
      obtain ⟨re', hcall, h'⟩ := hd.byeBegin hroom
      exact ⟨re', congrArg some hcall, h'⟩
  | srAddRr rr =>
      obtain ⟨rfl, rfl⟩ := hcase
      exact h.addRr hcap rfl rfl (by decide) (fun _ _ _ _ => Iff.rfl) (by decide)
  | rrAddRr rr =>
      obtain ⟨rfl, rfl⟩ := hcase
      exact h.addRr hcap rfl rfl (by decide) (fun _ _ _ _ => Iff.rfl) (by decide)
  | sdesChunkBegin ssrc =>
      obtain ⟨rfl, rfl⟩ := hcase
      exact h.sdesChunkBegin ssrc
  | sdesChunkAddCname name len =>
      obtain ⟨rfl, rfl⟩ := hcase
      exact h.sdesChunkAddCname name len
  | sdesChunkEnd =>
      obtain ⟨rfl, rfl⟩ := hcase
      exact h.sdesChunkEnd
  | byeAddSsrc ssrc =>
      obtain ⟨rfl, rfl⟩ := hcase
      exact h.byeAddSsrc ssrc
  | byeAddReason reason =>
      obtain ⟨rfl, rfl⟩ := hcase
      exact h.byeAddReason reason
  | endPacket =>
      obtain ⟨hopen, rfl⟩ := hcase
      exact h.endPacket hopen

theorem start (stack : ByteMem) (cap : ℕ) : Stands (init stack cap) cap [] .empty :=
  .idle [] (Or.inl ⟨rfl, rfl⟩) rfl (fun _ hpt => by simp at hpt) (Nat.zero_le _) (.init stack cap)

/-- The write index stays in the buffer. -/
theorem msgLen_le (h : Stands re cap begins ph) : re.msgLen ≤ cap := by
  cases h with
  | idle frames hph hbegins hled hcap h => exact h.writeNdx.trans_le hcap
  | underWay frames count pt body hbegins hled hcap hshape h =>
      exact h.writeNdx.trans_le hcap

/-- A packet that is closed passes the check, and is cut where it was begun. -/
theorem accepted (h : Stands re cap begins .between) (hcap : cap ≤ rtpConfigRtcpEncoderBufferLen) :
    (rtcpCheckPkt (UInt32.ofNat re.msgLen)).val re.buf = .noError ∧
      CompoundPkt re.buf (UInt32.ofNat re.msgLen) begins := by
  have hbuf : rtpConfigRtcpEncoderBufferLen ≤ 512 := by decide
  cases h with
  | underWay frames count pt body hbegins hled hcap hshape h => exact hshape.elim
  | idle frames hph hbegins hled hroom h =>
      cases frames with
      | nil => simp at hph
      | cons f fs =>
          have hlen : (UInt32.ofNat re.msgLen).toNat = (RtcpFrame.octets (f :: fs)).length := by
            rw [msgLen, h.writeNdx, UInt32.toNat_ofNat']
            omega
          have hpkt := RtcpFrame.compoundPkt_of_holds h.holds (hled f.pt rfl) hlen (by omega)
          rw [hbegins]
          exact ⟨(Session.rtcpCheckPkt_iff _ _).2 ⟨_, hpkt⟩, hpkt⟩

end Stands

/-! ## Runs of calls -/

/-- The phase after calls that follow the grammar. -/
def EncoderPhase.after (ph : EncoderPhase) (calls : List EncoderCall) : Option EncoderPhase :=
  calls.foldlM EncoderPhase.next ph

/-- Calls in the order of the grammar do not crash, and unless one is refused they leave the encoder as it
    stands in the phase they lead to. -/
theorem Stands.calls {re : RtcpEncoder} {cap : ℕ} {begins : List ℕ} {ph ph' : EncoderPhase}
    (hcap : cap ≤ rtpConfigRtcpEncoderBufferLen) (calls : List EncoderCall)
    (h : Stands re cap begins ph) (hafter : ph.after calls = some ph') :
    encodeCalls re begins calls = .refused ∨
      ∃ re' begins', encodeCalls re begins calls = .built re' begins' ∧
        Stands re' cap begins' ph' := by
  induction calls generalizing re begins ph with
  | nil =>
      obtain rfl : ph = ph' := Option.some.inj hafter
      exact Or.inr ⟨re, begins, rfl, h⟩
  | cons call calls ih =>
      obtain ⟨ph₁, hnext, hrest⟩ : ∃ ph₁, ph.next call = some ph₁ ∧ ph₁.after calls = some ph' := by
        rw [EncoderPhase.after, List.foldlM_cons] at hafter
        exact Option.bind_eq_some_iff.1 hafter
      rcases h.call hcap hnext with ⟨re₁, hcall⟩ | ⟨re₁, hcall, h₁⟩
      · left
        rw [encodeCalls, hcall]
      · rw [encodeCalls, hcall]
        exact ih h₁ hrest

/-- What a compound packet that was built has to satisfy. -/
structure WellEncoded (re : RtcpEncoder) (bufLen : ℕ) (begins : List ℕ) : Prop where
  inside : re.msgLen ≤ bufLen
  accepted : (rtcpCheckPkt (UInt32.ofNat re.msgLen)).val re.buf = .noError
  boundaries : CompoundPkt re.buf (UInt32.ofNat re.msgLen) begins

/-- Whatever the order of calls, as long as the grammar allows it: no crash on the way, never more than the
    buffer counted, and a packet that is closed is a well-formed one. -/
theorem encodeCalls_wellEncoded (stack : ByteMem) (bufLen : ℕ)
    (hlen : bufLen ≤ rtpConfigRtcpEncoderBufferLen) (calls : List EncoderCall) (ph : EncoderPhase)
    (hafter : EncoderPhase.empty.after calls = some ph) :
    encodeCalls (RtcpEncoder.init stack bufLen) [] calls ≠ .crashed ∧
      ∀ re begins, encodeCalls (RtcpEncoder.init stack bufLen) [] calls = .built re begins →
        re.msgLen ≤ bufLen ∧ (ph = .between → WellEncoded re bufLen begins) := by
  rcases (Stands.start stack bufLen).calls hlen calls hafter with hres | ⟨re', begins', hres, h⟩
  · rw [hres]
    exact ⟨by simp, fun re begins hbuilt => by simp at hbuilt⟩
  · rw [hres]
    refine ⟨by simp, fun re begins hbuilt => ?_⟩
    obtain ⟨rfl, rfl⟩ := Encoded.built.inj hbuilt
    refine ⟨h.msgLen_le, ?_⟩
    rintro rfl
    obtain ⟨haccepted, hpkt⟩ := h.accepted hlen
    exact ⟨h.msgLen_le, haccepted, hpkt⟩

/-- A RR, a SDES sub-packet with the CNAME "ab", and a BYE with the reason "cd". -/
def leavingCalls : List EncoderCall :=
  [.rrBegin 7, .endPacket, .sdesBegin, .sdesChunkBegin 7, .sdesChunkAddCname (pktOf [97, 98]) 2,
    .sdesChunkEnd, .endPacket, .byeBegin, .byeAddSsrc 7, .byeAddReason [99, 100], .endPacket]

/-- They fill the buffer. -/
theorem leavingCalls_wellEncoded :
    ∃ re, encodeCalls (RtcpEncoder.init (pktOf []) 36) [] leavingCalls = .built re [0, 8, 24] ∧
      re.msgLen = 36 ∧ WellEncoded re 36 [0, 8, 24] := by
  obtain ⟨re, hbuilt, hlen⟩ : ∃ re, encodeCalls (RtcpEncoder.init (pktOf []) 36) [] leavingCalls =
      .built re [0, 8, 24] ∧ re.msgLen = 36 := ⟨_, rfl, rfl⟩
  have hencoded := (encodeCalls_wellEncoded (pktOf []) 36 (by decide) leavingCalls .between rfl).2 re _ hbuilt
  exact ⟨re, hbuilt, hlen, hencoded.2 rfl⟩

end Prtp
