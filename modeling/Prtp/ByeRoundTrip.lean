import Prtp.EncoderCalls
import Prtp.RtcpMessages

set_option autoImplicit false

/-! # What a BYE becomes at the other end

A BYE counts its sources in five bits, and `rtcp_encoder_bye_add_ssrc` takes the place of the next source
from that count, while the length of the packet grows by its own index. Up to 31 sources the two agree and
the receiver handles the list as it was given. From the 32nd on, which a 256-octet buffer still takes, the
count starts again at zero: the list is overwritten from its start, and only as many sources are handled as
the count says. No call reports it. -/

namespace Prtp

open ByteReader RtcpEncoder

/-! ## The calls -/

/-- The calls for a RR with these blocks and a BYE with these sources. -/
def byePktCalls (ssrc : UInt32) (blocks : List RtcpRr) (ssrcs : List UInt32)
    (reason : Option (List UInt8)) : List EncoderCall :=
  (.rrBegin ssrc :: (blocks.map .rrAddRr ++ [.endPacket])) ++
    (.byeBegin :: (ssrcs.map .byeAddSsrc ++ (reason.toList.map .byeAddReason ++ [.endPacket])))

section Runs

variable {re re' : RtcpEncoder} {begins begins' : List ℕ}

/-- A run that builds something has built it step by step. -/
theorem encodeCalls_cons_eq_built {call : EncoderCall} {calls : List EncoderCall} :
    encodeCalls re begins (call :: calls) = .built re' begins' ↔
      ∃ re₁, call.apply re = some (true, re₁) ∧
        encodeCalls re₁ (if call.opens then begins ++ [re.writeNdx] else begins) calls =
          .built re' begins' := by
  rw [encodeCalls]
  constructor
  · intro h
    split at h
    · simp at h
    · simp at h
    · rename_i re₁ hcall
      exact ⟨re₁, hcall, h⟩
  · rintro ⟨re₁, hcall, h⟩
    rw [hcall]
    exact h

theorem encodeCalls_append_eq_built {calls calls' : List EncoderCall} :
    encodeCalls re begins (calls ++ calls') = .built re' begins' ↔
      ∃ re₁ begins₁, encodeCalls re begins calls = .built re₁ begins₁ ∧
        encodeCalls re₁ begins₁ calls' = .built re' begins' := by
  induction calls generalizing re begins with
  | nil =>
      constructor
      · intro h
        exact ⟨re, begins, rfl, h⟩
      · rintro ⟨re₁, begins₁, hnil, h⟩
        obtain ⟨rfl, rfl⟩ := Encoded.built.inj hnil
        exact h
  | cons call calls ih =>
      rw [List.cons_append, encodeCalls_cons_eq_built]
      constructor
      · rintro ⟨re₂, hcall, hrest⟩
        obtain ⟨re₁, begins₁, hcalls, h⟩ := ih.1 hrest
        exact ⟨re₁, begins₁, encodeCalls_cons_eq_built.2 ⟨re₂, hcall, hcalls⟩, h⟩
      · rintro ⟨re₁, begins₁, hcalls, h⟩
        obtain ⟨re₂, hcall, hrest⟩ := encodeCalls_cons_eq_built.1 hcalls
        exact ⟨re₂, hcall, ih.2 ⟨re₁, begins₁, hrest, h⟩⟩

/-- Calls that open nothing add no beginnings. -/
theorem begins_of_built {calls : List EncoderCall} (hclosed : ∀ call ∈ calls, call.opens = false)
    (h : encodeCalls re begins calls = .built re' begins') : begins' = begins := by
  induction calls generalizing re with
  | nil => exact (Encoded.built.inj h).2.symm
  | cons call calls ih =>
      obtain ⟨hcall, hrest⟩ := List.forall_mem_cons.1 hclosed
      obtain ⟨re₁, -, h₁⟩ := encodeCalls_cons_eq_built.1 h
      rw [hcall] at h₁
      exact ih hrest h₁

variable {cap count : ℕ} {done body : List UInt8} {pt : UInt8}

/-- Sources added one after the other: the sub-packet grows by a word for each, and as long as the count
    does not wrap they stand in it in order. -/
theorem building_byeAddSsrcs {ssrcs : List UInt32} (h : Building re cap done count pt body)
    (hbuilt : encodeCalls re begins (ssrcs.map .byeAddSsrc) = .built re' begins') :
    ∃ body', body'.length = body.length + 4 * ssrcs.length ∧
      (4 * count = body.length → count + ssrcs.length < 32 →
        body' = body ++ ssrcs.flatMap be32Bytes) ∧
      Building re' cap done ((count + ssrcs.length) % 32) pt body' := by
  induction ssrcs generalizing re count body with
  | nil =>
      obtain ⟨rfl, -⟩ := Encoded.built.inj hbuilt
      refine ⟨body, rfl, fun _ _ => (List.append_nil body).symm, ?_⟩
      rw [List.length_nil, Nat.add_zero, Nat.mod_eq_of_lt h.count_lt]
      exact h
  | cons ssrc ssrcs ih =>
      rw [List.map_cons] at hbuilt
      obtain ⟨re₁, hcall, hrest⟩ := encodeCalls_cons_eq_built.1 hbuilt
      have hroom : done.length + 4 + body.length + 4 ≤ cap := by
        by_contra hfull
        rw [EncoderCall.apply, RtcpEncoder.byeAddSsrc, if_pos (by rw [h.spaceLeft_eq]; omega)] at hcall
        simp at hcall
      obtain ⟨re₁', body₁, hadd, hlen₁, hend₁, h₁⟩ := h.byeAddSsrc hroom ssrc
      obtain rfl : re₁' = re₁ := by
        rw [EncoderCall.apply, hadd] at hcall
        simpa using hcall
      obtain ⟨body', hlen, hend, h'⟩ := ih h₁ hrest
      refine ⟨body', ?_, fun hcount hlt => ?_, ?_⟩
      · rw [List.length_cons]
        omega
      · rw [List.length_cons] at hlt
        have hnext : (count + 1) % 32 = count + 1 := Nat.mod_eq_of_lt (by omega)
        rw [hend (by omega) (by omega), hend₁ hcount, List.flatMap_cons, List.append_assoc]
      · rw [List.length_cons]
        rw [Nat.mod_add_mod, Nat.add_assoc, Nat.add_comm 1] at h'
        exact h'

/-- A reason is octets behind the sources. -/
theorem building_reason {reason : Option (List UInt8)} (h : Building re cap done count pt body)
    (hbuilt : encodeCalls re begins (reason.toList.map .byeAddReason) = .built re' begins') :
    ∃ text, text.length % 4 = 0 ∧ Building re' cap done count pt (body ++ text) := by
  cases reason with
  | none =>
      obtain ⟨rfl, -⟩ := Encoded.built.inj hbuilt
      refine ⟨[], rfl, ?_⟩
      rw [List.append_nil]
      exact h
  | some reason =>
      obtain ⟨re₁, hcall, hnil⟩ := encodeCalls_cons_eq_built.1 hbuilt
      obtain ⟨rfl, -⟩ := Encoded.built.inj hnil
      have hroom : done.length + 4 + body.length + reasonSize reason.length ≤ cap := by
        by_contra hfull
        rw [EncoderCall.apply, h.byeAddReason_full (Nat.lt_of_not_le hfull)] at hcall
        simp at hcall
      obtain ⟨re₁', text, hadd, hlen, h₁⟩ := h.byeAddReason reason hroom
      obtain rfl : re₁' = re₁ := by
        rw [EncoderCall.apply, hadd] at hcall
        simpa using hcall
      refine ⟨text, ?_, h₁⟩
      rw [hlen, reasonSize]
      omega

/-- A BYE behind a finished RR: its sub-packet, when all calls have returned `RTP_TRUE`. -/
theorem complete_bye {ssrcs : List UInt32} {reason : Option (List UInt8)} (h : Complete re cap done)
    (hbuilt : encodeCalls re begins (.byeBegin :: (ssrcs.map .byeAddSsrc ++
      (reason.toList.map .byeAddReason ++ [.endPacket]))) = .built re' begins') :
    begins' = begins ++ [done.length] ∧ ∃ g : RtcpFrame, g.pt = rtcpBye ∧
      g.count = ssrcs.length % 32 ∧
      (ssrcs.length < 32 → ∃ text, g.body = ssrcs.flatMap be32Bytes ++ text) ∧
      Complete re' cap (done ++ g.bytes) := by
  obtain ⟨re₁, hbegin, hrest⟩ := encodeCalls_cons_eq_built.1 hbuilt
  have hroom : done.length + 4 ≤ cap := by
    by_contra hfull
    rw [EncoderCall.apply, RtcpEncoder.byeBegin, if_pos (by rw [h.spaceLeft_eq]; omega)] at hbegin
    simp at hbegin
  obtain ⟨re₁', hcall, h₁⟩ := h.byeBegin hroom
  obtain rfl : re₁' = re₁ := by
    rw [EncoderCall.apply, hcall] at hbegin
    simpa using hbegin
  have hbegins := begins_of_built (fun call hmem => ?_) hrest
  · obtain ⟨re₂, begins₂, hssrcs, htail⟩ := encodeCalls_append_eq_built.1 hrest
    obtain ⟨re₃, begins₃, hreason, hend⟩ := encodeCalls_append_eq_built.1 htail
    obtain ⟨body, hlen, hlist, h₂⟩ := building_byeAddSsrcs h₁ hssrcs
    rw [List.length_nil, Nat.zero_add] at hlen
    rw [Nat.zero_add] at h₂ hlist
    obtain ⟨text, htext, h₃⟩ := building_reason h₂ hreason
    have haligned : (body ++ text).length % 4 = 0 := by
      rw [List.length_append]
      omega
    obtain ⟨re₄, hclose, h₄⟩ := h₃.endPacket haligned
    obtain ⟨re₄', hcall₄, hnil⟩ := encodeCalls_cons_eq_built.1 hend
    obtain ⟨rfl, -⟩ := Encoded.built.inj hnil
    obtain rfl : re₄ = re₄' := by
      rw [EncoderCall.apply, hclose] at hcall₄
      simpa using hcall₄
    refine ⟨?_, ⟨_, rtcpBye, body ++ text, h₃.count_lt, haligned⟩, rfl, rfl, fun hlt => ?_, h₄⟩
    · rw [hbegins, ← h.writeNdx]
      rfl
    · exact ⟨text, congrArg (fun bs => bs ++ text) (hlist rfl hlt)⟩
  · rw [List.mem_append, List.mem_append, List.mem_map, List.mem_map, List.mem_singleton] at hmem
    rcases hmem with ⟨_, -, rfl⟩ | ⟨_, -, rfl⟩ | rfl <;> rfl

end Runs

/-! ## The packet -/

theorem after_append (ph : EncoderPhase) (calls calls' : List EncoderCall) :
    ph.after (calls ++ calls') = (ph.after calls).bind fun ph => ph.after calls' :=
  List.foldlM_append ..

theorem after_rrPkt (ssrc : UInt32) (blocks : List RtcpRr) :
    EncoderPhase.empty.after (.rrBegin ssrc :: (blocks.map .rrAddRr ++ [.endPacket])) =
      some .between := by
  have hblocks : EncoderPhase.rr.after (blocks.map .rrAddRr ++ [.endPacket]) = some .between := by
    induction blocks with
    | nil => rfl
    | cons rr blocks ih => exact ih
  exact hblocks

theorem after_byePkt (ssrc : UInt32) (blocks : List RtcpRr) (ssrcs : List UInt32)
    (reason : Option (List UInt8)) :
    EncoderPhase.empty.after (byePktCalls ssrc blocks ssrcs reason) = some .between := by
  have hssrcs : EncoderPhase.bye.after (ssrcs.map .byeAddSsrc ++
      (reason.toList.map .byeAddReason ++ [.endPacket])) = some .between := by
    induction ssrcs with
    | nil => cases reason <;> rfl
    | cons ssrc ssrcs ih => exact ih
  rw [byePktCalls, after_append, after_rrPkt]
  exact hssrcs

/-- The two sub-packets of a BYE that was built. -/
theorem frames_of_built {stack : ByteMem} {cap : ℕ} (hcap : cap ≤ rtpConfigRtcpEncoderBufferLen)
    {ssrc : UInt32} {blocks : List RtcpRr} {ssrcs : List UInt32} {reason : Option (List UInt8)}
    {re : RtcpEncoder} {begins : List ℕ}
    (hbuilt : encodeCalls (RtcpEncoder.init stack cap) [] (byePktCalls ssrc blocks ssrcs reason) =
      .built re begins) :
    ∃ f g : RtcpFrame, (f.pt = rtcpSr ∨ f.pt = rtcpRr) ∧ begins = [0, f.bytes.length] ∧
      g.pt = rtcpBye ∧ g.count = ssrcs.length % 32 ∧
      (ssrcs.length < 32 → ∃ text, g.body = ssrcs.flatMap be32Bytes ++ text) ∧
      Complete re cap (RtcpFrame.octets [f, g]) ∧ re.msgLen ≤ cap := by
  have hle : re.msgLen ≤ cap := by
    rcases (Stands.start stack cap).calls hcap _ (after_byePkt ssrc blocks ssrcs reason) with
      hrefused | ⟨re', begins', hres, h⟩
    · rw [hbuilt] at hrefused
      simp at hrefused
    · rw [hbuilt] at hres
      obtain ⟨rfl, -⟩ := Encoded.built.inj hres
      exact h.msgLen_le
  obtain ⟨re₁, begins₁, hrr, hbye⟩ := encodeCalls_append_eq_built.1 hbuilt
  have hbegins₁ : begins₁ = [0] := by
    obtain ⟨re₀, -, hrest⟩ := encodeCalls_cons_eq_built.1 hrr
    refine begins_of_built (fun call hmem => ?_) hrest
    rw [List.mem_append, List.mem_map, List.mem_singleton] at hmem
    rcases hmem with ⟨_, -, rfl⟩ | rfl <;> rfl
  rcases (Stands.start stack cap).calls hcap _ (after_rrPkt ssrc blocks) with hrefused | ⟨re', b', hres, h⟩
  · rw [hrr] at hrefused
    simp at hrefused
  · rw [hrr] at hres
    obtain ⟨rfl, rfl⟩ := Encoded.built.inj hres
    cases h with
    | underWay frames count pt body hbegins hled hroom hshape h => exact hshape.elim
    | idle frames hph hbegins hled hroom h =>
        obtain ⟨f, rfl⟩ : ∃ f, frames = [f] := by
          rw [hbegins] at hbegins₁
          rcases frames with _ | ⟨f, _ | ⟨g, gs⟩⟩
          · simp [RtcpFrame.offsets] at hbegins₁
          · exact ⟨f, rfl⟩
          · simp [RtcpFrame.offsets] at hbegins₁
        obtain ⟨hb, g, hpt, hcount, hbody, hdone⟩ := complete_bye h hbye
        refine ⟨f, g, hled f.pt rfl, ?_, hpt, hcount, hbody, ?_, hle⟩
        · rw [hb, hbegins₁]
          simp
        · simpa using hdone

namespace Session

/-- The sources `rtcp_handle_bye` goes through. -/
def byeCalls (pkt : ByteMem) (r : ℕ) : List RtcpMsg := byesAt pkt (subPktCount pkt r) (r + 4)

/-- `rtcp_rx` finds two sub-packets, the second one is a BYE at `r`, and `rtcp_handle_bye` handles these
    sources, each once and in this order. -/
structure ByeHandled (pkt : ByteMem) (len : UInt32) (r : ℕ) (ssrcs : List UInt32) : Prop where
  subPkts : ∀ (s : Session) (fromAddr : SockaddrIn),
    (s.rtcpSubPkts pkt len fromAddr).map Prod.fst = [0, r]
  type : pkt (r + 1) = rtcpBye
  run : ∀ (s : Session) (fromAddr : SockaddrIn),
    (s.rtcpHandleBye r len).val pkt = Runs.run (handleMsg fromAddr len) s (byeCalls pkt r)
  calls : byeCalls pkt r = ssrcs.map .bye

theorem byesAt_length (pkt : ByteMem) (n src : ℕ) : (byesAt pkt n src).length = n := by
  induction n generalizing src with
  | zero => rfl
  | succ n ih => rw [byesAt, List.length_cons, ih]

theorem byesAt_of_holds {pkt : ByteMem} {ssrcs : List UInt32} {src : ℕ}
    (h : pkt.Holds src (ssrcs.flatMap be32Bytes)) : byesAt pkt ssrcs.length src = ssrcs.map .bye := by
  induction ssrcs generalizing src with
  | nil => rfl
  | cons ssrc ssrcs ih =>
      rw [List.flatMap_cons, ByteMem.holds_append, be32Bytes_length] at h
      obtain ⟨hssrc, hrest⟩ := h
      rw [List.length_cons, byesAt, val_be32_of_holds hssrc, ih hrest, List.map_cons]

/-- No more sources are handled than the count can express. -/
theorem ByeHandled.length_le {pkt : ByteMem} {len : UInt32} {r : ℕ} {ssrcs : List UInt32}
    (h : ByeHandled pkt len r ssrcs) : ssrcs.length ≤ 31 := by
  have hcalls := congrArg List.length h.calls
  rw [byeCalls, byesAt_length, List.length_map, subPktCount, val_readCount] at hcalls
  omega

/-- A BYE that the encoder takes without complaint is handled as it was given exactly when it has no more
    than 31 sources. -/
theorem byeHandled_iff (stack : ByteMem) (ssrc : UInt32) (blocks : List RtcpRr) (ssrcs : List UInt32)
    (reason : Option (List UInt8)) (re : RtcpEncoder) (begins : List ℕ)
    (hbuilt : encodeCalls (RtcpEncoder.init stack rtpConfigRtcpEncoderBufferLen) []
      (byePktCalls ssrc blocks ssrcs reason) = .built re begins)
    (pkt : ByteMem) (len : UInt32) (hpkt : pkt.Holds 0 (re.buf.slice 0 re.msgLen))
    (hlen : len.toNat = re.msgLen) :
    (∃ r, begins = [0, r] ∧ ByeHandled pkt len r ssrcs) ↔ ssrcs.length ≤ 31 := by
  obtain ⟨f, g, hreport, hbegins, hpt, hcount, hbody, hdone, hle⟩ :=
    frames_of_built (Nat.le_refl _) hbuilt
  have hbuf : rtpConfigRtcpEncoderBufferLen ≤ 512 := by decide
  have hmsg : re.msgLen = (RtcpFrame.octets [f, g]).length := hdone.writeNdx
  have hholds : pkt.Holds 0 (RtcpFrame.octets [f, g]) := by
    have hsame : re.buf.slice 0 re.msgLen = RtcpFrame.octets [f, g] := by
      rw [hmsg]
      exact hdone.holds
    rwa [hsame] at hpkt
  have hcompound := RtcpFrame.compoundPkt_of_holds hholds hreport (hlen.trans hmsg) (by omega)
  -- the BYE, as it lies in the packet
  have hat : SubPktAt pkt f.bytes.length g.count rtcpBye g.body := by
    rw [RtcpFrame.octets_cons, RtcpFrame.octets_cons, RtcpFrame.octets_nil, List.append_nil,
      ByteMem.holds_append, Nat.zero_add] at hholds
    rw [RtcpFrame.octets_cons, RtcpFrame.octets_cons, RtcpFrame.octets_nil, List.append_nil,
      List.length_append, RtcpFrame.bytes_length, RtcpFrame.bytes_length] at hmsg
    rw [← hpt]
    exact subPktAt_of_holds hholds.2 g.count_lt g.aligned (by omega)
  constructor
  · rintro ⟨r, -, h⟩
    exact h.length_le
  · intro hfew
    obtain ⟨text, hlist⟩ := hbody (Nat.lt_succ_of_le hfew)
    have hsrc := hat.holds
    rw [hlist, ByteMem.holds_append] at hsrc
    refine ⟨f.bytes.length, hbegins, fun s fromAddr => ?_, hat.type, fun s fromAddr => ?_, ?_⟩
    · rw [rtcpSubPkts_fst s fromAddr hcompound]
      simp [RtcpFrame.offsets]
    · rw [rtcpHandleBye, val_bind, val_byeSources fromAddr]
      rfl
    · rw [byeCalls, hat.count, hcount, Nat.mod_eq_of_lt (Nat.lt_succ_of_le hfew)]
      exact byesAt_of_holds hsrc.1

theorem byeHandled_two : ∃ re begins,
    encodeCalls (RtcpEncoder.init (pktOf []) rtpConfigRtcpEncoderBufferLen) []
      (byePktCalls 7 [] [5, 6] (some [98, 121, 101])) = .built re begins ∧
    ((∃ r, begins = [0, r] ∧ ByeHandled re.buf (UInt32.ofNat re.msgLen) r [5, 6]) ↔ 2 ≤ 31) := by
  refine ⟨_, _, rfl, ?_⟩
  exact byeHandled_iff (pktOf []) 7 [] [5, 6] (some [98, 121, 101]) _ _ rfl _ _ (ByteMem.holds_slice ..) rfl

/-- Thirty-two sources. -/
def manySsrcs : List UInt32 := (List.range 32).map UInt32.ofNat

/-- A BYE with 32 sources is encoded without complaint, and its sources are not handled. -/
theorem bye_of_many_lost : ¬ ∀ (stack : ByteMem) (ssrc : UInt32) (blocks : List RtcpRr)
    (ssrcs : List UInt32) (reason : Option (List UInt8)) (re : RtcpEncoder) (begins : List ℕ),
    encodeCalls (RtcpEncoder.init stack rtpConfigRtcpEncoderBufferLen) []
      (byePktCalls ssrc blocks ssrcs reason) = .built re begins →
    ∀ (pkt : ByteMem) (len : UInt32), pkt.Holds 0 (re.buf.slice 0 re.msgLen) →
      len.toNat = re.msgLen → ∃ r, begins = [0, r] ∧ ByeHandled pkt len r ssrcs := by
  intro h
  obtain ⟨re, begins, hbuilt⟩ : ∃ re begins,
      encodeCalls (RtcpEncoder.init (pktOf []) rtpConfigRtcpEncoderBufferLen) []
        (byePktCalls 7 [] manySsrcs none) = .built re begins := ⟨_, _, rfl⟩
  obtain ⟨f, g, -, -, -, -, -, -, hle⟩ := frames_of_built (Nat.le_refl _) hbuilt
  have hbuf : rtpConfigRtcpEncoderBufferLen ≤ 512 := by decide
  obtain ⟨r, -, hhandled⟩ := h _ _ _ _ _ _ _ hbuilt re.buf (UInt32.ofNat re.msgLen)
    (ByteMem.holds_slice ..) (by rw [UInt32.toNat_ofNat']; omega)
  exact absurd hhandled.length_le (by decide)

end Session

end Prtp
