import Prtp.EncoderCalls

set_option autoImplicit false

/-! # Encoder calls that return `RTP_FALSE`

Every call of the encoder but one asks for all the room it will need before it touches the encoder, so a call
that is refused has done nothing. `rtcp_encoder_sdes_chunk_end` asks twice: for the null octet that ends the
items, and once that is written for the padding behind it. -/

namespace Prtp

/-- The message built so far is the same, and so is what the next call builds on. -/
structure SameMessage (re re' : RtcpEncoder) : Prop where
  writeNdx : re'.writeNdx = re.writeNdx
  chunkBegin : re'.chunkBegin = re.chunkBegin
  count : re'.count = re.count
  octets : ∀ i < re.writeNdx, re'.buf i = re.buf i

theorem SameMessage.refl (re : RtcpEncoder) : SameMessage re re := ⟨rfl, rfl, rfl, fun _ _ => rfl⟩

/-- If the call returns `RTP_FALSE`, the message is as it was. -/
def EncoderCall.Atomic (re : RtcpEncoder) (call : EncoderCall) : Prop :=
  ∀ re', call.apply re = some (false, re') → SameMessage re re'

namespace RtcpEncoder

open EncoderCall

/-- There is room for the null octet that ends a chunk, but not for the padding behind it. -/
def NullOnly (re : RtcpEncoder) : Prop :=
  0 < re.spaceLeft ∧ re.spaceLeft < 1 + chunkPad (re.writeNdx + 1 - re.chunkBegin)

/-- A call that looks at the room before all else: refused, it leaves the encoder it was given. -/
theorem atomic_of_refused {re re₁ : RtcpEncoder} {call : EncoderCall} {c : Prop} [Decidable c]
    (h : call.apply re = some (if c then (false, re) else (true, re₁))) : call.Atomic re := by
  intro re' hcall
  rw [h, Option.some_inj] at hcall
  split at hcall
  · rw [← (Prod.mk.inj hcall).2]
    exact .refl re
  · exact absurd (Prod.mk.inj hcall).1 (by decide)

theorem chunkPad_eq (n : ℕ) : chunkPad n = if n % 4 = 0 then 0 else 4 - n % 4 := by
  unfold chunkPad
  split <;> omega

/-- The end of a chunk by the room there is: none, some for the null octet only, or enough. -/
theorem sdesChunkEnd_cases (re : RtcpEncoder) :
    (re.spaceLeft = 0 ∧ re.sdesChunkEnd = (false, re)) ∨
      (re.NullOnly ∧ re.sdesChunkEnd = (false, (re.put re.writeNdx [0]).advance 1)) ∨
      (¬ re.NullOnly ∧ re.sdesChunkEnd.1 = true) := by
  by_cases hfull : re.spaceLeft < 1
  · exact Or.inl ⟨by omega, if_pos hfull⟩
  right
  have hleft : ((re.put re.writeNdx [0]).advance 1).spaceLeft = re.spaceLeft - 1 :=
    Nat.sub_succ' re.bufLen re.writeNdx
  have hsize : ((re.put re.writeNdx [0]).advance 1).writeNdx -
      ((re.put re.writeNdx [0]).advance 1).chunkBegin = re.writeNdx + 1 - re.chunkBegin := rfl
  rw [NullOnly, chunkPad_eq, sdesChunkEnd, if_neg hfull, padChunk, hsize, hleft]
  by_cases haligned : (re.writeNdx + 1 - re.chunkBegin) % 4 = 0
  · right
    rw [if_pos haligned, if_pos haligned]
    exact ⟨by omega, rfl⟩
  · rw [if_neg haligned, if_neg haligned]
    by_cases hpad : re.spaceLeft - 1 < 4 - (re.writeNdx + 1 - re.chunkBegin) % 4
    · left
      rw [if_pos hpad]
      exact ⟨⟨by omega, by omega⟩, rfl⟩
    · right
      rw [if_neg hpad]
      exact ⟨fun h => hpad (by omega), rfl⟩

theorem sdesChunkEnd_atomic_iff (re : RtcpEncoder) :
    EncoderCall.sdesChunkEnd.Atomic re ↔ ¬ re.NullOnly := by
  rcases re.sdesChunkEnd_cases with ⟨hfull, heq⟩ | ⟨hnull, heq⟩ | ⟨hroom, htrue⟩
  · refine iff_of_true (fun re' hcall => ?_) fun h => ?_
    · rw [EncoderCall.apply, heq, Option.some_inj] at hcall
      rw [← (Prod.mk.inj hcall).2]
      exact .refl re
    · exact absurd h.1 (by omega)
  · -- the write index is one further than it was
    refine iff_of_false (fun h => ?_) (not_not_intro hnull)
    have hsame := h _ (congrArg some heq)
    exact Nat.succ_ne_self _ hsame.writeNdx
  · refine iff_of_true (fun re' hcall => ?_) hroom
    rw [EncoderCall.apply, Option.some_inj] at hcall
    rw [hcall] at htrue
    exact absurd htrue Bool.false_ne_true

end RtcpEncoder

open RtcpEncoder in
/-- Whatever the encoder holds, a call that returns `RTP_FALSE` has changed nothing unless it is the end of a
    chunk with room for the null octet and none for the padding. -/
theorem failedCall_atomic_iff (re : RtcpEncoder) (call : EncoderCall) :
    call.Atomic re ↔ ¬ (call = .sdesChunkEnd ∧ re.NullOnly) := by
  cases call with
  | sdesChunkEnd => simpa using re.sdesChunkEnd_atomic_iff
  | srBegin => exact iff_of_true (atomic_of_refused rfl) (by simp)
  | srAddRr => exact iff_of_true (atomic_of_refused rfl) (by simp)
  | rrBegin => exact iff_of_true (atomic_of_refused rfl) (by simp)
  | rrAddRr => exact iff_of_true (atomic_of_refused rfl) (by simp)
  | sdesBegin => exact iff_of_true (atomic_of_refused rfl) (by simp)
  | sdesChunkBegin => exact iff_of_true (atomic_of_refused rfl) (by simp)
  | sdesChunkAddCname => exact iff_of_true (atomic_of_refused rfl) (by simp)
  | byeBegin => exact iff_of_true (atomic_of_refused rfl) (by simp)
  | byeAddSsrc => exact iff_of_true (atomic_of_refused rfl) (by simp)
  | byeAddReason => exact iff_of_true (atomic_of_refused rfl) (by simp)
  | endPacket =>
      refine iff_of_true (fun re' hcall => ?_) (by simp)
      obtain ⟨re₁, -, hret⟩ := Option.map_eq_some_iff.1 hcall
      exact absurd (Prod.mk.inj hret).1 (by decide)

/-- A RR and a chunk with an empty CNAME: 18 octets. -/
def openChunkCalls : List EncoderCall :=
  [.rrBegin 7, .endPacket, .sdesBegin, .sdesChunkBegin 7, .sdesChunkAddCname (pktOf []) 0]

/-- In a buffer of 19 octets the chunk cannot be ended, and the null octet stays. -/
theorem chunkEnd_leaves_null :
    EncoderPhase.empty.after (openChunkCalls ++ [.sdesChunkEnd]) = some .sdes ∧
      ∃ re begins, encodeCalls (RtcpEncoder.init (pktOf []) 19) [] openChunkCalls = .built re begins ∧
        ∃ re', EncoderCall.sdesChunkEnd.apply re = some (false, re') ∧
          re.writeNdx = 18 ∧ re'.writeNdx = 19 ∧ ¬ EncoderCall.sdesChunkEnd.Atomic re := by
  refine ⟨rfl, _, _, rfl, _, rfl, rfl, rfl, fun h => ?_⟩
  have hsame := h _ rfl
  exact absurd hsame.writeNdx (by decide)

end Prtp
