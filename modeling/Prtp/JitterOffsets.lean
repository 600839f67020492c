import Prtp.FirstDelivery

set_option autoImplicit false

/-! # Jitter and the clock of the sender

The jitter of a source is a running average of how much the transit times of its packets differ. The clock
of the sender cancels out of every difference between two packets; but `rtp_init_seq` does not touch
`transit`, so the first difference of a new source is one between its first accepted packet and whatever
the slot held. -/

namespace Prtp

open ByteReader

/-! ## What a source is fed -/

/-- What `rtp_rx` makes a source go through: a data packet of its own, or a packet that names it on the
    CSRC list. -/
inductive SourceEvent
  | data (seq : UInt16) (rtpTs arrival : UInt32)
  | named (rtpTs arrival : UInt32)
deriving DecidableEq

namespace SourceEvent

/-- `arrival - rtp_ts` -/
def transit : SourceEvent → UInt32
  | data _ rtpTs arrival => arrival - rtpTs
  | named rtpTs arrival => arrival - rtpTs

/-- The same event, had the sender's clock been `c` ahead. -/
def shift (c : UInt32) : SourceEvent → SourceEvent
  | data seq rtpTs arrival => data seq (rtpTs + c) arrival
  | named rtpTs arrival => named (rtpTs + c) arrival

theorem transit_shift (c : UInt32) (e : SourceEvent) : (e.shift c).transit = e.transit - c := by
  cases e with
  | data seq rtpTs arrival => simp only [shift, transit]; grind
  | named rtpTs arrival => simp only [shift, transit]; grind

end SourceEvent

/-! ## One difference -/

/-- The absolute value of a difference of transit times, as `rtcp_compute_jitter` takes it. -/
def absDelta (delta : UInt32) : ℤ :=
  let d := delta.toInt32
  (if d < 0 then -d else d).toInt

/-- What a difference of transit times makes of the jitter. -/
def nextJitter (jitter delta : UInt32) : UInt32 :=
  UInt32.ofInt ((15 * (jitter.toNat : ℤ) + absDelta delta).tdiv 16)

theorem absDelta_bounds (delta : UInt32) :
    -2147483648 ≤ absDelta delta ∧ absDelta delta ≤ 2147483647 := by
  have hlow := (if delta.toInt32 < 0 then -delta.toInt32 else delta.toInt32).le_toInt
  have hhigh := (if delta.toInt32 < 0 then -delta.toInt32 else delta.toInt32).toInt_lt
  simp only [absDelta]
  omega

/-- The conversion of the sum's sixteenth truncates towards zero. -/
theorem tdiv_sixteen (x : ℤ) : x.tdiv 16 = if 0 ≤ x then x / 16 else -(-x / 16) := by
  split
  · rename_i hpos
    exact Int.tdiv_eq_ediv_of_nonneg hpos
  · rename_i hneg
    rw [← Int.tdiv_eq_ediv_of_nonneg (by omega), Int.neg_tdiv, neg_neg]

theorem toNat_nextJitter (jitter delta : UInt32) :
    ((nextJitter jitter delta).toNat : ℤ) =
      (15 * (jitter.toNat : ℤ) + absDelta delta).tdiv 16 % 4294967296 :=
  toNat_ofInt32 _

theorem RtpSource.jitter_rtcpComputeJitter (s : RtpSource) (rtpTs arrival : UInt32) :
    (s.rtcpComputeJitter rtpTs arrival).jitter =
      nextJitter s.jitter (arrival - rtpTs - s.transit) := by
  have hval : ((s.jitter.toNat : ℚ) + 1 / 16 *
      ((absDelta (arrival - rtpTs - s.transit) : ℚ) - s.jitter.toNat)) =
      ((15 * (s.jitter.toNat : ℤ) + absDelta (arrival - rtpTs - s.transit) : ℤ) : ℚ) / (16 : ℤ) := by
    push_cast
    ring
  show truncToUInt32 ((s.jitter.toNat : ℚ) + 1 / 16 *
      ((absDelta (arrival - rtpTs - s.transit) : ℚ) - s.jitter.toNat)) = _
  rw [hval, truncToUInt32_div _ (by decide)]
  rfl

/-- The jitter comes to nothing if the sum is smaller than the divisor. -/
theorem nextJitter_eq_zero_iff (jitter delta : UInt32) :
    nextJitter jitter delta = 0 ↔
      -16 < 15 * (jitter.toNat : ℤ) + absDelta delta ∧
        15 * (jitter.toNat : ℤ) + absDelta delta < 16 := by
  have hval := toNat_nextJitter jitter delta
  have hzero : nextJitter jitter delta = 0 ↔ (nextJitter jitter delta).toNat = 0 :=
    ⟨fun h => congrArg UInt32.toNat h, fun h => UInt32.toNat.inj h⟩
  have hdelta := absDelta_bounds delta
  have hjitter := jitter.toNat_lt
  rw [hzero]
  rw [tdiv_sixteen] at hval
  split at hval
  · omega
  · omega

/-- No sum is so large that the conversion takes two quotients for one. -/
theorem nextJitter_eq_iff (jitter delta delta' : UInt32) :
    nextJitter jitter delta = nextJitter jitter delta' ↔
      (15 * (jitter.toNat : ℤ) + absDelta delta).tdiv 16 =
        (15 * (jitter.toNat : ℤ) + absDelta delta').tdiv 16 := by
  have hval := toNat_nextJitter jitter delta
  have hval' := toNat_nextJitter jitter delta'
  have hrange : ∀ d, -134217728 ≤ (15 * (jitter.toNat : ℤ) + absDelta d).tdiv 16 ∧
      (15 * (jitter.toNat : ℤ) + absDelta d).tdiv 16 < 4160749568 := by
    intro d
    have hdelta := absDelta_bounds d
    have hjitter := jitter.toNat_lt
    rw [tdiv_sixteen]
    split
    · omega
    · omega
  have hq := hrange delta
  have hq' := hrange delta'
  constructor
  · intro heq
    rw [heq] at hval
    omega
  · intro heq
    apply UInt32.toNat.inj
    rw [heq] at hval
    omega

/-- No jitter is so large that a difference of `2 ^ 30` does not show. -/
theorem nextJitter_ne (jitter : UInt32) : nextJitter jitter 0 ≠ nextJitter jitter 1073741824 := by
  intro heq
  have hsame := toNat_nextJitter jitter 0
  have hfar := toNat_nextJitter jitter 1073741824
  have hjitter := jitter.toNat_lt
  have hnone : absDelta 0 = 0 := by decide
  have hlarge : absDelta 1073741824 = 1073741824 := by decide
  rw [hnone, tdiv_sixteen, if_pos (by omega), Int.emod_eq_of_lt (by omega) (by omega)] at hsame
  rw [hlarge, tdiv_sixteen, if_pos (by omega), Int.emod_eq_of_lt (by omega) (by omega)] at hfar
  rw [heq, hfar] at hsame
  omega

namespace RtpSource

/-! ## One event -/

/-- What an event makes of the source: `rtp_update_seq` decides whether a packet of its own goes into the
    jitter, one that names it always does. -/
def hear (s : RtpSource) : SourceEvent → RtpSource
  | .data seq rtpTs arrival =>
      let (ok, s) := s.rtpUpdateSeq seq
      if ok then s.rtcpComputeJitter rtpTs arrival else s
  | .named rtpTs arrival => s.rtcpComputeJitter rtpTs arrival

/-- The event goes into the jitter. -/
def Takes (s : RtpSource) : SourceEvent → Bool
  | .data seq _ _ => (s.rtpUpdateSeq seq).1
  | .named _ _ => true

/-- The source as it is, had its packets been sent by a clock `c` ahead. -/
def offset (c : UInt32) (s : RtpSource) : RtpSource := { s with transit := s.transit - c }

theorem rtpUpdateSeq_offset (c : UInt32) (s : RtpSource) (seq : UInt16) :
    (s.offset c).rtpUpdateSeq seq = ((s.rtpUpdateSeq seq).1, (s.rtpUpdateSeq seq).2.offset c) := by
  by_cases htrial : s.probation ≠ 0
  · by_cases hnext : seq.toNat = s.maxSeq.toNat + 1
    · by_cases hlast : s.probation - 1 = 0
      · rw [rtpUpdateSeq_passed htrial hnext hlast]
        exact rtpUpdateSeq_passed (s := s.offset c) htrial hnext hlast
      · rw [rtpUpdateSeq_counted htrial hnext hlast]
        exact rtpUpdateSeq_counted (s := s.offset c) htrial hnext hlast
    · rw [rtpUpdateSeq_restart htrial hnext]
      exact rtpUpdateSeq_restart (s := s.offset c) htrial hnext
  · rw [not_not] at htrial
    rcases lt_or_ge (s.udelta seq) rtpConfigMaxDropout with hnear | hfar
    · rw [rtpUpdateSeq_ahead htrial hnear]
      exact rtpUpdateSeq_ahead (s := s.offset c) htrial hnear
    · rcases lt_or_ge (rtpSeqMod - rtpConfigMaxMisorder) (s.udelta seq) with hlate | hearly
      · rw [rtpUpdateSeq_late htrial hlate]
        exact rtpUpdateSeq_late (s := s.offset c) htrial hlate
      · by_cases hbad : seq.toUInt32 = s.badSeq
        · rw [rtpUpdateSeq_resync htrial hfar hearly hbad]
          exact rtpUpdateSeq_resync (s := s.offset c) htrial hfar hearly hbad
        · rw [rtpUpdateSeq_jump htrial hfar hearly hbad]
          exact rtpUpdateSeq_jump (s := s.offset c) htrial hfar hearly hbad

/-- `rtp_update_seq` leaves the transit time and the jitter alone. -/
theorem rtpUpdateSeq_keeps (s : RtpSource) (seq : UInt16) :
    (s.rtpUpdateSeq seq).2.transit = s.transit ∧ (s.rtpUpdateSeq seq).2.jitter = s.jitter := by
  simp only [rtpUpdateSeq, rtpInitSeq]
  split_ifs <;> exact ⟨rfl, rfl⟩

section Event

variable (s : RtpSource) (e : SourceEvent) (c : UInt32)

theorem takes_shift : s.Takes (e.shift c) = s.Takes e := by
  cases e with
  | data seq rtpTs arrival => rfl
  | named rtpTs arrival => rfl

theorem takes_offset : (s.offset c).Takes (e.shift c) = s.Takes e := by
  cases e with
  | data seq rtpTs arrival =>
      show ((s.offset c).rtpUpdateSeq seq).1 = (s.rtpUpdateSeq seq).1
      rw [rtpUpdateSeq_offset]
  | named rtpTs arrival => rfl

/-- An event that does not go into the jitter does not depend on the clock. -/
theorem hear_skipped (hskip : s.Takes e = false) :
    (s.hear e).transit = s.transit ∧ (s.hear e).jitter = s.jitter ∧ s.hear (e.shift c) = s.hear e := by
  cases e with
  | data seq rtpTs arrival =>
      have hrefused : (s.rtpUpdateSeq seq).1 = false := hskip
      have hkeeps := s.rtpUpdateSeq_keeps seq
      simp only [hear, SourceEvent.shift, hrefused, Bool.false_eq_true, if_false]
      exact ⟨hkeeps.1, hkeeps.2, trivial⟩
  | named rtpTs arrival => exact absurd hskip (by simp [Takes])

theorem hear_taken (htaken : s.Takes e = true) :
    (s.hear e).transit = e.transit ∧ (s.hear e).jitter = nextJitter s.jitter (e.transit - s.transit) := by
  cases e with
  | data seq rtpTs arrival =>
      have haccepted : (s.rtpUpdateSeq seq).1 = true := htaken
      obtain ⟨htransit, hjitter⟩ := s.rtpUpdateSeq_keeps seq
      simp only [hear, haccepted, if_true]
      refine ⟨rfl, ?_⟩
      rw [jitter_rtcpComputeJitter, htransit, hjitter]
      rfl
  | named rtpTs arrival => exact ⟨rfl, s.jitter_rtcpComputeJitter rtpTs arrival⟩

theorem rtcpComputeJitter_offset (rtpTs arrival : UInt32) :
    (s.offset c).rtcpComputeJitter (rtpTs + c) arrival =
      (s.rtcpComputeJitter rtpTs arrival).offset c := by
  have htransit : arrival - (rtpTs + c) = arrival - rtpTs - c := by grind
  have hdelta : arrival - rtpTs - c - (s.transit - c) = arrival - rtpTs - s.transit := by grind
  simp only [rtcpComputeJitter, offset, htransit, hdelta]

/-- Once both clocks have left their mark, they make no difference any more. -/
theorem hear_offset : (s.offset c).hear (e.shift c) = (s.hear e).offset c := by
  cases e with
  | data seq rtpTs arrival =>
      simp only [hear, SourceEvent.shift, rtpUpdateSeq_offset]
      split
      · exact rtcpComputeJitter_offset _ c rtpTs arrival
      · rfl
  | named rtpTs arrival => exact rtcpComputeJitter_offset s c rtpTs arrival

/-- The first event that goes into the jitter leaves the mark of the clock, and maybe another jitter. -/
theorem hear_shift (htaken : s.Takes e = true) (hsame : (s.hear (e.shift c)).jitter = (s.hear e).jitter) :
    s.hear (e.shift c) = (s.hear e).offset c := by
  have htransit : ∀ rtpTs arrival : UInt32, arrival - (rtpTs + c) = arrival - rtpTs - c :=
    fun rtpTs arrival => by grind
  cases e with
  | data seq rtpTs arrival =>
      have haccepted : (s.rtpUpdateSeq seq).1 = true := htaken
      simp only [hear, SourceEvent.shift, haccepted, if_true] at hsame ⊢
      simp only [rtcpComputeJitter, offset, htransit] at hsame ⊢
      rw [hsame]
  | named rtpTs arrival =>
      simp only [hear, SourceEvent.shift] at hsame ⊢
      simp only [rtcpComputeJitter, offset, htransit] at hsame ⊢
      rw [hsame]

end Event

/-! ## Sequences of events -/

/-- The jitter after each event that goes into it. -/
def jitters : RtpSource → List SourceEvent → List UInt32
  | _, [] => []
  | s, e :: events =>
      if s.Takes e then (s.hear e).jitter :: jitters (s.hear e) events else jitters (s.hear e) events

/-- The first event that goes into the jitter. -/
def firstTaken : RtpSource → List SourceEvent → Option SourceEvent
  | _, [] => none
  | s, e :: events => if s.Takes e then some e else firstTaken (s.hear e) events

theorem jitters_offset (c : UInt32) (s : RtpSource) (events : List SourceEvent) :
    (s.offset c).jitters (events.map (.shift c)) = s.jitters events := by
  induction events generalizing s with
  | nil => rfl
  | cons e events ih =>
      rw [List.map_cons, jitters, jitters, takes_offset, hear_offset, ih]
      rfl

/-- The sender's clock makes no difference to any jitter if and only if it makes none to the first. -/
theorem jitters_shift_iff (c : UInt32) (s : RtpSource) (events : List SourceEvent) :
    s.jitters (events.map (.shift c)) = s.jitters events ↔
      ∀ e ∈ s.firstTaken events,
        nextJitter s.jitter (e.transit - s.transit - c) = nextJitter s.jitter (e.transit - s.transit) := by
  induction events generalizing s with
  | nil => simp [jitters, firstTaken]
  | cons e events ih =>
      rw [List.map_cons, jitters, jitters, firstTaken, takes_shift]
      cases htaken : s.Takes e with
      | false =>
          obtain ⟨htransit, hjitter, hsame⟩ := hear_skipped s e c htaken
          rw [if_neg Bool.false_ne_true, if_neg Bool.false_ne_true, if_neg Bool.false_ne_true, hsame, ih,
            htransit, hjitter]
      | true =>
          have hshifted := hear_taken s (e.shift c) ((s.takes_shift e c).trans htaken)
          have hdelta : e.transit - c - s.transit = e.transit - s.transit - c := by grind
          rw [e.transit_shift c, hdelta] at hshifted
          rw [if_pos rfl, if_pos rfl, if_pos rfl]
          simp only [Option.mem_some, forall_eq']
          rw [← hshifted.2, ← (hear_taken s e htaken).2]
          constructor
          · intro heq
            exact List.head_eq_of_cons_eq heq
          · intro hsame
            rw [hear_shift s e c htaken hsame, jitters_offset]
            rfl

/-- Some clock makes a difference to the first jitter, whatever the source starts from. -/
theorem jitters_shift_all_iff (s : RtpSource) (events : List SourceEvent) :
    (∀ c, s.jitters (events.map (.shift c)) = s.jitters events) ↔ s.firstTaken events = none := by
  simp only [jitters_shift_iff]
  constructor
  · intro hall
    cases hfirst : s.firstTaken events with
    | none => rfl
    | some e =>
        rw [hfirst] at hall
        -- one clock makes the difference nothing, another one `2 ^ 30`
        have hnone := hall (e.transit - s.transit) e rfl
        have hlarge := hall (e.transit - s.transit - 1073741824) e rfl
        rw [UInt32.sub_self] at hnone
        have hdelta : e.transit - s.transit - (e.transit - s.transit - 1073741824) = 1073741824 := by
          grind
        rw [hdelta] at hlarge
        exact absurd (hnone.trans hlarge.symm) (nextJitter_ne s.jitter)
  · intro hnone c e he
    rw [hnone] at he
    cases he

/-- A source without jitter whose packets all take equally long stays without. -/
theorem jitters_steady (s : RtpSource) (events : List SourceEvent) (hjitter : s.jitter = 0)
    (hsteady : ∀ e ∈ events, e.transit = s.transit) : ∀ j ∈ s.jitters events, j = 0 := by
  induction events generalizing s with
  | nil => simp [jitters]
  | cons e events ih =>
      have he := hsteady e List.mem_cons_self
      have hlater := fun e' he' => hsteady e' (List.mem_cons_of_mem e he')
      rw [jitters]
      cases htaken : s.Takes e with
      | false =>
          obtain ⟨htransit, hsame, -⟩ := hear_skipped s e 0 htaken
          rw [if_neg Bool.false_ne_true]
          exact ih (s.hear e) (hsame.trans hjitter) fun e' he' => (hlater e' he').trans htransit.symm
      | true =>
          obtain ⟨htransit, hnext⟩ := hear_taken s e htaken
          rw [he, UInt32.sub_self, hjitter] at hnext
          have hzero : (s.hear e).jitter = 0 := hnext.trans (by decide)
          rw [if_pos rfl]
          intro j hj
          rcases List.mem_cons.1 hj with rfl | hj
          · exact hzero
          · exact ih (s.hear e) hzero (fun e' he' => (hlater e' he').trans (he.symm.trans htransit.symm))
              j hj

/-- A source whose packets all take equally long has no jitter if and only if what it starts from gives
    none to the first. -/
theorem jitters_zero_iff (s : RtpSource) (events : List SourceEvent) (t : UInt32)
    (hsteady : ∀ e ∈ events, e.transit = t) :
    (∀ j ∈ s.jitters events, j = 0) ↔
      ∀ e ∈ s.firstTaken events, nextJitter s.jitter (e.transit - s.transit) = 0 := by
  induction events generalizing s with
  | nil => simp [jitters, firstTaken]
  | cons e events ih =>
      have he := hsteady e List.mem_cons_self
      have hlater := fun e' he' => hsteady e' (List.mem_cons_of_mem e he')
      rw [jitters, firstTaken]
      cases htaken : s.Takes e with
      | false =>
          obtain ⟨htransit, hsame, -⟩ := hear_skipped s e 0 htaken
          rw [if_neg Bool.false_ne_true, if_neg Bool.false_ne_true, ih (s.hear e) hlater, htransit, hsame]
      | true =>
          obtain ⟨htransit, hnext⟩ := hear_taken s e htaken
          rw [if_pos rfl, if_pos rfl]
          simp only [Option.mem_some, forall_eq', List.mem_cons, forall_eq_or_imp, ← hnext]
          refine and_iff_left_of_imp fun hzero => ?_
          exact jitters_steady (s.hear e) events hzero fun e' he' =>
            (hlater e' he').trans (he.symm.trans htransit.symm)

/-- The jitters of a new source that takes over the memory `mem` depend on its sender's clock unless nothing
    goes into them: a clock that is `c` ahead makes no difference exactly if it makes none to the first
    difference, which is one to the transit time that was there before. A source whose packets all take equally
    long has no jitter exactly if the sum with what was there before is smaller than the divisor. -/
theorem jitter_offset_iff (mem : RtpSource) (start : UInt16) (events : List SourceEvent) :
    (∀ c, (mem.rtpInitSeq start true).jitters (events.map (.shift c)) =
          (mem.rtpInitSeq start true).jitters events ↔
        ∀ e ∈ (mem.rtpInitSeq start true).firstTaken events,
          (15 * (mem.jitter.toNat : ℤ) + absDelta (e.transit - mem.transit - c)).tdiv 16 =
            (15 * (mem.jitter.toNat : ℤ) + absDelta (e.transit - mem.transit)).tdiv 16) ∧
      ((∀ c, (mem.rtpInitSeq start true).jitters (events.map (.shift c)) =
          (mem.rtpInitSeq start true).jitters events) ↔
        (mem.rtpInitSeq start true).firstTaken events = none) ∧
      ∀ t, (∀ e ∈ events, e.transit = t) →
        ((∀ j ∈ (mem.rtpInitSeq start true).jitters events, j = 0) ↔
          ∀ e ∈ (mem.rtpInitSeq start true).firstTaken events,
            -16 < 15 * (mem.jitter.toNat : ℤ) + absDelta (e.transit - mem.transit) ∧
              15 * (mem.jitter.toNat : ℤ) + absDelta (e.transit - mem.transit) < 16) := by
  refine ⟨fun c => ?_, jitters_shift_all_iff _ events, fun t hsteady => ?_⟩
  · rw [jitters_shift_iff]
    simp only [nextJitter_eq_iff]
    exact Iff.rfl
  · rw [jitters_zero_iff _ events t hsteady]
    simp only [nextJitter_eq_zero_iff]
    exact Iff.rfl

/-- Memory of zeroes, taken over by a source whose first packet has the sequence number 10. -/
def newOnZeroes : RtpSource := (⟨0, 0, 0, 0, 0, 0, 0, 0, 0, 0⟩ : RtpSource).rtpInitSeq 10 true

/-- Two packets that both take 15, the second of which is accepted. -/
def tookFifteen : List SourceEvent := [.data 11 0 15, .data 12 5 20]

/-- On memory of zeroes packets that all take 15 give no jitter. -/
theorem jitter_offset_iff_fifteen :
    (∀ j ∈ ((⟨0, 0, 0, 0, 0, 0, 0, 0, 0, 0⟩ : RtpSource).rtpInitSeq 10 true).jitters tookFifteen, j = 0) ↔
      ∀ e ∈ ((⟨0, 0, 0, 0, 0, 0, 0, 0, 0, 0⟩ : RtpSource).rtpInitSeq 10 true).firstTaken tookFifteen,
        -16 < 15 * ((0 : UInt32).toNat : ℤ) + absDelta (e.transit - 0) ∧
          15 * ((0 : UInt32).toNat : ℤ) + absDelta (e.transit - 0) < 16 :=
  (jitter_offset_iff ⟨0, 0, 0, 0, 0, 0, 0, 0, 0, 0⟩ 10 tookFifteen).2.2 15 (by decide)

/-- If the sender's clock is `2 ^ 30` ahead, the same packets give a jitter, and still they all take equally
    long. -/
theorem clock_ahead_gives_jitter :
    newOnZeroes.jitters (tookFifteen.map (.shift 1073741824)) ≠ newOnZeroes.jitters tookFifteen ∧
      (∀ e ∈ tookFifteen.map (SourceEvent.shift 1073741824), e.transit = 15 - 1073741824) ∧
      ¬ ∀ j ∈ newOnZeroes.jitters (tookFifteen.map (.shift 1073741824)), j = 0 := by
  have hjitters : newOnZeroes.jitters (tookFifteen.map (.shift 1073741824)) = [67108863] := by
    decide +kernel
  refine ⟨by decide +kernel, by decide +kernel, fun hall => ?_⟩
  exact absurd (hall 67108863 (hjitters ▸ List.mem_singleton_self _)) (by decide)

end RtpSource

/-! ## What `rtp_rx` feeds a source -/

namespace Session

/-- What a packet of the member `m` itself makes `m` go through: if it is accepted, it may name `m` once
    more on its CSRC list. -/
def pktEvents (ssrc : UInt32) (m : Slot) (s : Session) (p : DataPkt) : List SourceEvent :=
  let hdr := rtpHdrOf p.pkt
  let arrival := s.rtpSessionTimestamp.1
  .data hdr.seq hdr.ts arrival ::
    if ((s.member m).rtpSrc.rtpUpdateSeq hdr.seq).1 then
      (hdr.csrc.filter fun csrc => decide (csrc = ssrc)).map fun _ => .named hdr.ts arrival
    else []

/-- What the packets make `m` go through. -/
def rxEvents (ssrc : UInt32) (fromAddr : SockaddrIn) (m : Slot) : Session → List DataPkt →
    List SourceEvent
  | _, [] => []
  | s, p :: ps => pktEvents ssrc m s p ++ rxEvents ssrc fromAddr m (s.rx fromAddr p) ps

theorem sameConfig_frame : Frame fun s s' => s'.config = s.config where
  trans h h' := h'.trans h
  quiet h := h.config
  add _ _ _ _ := rfl
  del _ _ _ := rfl
  table _ _ := rfl
  conflicts _ _ := rfl
  counts _ _ _ _ _ := rfl

/-- `rtcp_compute_jitter` on a member works on its source and leaves everybody heard who was. -/
theorem HearsData.computeJitter {pt : UInt8} {ssrc : UInt32} {fromAddr : SockaddrIn} {m : Slot}
    {s : Session} (h : HearsData pt ssrc fromAddr m s) (j : Slot) (rtpTs arrival : UInt32) :
    HearsData pt ssrc fromAddr m (s.rtcpComputeJitter j rtpTs arrival) ∧
      ((s.rtcpComputeJitter j rtpTs arrival).member m).rtpSrc =
        if m = j then (s.member m).rtpSrc.hear (.named rtpTs arrival) else (s.member m).rtpSrc := by
  refine ⟨h.of_quiet (.modifyMember s j ⟨rfl, rfl, rfl, rfl, rfl, rfl, rfl⟩), ?_⟩
  unfold Session.rtcpComputeJitter
  rw [member_modifyMember]
  split
  · rename_i hj
    rw [hj]
    rfl
  · rfl

/-- A source that is created by a CSRC list has been named once, over what the slot held. -/
theorem rtpHandleCsrc_created {s : Session} {csrc : UInt32}
    (hnone : s.rtpSessionLookupMember csrc = none) (hfree : s.freeList ≠ []) (seq : UInt16)
    (fromAddr : SockaddrIn) (rtpTs arrival : UInt32) :
    ∃ m, HearsData s.config.pt csrc fromAddr m (s.rtpHandleCsrc seq fromAddr rtpTs arrival csrc) ∧
      ((s.rtpHandleCsrc seq fromAddr rtpTs arrival csrc).member m).rtpSrc =
        ((s.member m).rtpSrc.rtpInitSeq seq true).hear (.named rtpTs arrival) := by
  cases halloc : s.rtpSessionAllocMember csrc with
  | none => exact absurd (rtpSessionAllocMember_eq_none.1 halloc) hfree
  | some r =>
      obtain ⟨m, s'⟩ := r
      have hcsrc : s.rtpHandleCsrc seq fromAddr rtpTs arrival csrc =
          ((s'.rtpCreated m seq fromAddr).modifyMember m fun x =>
            x.setValidated.setCsrc).rtcpComputeJitter m rtpTs arrival := by
        rw [Session.rtpHandleCsrc, Session.rtpHandleSsrc, hnone, halloc]
        rfl
      have hrecord : (s'.rtpCreated m seq fromAddr).member m =
          rtpFirstHeard seq fromAddr (rtpMemberInit (s.member m) csrc) :=
        (member_alloc halloc (rtpFirstHeard seq fromAddr) m).trans (if_pos rfl)
      have hcreated : HearsData s.config.pt csrc fromAddr m (s'.rtpCreated m seq fromAddr) := by
        refine ⟨?_, lookup_alloc hnone halloc (f := rtpFirstHeard seq fromAddr) rfl rfl, ?_, ?_, ?_⟩
        · show s'.config.pt = s.config.pt
          rw [config_alloc halloc]
        all_goals
          rw [hrecord]
          rfl
      have hlisted : HearsData s.config.pt csrc fromAddr m
          ((s'.rtpCreated m seq fromAddr).modifyMember m fun x => x.setValidated.setCsrc) :=
        hcreated.of_quiet (.modifyMember _ m ⟨rfl, rfl, rfl, rfl, rfl, rfl, rfl⟩)
      obtain ⟨hhears, hsrc⟩ := hlisted.computeJitter m rtpTs arrival
      rw [if_pos rfl, member_modifyMember, if_pos rfl, hrecord] at hsrc
      rw [hcsrc]
      exact ⟨m, hhears, hsrc⟩

/-- A member that is heard again is heard as before. -/
theorem HearsData.refreshed {pt : UInt8} {ssrc : UInt32} {fromAddr : SockaddrIn} {m : Slot}
    {s : Session} (h : HearsData pt ssrc fromAddr m s) : HearsData pt ssrc fromAddr m (s.rtpRefreshed m) := by
  have hrecord : (s.rtpRefreshed m).member m = (s.member m).setRtpHeard := Function.update_self ..
  refine ⟨h.config, ?_, ?_, ?_, ?_⟩
  · exact (lookup_modifyMember (f := RtpMember.setRtpHeard) rfl rfl ssrc).trans h.lookup
  all_goals rw [hrecord]
  · exact h.bye
  · rfl
  · exact h.addr

/-- Handling another source leaves `m` alone and heard, and names somebody else, if anybody. -/
theorem HearsData.rtpHandleSsrc_other {pt : UInt8} {ssrc : UInt32} {fromAddr : SockaddrIn} {m : Slot}
    {s : Session} (h : HearsData pt ssrc fromAddr m s) (hunique : s.UniqueSsrc) {csrc : UInt32}
    (hother : csrc ≠ ssrc) (seq : UInt16) :
    HearsData pt ssrc fromAddr m (s.rtpHandleSsrc csrc seq fromAddr true).2 ∧
      (s.rtpHandleSsrc csrc seq fromAddr true).2.member m = s.member m ∧
      ∀ j, (s.rtpHandleSsrc csrc seq fromAddr true).1 = some j → m ≠ j := by
  obtain ⟨hused, hssrc⟩ := lookup_eq_some h.lookup
  have hne : (s.member m).ssrc ≠ csrc := by
    rw [hssrc]
    exact Ne.symm hother
  have hsame := Session.rtpHandleSsrc_other hused hne seq fromAddr true
  have hlater := unique_rtpHandleSsrc hunique csrc seq fromAddr true
  refine ⟨⟨?_, ?_, ?_, ?_, ?_⟩, hsame.record, fun j hj => ?_⟩
  · rw [sameConfig_frame.rtpHandleSsrc s csrc seq fromAddr true]
    exact h.config
  · rw [← hssrc, ← hsame.record]
    exact hlater.lookup (hsame.used.2 hused)
  all_goals try rw [hsame.record]
  · exact h.bye
  · exact h.heard
  · exact h.addr
  · rintro rfl
    have hcase := s.rtpHandleSsrc_case csrc seq fromAddr true
    generalize s.rtpHandleSsrc csrc seq fromAddr true = res at hcase hj
    cases hcase with
    | tableFull | leaving | joined | thirdParty | collision => cases hj
    | createdCsrc i s' hnone halloc =>
        obtain rfl := Option.some.inj hj
        exact (alloc_eq_some halloc).1 hused
    | refreshed _ i hi =>
        obtain rfl := Option.some.inj hj
        exact hne (lookup_eq_some hi).2

/-- An entry of the CSRC list names `m`, or leaves it alone. -/
theorem HearsData.rtpHandleCsrc {pt : UInt8} {ssrc : UInt32} {fromAddr : SockaddrIn} {m : Slot}
    {s : Session} (h : HearsData pt ssrc fromAddr m s) (hunique : s.UniqueSsrc) (seq : UInt16)
    (rtpTs arrival csrc : UInt32) :
    HearsData pt ssrc fromAddr m (s.rtpHandleCsrc seq fromAddr rtpTs arrival csrc) ∧
      ((s.rtpHandleCsrc seq fromAddr rtpTs arrival csrc).member m).rtpSrc =
        if csrc = ssrc then (s.member m).rtpSrc.hear (.named rtpTs arrival) else (s.member m).rtpSrc := by
  by_cases hcsrc : csrc = ssrc
  · subst hcsrc
    have hhandle : s.rtpHandleCsrc seq fromAddr rtpTs arrival csrc =
        (s.rtpRefreshed m).rtcpComputeJitter m rtpTs arrival := by
      rw [Session.rtpHandleCsrc, rtpHandleSsrc_known h.lookup h.bye (.inr h.heard) h.addr]
    have hrecord : (s.rtpRefreshed m).member m = (s.member m).setRtpHeard := Function.update_self ..
    obtain ⟨hhears, hsrc⟩ := h.refreshed.computeJitter m rtpTs arrival
    rw [if_pos rfl, hrecord] at hsrc
    rw [hhandle, if_pos rfl]
    exact ⟨hhears, hsrc⟩
  · obtain ⟨hhears, hrecord, helse⟩ := h.rtpHandleSsrc_other hunique hcsrc seq
    rw [if_neg hcsrc]
    simp only [Session.rtpHandleCsrc]
    split
    · exact ⟨hhears, congrArg RtpMember.rtpSrc hrecord⟩
    · rename_i j hj
      obtain ⟨hnamed, hsrc⟩ := hhears.computeJitter j rtpTs arrival
      rw [if_neg (helse j hj), hrecord] at hsrc
      exact ⟨hnamed, hsrc⟩

/-- The CSRC list names `m` as often as it holds its SSRC. -/
theorem HearsData.csrcList {pt : UInt8} {ssrc : UInt32} {fromAddr : SockaddrIn} {m : Slot}
    {s : Session} (h : HearsData pt ssrc fromAddr m s) (hunique : s.UniqueSsrc) (seq : UInt16)
    (rtpTs arrival : UInt32) (csrcs : List UInt32) :
    HearsData pt ssrc fromAddr m (csrcs.foldl (Session.rtpHandleCsrc seq fromAddr rtpTs arrival) s) ∧
      ((csrcs.foldl (Session.rtpHandleCsrc seq fromAddr rtpTs arrival) s).member m).rtpSrc =
        ((csrcs.filter fun csrc => decide (csrc = ssrc)).map fun _ =>
          SourceEvent.named rtpTs arrival).foldl RtpSource.hear (s.member m).rtpSrc := by
  induction csrcs generalizing s with
  | nil => exact ⟨h, rfl⟩
  | cons csrc csrcs ih =>
      obtain ⟨hnext, hsrc⟩ := h.rtpHandleCsrc hunique seq rtpTs arrival csrc
      have hlater : (s.rtpHandleCsrc seq fromAddr rtpTs arrival csrc).UniqueSsrc :=
        unique_rules.history.packets.rtpHandleCsrc (x := ()) hunique trivial
      obtain ⟨hend, hrest⟩ := ih hnext hlater
      refine ⟨hend, hrest.trans ?_⟩
      rw [hsrc, List.filter_cons]
      by_cases hcsrc : csrc = ssrc
      · rw [if_pos hcsrc, if_pos (decide_eq_true hcsrc)]
        rfl
      · rw [if_neg hcsrc, if_neg (by simpa using hcsrc)]

/-- What `rtp_rx` does with an accepted packet, as far as members go. -/
theorem rx_accepted {s t : Session} {fromAddr : SockaddrIn} {p : DataPkt}
    (hvalid : ((rtpHeaderValidityCheck p.len s.config.pt).val p.pkt).toBool = true)
    (hsource : s.rtpSessionTimestamp.2.rtpRxSource (rtpHdrOf p.pkt) s.rtpSessionTimestamp.1 fromAddr =
      (true, t)) :
    ∃ rpt, s.rx fromAddr p =
      (((rtpHdrOf p.pkt).csrc.foldl (Session.rtpHandleCsrc p.seq fromAddr (rtpHdrOf p.pkt).ts
        s.rtpSessionTimestamp.1) t).setRtpError .noError).emit (.rxRtp rpt) := by
  cases hcheck : (rtpHeaderValidityCheck p.len s.config.pt).val p.pkt with
  | error e =>
      rw [hcheck] at hvalid
      exact absurd hvalid Bool.false_ne_true
  | ok r =>
      have hhdr : readRtpHdr.val p.pkt = rtpHdrOf p.pkt := rfl
      rw [rx, s.val_rtpRx_of_ok hcheck, hhdr]
      simp only [rtpRxData, hsource]
      exact ⟨_, rfl⟩

/-- An accepted packet's sequence number and its transit time go into the source. -/
theorem rtpSrc_rtpAccepted (s : Session) (m : Slot) (hdr : RtpHdr) (arrival : UInt32) :
    ((s.rtpAccepted m hdr arrival).member m).rtpSrc =
      ((s.member m).rtpSrc.rtpUpdateSeq hdr.seq).2.rtcpComputeJitter hdr.ts arrival := by
  have hrecord : (s.rtpRefreshed m).member m = (s.member m).setRtpHeard := Function.update_self ..
  unfold rtpAccepted Session.rtcpComputeJitter
  rw [member_modifyMember, if_pos rfl, member_modifyMember, if_pos rfl, member_modifyMember, if_pos rfl,
    hrecord]
  rfl

/-- A packet of a source that is heard is heard by it, whether it is accepted or not. -/
theorem HearsData.rx_events {pt : UInt8} {ssrc : UInt32} {fromAddr : SockaddrIn} {m : Slot}
    {s : Session} (h : HearsData pt ssrc fromAddr m s) (hunique : s.UniqueSsrc) {p : DataPkt}
    (hp : ValidData pt ssrc p) :
    HearsData pt ssrc fromAddr m (s.rx fromAddr p) ∧
      ((s.rx fromAddr p).member m).rtpSrc =
        (pktEvents ssrc m s p).foldl RtpSource.hear (s.member m).rtpSrc := by
  by_cases hdelivers : Delivers fromAddr s p
  · have hseq : ((s.member m).rtpSrc.rtpUpdateSeq (rtpHdrOf p.pkt).seq).1 = true :=
      (h.delivers_iff hp).1 hdelivers
    have hvalid := hp.valid
    rw [← h.config] at hvalid
    have hclock : HearsData pt ssrc fromAddr m s.rtpSessionTimestamp.2 :=
      h.of_quiet (.rtpSessionTimestamp s)
    have haccepts : s.rtpSessionTimestamp.2.Accepts (rtpHdrOf p.pkt) fromAddr m :=
      ⟨hp.ssrc ▸ hclock.lookup, hclock.bye, .inr hclock.heard, hclock.addr, hseq⟩
    have hsource := rtpRxSource_accepts haccepts s.rtpSessionTimestamp.1
    obtain ⟨rpt, hrx⟩ := rx_accepted hvalid hsource
    have hlater : (s.rtpSessionTimestamp.2.rtpAccepted m (rtpHdrOf p.pkt)
        s.rtpSessionTimestamp.1).UniqueSsrc := by
      have hclocked : s.rtpSessionTimestamp.2.UniqueSsrc := hunique
      have hkept : (s.rtpSessionTimestamp.2.rtpRxSource (rtpHdrOf p.pkt) s.rtpSessionTimestamp.1
          fromAddr).2.UniqueSsrc := unique_rules.rtpRxSource hclocked trivial
      rwa [hsource] at hkept
    have haccepted := hclock.refreshed.of_quiet
      (quiet_rtpAccepted _ m (rtpHdrOf p.pkt) s.rtpSessionTimestamp.1)
    obtain ⟨hend, hsrc⟩ := haccepted.csrcList hlater p.seq (rtpHdrOf p.pkt).ts s.rtpSessionTimestamp.1
      (rtpHdrOf p.pkt).csrc
    have hdata : ((s.rtpSessionTimestamp.2.rtpAccepted m (rtpHdrOf p.pkt)
        s.rtpSessionTimestamp.1).member m).rtpSrc =
          (s.member m).rtpSrc.hear
            (.data (rtpHdrOf p.pkt).seq (rtpHdrOf p.pkt).ts s.rtpSessionTimestamp.1) := by
      simp only [RtpSource.hear, hseq, if_true]
      exact rtpSrc_rtpAccepted _ m (rtpHdrOf p.pkt) s.rtpSessionTimestamp.1
    rw [hrx]
    refine ⟨hend.of_quiet ((Quiet.setRtpError _ _).trans (.emit _ _)), ?_⟩
    simp only [pktEvents, hseq, if_true, List.foldl_cons, ← hdata]
    exact hsrc
  · obtain ⟨hhears, hsrc⟩ := h.rx hp hdelivers
    have hrefused : ((s.member m).rtpSrc.rtpUpdateSeq (rtpHdrOf p.pkt).seq).1 = false :=
      Bool.eq_false_iff.2 fun hseq => hdelivers ((h.delivers_iff hp).2 hseq)
    refine ⟨hhears, hsrc.trans ?_⟩
    simp only [pktEvents, hrefused, Bool.false_eq_true, if_false, List.foldl_cons, List.foldl_nil,
      RtpSource.hear]
    rfl

/-- The record of a source after a sequence of its packets is what the events of these make of it. -/
theorem HearsData.rtpSrc_run {pt : UInt8} {ssrc : UInt32} {fromAddr : SockaddrIn} {m : Slot}
    {s : Session} (h : HearsData pt ssrc fromAddr m s) (hunique : s.UniqueSsrc) {ps : List DataPkt}
    (hps : ∀ p ∈ ps, ValidData pt ssrc p) :
    HearsData pt ssrc fromAddr m (Runs.run (Session.rx fromAddr) s ps) ∧
      ((Runs.run (Session.rx fromAddr) s ps).member m).rtpSrc =
        (rxEvents ssrc fromAddr m s ps).foldl RtpSource.hear (s.member m).rtpSrc := by
  induction ps generalizing s with
  | nil => exact ⟨h, rfl⟩
  | cons p ps ih =>
      have hrest := fun q hq => hps q (List.mem_cons_of_mem p hq)
      obtain ⟨hnext, hsrc⟩ := h.rx_events hunique (hps p List.mem_cons_self)
      have hlater : (s.rx fromAddr p).UniqueSsrc :=
        unique_rules.step s (.rxRtp p.pkt p.len fromAddr) hunique (ActGuard.any_admits _ _)
      obtain ⟨hend, hendsrc⟩ := ih hnext hlater hrest
      refine ⟨hend, hendsrc.trans ?_⟩
      rw [hsrc, rxEvents, List.foldl_append]

end Session

end Prtp
