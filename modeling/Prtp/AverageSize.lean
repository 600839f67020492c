import Prtp.SessionLedger
import Mathlib.Tactic.NormNum
import Mathlib.Tactic.Ring

set_option autoImplicit false

/-! # The average size of compound packets

`avg_rtcp_size` is a running average, and a report that is sent goes into it once. A compound packet that is
received goes into it by way of the sources it names: once for every report and every chunk of SDES whose
source is new to the session or heard again on RTCP, and not for a source that was heard only by its data so
far. -/

namespace Prtp

namespace Session

/-- The source `ssrc` is one that `rtcp_handle_ssrc` creates, or one that it has heard before and still
    does. -/
def CountsSize (s : Session) (fromAddr : SockaddrIn) (ssrc : UInt32) : Prop :=
  match s.rtpSessionLookupMember ssrc with
  | none => s.freeList ≠ []
  | some m =>
    (s.member m).flags.byeReceived = false ∧
      ((s.member m).flags.self = true ∨ (s.member m).flags.rtcpHeard = true) ∧
      (s.member m).rtcpAddr = fromAddr

instance (s : Session) (fromAddr : SockaddrIn) (ssrc : UInt32) : Decidable (s.CountsSize fromAddr ssrc) :=
  match h : s.rtpSessionLookupMember ssrc with
  | none => decidable_of_iff (s.freeList ≠ []) (by rw [CountsSize, h])
  | some m =>
    decidable_of_iff
      ((s.member m).flags.byeReceived = false ∧
        ((s.member m).flags.self = true ∨ (s.member m).flags.rtcpHeard = true) ∧
        (s.member m).rtcpAddr = fromAddr)
      (by rw [CountsSize, h])

/-- A report, or a chunk of SDES, of a source that counts. -/
def MsgCounts (s : Session) (fromAddr : SockaddrIn) (msg : RtcpMsg) : Prop :=
  ∃ ssrc ∈ msg.source, s.CountsSize fromAddr ssrc

instance (s : Session) (fromAddr : SockaddrIn) (msg : RtcpMsg) : Decidable (s.MsgCounts fromAddr msg) :=
  inferInstanceAs (Decidable (∃ ssrc ∈ msg.source, s.CountsSize fromAddr ssrc))

/-- The average once a packet of `len` octets has gone into it. -/
def averaged (len : UInt32) (avg : ℚ) : ℚ := 1 / 16 * (len.toNat : ℚ) + 15 / 16 * avg

/-! ## One message -/

theorem avgRtcpSize_rtcpHandleSsrc (s : Session) (ssrc : UInt32) (fromAddr : SockaddrIn) (len : UInt32) :
    (s.rtcpHandleSsrc ssrc fromAddr len).2.rtcpVar.avgRtcpSize =
      if s.CountsSize fromAddr ssrc then averaged len s.rtcpVar.avgRtcpSize
      else s.rtcpVar.avgRtcpSize := by
  have hcase := s.rtcpHandleSsrc_case ssrc fromAddr len
  generalize s.rtcpHandleSsrc ssrc fromAddr len = res at hcase
  unfold CountsSize
  cases hcase with
  | tableFull hnone hfull =>
      simp only [hnone]
      rw [if_neg (not_not.2 hfull)]
      rfl
  | created m s' hnone halloc =>
      have hfree : s.freeList ≠ [] := fun hnil => by
        rw [rtpSessionAllocMember_eq_none.2 hnil] at halloc
        cases halloc
      have hvar : s'.rtcpVar = s.rtcpVar := (alloc_eq_some halloc).2.2.2.2.1
      simp only [hnone]
      rw [if_pos hfree, ← hvar]
      rfl
  | leaving m hm hbye =>
      simp only [hm]
      rw [if_neg fun h => Bool.false_ne_true (h.1.symm.trans hbye)]
      rfl
  | joined m hm hbye hself hnew =>
      simp only [hm]
      rw [if_neg fun h => h.2.1.elim (fun h' => Bool.false_ne_true (hself.symm.trans h'))
        fun h' => Bool.false_ne_true (hnew.symm.trans h')]
      rfl
  | thirdParty m hm hbye hknown haddr hother =>
      simp only [hm]
      rw [if_neg fun h => haddr h.2.2]
      rfl
  | collision m hm hbye hknown haddr hown err =>
      simp only [hm]
      rw [if_neg fun h => haddr h.2.2]
      simp only [ownSsrcConflict, rtpMemberTableChangeRandomSsrc]
      split
      · rfl
      · split
        · rfl
        · rfl
  | refreshed m hm hbye hknown haddr =>
      simp only [hm]
      rw [if_pos ⟨hbye, hknown, haddr⟩]
      rfl

theorem avgRtcpSize_rtcpHandleByeSource (s : Session) (ssrc len : UInt32) :
    (s.rtcpHandleByeSource ssrc len).rtcpVar.avgRtcpSize = s.rtcpVar.avgRtcpSize := by
  simp only [rtcpHandleByeSource]
  split
  · rfl
  · split
    · rfl
    · show (s.rtcpIntervalHandleRtcpEvent .rxBye _ len).rtcpVar.avgRtcpSize = _
      rw [rtcpEvent_leaving s (by decide)]
      split <;> rfl

theorem avgRtcpSize_handleMsg (fromAddr : SockaddrIn) (len : UInt32) (s : Session) (msg : RtcpMsg) :
    (handleMsg fromAddr len s msg).rtcpVar.avgRtcpSize =
      if s.MsgCounts fromAddr msg then averaged len s.rtcpVar.avgRtcpSize
      else s.rtcpVar.avgRtcpSize := by
  have hsource : ∀ ssrc, msg.source = some ssrc →
      (s.MsgCounts fromAddr msg ↔ s.CountsSize fromAddr ssrc) := by
    intro ssrc hssrc
    rw [MsgCounts, hssrc]
    exact ⟨fun ⟨_, rfl, h⟩ => h, fun h => ⟨ssrc, rfl, h⟩⟩
  refine handleMsg_rule (P := fun t => t.rtcpVar.avgRtcpSize =
    if s.MsgCounts fromAddr msg then averaged len s.rtcpVar.avgRtcpSize
    else s.rtcpVar.avgRtcpSize) (fun ssrc hssrc _ => ?_) (fun ssrc m hssrc _ => ?_) fun ssrc hbye => ?_
  · rw [avgRtcpSize_rtcpHandleSsrc]
    exact if_congr (hsource ssrc hssrc).symm rfl rfl
  · show ((s.rtcpHandleSsrc ssrc fromAddr len).2.acceptMsg m msg).rtcpVar.avgRtcpSize = _
    rw [(Quiet.acceptMsg _ m msg).rtcpVar, avgRtcpSize_rtcpHandleSsrc]
    exact if_congr (hsource ssrc hssrc).symm rfl rfl
  · rw [avgRtcpSize_rtcpHandleByeSource, if_neg]
    rintro ⟨ssrc', hssrc', -⟩
    rw [hbye] at hssrc'
    cases hssrc'

/-! ## The compound packet -/

/-- How many of the messages count, each in the session it is handled in. -/
def sizeCounts (fromAddr : SockaddrIn) (len : UInt32) (s : Session) (msgs : List RtcpMsg) : ℕ :=
  Runs.history (handleMsg fromAddr len) (fun n s msg => if s.MsgCounts fromAddr msg then n + 1 else n)
    0 s msgs

/-- The average moves towards the length by a sixteenth of what is missing, once for each message that
    counts. -/
theorem avgRtcpSize_run (fromAddr : SockaddrIn) (len : UInt32) (s : Session) (msgs : List RtcpMsg) :
    (Runs.run (handleMsg fromAddr len) s msgs).rtcpVar.avgRtcpSize =
      len.toNat + (15 / 16) ^ sizeCounts fromAddr len s msgs * (s.rtcpVar.avgRtcpSize - len.toNat) := by
  have hstart : s.rtcpVar.avgRtcpSize =
      len.toNat + (15 / 16) ^ 0 * (s.rtcpVar.avgRtcpSize - len.toNat) := by
    rw [pow_zero, one_mul, add_sub_cancel]
  refine Runs.history_invariant (P := fun n (t : Session) => t.rtcpVar.avgRtcpSize =
    len.toNat + (15 / 16) ^ n * (s.rtcpVar.avgRtcpSize - len.toNat)) ?_ hstart msgs
  intro n t msg ht
  rw [avgRtcpSize_handleMsg]
  split
  · rw [averaged, ht, pow_succ]
    ring
  · exact ht

/-- The average is where one packet takes it after exactly one, or if it was there before. -/
theorem averaged_once_iff (avg len : ℚ) (n : ℕ) :
    len + (15 / 16) ^ n * (avg - len) = 1 / 16 * len + 15 / 16 * avg ↔ n = 1 ∨ avg = len := by
  have hfactor : len + (15 / 16) ^ n * (avg - len) - (1 / 16 * len + 15 / 16 * avg) =
      ((15 / 16) ^ n - (15 / 16) ^ 1) * (avg - len) := by
    ring
  rw [← sub_eq_zero, hfactor, mul_eq_zero, sub_eq_zero, sub_eq_zero,
    pow_right_inj₀ (by norm_num) (by norm_num)]

/-- The messages of a packet that count, when it arrives in `s`. -/
def rxSizeCounts (s : Session) (pkt : ByteMem) (len : UInt32) (fromAddr : SockaddrIn) : ℕ :=
  sizeCounts fromAddr len (s.setRtcpError .noError) (rtcpMsgs pkt len)

/-- A compound packet goes into the average as one of its length if and only if exactly one of its messages
    counts, or the average is that length already. -/
theorem avgRtcpSize_rtcpRx_iff (s : Session) (pkt : ByteMem) (len : UInt32) (fromAddr : SockaddrIn)
    (haccepted : (rtcpCheckPkt len).val pkt = .noError) :
    ((s.rtcpRx len fromAddr).val pkt).rtcpVar.avgRtcpSize =
        1 / 16 * (len.toNat : ℚ) + 15 / 16 * s.rtcpVar.avgRtcpSize ↔
      s.rxSizeCounts pkt len fromAddr = 1 ∨ s.rtcpVar.avgRtcpSize = len.toNat := by
  rw [val_rtcpRx, if_pos haccepted, avgRtcpSize_run]
  exact averaged_once_iff s.rtcpVar.avgRtcpSize len.toNat (s.rxSizeCounts pkt len fromAddr)

/-- A RR from a source that is new and a BYE for one that is not known: the packet of sixteen octets goes into
    the average once. -/
theorem rr_with_bye_averaged_once :
    (rtcpMsgs (byeFor 5) 16).length = 2 ∧
      ((zeroed (.still .zero)).rtpSessionInit (plainConfig 1000 4)).rxSizeCounts (byeFor 5) 16 (.ofPort 8) =
        1 ∧
      ((((zeroed (.still .zero)).rtpSessionInit (plainConfig 1000 4)).rtcpRx 16 (.ofPort 8)).val
        (byeFor 5)).rtcpVar.avgRtcpSize =
        1 / 16 * ((16 : UInt32).toNat : ℚ) +
          15 / 16 * ((zeroed (.still .zero)).rtpSessionInit (plainConfig 1000 4)).rtcpVar.avgRtcpSize := by
  refine ⟨by decide +kernel, by decide +kernel, ?_⟩
  exact (avgRtcpSize_rtcpRx_iff _ _ _ _ (by decide +kernel)).2 (.inl (by decide +kernel))

/-- A RR and a SDES chunk of one source: the packet of twenty octets goes into the average twice. -/
theorem rr_with_sdes_averaged_twice :
    (rtcpCheckPkt 20).val (pktOf [128, 201, 0, 1, 0, 0, 0, 5, 129, 202, 0, 2, 0, 0, 0, 5, 0, 0, 0, 0]) =
        .noError ∧
      ((((zeroed (.still .zero)).rtpSessionInit (plainConfig 1000 4)).rtcpRx 20 (.ofPort 8)).val
        (pktOf [128, 201, 0, 1, 0, 0, 0, 5, 129, 202, 0, 2, 0, 0, 0, 5, 0, 0, 0, 0])).rtcpVar.avgRtcpSize ≠
        1 / 16 * ((20 : UInt32).toNat : ℚ) +
          15 / 16 * ((zeroed (.still .zero)).rtpSessionInit (plainConfig 1000 4)).rtcpVar.avgRtcpSize := by
  decide +kernel

end Session

end Prtp
