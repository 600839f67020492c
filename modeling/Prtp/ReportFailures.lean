import Prtp.ReportSent

set_option autoImplicit false

/-! # Reports that do not fit

The loop of `rtcp_send_report_gen_rr` closes the interval of a member before it asks the encoder for room. A
report that is given up hands nothing to `tx_rtcp`, but the members the loop got to have their intervals
closed all the same: what they lost in them is in no report. -/

namespace Prtp

open RtcpEncoder

namespace RtpSource

/-- Nothing has come in since the last interval was closed. -/
def IntervalClosed (s : RtpSource) : Prop :=
  s.expectedPrior = s.expected ∧ s.receivedPrior = s.received

instance (s : RtpSource) : Decidable s.IntervalClosed := inferInstanceAs (Decidable (_ ∧ _))

theorem closeInterval_eq_self_iff (s : RtpSource) : s.closeInterval = s ↔ s.IntervalClosed := by
  constructor
  · intro h
    exact ⟨(congrArg expectedPrior h).symm, (congrArg receivedPrior h).symm⟩
  · rintro ⟨hexpected, hreceived⟩
    unfold closeInterval
    rw [← hexpected]
    cases s
    exact congrArg (RtpSource.mk _ _ _ _ _ _ _ · _ _) hreceived.symm

theorem closeInterval_closeInterval (s : RtpSource) : s.closeInterval.closeInterval = s.closeInterval :=
  rfl

end RtpSource

namespace Session

/-! ## The loop over the members -/

theorem rtpSrc_rrOf (s : Session) (m j : Slot) :
    ((s.rrOf m).2.member j).rtpSrc =
      if j = m then (s.member j).rtpSrc.closeInterval else (s.member j).rtpSrc := by
  have hdlsr : ∀ (t : Session) (x : RtpMember), (t.dlsr x).2.member j = t.member j := by
    intro t x
    simp only [dlsr]
    split <;> rfl
  show (((s.setMember m _).dlsr (s.member m)).2.member j).rtpSrc = _
  rw [hdlsr, member_setMember]
  split
  · rename_i hj
    rw [hj]
  · rfl

variable {cap : ℕ} {done : List UInt8} {pt : UInt8}

/-- The loop closes the intervals of the members whose blocks fit, and of the next one if there is one. -/
theorem rtcpSendReportGenRr_sources (base : ℕ) (ms : List Slot) (j : Slot) :
    ∀ {count : ℕ} {body : List UInt8} {re : RtcpEncoder} {s : Session},
      Building re cap done count pt body → 4 + body.length = base + 24 * count → cap < 32 * 24 →
      done.length + 4 + body.length ≤ cap →
      ((rtcpSendReportGenRr (addRr base) ms re s).2.2.member j).rtpSrc =
        if j ∈ (s.reportable ms).take ((cap - (done.length + 4 + body.length)) / 24 + 1) then
          (s.member j).rtpSrc.closeInterval
        else (s.member j).rtpSrc := by
  induction ms with
  | nil =>
      intro count body re s h hbase hcap hroom
      rw [rtcpSendReportGenRr, reportable, List.filter_nil, List.take_nil, if_neg List.not_mem_nil]
  | cons m ms ih =>
      intro count body re s h hbase hcap hroom
      rw [rtcpSendReportGenRr]
      by_cases hm : Reportable (s.member m)
      · have hcons : s.reportable (m :: ms) = m :: s.reportable ms := by simp [reportable, hm]
        have hsame := SameButSources.rrOf s m
        rw [if_pos hm, hcons, List.take_succ_cons]
        by_cases hone : done.length + 4 + body.length + 24 ≤ cap
        · obtain ⟨re₁, hadd, h₁⟩ := h.addRr hbase (by omega) hone (s.rrOf m).1
          have hlen : (body ++ (s.rrOf m).1.bytes).length = body.length + 24 := by simp
          have hleft : (cap - (done.length + 4 + body.length)) / 24 =
              (cap - (done.length + 4 + (body ++ (s.rrOf m).1.bytes).length)) / 24 + 1 := by
            rw [hlen]
            omega
          have hrest := ih (s := (s.rrOf m).2) h₁ (by omega) hcap (by omega)
          simp only [hadd, if_true]
          rw [hrest, hsame.reportable_eq, ← hleft, rtpSrc_rrOf]
          -- a member that the list names twice is closed twice
          by_cases hj : j = m
          · rw [if_pos hj, if_pos (List.mem_cons.2 (Or.inl hj)), RtpSource.closeInterval_closeInterval,
              ite_self]
          · rw [if_neg hj]
            exact if_congr (List.mem_cons.trans (or_iff_right hj)).symm rfl rfl
        · have hleft : (cap - (done.length + 4 + body.length)) / 24 = 0 := by omega
          simp only [h.addRr_full (by omega) (s.rrOf m).1, Bool.false_eq_true, if_false]
          rw [hleft, List.take_zero, rtpSrc_rrOf]
          exact if_congr (List.mem_cons.trans (or_iff_left List.not_mem_nil)).symm rfl rfl
      · have hcons : s.reportable (m :: ms) = s.reportable ms := by simp [reportable, hm]
        rw [if_neg hm, hcons]
        exact ih h hbase hcap hroom

/-! ## The call -/

/-- The members the loop gets to: those whose blocks fit behind the fixed part of the report, and one more
    if there is one. -/
def reachedMembers (s : Session) : List Slot :=
  (s.reportable s.usedList).take
    ((rtpConfigRtcpEncoderBufferLen - if s.selfMember.flags.sender then 28 else 8) / 24 + 1)

theorem rtcpSendReportFirst_sources {re : RtcpEncoder} (s : Session)
    (h : Complete re rtpConfigRtcpEncoderBufferLen []) (ts : NtpTs) (rtpTs : UInt32) (j : Slot) :
    ((s.rtcpSendReportFirst re ts rtpTs).2.2.member j).rtpSrc =
      if j ∈ s.reachedMembers then (s.member j).rtpSrc.closeInterval else (s.member j).rtpSrc := by
  have hlen := s.reportHead_length ts rtpTs
  rw [rtcpSendReportFirst, reachedMembers]
  rw [reportHead] at hlen
  by_cases hsender : s.selfMember.flags.sender = true
  · simp only [hsender, if_true] at hlen ⊢
    obtain ⟨re₁, hbegin, h₁⟩ := h.srBegin (by decide) s.selfMember.ssrc ts.second ts.fraction rtpTs
      s.txPktCount s.txOctetCount
    simp only [hbegin, if_true]
    exact rtcpSendReportGenRr_sources 28 s.usedList j h₁ hlen (by decide)
      (by rw [List.length_nil, Nat.zero_add, hlen]; decide)
  · simp only [hsender, Bool.false_eq_true, if_false] at hlen ⊢
    obtain ⟨re₁, hbegin, h₁⟩ := h.rrBegin (by decide) s.selfMember.ssrc
    simp only [hbegin, if_true]
    exact rtcpSendReportGenRr_sources 8 s.usedList j h₁ hlen (by decide)
      (by rw [List.length_nil, Nat.zero_add, hlen]; decide)

theorem member_rtcpSendReportRest (s : Session) (re : RtcpEncoder) (j : Slot) :
    (s.rtcpSendReportRest re).2.member j = s.member j := by
  rw [rtcpSendReportRest]
  split
  · rfl
  · simp only
    split
    · rfl
    · split <;> rfl

/-- Whether the report goes out or not, the call closes the interval of every member the loop gets to, and of
    no other. -/
theorem rtpSrc_rtcpSendReport (s : Session) (j : Slot) :
    (s.rtcpSendReport.2.member j).rtpSrc =
      if j ∈ s.reachedMembers then (s.member j).rtpSrc.closeInterval else (s.member j).rtpSrc := by
  have hfirst := s.reportStart.rtcpSendReportFirst_sources
    (Complete.init s.env.stack rtpConfigRtcpEncoderBufferLen) s.ntpTsNow.1 s.rtpSessionTimestamp.1 j
  rw [rtcpSendReport_eq]
  simp only
  split
  · exact hfirst
  · rw [member_rtcpSendReportRest]
    exact hfirst

theorem rtcpSendReport_eq_zero_iff (s : Session) : s.rtcpSendReport.1 = 0 ↔ ¬ s.ReportFits := by
  refine ⟨fun h hfits => ?_, fun h => (s.rtcpSendReport_full h).1⟩
  have hsize : s.rtcpSendReport.1.toNat = s.reportSize + sdesSize s.selfMember.cnameLen.toNat := by
    have hbuf : rtpConfigRtcpEncoderBufferLen = 256 := rfl
    rw [(s.rtcpSendReport_fits hfits).2, UInt32.toNat_ofNat']
    rw [ReportFits] at hfits
    omega
  have hpos : 0 < sdesSize s.selfMember.cnameLen.toNat := by
    rw [sdesSize]
    omega
  rw [h] at hsize
  exact absurd hsize (by rw [UInt32.toNat_zero]; omega)

/-- A call that gave up has handed nothing to `tx_rtcp`, and what the next report will say of a member is what
    this one would have said. -/
structure FailedCleanly (s : Session) : Prop where
  silent : s.rtcpSendReport.2.out = s.out ++ [.logRtcpTx]
  sources : ∀ m, (s.rtcpSendReport.2.member m).rtpSrc = (s.member m).rtpSrc

/-- A call of `rtcp_send_report` that returns 0 leaves every source as it was if and only if nothing has come
    in from the members the loop gets to since their intervals were closed. -/
theorem failedCleanly_iff (s : Session) (hfailed : s.rtcpSendReport.1 = 0) :
    s.FailedCleanly ↔ ∀ m ∈ s.reachedMembers, (s.member m).rtpSrc.IntervalClosed := by
  constructor
  · intro h m hm
    have hsame := h.sources m
    rw [rtpSrc_rtcpSendReport, if_pos hm] at hsame
    exact (RtpSource.closeInterval_eq_self_iff _).1 hsame
  · intro h
    refine ⟨(s.rtcpSendReport_full (s.rtcpSendReport_eq_zero_iff.1 hfailed)).2, fun m => ?_⟩
    rw [rtpSrc_rtcpSendReport]
    split
    · rename_i hm
      exact (RtpSource.closeInterval_eq_self_iff _).2 (h m hm)
    · rfl

/-- A session whose CNAME of 255 octets does not fit has heard two data packets of SSRC 5 and nothing more since
    its first report failed. -/
def silentSince : Session :=
  runSession (zeroed (.still .zero)) (plainConfig 1000 255)
    (List.replicate 2 (.rxRtp (rtpFrom 5) 12 (.ofPort 7)) ++ List.replicate 11 .tick)

/-- The loop gets to the member with SSRC 5, and leaves it as it is. -/
theorem failedCleanly_silentSince :
    1 ∈ silentSince.reachedMembers ∧ (silentSince.member 1).ssrc = 5 ∧ silentSince.FailedCleanly :=
  ⟨by decide +kernel, by decide +kernel, (failedCleanly_iff _ (by decide +kernel)).2 (by decide +kernel)⟩

/-- What is expected of a member with two data packets is put down to a report that is never sent. -/
theorem failed_report_closes_interval :
    ∃ s ∈ (runSession (zeroed (.still .zero)) (plainConfig 1000 255)
        (List.replicate 2 (.rxRtp (rtpFrom 5) 12 (.ofPort 7)) ++ List.replicate 10 .tick)).tickReports,
      s.rtcpSendReport.1 = 0 ∧ ¬ s.FailedCleanly := by
  have hcall : (runSession (zeroed (.still .zero)) (plainConfig 1000 255)
      (List.replicate 2 (.rxRtp (rtpFrom 5) 12 (.ofPort 7)) ++ List.replicate 10 .tick)).tickReports ≠ [] := by
    decide +kernel
  refine ⟨_, List.head_mem hcall, by decide +kernel +revert, fun h => absurd (h.sources 1) ?_⟩
  clear h
  decide +kernel +revert

end Session

end Prtp
