import Prtp.ForeignPackets

set_option autoImplicit false

/-! # The statistics of what is transmitted

A SR tells how many packets the session has sent, and how many octets of payload. `rtp_tx` counts a packet
before it finds out whether it can be sent, so the numbers are right in the runs in which every transmit is
accepted, and in no others. -/

namespace Prtp

open ByteReader

namespace Session

/-- What a SR says the session has sent: packets, and octets of payload. -/
def txStats (s : Session) : UInt32 × UInt32 := (s.txPktCount, s.txOctetCount)

/-- A data packet for `ssrc` from `fromAddr` makes the session change its SSRC. -/
def RtpChangesSsrc (s : Session) (fromAddr : SockaddrIn) (ssrc : UInt32) : Prop :=
  ∃ m ∈ s.rtpSessionLookupMember ssrc,
    (s.member m).flags.byeReceived = false ∧ (s.member m).flags.self = true ∧
      (s.member m).rtpAddr ≠ fromAddr ∧ s.conflictListed fromAddr = false

/-- A RTCP packet for `ssrc` from `fromAddr` makes the session change its SSRC. -/
def RtcpChangesSsrc (s : Session) (fromAddr : SockaddrIn) (ssrc : UInt32) : Prop :=
  ∃ m ∈ s.rtpSessionLookupMember ssrc,
    (s.member m).flags.byeReceived = false ∧
      ((s.member m).flags.self = true ∨ (s.member m).flags.rtcpHeard = true) ∧
      (s.member m).rtcpAddr ≠ fromAddr ∧ ssrc = s.selfMember.ssrc ∧
      s.conflictListed fromAddr = false

instance (s : Session) (fromAddr : SockaddrIn) (ssrc : UInt32) :
    Decidable (s.RtpChangesSsrc fromAddr ssrc) :=
  inferInstanceAs (Decidable (∃ m ∈ s.rtpSessionLookupMember ssrc, _ ∧ _))

instance (s : Session) (fromAddr : SockaddrIn) (ssrc : UInt32) :
    Decidable (s.RtcpChangesSsrc fromAddr ssrc) :=
  inferInstanceAs (Decidable (∃ m ∈ s.rtpSessionLookupMember ssrc, _ ∧ _))

/-! ## What resets the statistics -/

/-- A collision resets the statistics, unless the address is in the conflict list already. -/
theorem txStats_ownSsrcConflict (s : Session) (m : Slot) (fromAddr : SockaddrIn) :
    (s.ownSsrcConflict m fromAddr).2.txStats =
      if s.conflictListed fromAddr = false then (0, 0) else s.txStats := by
  unfold ownSsrcConflict
  cases hlisted : s.conflictListed fromAddr with
  | true =>
      have hlookup : (s.rtpSourceConflictLookup fromAddr).1 = true := hlisted
      rw [if_neg (by decide)]
      simp only [hlookup, if_true]
      rfl
  | false =>
      have hlookup : (s.rtpSourceConflictLookup fromAddr).1 = false := hlisted
      rw [if_pos rfl]
      simp only [hlookup, Bool.false_eq_true, if_false]
      rfl

theorem txStats_alloc {s s' : Session} {ssrc : UInt32} {m : Slot}
    (halloc : s.rtpSessionAllocMember ssrc = some (m, s')) : s'.txStats = s.txStats := by
  unfold rtpSessionAllocMember at halloc
  split at halloc
  · cases halloc
  · obtain ⟨-, rfl⟩ := Prod.mk.inj (Option.some.inj halloc)
    rfl

theorem not_rtpChangesSsrc {s : Session} {fromAddr : SockaddrIn} {ssrc : UInt32}
    (hnone : s.rtpSessionLookupMember ssrc = none) : ¬ s.RtpChangesSsrc fromAddr ssrc := by
  simp [RtpChangesSsrc, hnone]

theorem rtpChangesSsrc_iff {s : Session} {fromAddr : SockaddrIn} {ssrc : UInt32} {m : Slot}
    (hm : s.rtpSessionLookupMember ssrc = some m) :
    s.RtpChangesSsrc fromAddr ssrc ↔
      (s.member m).flags.byeReceived = false ∧ (s.member m).flags.self = true ∧
        (s.member m).rtpAddr ≠ fromAddr ∧ s.conflictListed fromAddr = false := by
  simp [RtpChangesSsrc, hm]

theorem not_rtcpChangesSsrc {s : Session} {fromAddr : SockaddrIn} {ssrc : UInt32}
    (hnone : s.rtpSessionLookupMember ssrc = none) : ¬ s.RtcpChangesSsrc fromAddr ssrc := by
  simp [RtcpChangesSsrc, hnone]

theorem rtcpChangesSsrc_iff {s : Session} {fromAddr : SockaddrIn} {ssrc : UInt32} {m : Slot}
    (hm : s.rtpSessionLookupMember ssrc = some m) :
    s.RtcpChangesSsrc fromAddr ssrc ↔
      (s.member m).flags.byeReceived = false ∧
        ((s.member m).flags.self = true ∨ (s.member m).flags.rtcpHeard = true) ∧
        (s.member m).rtcpAddr ≠ fromAddr ∧ ssrc = s.selfMember.ssrc ∧
        s.conflictListed fromAddr = false := by
  simp [RtcpChangesSsrc, hm]

theorem txStats_rtpHandleSsrc (s : Session) (ssrc : UInt32) (seq : UInt16) (fromAddr : SockaddrIn)
    (csrc : Bool) :
    (s.rtpHandleSsrc ssrc seq fromAddr csrc).2.txStats =
      if s.RtpChangesSsrc fromAddr ssrc then (0, 0) else s.txStats := by
  have hcase := s.rtpHandleSsrc_case ssrc seq fromAddr csrc
  generalize s.rtpHandleSsrc ssrc seq fromAddr csrc = res at hcase
  cases hcase with
  | tableFull _ hnone =>
      rw [if_neg (not_rtpChangesSsrc hnone)]
      rfl
  | created m s' hnone halloc =>
      rw [if_neg (not_rtpChangesSsrc hnone), ← txStats_alloc halloc]
      rfl
  | createdCsrc m s' hnone halloc =>
      rw [if_neg (not_rtpChangesSsrc hnone), ← txStats_alloc halloc]
      rfl
  | leaving _ m hm hbye =>
      rw [if_neg (mt (rtpChangesSsrc_iff hm).1 (by simp [hbye]))]
      rfl
  | joined _ m hm hbye hself =>
      rw [if_neg (mt (rtpChangesSsrc_iff hm).1 (by simp [hself]))]
      rfl
  | thirdParty _ m hm hbye hself =>
      rw [if_neg (mt (rtpChangesSsrc_iff hm).1 (by simp [hself]))]
      rfl
  | collision _ m hm hbye hself haddr =>
      have hiff : s.RtpChangesSsrc fromAddr ssrc ↔ s.conflictListed fromAddr = false := by
        rw [rtpChangesSsrc_iff hm, and_iff_right hbye, and_iff_right hself, and_iff_right haddr]
      rw [if_congr hiff rfl rfl]
      exact txStats_ownSsrcConflict s m fromAddr
  | refreshed _ m hm hbye hknown haddr =>
      rw [if_neg (mt (rtpChangesSsrc_iff hm).1 (by simp [haddr]))]
      rfl

theorem txStats_rtcpHandleSsrc (s : Session) (ssrc : UInt32) (fromAddr : SockaddrIn)
    (pktSize : UInt32) :
    (s.rtcpHandleSsrc ssrc fromAddr pktSize).2.txStats =
      if s.RtcpChangesSsrc fromAddr ssrc then (0, 0) else s.txStats := by
  have hcase := s.rtcpHandleSsrc_case ssrc fromAddr pktSize
  generalize s.rtcpHandleSsrc ssrc fromAddr pktSize = res at hcase
  cases hcase with
  | tableFull hnone =>
      rw [if_neg (not_rtcpChangesSsrc hnone)]
      rfl
  | created m s' hnone halloc =>
      rw [if_neg (not_rtcpChangesSsrc hnone), ← txStats_alloc halloc]
      rfl
  | leaving m hm hbye =>
      rw [if_neg (mt (rtcpChangesSsrc_iff hm).1 (by simp [hbye]))]
      rfl
  | joined m hm hbye hself hnew =>
      rw [if_neg (mt (rtcpChangesSsrc_iff hm).1 (by simp [hself, hnew]))]
      rfl
  | thirdParty m hm hbye hknown haddr hother =>
      rw [if_neg (mt (rtcpChangesSsrc_iff hm).1 (by simp [hother]))]
      rfl
  | collision m hm hbye hknown haddr hown =>
      have hiff : s.RtcpChangesSsrc fromAddr ssrc ↔ s.conflictListed fromAddr = false := by
        rw [rtcpChangesSsrc_iff hm, and_iff_right hbye, and_iff_right hknown, and_iff_right haddr,
          and_iff_right hown]
      rw [if_congr hiff rfl rfl]
      exact txStats_ownSsrcConflict s m fromAddr
  | refreshed m hm hbye hknown haddr =>
      rw [if_neg (mt (rtcpChangesSsrc_iff hm).1 (by simp [haddr]))]
      rfl

/-! ## What leaves the statistics alone -/

theorem txStats_leaving (s : Session) {event : RtcpEvent} (hevent : event ≠ .rxNonBye)
    (flags : IntervalFlags) (pktSize : UInt32) :
    (s.rtcpIntervalHandleRtcpEvent event flags pktSize).txStats = s.txStats := by
  rw [rtcpEvent_leaving s hevent]
  split
  · rfl
  · rfl

theorem txStats_rtcpHandleByeSource (s : Session) (ssrc pktSize : UInt32) :
    (s.rtcpHandleByeSource ssrc pktSize).txStats = s.txStats := by
  unfold rtcpHandleByeSource
  split
  · rfl
  · split
    · rfl
    · exact txStats_leaving s (by decide) _ pktSize

theorem txStats_foldl {α : Type} {f : Session → α → Session}
    (hf : ∀ s a, (f s a).txStats = s.txStats) (s : Session) (l : List α) :
    (l.foldl f s).txStats = s.txStats :=
  Runs.run_invariant (P := fun t => t.txStats = s.txStats) (fun t a ht => (hf t a).trans ht) rfl l

theorem txStats_acceptMsg (s : Session) (m : Slot) (msg : RtcpMsg) :
    (s.acceptMsg m msg).txStats = s.txStats := by
  cases msg with
  | sr ssrc ntp rtpTs psent osent blocks sub =>
      exact txStats_foldl (f := fun s rr => s.emit (.rrRpt ssrc rr)) (fun _ _ => rfl) _ blocks
  | rr ssrc blocks =>
      exact txStats_foldl (f := fun s rr => s.emit (.rrRpt ssrc rr)) (fun _ _ => rfl) s blocks
  | sdes ssrc cnames =>
      exact txStats_foldl (f := fun s cname => s.recordCname m cname) (fun _ _ => rfl) s cnames
  | bye ssrc => rfl

theorem txStats_rrOf (s : Session) (m : Slot) : (s.rrOf m).2.txStats = s.txStats := by
  simp only [rrOf, dlsr]
  split
  · rfl
  · rfl

theorem txStats_reportRules : ReportRules fun s t => t.txStats = s.txStats where
  trans h h' := h'.trans h
  handed _ _ _ _ := rfl
  rrOf := txStats_rrOf

theorem txStats_rtcpSendReport (s : Session) : s.rtcpSendReport.2.txStats = s.txStats :=
  txStats_reportRules.rtcpSendReport s

theorem txStats_rtcpIntervalTimeout (s : Session) : s.rtcpIntervalTimeout.txStats = s.txStats := by
  apply rtcpIntervalTimeout_rule (R := fun s s' => s'.txStats = s.txStats)
  · exact fun h h' => h'.trans h
  · exact fun _ => rfl
  · exact txStats_rtcpSendReport
  · exact fun _ _ _ _ => rfl
  · exact fun _ _ _ => rfl

theorem txStats_rtcpIntervalSenderTimedout (s : Session) (m : Slot) :
    (s.rtcpIntervalSenderTimedout m).txStats = s.txStats := by
  simp only [rtcpIntervalSenderTimedout]
  rw [txStats_leaving _ (by decide)]
  split
  · rfl
  · rfl

theorem txStats_timerCallback (e : TimerElem) (s : Session) :
    (timerCallback e s).txStats = s.txStats := by
  cases e with
  | rtcp => exact txStats_rtcpIntervalTimeout s
  | member m => exact txStats_leaving s (by decide) _ 0
  | sender m => exact txStats_rtcpIntervalSenderTimedout s m
  | leave m => rfl
  | conflict c => rfl

theorem txStats_rtpSessionTimerTick (s : Session) :
    s.rtpSessionTimerTick.txStats = s.txStats :=
  SoftTimer.softTimerDrive_invariant (P := fun t : Session => t.txStats = s.txStats) rfl
    fun e _ _ _ ht => (txStats_timerCallback e _).trans ht

/-! ## The packets that were handed on -/

/-- The packets handed to `tx_rtp` since the session started or last changed its SSRC, and the octets of
    their payloads. -/
structure TxLog where
  pkts : ℕ
  octets : ℕ

/-- Nothing handed on so far. -/
def TxLog.empty : TxLog := ⟨0, 0⟩

/-- A change of SSRC empties the log. -/
def ssrcChanges : History TxLog where
  rtp fromAddr log s ssrc := if s.RtpChangesSsrc fromAddr ssrc then .empty else log
  msg fromAddr log s msg :=
    if ∃ ssrc ∈ msg.source, s.RtcpChangesSsrc fromAddr ssrc then .empty else log
  tx log _ := log
  expire log _ := log
  fire log _ _ := log

/-- The transmit hands a packet to `tx_rtp`. -/
def HandsOn (s : Session) (payload : ByteMem) (payloadLen rtpTs : UInt32) (csrc : Nat → UInt32)
    (ncsrc : UInt8) : Prop :=
  (s.rtpTx payload payloadLen rtpTs csrc ncsrc).out ≠ s.out

instance (s : Session) (payload : ByteMem) (payloadLen rtpTs : UInt32) (csrc : Nat → UInt32)
    (ncsrc : UInt8) : Decidable (s.HandsOn payload payloadLen rtpTs csrc ncsrc) :=
  inferInstanceAs (Decidable (_ ≠ _))

/-- What a call enters into the log. -/
def noteTx (log : TxLog) (s : Session) : Op → TxLog
  | .tx payload payloadLen rtpTs csrc ncsrc =>
      if s.HandsOn payload payloadLen rtpTs csrc ncsrc then
        ⟨log.pkts + 1, log.octets + payloadLen.toNat⟩
      else log
  | op => ssrcChanges.note log s op

/-- A call, with the log. -/
def logStep (p : TxLog × Session) (op : Op) : TxLog × Session := (noteTx p.1 p.2 op, step p.2 op)

/-- The statistics are what the log says, modulo `2 ^ 32`. -/
def TxCounted (log : TxLog) (s : Session) : Prop :=
  s.txStats = (UInt32.ofNat log.pkts, UInt32.ofNat log.octets)

/-! ## Calls that transmit nothing -/

theorem TxCounted.congr {log : TxLog} {s s' : Session} (h : TxCounted log s)
    (hsame : s'.txStats = s.txStats) : TxCounted log s' :=
  hsame.trans h

/-- A source changes the SSRC, and both the log and the statistics start again, or it leaves both. -/
theorem TxCounted.source {changes : Prop} [Decidable changes] {log : TxLog} {s s' : Session}
    (h : TxCounted log s) (hsource : s'.txStats = if changes then (0, 0) else s.txStats) :
    TxCounted (if changes then .empty else log) s' := by
  unfold TxCounted
  rw [hsource]
  split
  · rfl
  · exact h

theorem TxCounted.rtpHandleCsrc {log : TxLog} {s : Session} (h : TxCounted log s) (seq : UInt16)
    (fromAddr : SockaddrIn) (rtpTs arrival csrc : UInt32) :
    TxCounted (ssrcChanges.rtp fromAddr log s csrc)
      (Session.rtpHandleCsrc seq fromAddr rtpTs arrival s csrc) := by
  have hsource := h.source (s.txStats_rtpHandleSsrc csrc seq fromAddr true)
  unfold Session.rtpHandleCsrc
  simp only []
  split
  · exact hsource
  · exact hsource.congr rfl

theorem TxCounted.rtpRxSource {log : TxLog} {s : Session} (h : TxCounted log s) (hdr : RtpHdr)
    (arrival : UInt32) (fromAddr : SockaddrIn) :
    TxCounted (ssrcChanges.rtp fromAddr log s hdr.ssrc) (s.rtpRxSource hdr arrival fromAddr).2 := by
  have hsource := h.source (s.txStats_rtpHandleSsrc hdr.ssrc hdr.seq fromAddr false)
  simp only [Session.rtpRxSource]
  split
  · exact hsource
  · split
    · exact hsource.congr rfl
    · exact hsource.congr rfl

theorem TxCounted.rtpRx {log : TxLog} {s : Session} (h : TxCounted log s) (pkt : ByteMem)
    (len : UInt32) (fromAddr : SockaddrIn) :
    TxCounted (ssrcChanges.noteRtp log s pkt len fromAddr) ((s.rtpRx len fromAddr).val pkt) := by
  apply rtpRx_rule ssrcChanges.packets (P := TxCounted) (G := ActGuard.any.rtp fromAddr)
  · exact h.congr rfl
  · exact fun _ _ _ h => h.congr rfl
  · exact fun _ _ hdr arrival h _ => h.rtpRxSource hdr arrival fromAddr
  · exact fun _ _ seq rtpTs arrival csrc h _ => h.rtpHandleCsrc seq fromAddr rtpTs arrival csrc
  · exact fun _ _ _ h => h.congr rfl
  · exact ActGuard.any_admits s (.rxRtp pkt len fromAddr)

theorem TxCounted.handleMsg {log : TxLog} {s : Session} (h : TxCounted log s)
    (fromAddr : SockaddrIn) (len : UInt32) (msg : RtcpMsg) :
    TxCounted (ssrcChanges.msg fromAddr log s msg) (Session.handleMsg fromAddr len s msg) := by
  have hsource : ∀ ssrc, msg.source = some ssrc →
      TxCounted (ssrcChanges.msg fromAddr log s msg) (s.rtcpHandleSsrc ssrc fromAddr len).2 := by
    intro ssrc hssrc
    have hiff : (∃ ssrc ∈ msg.source, s.RtcpChangesSsrc fromAddr ssrc) ↔
        s.RtcpChangesSsrc fromAddr ssrc := by
      simp [hssrc]
    simp only [ssrcChanges, hiff]
    exact h.source (s.txStats_rtcpHandleSsrc ssrc fromAddr len)
  apply handleMsg_rule
  · intro ssrc hssrc _
    exact hsource ssrc hssrc
  · intro ssrc m hssrc _
    exact (hsource ssrc hssrc).congr (txStats_acceptMsg _ m msg)
  · rintro ssrc rfl
    have hnone : ¬ ∃ ssrc' ∈ (RtcpMsg.bye ssrc).source, s.RtcpChangesSsrc fromAddr ssrc' := by
      simp [RtcpMsg.source]
    simp only [ssrcChanges, if_neg hnone]
    exact h.congr (s.txStats_rtcpHandleByeSource ssrc len)

theorem TxCounted.rtcpRx {log : TxLog} {s : Session} (h : TxCounted log s) (pkt : ByteMem)
    (len : UInt32) (fromAddr : SockaddrIn) :
    TxCounted (ssrcChanges.noteRtcp log s pkt len fromAddr) ((s.rtcpRx len fromAddr).val pkt) := by
  apply rtcpRx_rule ssrcChanges.packets (P := TxCounted) (G := ActGuard.any.msg fromAddr) h
  · exact fun _ _ _ h => h.congr rfl
  · exact fun _ _ h => h.congr rfl
  · exact fun _ _ msg h _ => h.handleMsg fromAddr len msg
  · exact ActGuard.any_admits s (.rxRtcp pkt len fromAddr)

theorem TxCounted.tick {log : TxLog} {s : Session} (h : TxCounted log s) :
    TxCounted (ssrcChanges.noteTick log s) s.rtpSessionTimerTick := by
  have hlog : ssrcChanges.noteTick log s = log := by
    simp [History.noteTick, ssrcChanges]
  rw [hlog]
  exact h.congr s.txStats_rtpSessionTimerTick

/-! ## Transmits -/

/-- The packet is short enough, with the four octets that are asked for if it is to be padded. -/
def TxAccepted (config : RtpSessionConfig) (payloadLen : UInt32) (ncsrc : UInt8) : Prop :=
  rtpPktSize ncsrc.toNat payloadLen.toNat ≤ rtpConfigMaxRtpPktSize ∧
    (config.alignBy4 = true → rtpPktSize ncsrc.toNat payloadLen.toNat % 4 ≠ 0 →
      rtpPktSize ncsrc.toNat payloadLen.toNat + 4 ≤ rtpConfigMaxRtpPktSize)

/-- The call is no transmit that is rejected. -/
def AcceptsTx (s : Session) : Op → Prop
  | .tx _ payloadLen _ _ ncsrc => TxAccepted s.config payloadLen ncsrc
  | _ => True

/-- What a transmit that is rejected has to leave as it was. -/
structure TxUnchanged (s s' : Session) : Prop where
  weSent : s'.rtcpVar.weSent = s.rtcpVar.weSent
  senders : s'.rtcpVar.senders = s.rtcpVar.senders
  flags : s'.selfMember.flags = s.selfMember.flags
  timers : ∀ e ∈ [TimerElem.member s.self, .sender s.self, .leave s.self],
    s'.softTimer.remaining e = s.softTimer.remaining e
  seq : s'.seq = s.seq
  stats : s'.txStats = s.txStats

section Transmit

variable (s : Session) (payload : ByteMem) (payloadLen rtpTs : UInt32) (csrc : Nat → UInt32)
  (ncsrc : UInt8)

theorem rtpTxCount_config : (s.rtpTxCount payloadLen).config = s.config := by
  unfold rtpTxCount
  cases s.rtcpVar.weSent with
  | true => rfl
  | false => rfl

theorem rtpTxCount_out : (s.rtpTxCount payloadLen).out = s.out := by
  unfold rtpTxCount
  cases s.rtcpVar.weSent with
  | true => rfl
  | false => rfl

/-- A transmit is counted, whatever becomes of it. -/
theorem txStats_rtpTx :
    (s.rtpTx payload payloadLen rtpTs csrc ncsrc).txStats =
      (s.txPktCount + 1, s.txOctetCount + payloadLen) := by
  have hcount : (s.rtpTxCount payloadLen).txStats =
      (s.txPktCount + 1, s.txOctetCount + payloadLen) := by
    unfold rtpTxCount
    cases s.rtcpVar.weSent with
    | true => rfl
    | false => rfl
  rw [← hcount]
  simp only [rtpTx]
  split
  · rfl
  · rfl

theorem txStats_rtpTx_ne : (s.rtpTx payload payloadLen rtpTs csrc ncsrc).txStats ≠ s.txStats := by
  rw [txStats_rtpTx, txStats]
  intro heq
  have hpkts : s.txPktCount + 1 = s.txPktCount := congrArg Prod.fst heq
  simp at hpkts

theorem rtpTxBuild_isSome (t : Session) :
    (t.rtpTxBuild payload payloadLen rtpTs csrc ncsrc).2.isSome = true ↔
      TxAccepted t.config payloadLen ncsrc := by
  simp only [rtpTxBuild, TxAccepted]
  split
  · rename_i hbig
    simp only [Option.isSome_none, Bool.false_eq_true, false_iff]
    omega
  · rename_i hsize
    split
    · rename_i halign
      split
      · rename_i hpad
        simp only [Option.isSome_none, Bool.false_eq_true, false_iff]
        rintro ⟨-, hroom⟩
        have := hroom halign.1 halign.2
        omega
      · rename_i hpad
        simp only [Option.isSome_some, true_iff]
        exact ⟨by omega, fun _ _ => by omega⟩
    · rename_i halign
      simp only [Option.isSome_some, true_iff]
      exact ⟨by omega, fun hconfig hmod => absurd ⟨hconfig, hmod⟩ halign⟩

theorem handsOn_iff :
    s.HandsOn payload payloadLen rtpTs csrc ncsrc ↔ TxAccepted s.config payloadLen ncsrc := by
  rw [← s.rtpTxCount_config payloadLen,
    ← rtpTxBuild_isSome payload payloadLen rtpTs csrc ncsrc (s.rtpTxCount payloadLen)]
  unfold HandsOn
  rw [← s.rtpTxCount_out payloadLen]
  simp only [rtpTx]
  cases hsize : ((s.rtpTxCount payloadLen).rtpTxBuild payload payloadLen rtpTs csrc ncsrc).2 with
  | none => simp
  | some size => simp [emit]

/-- A transmit that is not handed on leaves its mark, so it is only without one if it is accepted. -/
theorem rejected_unchanged_iff :
    (¬ s.HandsOn payload payloadLen rtpTs csrc ncsrc →
        TxUnchanged s (s.rtpTx payload payloadLen rtpTs csrc ncsrc)) ↔
      TxAccepted s.config payloadLen ncsrc := by
  constructor
  · intro h
    by_contra hrejected
    rw [← s.handsOn_iff payload payloadLen rtpTs csrc ncsrc] at hrejected
    exact s.txStats_rtpTx_ne payload payloadLen rtpTs csrc ncsrc (h hrejected).stats
  · intro haccepted hsilent
    exact absurd ((s.handsOn_iff payload payloadLen rtpTs csrc ncsrc).2 haccepted) hsilent

end Transmit

/-! ## Runs -/

/-- The statistics stay what the log says over a call if and only if it is no rejected transmit. -/
theorem TxCounted.step_iff {log : TxLog} {s : Session} (h : TxCounted log s) (op : Op) :
    TxCounted (noteTx log s op) (step s op) ↔ s.AcceptsTx op := by
  cases op with
  | rxRtp pkt len fromAddr => exact iff_of_true (h.rtpRx pkt len fromAddr) trivial
  | rxRtcp pkt len fromAddr => exact iff_of_true (h.rtcpRx pkt len fromAddr) trivial
  | tick => exact iff_of_true h.tick trivial
  | tx payload payloadLen rtpTs csrc ncsrc =>
      have hiff := s.handsOn_iff payload payloadLen rtpTs csrc ncsrc
      simp only [noteTx, AcceptsTx, step, ← hiff]
      by_cases hon : s.HandsOn payload payloadLen rtpTs csrc ncsrc
      · rw [if_pos hon]
        refine iff_of_true ?_ hon
        obtain ⟨hpkts, hoctets⟩ := Prod.mk.inj h
        rw [TxCounted, txStats_rtpTx, hpkts, hoctets, UInt32.ofNat_add, UInt32.ofNat_add,
          UInt32.ofNat_toNat]
        rfl
      · rw [if_neg hon]
        refine iff_of_false (fun hcounted => ?_) hon
        exact s.txStats_rtpTx_ne payload payloadLen rtpTs csrc ncsrc (hcounted.trans h.symm)

theorem txCounted_rtpSessionInit (mem : Session) (config : RtpSessionConfig) :
    TxCounted .empty (mem.rtpSessionInit config) := by
  have hblank : (mem.rtpSessionBlank config).txStats = (0, 0) := rfl
  have hself : ((mem.rtpSessionBlank config).rtpSessionInitSelf config).txStats = (0, 0) := by
    simp only [rtpSessionInitSelf]
    cases halloc : (mem.rtpSessionBlank config).rtpRandom32.2.rtpSessionAllocMember
        (mem.rtpSessionBlank config).rtpRandom32.1 with
    | none => exact hblank
    | some p => exact (txStats_alloc halloc).trans hblank
  rw [rtpSessionInit_eq]
  exact hself

/-- The log and the statistics agree. -/
def LogCounted (p : TxLog × Session) : Prop := TxCounted p.1 p.2

theorem LogCounted.step_iff {p : TxLog × Session} (h : LogCounted p) (op : Op) :
    LogCounted (logStep p op) ↔ p.2.AcceptsTx op :=
  TxCounted.step_iff h op

/-- A transmit that is not handed to `tx_rtp` leaves what counts transmits alone only where there is none,
    and the statistics are the packets handed to `tx_rtp` in exactly the runs in which every transmit is
    accepted. -/
theorem txStats_handed_on_iff (mem : Session) (config : RtpSessionConfig) (ops : List Op) :
    (∀ (s : Session) (payload : ByteMem) (payloadLen rtpTs : UInt32) (csrc : Nat → UInt32)
        (ncsrc : UInt8),
      (¬ s.HandsOn payload payloadLen rtpTs csrc ncsrc →
          TxUnchanged s (s.rtpTx payload payloadLen rtpTs csrc ncsrc)) ↔
        TxAccepted s.config payloadLen ncsrc) ∧
      (Runs.Guarded logStep (fun p op => LogCounted (logStep p op))
          (.empty, mem.rtpSessionInit config) ops ↔
        Runs.Guarded logStep (fun p op => p.2.AcceptsTx op)
          (.empty, mem.rtpSessionInit config) ops) := by
  refine ⟨fun s payload payloadLen rtpTs csrc ncsrc =>
    s.rejected_unchanged_iff payload payloadLen rtpTs csrc ncsrc, ?_⟩
  have hinit : LogCounted (.empty, mem.rtpSessionInit config) := txCounted_rtpSessionInit mem config
  constructor
  · intro hcounted
    exact hcounted.of_invariant (P := LogCounted)
      (fun _ op h hstep => ⟨(h.step_iff op).1 hstep, hstep⟩) hinit
  · intro haccepted
    exact haccepted.of_invariant (P := LogCounted)
      (fun _ op h hop => ⟨(h.step_iff op).2 hop, (h.step_iff op).2 hop⟩) hinit

/-- A payload of 2000 octets: nothing is handed to `tx_rtp`, and the next SR says that one packet was sent. -/
theorem rejected_tx_is_counted :
    ¬ ((zeroed (.still .zero)).rtpSessionInit (plainConfig 1000 4)).HandsOn (fun _ => 0) 2000 0
        (fun _ => 0) 0 ∧
      ¬ TxUnchanged ((zeroed (.still .zero)).rtpSessionInit (plainConfig 1000 4))
        (((zeroed (.still .zero)).rtpSessionInit (plainConfig 1000 4)).rtpTx (fun _ => 0) 2000 0
          (fun _ => 0) 0) ∧
      ¬ LogCounted
        (logStep (.empty, (zeroed (.still .zero)).rtpSessionInit (plainConfig 1000 4))
          (.tx (fun _ => 0) 2000 0 (fun _ => 0) 0)) := by
  refine ⟨by decide +kernel, fun h => ?_, ?_⟩
  · exact absurd h.stats (by decide +kernel)
  · unfold LogCounted TxCounted
    decide +kernel

end Session

end Prtp
