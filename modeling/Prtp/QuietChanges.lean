import Prtp.RtcpMessages
import Prtp.RtpTransmit

set_option autoImplicit false

/-! # Changes that move neither members nor timers

Between the acts of a call a session changes only in what does not decide who is in the table and which
timers run: such a change is *quiet*. All of them are also *calm*: they leave the trial of every source,
its probation and the sequence number it is measured by, where it stands. -/

namespace Prtp

/-! ## Sending a report -/

namespace Session

/-- What a relation of a session to a later one has to survive for sending a report to keep it: the report
    block of a member, and whatever else reads the clocks and hands things out. -/
structure ReportRules (R : Session → Session → Prop) : Prop where
  trans : ∀ {s t u}, R s t → R t u → R s u
  handed : ∀ (s : Session) env undef out, R s { s with env := env, undef := undef, out := out }
  rrOf : ∀ s m, R s (s.rrOf m).2

namespace ReportRules

variable {R : Session → Session → Prop}

theorem refl (hr : ReportRules R) (s : Session) : R s s := hr.handed s s.env s.undef s.out

theorem rtcpSendReportGenRr (hr : ReportRules R) (addRr : RtcpEncoder → RtcpRr → Bool × RtcpEncoder)
    (ms : List Slot) (enc : RtcpEncoder) (s : Session) :
    R s (Session.rtcpSendReportGenRr addRr ms enc s).2.2 := by
  induction ms generalizing enc s with
  | nil => exact hr.refl s
  | cons m ms ih =>
      simp only [Session.rtcpSendReportGenRr]
      split
      · split
        · exact hr.trans (hr.rrOf s m) (ih _ _)
        · exact hr.rrOf s m
      · exact ih enc s

theorem rtcpSendReportFirst (hr : ReportRules R) (s : Session) (enc : RtcpEncoder) (ts : NtpTs)
    (rtpTs : UInt32) : R s (s.rtcpSendReportFirst enc ts rtpTs).2.2 := by
  simp only [Session.rtcpSendReportFirst]
  split
  · split
    · exact hr.rtcpSendReportGenRr _ _ _ _
    · exact hr.refl s
  · split
    · exact hr.rtcpSendReportGenRr _ _ _ _
    · exact hr.refl s

theorem rtcpSendReportRest (hr : ReportRules R) (s : Session) (enc : RtcpEncoder) :
    R s (s.rtcpSendReportRest enc).2 := by
  simp only [Session.rtcpSendReportRest]
  split
  · exact hr.handed s s.env true s.out
  · split
    · exact hr.refl s
    · split
      · exact hr.handed s s.env true s.out
      · exact hr.handed s s.env s.undef _

theorem rtcpSendReport (hr : ReportRules R) (s : Session) : R s s.rtcpSendReport.2 := by
  simp only [Session.rtcpSendReport]
  generalize hclocks : (s.emit .logRtcpTx).ntpTsNow.2.rtpSessionTimestamp.2 = t
  have hstart : R s t := hclocks ▸ hr.handed s _ s.undef _
  have hfirst := hr.trans hstart (hr.rtcpSendReportFirst t
    (RtcpEncoder.init s.env.stack rtpConfigRtcpEncoderBufferLen) (s.emit .logRtcpTx).ntpTsNow.1
    (s.emit .logRtcpTx).ntpTsNow.2.rtpSessionTimestamp.1)
  split
  · exact hfirst
  · exact hr.trans hfirst (hr.rtcpSendReportRest _ _)

end ReportRules

end Session

/-! ## Quiet changes -/

/-- Two records of a member that agree on everything the table and the timers depend on. -/
structure RtpMember.Alike (x y : RtpMember) : Prop where
  ssrc : y.ssrc = x.ssrc
  rtpAddr : y.rtpAddr = x.rtpAddr
  rtcpAddr : y.rtcpAddr = x.rtcpAddr
  self : y.flags.self = x.flags.self
  rtpHeard : y.flags.rtpHeard = x.flags.rtpHeard
  rtcpHeard : y.flags.rtcpHeard = x.flags.rtcpHeard
  byeReceived : y.flags.byeReceived = x.flags.byeReceived

theorem RtpMember.Alike.refl (x : RtpMember) : x.Alike x := ⟨rfl, rfl, rfl, rfl, rfl, rfl, rfl⟩

theorem RtpMember.Alike.trans {x y z : RtpMember} (h : x.Alike y) (h' : y.Alike z) : x.Alike z where
  ssrc := h'.ssrc.trans h.ssrc
  rtpAddr := h'.rtpAddr.trans h.rtpAddr
  rtcpAddr := h'.rtcpAddr.trans h.rtcpAddr
  self := h'.self.trans h.self
  rtpHeard := h'.rtpHeard.trans h.rtpHeard
  rtcpHeard := h'.rtcpHeard.trans h.rtcpHeard
  byeReceived := h'.byeReceived.trans h.byeReceived

namespace Session

/-- `s'` differs from `s` at most in what members have said about themselves, in the statistics of
    their packets, in what has been handed out and drawn, and in error and packet counters. -/
structure Quiet (s s' : Session) : Prop where
  timer : s'.softTimer = s.softTimer
  pool : s'.memberTable.pool = s.memberTable.pool
  numMembers : s'.memberTable.numMembers = s.memberTable.numMembers
  rtcpVar : s'.rtcpVar = s.rtcpVar
  self : s'.self = s.self
  srcConflict : s'.srcConflict = s.srcConflict
  config : s'.config = s.config
  member : ∀ m, (s.member m).Alike (s'.member m)

namespace Quiet

theorem refl (s : Session) : Quiet s s := ⟨rfl, rfl, rfl, rfl, rfl, rfl, rfl, fun _ => .refl _⟩

theorem trans {s s' s'' : Session} (h : Quiet s s') (h' : Quiet s' s'') : Quiet s s'' where
  timer := h'.timer.trans h.timer
  pool := h'.pool.trans h.pool
  numMembers := h'.numMembers.trans h.numMembers
  rtcpVar := h'.rtcpVar.trans h.rtcpVar
  self := h'.self.trans h.self
  srcConflict := h'.srcConflict.trans h.srcConflict
  config := h'.config.trans h.config
  member m := (h.member m).trans (h'.member m)

theorem usedList {s s' : Session} (h : Quiet s s') : s'.usedList = s.usedList :=
  congrArg Pool.used h.pool

theorem lookup {s s' : Session} (h : Quiet s s') (ssrc : UInt32) :
    s'.rtpSessionLookupMember ssrc = s.rtpSessionLookupMember ssrc :=
  lookup_congr h.usedList (fun m _ => (h.member m).ssrc) ssrc

theorem selfMember {s s' : Session} (h : Quiet s s') : s.selfMember.Alike s'.selfMember := by
  rw [Session.selfMember, Session.selfMember, h.self]
  exact h.member s.self

theorem emit (s : Session) (o : Output) : Quiet s (s.emit o) :=
  ⟨rfl, rfl, rfl, rfl, rfl, rfl, rfl, fun _ => .refl _⟩

theorem setRtpError (s : Session) (e : RtpRxError) : Quiet s (s.setRtpError e) :=
  ⟨rfl, rfl, rfl, rfl, rfl, rfl, rfl, fun _ => .refl _⟩

theorem setRtcpError (s : Session) (e : RtcpRxError) : Quiet s (s.setRtcpError e) :=
  ⟨rfl, rfl, rfl, rfl, rfl, rfl, rfl, fun _ => .refl _⟩

theorem ntpTsNow (s : Session) : Quiet s s.ntpTsNow.2 :=
  ⟨rfl, rfl, rfl, rfl, rfl, rfl, rfl, fun _ => .refl _⟩

theorem rtpSessionTimestamp (s : Session) : Quiet s s.rtpSessionTimestamp.2 :=
  ⟨rfl, rfl, rfl, rfl, rfl, rfl, rfl, fun _ => .refl _⟩

theorem drawInterval (s : Session) : Quiet s s.drawInterval.2 :=
  ⟨rfl, rfl, rfl, rfl, rfl, rfl, rfl, fun _ => .refl _⟩

theorem modifyMember (s : Session) (m : Slot) {f : RtpMember → RtpMember}
    (hf : (s.member m).Alike (f (s.member m))) : Quiet s (s.modifyMember m f) := by
  refine ⟨rfl, rfl, rfl, rfl, rfl, rfl, rfl, fun j => ?_⟩
  rw [member_modifyMember]
  split
  · rename_i h
    rw [h]
    exact hf
  · exact .refl _

end Quiet

/-! ## Calm changes -/

/-- A quiet change that leaves the trial of every source where it stands. -/
structure Calm (s s' : Session) : Prop extends Quiet s s' where
  probation : ∀ m, (s'.member m).rtpSrc.probation = (s.member m).rtpSrc.probation
  maxSeq : ∀ m, (s'.member m).rtpSrc.maxSeq = (s.member m).rtpSrc.maxSeq

namespace Calm

/-- The table is the same. -/
theorem of_table {s s' : Session} (h : Quiet s s') (htable : s'.memberTable = s.memberTable) :
    Calm s s' := by
  refine ⟨h, fun m => ?_, fun m => ?_⟩
  · rw [member, member, htable]
  · rw [member, member, htable]

theorem refl (s : Session) : Calm s s := of_table (.refl s) rfl

theorem trans {s s' s'' : Session} (h : Calm s s') (h' : Calm s' s'') : Calm s s'' where
  toQuiet := h.toQuiet.trans h'.toQuiet
  probation m := (h'.probation m).trans (h.probation m)
  maxSeq m := (h'.maxSeq m).trans (h.maxSeq m)

theorem emit (s : Session) (o : Output) : Calm s (s.emit o) := of_table (.emit s o) rfl

theorem setRtpError (s : Session) (e : RtpRxError) : Calm s (s.setRtpError e) :=
  of_table (.setRtpError s e) rfl

theorem setRtcpError (s : Session) (e : RtcpRxError) : Calm s (s.setRtcpError e) :=
  of_table (.setRtcpError s e) rfl

theorem ntpTsNow (s : Session) : Calm s s.ntpTsNow.2 := of_table (.ntpTsNow s) rfl

theorem rtpSessionTimestamp (s : Session) : Calm s s.rtpSessionTimestamp.2 :=
  of_table (.rtpSessionTimestamp s) rfl

theorem drawInterval (s : Session) : Calm s s.drawInterval.2 := of_table (.drawInterval s) rfl

theorem modifyMember (s : Session) (m : Slot) {f : RtpMember → RtpMember}
    (hf : (s.member m).Alike (f (s.member m)))
    (hprobation : (f (s.member m)).rtpSrc.probation = (s.member m).rtpSrc.probation)
    (hmaxSeq : (f (s.member m)).rtpSrc.maxSeq = (s.member m).rtpSrc.maxSeq) :
    Calm s (s.modifyMember m f) := by
  refine ⟨.modifyMember s m hf, fun j => ?_, fun j => ?_⟩
  all_goals
    rw [member_modifyMember]
    split
    · rename_i h
      rw [h]
      assumption
    · rfl

theorem recordSr (s : Session) (m : Slot) (ntp : NtpTs) (rtpTs psent osent : UInt32) :
    Calm s (s.recordSr m ntp rtpTs psent osent) := by
  have hreport := modifyMember s m
    (f := fun x => { x with lastSr := ntp, rtpTs := rtpTs, pktCount := psent, octetCount := osent })
    ⟨rfl, rfl, rfl, rfl, rfl, rfl, rfl⟩ rfl rfl
  refine (hreport.trans (ntpTsNow _)).trans ?_
  exact modifyMember _ m (f := fun x => { x with lastSrLocalTime := _ })
    ⟨rfl, rfl, rfl, rfl, rfl, rfl, rfl⟩ rfl rfl

theorem recordCname (s : Session) (m : Slot) (cname : List UInt8) :
    Calm s (s.recordCname m cname) :=
  modifyMember s m ⟨rfl, rfl, rfl, rfl, rfl, rfl, rfl⟩ rfl rfl

theorem foldl {α : Type} {f : Session → α → Session} (hf : ∀ s a, Calm s (f s a)) (s : Session)
    (l : List α) : Calm s (l.foldl f s) :=
  Runs.run_invariant (fun t a ht => ht.trans (hf t a)) (.refl s) l

theorem acceptMsg (s : Session) (m : Slot) (msg : RtcpMsg) : Calm s (s.acceptMsg m msg) := by
  cases msg with
  | sr ssrc ntp rtpTs psent osent blocks sub =>
      exact ((recordSr s m ntp rtpTs psent osent).trans (foldl (fun s _ => emit s _) _ _)).trans
        (emit _ _)
  | rr ssrc blocks => exact foldl (fun s _ => emit s _) _ _
  | sdes ssrc cnames => exact foldl (fun s _ => recordCname s m _) _ _
  | bye ssrc => exact .refl s

theorem rrOf (s : Session) (m : Slot) : Calm s (s.rrOf m).2 := by
  have hclose : Calm s
      (s.setMember m { s.member m with rtpSrc := (s.member m).rtpSrc.closeInterval }) :=
    modifyMember s m (f := fun x => { x with rtpSrc := x.rtpSrc.closeInterval })
      ⟨rfl, rfl, rfl, rfl, rfl, rfl, rfl⟩ rfl rfl
  refine hclose.trans ?_
  simp only [Session.rrOf, dlsr]
  split
  · exact .refl _
  · exact ntpTsNow _

theorem reportRules : ReportRules Calm where
  trans := .trans
  handed _ _ _ _ := of_table ⟨rfl, rfl, rfl, rfl, rfl, rfl, rfl, fun _ => .refl _⟩ rfl
  rrOf := rrOf

/-- Sending a report moves neither members nor timers. -/
theorem rtcpSendReport (s : Session) : Calm s s.rtcpSendReport.2 := reportRules.rtcpSendReport s

/-- What follows the size check of a transmit moves neither members nor timers. -/
theorem rtpTx (s : Session) (payload : ByteMem) (payloadLen rtpTs : UInt32) (csrc : Nat → UInt32)
    (ncsrc : UInt8) :
    Calm (s.rtpTxCount payloadLen) (s.rtpTx payload payloadLen rtpTs csrc ncsrc) := by
  have hbuilt : Quiet (s.rtpTxCount payloadLen)
      (s.rtpTx payload payloadLen rtpTs csrc ncsrc) := by
    simp only [Session.rtpTx]
    split
    · exact ⟨rfl, rfl, rfl, rfl, rfl, rfl, rfl, fun _ => .refl _⟩
    · exact ⟨rfl, rfl, rfl, rfl, rfl, rfl, rfl, fun _ => .refl _⟩
  refine of_table hbuilt ?_
  simp only [Session.rtpTx]
  split
  · rfl
  · rfl

end Calm

namespace Quiet

theorem acceptMsg (s : Session) (m : Slot) (msg : RtcpMsg) : Quiet s (s.acceptMsg m msg) :=
  (Calm.acceptMsg s m msg).toQuiet

theorem rrOf (s : Session) (m : Slot) : Quiet s (s.rrOf m).2 := (Calm.rrOf s m).toQuiet

/-- Sending a report moves neither members nor timers. -/
theorem rtcpSendReport (s : Session) : Quiet s s.rtcpSendReport.2 := (Calm.rtcpSendReport s).toQuiet

/-- What follows the size check of a transmit moves neither members nor timers. -/
theorem rtpTx (s : Session) (payload : ByteMem) (payloadLen rtpTs : UInt32) (csrc : Nat → UInt32)
    (ncsrc : UInt8) :
    Quiet (s.rtpTxCount payloadLen) (s.rtpTx payload payloadLen rtpTs csrc ncsrc) :=
  (Calm.rtpTx s payload payloadLen rtpTs csrc ncsrc).toQuiet

end Quiet

end Session

end Prtp
