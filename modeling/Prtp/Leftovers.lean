import Prtp.ActRules
import Prtp.SessionLedger

set_option autoImplicit false

/-! # What a freed slot leaves behind

`rtp_member_init` clears a part of the slot it is given; the rest is what the last occupant left. Two
sessions that differ in such leftovers are run side by side here: they *act alike* as long as every
slot is initialised, by the path that takes it, in all that the two hold differently. -/

namespace Prtp

open ByteReader

/-! ## Records that act alike -/

/-- Two sources of which the same report block is made. -/
structure RtpSource.SameReport (x y : RtpSource) : Prop where
  extendedMax : x.extendedMax = y.extendedMax
  lost : x.lost = y.lost
  fractionLost : x.fractionLost = y.fractionLost
  jitter : x.jitter = y.jitter

instance (x y : RtpSource) : Decidable (x.SameReport y) :=
  decidable_of_iff
    (x.extendedMax = y.extendedMax ∧ x.lost = y.lost ∧ x.fractionLost = y.fractionLost ∧
      x.jitter = y.jitter)
    ⟨fun h => ⟨h.1, h.2.1, h.2.2.1, h.2.2.2⟩, fun h => ⟨h.1, h.2, h.3, h.4⟩⟩

/-- Two sources that are the same once `rtp_init_seq` has reset them. -/
def RtpSource.SameTiming (x y : RtpSource) : Prop := x.jitter = y.jitter ∧ x.transit = y.transit

instance (x y : RtpSource) : Decidable (x.SameTiming y) := inferInstanceAs (Decidable (_ ∧ _))

theorem RtpSource.SameReport.of_eq {x y : RtpSource} (h : x = y) : x.SameReport y := by
  subst h
  exact ⟨rfl, rfl, rfl, rfl⟩

/-- Closing the interval of a source leaves nothing to report of it but what it had. -/
theorem RtpSource.SameReport.closeInterval {x y : RtpSource} (h : x.SameReport y) :
    x.closeInterval.SameReport y.closeInterval := by
  have hfraction : ∀ z : RtpSource, z.closeInterval.fractionLost = 0 := by
    intro z
    have hinterval : z.closeInterval.expected - z.closeInterval.expectedPrior = 0 := by
      show z.expected - z.expected = 0
      exact UInt32.sub_self _
    rw [RtpSource.fractionLost, hinterval]
    exact if_pos (Or.inl rfl)
  exact ⟨h.extendedMax, h.lost, by rw [hfraction, hfraction], h.jitter⟩

theorem RtpSource.SameTiming.rtpInitSeq {x y : RtpSource} (h : x.SameTiming y) (seq : UInt16) :
    x.rtpInitSeq seq true = y.rtpInitSeq seq true := by
  obtain ⟨hjitter, htransit⟩ := h
  simp only [RtpSource.rtpInitSeq, hjitter, htransit, if_true]

namespace RtpMember

/-- The first octets of two CNAMEs, as many as the length counts, are the same. -/
def SameCname (x y : RtpMember) : Prop :=
  x.cnameLen = y.cnameLen ∧ ∀ i < x.cnameLen.toNat, x.cname i = y.cname i

instance (x y : RtpMember) : Decidable (x.SameCname y) :=
  inferInstanceAs (Decidable (_ ∧ ∀ i < _, _))

/-- Two records that serve the session itself alike. -/
structure OwnAlike (x y : RtpMember) : Prop where
  ssrc : x.ssrc = y.ssrc
  sender : x.flags.sender = y.flags.sender
  cname : x.SameCname y

instance (x y : RtpMember) : Decidable (x.OwnAlike y) :=
  decidable_of_iff (x.ssrc = y.ssrc ∧ x.flags.sender = y.flags.sender ∧ x.SameCname y)
    ⟨fun ⟨hssrc, hsender, hcname⟩ => ⟨hssrc, hsender, hcname⟩,
      fun h => ⟨h.ssrc, h.sender, h.cname⟩⟩

/-- Two records of a member in the table that serve alike: what is not settled yet, because the
    member was not heard by RTCP or by RTP, may differ. -/
structure ActsLike (x y : RtpMember) : Prop where
  ssrc : x.ssrc = y.ssrc
  flags : x.flags = y.flags
  cname : x.SameCname y
  lastSr : x.lastSr = y.lastSr
  lastSrLocalTime : x.lastSrLocalTime = y.lastSrLocalTime
  report : x.rtpSrc.SameReport y.rtpSrc
  rtcpAddr : x.flags.self = true ∨ x.flags.rtcpHeard = true → x.rtcpAddr = y.rtcpAddr
  rtpAddr : x.flags.self = true ∨ x.flags.rtpHeard = true → x.rtpAddr = y.rtpAddr
  rtpSrc : x.flags.self = true ∨ x.flags.rtpHeard = true → x.rtpSrc = y.rtpSrc

/-- Two records that are the same but for octets past the end of the CNAME. -/
def SameRecord (x y : RtpMember) : Prop := { x with cname := y.cname } = y ∧ x.SameCname y

instance (x y : RtpMember) : Decidable (x.SameRecord y) :=
  decidable_of_iff
    ((x.rtpAddr = y.rtpAddr ∧ x.rtcpAddr = y.rtcpAddr ∧ x.ssrc = y.ssrc ∧ x.cnameLen = y.cnameLen ∧
      x.flags = y.flags ∧ x.rtpSrc = y.rtpSrc ∧ x.lastSr = y.lastSr ∧
      x.lastSrLocalTime = y.lastSrLocalTime ∧ x.rtpTs = y.rtpTs ∧ x.pktCount = y.pktCount ∧
      x.octetCount = y.octetCount) ∧ x.SameCname y)
    (by simp [SameRecord, RtpMember.ext_iff])

theorem SameRecord.actsLike {x y : RtpMember} (h : x.SameRecord y) : x.ActsLike y := by
  obtain ⟨hxy, hcname⟩ := h
  have hfield : ∀ {α : Type} (f : RtpMember → α), f { x with cname := y.cname } = f y :=
    fun f => congrArg f hxy
  exact ⟨hfield ssrc, hfield flags, hcname, hfield lastSr, hfield lastSrLocalTime,
    .of_eq (hfield rtpSrc), fun _ => hfield rtcpAddr, fun _ => hfield rtpAddr,
    fun _ => hfield rtpSrc⟩

theorem ActsLike.own {x y : RtpMember} (h : x.ActsLike y) : x.OwnAlike y :=
  ⟨h.ssrc, by rw [h.flags], h.cname⟩

/-- A new flag other than `self` and the two `heard` ones tells nothing new. -/
theorem ActsLike.setFlags {x y : RtpMember} (h : x.ActsLike y) (f : RtpFlags → RtpFlags)
    (hself : ∀ w, (f w).self = w.self) (hrtp : ∀ w, (f w).rtpHeard = true → w.rtpHeard = true)
    (hrtcp : ∀ w, (f w).rtcpHeard = true → w.rtcpHeard = true) :
    ActsLike { x with flags := f x.flags } { y with flags := f y.flags } where
  ssrc := h.ssrc
  flags := congrArg f h.flags
  cname := h.cname
  lastSr := h.lastSr
  lastSrLocalTime := h.lastSrLocalTime
  report := h.report
  rtcpAddr hknown := h.rtcpAddr (hknown.imp (fun hs => (hself _).symm.trans hs) (hrtcp _))
  rtpAddr hknown := h.rtpAddr (hknown.imp (fun hs => (hself _).symm.trans hs) (hrtp _))
  rtpSrc hknown := h.rtpSrc (hknown.imp (fun hs => (hself _).symm.trans hs) (hrtp _))

theorem ActsLike.setByeReceived {x y : RtpMember} (h : x.ActsLike y) :
    x.setByeReceived.ActsLike y.setByeReceived :=
  h.setFlags (fun w => { w with byeReceived := true }) (fun _ => rfl) (fun _ => id) (fun _ => id)

theorem ActsLike.setValidated {x y : RtpMember} (h : x.ActsLike y) :
    x.setValidated.ActsLike y.setValidated :=
  h.setFlags (fun w => { w with validated := true }) (fun _ => rfl) (fun _ => id) (fun _ => id)

theorem ActsLike.setCsrc {x y : RtpMember} (h : x.ActsLike y) : x.setCsrc.ActsLike y.setCsrc :=
  h.setFlags (fun w => { w with csrc := true }) (fun _ => rfl) (fun _ => id) (fun _ => id)

theorem ActsLike.setSender {x y : RtpMember} (h : x.ActsLike y) :
    x.setSender.ActsLike y.setSender :=
  h.setFlags (fun w => { w with sender := true }) (fun _ => rfl) (fun _ => id) (fun _ => id)

theorem ActsLike.clearSender {x y : RtpMember} (h : x.ActsLike y) :
    x.clearSender.ActsLike y.clearSender :=
  h.setFlags (fun w => { w with sender := false }) (fun _ => rfl) (fun _ => id) (fun _ => id)

theorem ActsLike.clearRtpHeard {x y : RtpMember} (h : x.ActsLike y) :
    x.clearRtpHeard.ActsLike y.clearRtpHeard :=
  h.setFlags (fun w => { w with rtpHeard := false }) (fun _ => rfl) (fun _ hw => by simp at hw)
    (fun _ => id)

/-- A member heard by RTCP from now on. -/
theorem ActsLike.hearRtcp {x y : RtpMember} (h : x.ActsLike y) (haddr : x.rtcpAddr = y.rtcpAddr) :
    x.setRtcpHeard.ActsLike y.setRtcpHeard :=
  ⟨h.ssrc, by simp [RtpMember.setRtcpHeard, h.flags], h.cname, h.lastSr, h.lastSrLocalTime,
    h.report, fun _ => haddr, h.rtpAddr, h.rtpSrc⟩

/-- A member heard by RTP from now on. -/
theorem ActsLike.hearRtp {x y : RtpMember} (h : x.ActsLike y) (haddr : x.rtpAddr = y.rtpAddr)
    (hsrc : x.rtpSrc = y.rtpSrc) : x.setRtpHeard.ActsLike y.setRtpHeard :=
  ⟨h.ssrc, by simp [RtpMember.setRtpHeard, h.flags], h.cname, h.lastSr, h.lastSrLocalTime,
    h.report, h.rtcpAddr, fun _ => haddr, fun _ => hsrc⟩

theorem ActsLike.rtcpFirstHeard {x y : RtpMember} (h : x.ActsLike y) (fromAddr : SockaddrIn) :
    (Session.rtcpFirstHeard fromAddr x).ActsLike (Session.rtcpFirstHeard fromAddr y) :=
  hearRtcp (x := { x with rtcpAddr := fromAddr }) (y := { y with rtcpAddr := fromAddr })
    ⟨h.ssrc, h.flags, h.cname, h.lastSr, h.lastSrLocalTime, h.report, fun _ => rfl, h.rtpAddr,
      h.rtpSrc⟩ rfl

/-- The first data packet settles the whole of `rtp_src` but the jitter and the transit time. -/
theorem ActsLike.rtpFirstHeard {x y : RtpMember} (h : x.ActsLike y)
    (htiming : x.rtpSrc.SameTiming y.rtpSrc) (seq : UInt16) (fromAddr : SockaddrIn) :
    (Session.rtpFirstHeard seq fromAddr x).ActsLike (Session.rtpFirstHeard seq fromAddr y) := by
  have hsrc := htiming.rtpInitSeq seq
  refine hearRtp (x := { x with rtpSrc := x.rtpSrc.rtpInitSeq seq true, rtpAddr := fromAddr })
    (y := { y with rtpSrc := y.rtpSrc.rtpInitSeq seq true, rtpAddr := fromAddr }) ?_ rfl hsrc
  exact ⟨h.ssrc, h.flags, h.cname, h.lastSr, h.lastSrLocalTime, RtpSource.SameReport.of_eq hsrc, h.rtcpAddr,
    fun _ => rfl, fun _ => hsrc⟩

/-- `rtp_member_init` settles all but `rtp_src`, and the addresses that are not needed yet. -/
theorem ActsLike.rtpMemberInit {x y : RtpMember} (h : x.rtpSrc.SameReport y.rtpSrc)
    (ssrc : UInt32) : (Prtp.rtpMemberInit x ssrc).ActsLike (Prtp.rtpMemberInit y ssrc) := by
  have hclear : ¬ (RtpFlags.zero.self = true ∨ RtpFlags.zero.rtcpHeard = true) ∧
      ¬ (RtpFlags.zero.self = true ∨ RtpFlags.zero.rtpHeard = true) := by decide
  exact ⟨rfl, rfl, ⟨rfl, fun i hi => absurd hi (Nat.not_lt_zero i)⟩, rfl, rfl, h,
    fun hknown => absurd hknown hclear.1, fun hknown => absurd hknown hclear.2,
    fun hknown => absurd hknown hclear.2⟩

/-- A member made by a data packet. -/
theorem ActsLike.rtpCreated {x y : RtpMember} (h : x.rtpSrc.SameTiming y.rtpSrc) (ssrc : UInt32)
    (seq : UInt16) (fromAddr : SockaddrIn) :
    (Session.rtpFirstHeard seq fromAddr (Prtp.rtpMemberInit x ssrc)).ActsLike
      (Session.rtpFirstHeard seq fromAddr (Prtp.rtpMemberInit y ssrc)) := by
  have hsrc := h.rtpInitSeq seq
  have hclear : ¬ (RtpFlags.zero.self = true ∨ RtpFlags.zero.rtcpHeard = true) := by decide
  exact ⟨rfl, rfl, ⟨rfl, fun i hi => absurd hi (Nat.not_lt_zero i)⟩, rfl,
    rfl, .of_eq hsrc, fun hknown => absurd hknown hclear, fun _ => rfl, fun _ => hsrc⟩

end RtpMember

/-! ## Sessions that act alike -/

namespace Session

/-- A record of zeros. -/
def blankMember : RtpMember where
  rtpAddr := .ofPort 0
  rtcpAddr := .ofPort 0
  ssrc := 0
  cname := fun _ => 0
  cnameLen := 0
  flags := .zero
  rtpSrc := ⟨0, 0, 0, 0, 0, 0, 0, 0, 0, 0⟩
  lastSr := ntpTsInit
  lastSrLocalTime := ntpTsInit
  rtpTs := 0
  pktCount := 0
  octetCount := 0

/-- Everything of a session that steers it but its members' records. What is blanked besides those is
    read by nobody: what was handed out so far, the history of `tn`, the packet sent last, the part
    of the configuration only `rtp_session_init` uses, and the octets a report is built over. -/
def shell (s : Session) : Session :=
  { s with
    rtpPkt := fun _ => 0
    memberTable := { s.memberTable with memberArray := fun _ => blankMember }
    rtcpVar := { s.rtcpVar with tnMembers := 0 }
    config := ⟨.ofPort 0, .ofPort 0, 0, fun _ => 0, 0, s.config.pt, s.config.alignBy4⟩
    env := { s.env with stack := fun _ => 0 }
    out := [] }

/-- After `a` and `b` were handed out, the two sessions have handed out the same, and they will go
    on doing so as long as the leftovers of free slots do not come into play. -/
structure ActsLike (a b : List Output) (s t : Session) : Prop where
  shell : s.shell = t.shell
  out : ∃ o, s.out = a ++ o ∧ t.out = b ++ o
  own : s.selfMember.OwnAlike t.selfMember
  member : ∀ m ∈ s.usedList, (s.member m).ActsLike (t.member m)

variable {a b : List Output} {s t : Session}

/-- A function that neither reads nor writes the members' records, nor hands anything out. -/
structure OffTable (f : Session → Session) : Prop where
  shell : ∀ s, (f s).shell = (f s.shell).shell
  memberTable : ∀ s, (f s).memberTable = s.memberTable
  self : ∀ s, (f s).self = s.self
  out : ∀ s, (f s).out = s.out

namespace OffTable

theorem comp {f g : Session → Session} (hf : OffTable f) (hg : OffTable g) :
    OffTable fun s => g (f s) where
  shell s := by rw [hg.shell, hf.shell, ← hg.shell]
  memberTable s := (hg.memberTable _).trans (hf.memberTable s)
  self s := (hg.self _).trans (hf.self s)
  out s := (hg.out _).trans (hf.out s)

theorem setRtpError (e : RtpRxError) : OffTable fun s => s.setRtpError e :=
  ⟨fun _ => rfl, fun _ => rfl, fun _ => rfl, fun _ => rfl⟩

theorem setRtcpError (e : RtcpRxError) : OffTable fun s => s.setRtcpError e :=
  ⟨fun _ => rfl, fun _ => rfl, fun _ => rfl, fun _ => rfl⟩

theorem softTimerAdd (e : TimerElem) (d : Int) : OffTable fun s => s.softTimerAdd e d :=
  ⟨fun _ => rfl, fun _ => rfl, fun _ => rfl, fun _ => rfl⟩

theorem softTimerDel (e : TimerElem) : OffTable fun s => s.softTimerDel e :=
  ⟨fun _ => rfl, fun _ => rfl, fun _ => rfl, fun _ => rfl⟩

theorem memberRestart (m : Slot) : OffTable fun s => s.rtpTimersMemberRestart m :=
  (softTimerDel _).comp (softTimerAdd _ _)

theorem senderRestart (m : Slot) : OffTable fun s => s.rtpTimersSenderRestart m :=
  (softTimerDel _).comp (softTimerAdd _ _)

theorem expire : OffTable fun s => s.setTimer s.softTimer.expire :=
  ⟨fun _ => rfl, fun _ => rfl, fun _ => rfl, fun _ => rfl⟩

theorem popTimeout : OffTable fun s => s.setTimer s.softTimer.popTimeout :=
  ⟨fun _ => rfl, fun _ => rfl, fun _ => rfl, fun _ => rfl⟩

theorem ntpTsNow : OffTable fun s => s.ntpTsNow.2 :=
  ⟨fun _ => rfl, fun _ => rfl, fun _ => rfl, fun _ => rfl⟩

theorem rtpSessionTimestamp : OffTable fun s => s.rtpSessionTimestamp.2 :=
  ⟨fun _ => rfl, fun _ => rfl, fun _ => rfl, fun _ => rfl⟩

theorem drawInterval : OffTable fun s => s.drawInterval.2 :=
  ⟨fun _ => rfl, fun _ => rfl, fun _ => rfl, fun _ => rfl⟩

theorem resetTxStats : OffTable rtpSessionResetTxStats :=
  ⟨fun _ => rfl, fun _ => rfl, fun _ => rfl, fun _ => rfl⟩

theorem setWeSent (w : Bool) : OffTable fun s => s.setWeSent w :=
  ⟨fun _ => rfl, fun _ => rfl, fun _ => rfl, fun _ => rfl⟩

theorem rtpEvent (newMember newSender : Bool) :
    OffTable fun s => s.rtcpIntervalHandleRtpEvent newMember newSender :=
  ⟨fun _ => rfl, fun _ => rfl, fun _ => rfl, fun _ => rfl⟩

theorem schedule (tc : ℚ) (tn : Option ℚ) : OffTable fun s => s.rtcpIntervalSchedule tc tn :=
  ⟨fun _ => rfl, fun _ => rfl, fun _ => rfl, fun _ => rfl⟩

theorem rtcpEvent (event : RtcpEvent) (flags : IntervalFlags) (pktSize : UInt32) :
    OffTable fun s => s.rtcpIntervalHandleRtcpEvent event flags pktSize := by
  by_cases hevent : event = .rxNonBye
  · subst hevent
    exact ⟨fun _ => rfl, fun _ => rfl, fun _ => rfl, fun _ => rfl⟩
  · refine ⟨fun s => ?_, fun s => ?_, fun s => ?_, fun s => ?_⟩
    · rw [rtcpEvent_leaving s hevent, rtcpEvent_leaving s.shell hevent]
      by_cases hfall : (s.countOff flags).rtcpVar.members < s.rtcpVar.pmembers
      · have hshell : (s.shell.countOff flags).rtcpVar.members < s.shell.rtcpVar.pmembers := hfall
        rw [if_pos hfall, if_pos hshell]
        rfl
      · have hshell : ¬ (s.shell.countOff flags).rtcpVar.members < s.shell.rtcpVar.pmembers := hfall
        rw [if_neg hfall, if_neg hshell]
        rfl
    all_goals
      rw [rtcpEvent_leaving s hevent]
      split <;> rfl

theorem sourceConflictLookup (addr : SockaddrIn) :
    OffTable fun s => (s.rtpSourceConflictLookup addr).2 :=
  ⟨fun _ => rfl, fun _ => rfl, fun _ => rfl, fun _ => rfl⟩

theorem sourceConflictAdd (addr : SockaddrIn) : OffTable fun s => s.rtpSourceConflictAdd addr :=
  ⟨fun _ => rfl, fun _ => rfl, fun _ => rfl, fun _ => rfl⟩

end OffTable

namespace ActsLike

theorem timer (h : ActsLike a b s t) : s.softTimer = t.softTimer :=
  congrArg (fun x => x.softTimer) h.shell

theorem pool (h : ActsLike a b s t) : s.memberTable.pool = t.memberTable.pool :=
  congrArg (fun x => x.memberTable.pool) h.shell

theorem usedList (h : ActsLike a b s t) : s.usedList = t.usedList := congrArg Pool.used h.pool

theorem self (h : ActsLike a b s t) : s.self = t.self := congrArg (fun x => x.self) h.shell

theorem off {f : Session → Session} (hf : OffTable f) (h : ActsLike a b s t) :
    ActsLike a b (f s) (f t) where
  shell := by rw [hf.shell s, hf.shell t, h.shell]
  out := by
    rw [hf.out, hf.out]
    exact h.out
  own := by
    rw [selfMember, selfMember, hf.self, hf.self, Session.member, Session.member, hf.memberTable,
      hf.memberTable]
    exact h.own
  member m hm := by
    rw [Session.usedList, hf.memberTable] at hm
    rw [Session.member, Session.member, hf.memberTable, hf.memberTable]
    exact h.member m hm

theorem emit (h : ActsLike a b s t) (x : Output) : ActsLike a b (s.emit x) (t.emit x) where
  shell := h.shell
  out := by
    obtain ⟨o, hs, ht⟩ := h.out
    refine ⟨o ++ [x], ?_, ?_⟩
    · rw [Session.emit, hs, List.append_assoc]
    · rw [Session.emit, ht, List.append_assoc]
  own := h.own
  member := h.member

/-- Rewriting the record of `m`, whose own roles and, if it is in the table, whose record act
    alike afterwards. -/
theorem modify (h : ActsLike a b s t) {m : Slot} {f g : RtpMember → RtpMember}
    (hown : m = s.self → (f (s.member m)).OwnAlike (g (t.member m)))
    (hused : m ∈ s.usedList → (f (s.member m)).ActsLike (g (t.member m))) :
    ActsLike a b (s.modifyMember m f) (t.modifyMember m g) where
  shell := h.shell
  out := h.out
  own := by
    show ((s.modifyMember m f).member s.self).OwnAlike ((t.modifyMember m g).member t.self)
    rw [member_modifyMember, member_modifyMember, ← h.self]
    split
    · rename_i hm
      exact hown hm.symm
    · have hs := h.own
      rwa [selfMember, selfMember, ← h.self] at hs
  member j hj := by
    rw [member_modifyMember, member_modifyMember]
    split
    · rename_i hjm
      exact hused (hjm ▸ hj)
    · exact h.member j hj

theorem modifyUsed (h : ActsLike a b s t) {m : Slot} {f g : RtpMember → RtpMember}
    (hfg : (f (s.member m)).ActsLike (g (t.member m))) :
    ActsLike a b (s.modifyMember m f) (t.modifyMember m g) :=
  h.modify (fun _ => hfg.own) (fun _ => hfg)

theorem lookup (h : ActsLike a b s t) (ssrc : UInt32) :
    s.rtpSessionLookupMember ssrc = t.rtpSessionLookupMember ssrc := by
  refine lookup_congr h.usedList (fun m hm => ?_) ssrc
  rw [← h.usedList] at hm
  exact (h.member m hm).ssrc

theorem alloc_none (h : ActsLike a b s t) {ssrc : UInt32}
    (halloc : s.rtpSessionAllocMember ssrc = none) : t.rtpSessionAllocMember ssrc = none := by
  rw [rtpSessionAllocMember_eq_none, freeList] at halloc ⊢
  rw [← h.pool, halloc]

theorem alloc_some (h : ActsLike a b s t) {ssrc : UInt32} {m : Slot} {s' : Session}
    (halloc : s.rtpSessionAllocMember ssrc = some (m, s')) :
    ∃ t', t.rtpSessionAllocMember ssrc = some (m, t') ∧ s'.shell = t'.shell ∧ s'.out = s.out ∧
      t'.out = t.out := by
  rw [rtpSessionAllocMember, RtpMemberTable.rtpMemberTableAllocMember] at halloc ⊢
  rw [← h.pool]
  cases htake : s.memberTable.pool.take with
  | none =>
      rw [htake] at halloc
      exact absurd halloc (by simp)
  | some q =>
      obtain ⟨j, pool⟩ := q
      simp only [htake, Option.some.injEq, Prod.mk.injEq] at halloc ⊢
      obtain ⟨rfl, rfl⟩ := halloc
      refine ⟨_, ⟨rfl, rfl⟩, ?_, rfl, rfl⟩
      have hinit := congrArg (fun x => (x.rtpTimersInitMember j).shell) h.shell
      exact congrArg (fun x => ({ x with
        memberTable := { x.memberTable with
          pool := pool, numMembers := x.memberTable.numMembers + 1 } } : Session)) hinit

/-- Taking a slot and filling it in, where what is not filled in may only be what nobody reads. -/
theorem alloc (h : ActsLike a b s t) {ssrc : UInt32} {m : Slot} {s' : Session}
    (halloc : s.rtpSessionAllocMember ssrc = some (m, s')) {f : RtpMember → RtpMember}
    (hf : (f (rtpMemberInit (s.member m) ssrc)).ActsLike (f (rtpMemberInit (t.member m) ssrc))) :
    ∃ t', t.rtpSessionAllocMember ssrc = some (m, t') ∧
      ActsLike a b (s'.modifyMember m f) (t'.modifyMember m f) := by
  obtain ⟨t', halloc', hshell, houts, houtt⟩ := h.alloc_some halloc
  obtain ⟨-, hused, -, -, -, hself, -⟩ := alloc_eq_some halloc
  obtain ⟨-, -, -, -, -, hself', -⟩ := alloc_eq_some halloc'
  refine ⟨t', halloc', hshell, ?_, ?_, ?_⟩
  · obtain ⟨o, hs, ht⟩ := h.out
    exact ⟨o, houts.trans hs, houtt.trans ht⟩
  · show ((s'.modifyMember m f).member s'.self).OwnAlike ((t'.modifyMember m f).member t'.self)
    rw [member_alloc halloc, member_alloc halloc', hself, hself', ← h.self]
    split
    · exact hf.own
    · have hs := h.own
      rwa [selfMember, selfMember, ← h.self] at hs
  · intro j hj
    have hj' : j ∈ s'.usedList := hj
    rw [hused, List.mem_append, List.mem_singleton] at hj'
    rw [member_alloc halloc, member_alloc halloc']
    split
    · exact hf
    · rename_i hne
      exact h.member j (hj'.resolve_right hne)

/-- What leaves the table need no longer act alike. -/
theorem dealloc (h : ActsLike a b s t) (m : Slot) :
    ActsLike a b (s.rtpSessionDeallocMember m) (t.rtpSessionDeallocMember m) where
  shell := congrArg (fun x => x.rtpSessionDeallocMember m) h.shell
  out := h.out
  own := h.own
  member j hj := h.member j ((Pool.mem_used_release _ m j).1 hj).1

theorem changeRandomSsrc (h : ActsLike a b s t) {m : Slot} (hm : m ∈ s.usedList) :
    ActsLike a b (s.rtpMemberTableChangeRandomSsrc m) (t.rtpMemberTableChangeRandomSsrc m) := by
  have hrandom : s.env.random32 = t.env.random32 := congrArg (fun x => x.env.random32) h.shell
  have hdraw : ∀ draws, s.memberTable.drawUnusedSsrc draws = t.memberTable.drawUnusedSsrc draws := by
    intro draws
    induction draws with
    | nil => rfl
    | cons ssrc draws ih =>
        have hlookup : s.memberTable.rtpMemberTableLookup ssrc =
            t.memberTable.rtpMemberTableLookup ssrc := h.lookup ssrc
        rw [RtpMemberTable.drawUnusedSsrc, RtpMemberTable.drawUnusedSsrc, hlookup, ih]
  unfold rtpMemberTableChangeRandomSsrc
  rw [← hdraw, ← hrandom]
  split
  · exact h.off (f := fun x => { x with undef := true })
      ⟨fun _ => rfl, fun _ => rfl, fun _ => rfl, fun _ => rfl⟩
  · rename_i ssrc draws _
    have hdrawn := h.off (f := fun x => { x with env := { x.env with random32 := draws } })
      ⟨fun _ => rfl, fun _ => rfl, fun _ => rfl, fun _ => rfl⟩
    have hx := h.member m hm
    exact hdrawn.modifyUsed ⟨rfl, hx.flags, hx.cname, hx.lastSr, hx.lastSrLocalTime, hx.report,
      hx.rtcpAddr, hx.rtpAddr, hx.rtpSrc⟩

theorem ownSsrcConflict (h : ActsLike a b s t) {m : Slot} (hm : m ∈ s.usedList)
    (fromAddr : SockaddrIn) :
    (s.ownSsrcConflict m fromAddr).1 = (t.ownSsrcConflict m fromAddr).1 ∧
      ActsLike a b (s.ownSsrcConflict m fromAddr).2 (t.ownSsrcConflict m fromAddr).2 := by
  have hlisted : (s.rtpSourceConflictLookup fromAddr).1 = (t.rtpSourceConflictLookup fromAddr).1 :=
    congrArg (fun x => (x.rtpSourceConflictLookup fromAddr).1) h.shell
  have hlookup := h.off (.sourceConflictLookup fromAddr)
  simp only [Session.ownSsrcConflict, ← hlisted]
  split
  · exact ⟨rfl, hlookup⟩
  · exact ⟨rfl, ((hlookup.off (.sourceConflictAdd fromAddr)).changeRandomSsrc hm).off .resetTxStats⟩

end ActsLike

/-! ## The source of a packet -/

/-- The slot that a member of a new SSRC takes. -/
def freshSlot (s : Session) (ssrc : UInt32) : Option Slot :=
  match s.rtpSessionLookupMember ssrc with
  | none => s.freeList.head?
  | some _ => none

/-- The slot in which the first data packet of an SSRC, or its first entry in a CSRC list, starts to
    keep count. -/
def firstDataSlot (s : Session) (ssrc : UInt32) : Option Slot :=
  match s.rtpSessionLookupMember ssrc with
  | none => s.freeList.head?
  | some m =>
    if (s.member m).flags.byeReceived || (s.member m).flags.self || (s.member m).flags.rtpHeard then
      none
    else some m

/-- If RTCP makes a member of `ssrc`, its slot makes the same report block in both sessions. -/
def ReportsMatch (s t : Session) (ssrc : UInt32) : Prop :=
  ∀ m ∈ s.freshSlot ssrc, (s.member m).rtpSrc.SameReport (t.member m).rtpSrc

/-- If `ssrc` becomes a sender, its slot has the same jitter and transit time in both sessions. -/
def TimingsMatch (s t : Session) (ssrc : UInt32) : Prop :=
  ∀ m ∈ s.firstDataSlot ssrc, (s.member m).rtpSrc.SameTiming (t.member m).rtpSrc

instance (s t : Session) (ssrc : UInt32) : Decidable (ReportsMatch s t ssrc) :=
  Option.decidableForallMem (s.freshSlot ssrc)

instance (s t : Session) (ssrc : UInt32) : Decidable (TimingsMatch s t ssrc) :=
  Option.decidableForallMem (s.firstDataSlot ssrc)

namespace ActsLike

theorem rtcpHandleSsrc (h : ActsLike a b s t) {ssrc : UInt32} (hmatch : ReportsMatch s t ssrc)
    (fromAddr : SockaddrIn) (pktSize : UInt32) :
    (s.rtcpHandleSsrc ssrc fromAddr pktSize).1 = (t.rtcpHandleSsrc ssrc fromAddr pktSize).1 ∧
      ActsLike a b (s.rtcpHandleSsrc ssrc fromAddr pktSize).2
        (t.rtcpHandleSsrc ssrc fromAddr pktSize).2 := by
  rw [Session.rtcpHandleSsrc, Session.rtcpHandleSsrc, ← h.lookup]
  cases hm : s.rtpSessionLookupMember ssrc with
  | none =>
      cases halloc : s.rtpSessionAllocMember ssrc with
      | none =>
          rw [h.alloc_none halloc]
          exact ⟨rfl, h.off (.setRtcpError _)⟩
      | some p =>
          have hreport := hmatch p.1 (by
            rw [freshSlot, hm]
            exact head_freeList_of_alloc halloc)
          obtain ⟨t', halloc', hfill⟩ := h.alloc halloc
            ((RtpMember.ActsLike.rtpMemberInit hreport ssrc).rtcpFirstHeard fromAddr)
          rw [halloc']
          exact ⟨rfl, ((hfill.off (.rtcpEvent _ _ _)).off (.softTimerAdd _ _)).off
            (.setRtcpError _)⟩
  | some m =>
      have hx := h.member m (lookup_eq_some hm).1
      simp only [← hx.flags]
      split
      · exact ⟨rfl, h.off (.setRtcpError _)⟩
      · split
        · -- first heard by RTCP: the address is recorded now
          have hheard := h.modifyUsed (hx.rtcpFirstHeard fromAddr)
          exact ⟨rfl, (hheard.off (.memberRestart m)).off (.setRtcpError _)⟩
        · rename_i htest
          have hknown : (s.member m).flags.self = true ∨ (s.member m).flags.rtcpHeard = true := by
            simpa [or_iff_not_imp_left] using htest
          rw [← hx.rtcpAddr hknown]
          split
          · rw [← h.own.ssrc]
            split
            · exact ⟨rfl, h.off (.setRtcpError _)⟩
            · obtain ⟨hlisted, hnext⟩ := h.ownSsrcConflict (lookup_eq_some hm).1 fromAddr
              rw [← hlisted]
              exact ⟨rfl, hnext.off (.setRtcpError _)⟩
          · have hheard := h.modifyUsed (hx.hearRtcp (hx.rtcpAddr hknown))
            exact ⟨rfl, ((hheard.off (.memberRestart m)).off (.rtcpEvent _ _ _)).off
              (.setRtcpError _)⟩

theorem rtpHandleSsrc (h : ActsLike a b s t) {ssrc : UInt32} (hmatch : TimingsMatch s t ssrc)
    (seq : UInt16) (fromAddr : SockaddrIn) (csrc : Bool) :
    (s.rtpHandleSsrc ssrc seq fromAddr csrc).1 = (t.rtpHandleSsrc ssrc seq fromAddr csrc).1 ∧
      ActsLike a b (s.rtpHandleSsrc ssrc seq fromAddr csrc).2
        (t.rtpHandleSsrc ssrc seq fromAddr csrc).2 := by
  rw [Session.rtpHandleSsrc, Session.rtpHandleSsrc, ← h.lookup]
  cases hm : s.rtpSessionLookupMember ssrc with
  | none =>
      cases halloc : s.rtpSessionAllocMember ssrc with
      | none =>
          rw [h.alloc_none halloc]
          exact ⟨rfl, h.off (.setRtpError _)⟩
      | some p =>
          have htiming := hmatch p.1 (by
            rw [firstDataSlot, hm]
            exact head_freeList_of_alloc halloc)
          obtain ⟨t', halloc', hfill⟩ := h.alloc halloc
            (RtpMember.ActsLike.rtpCreated htiming ssrc seq fromAddr)
          rw [halloc']
          have hcreated := (((hfill.off (.rtpEvent true true)).off (.softTimerAdd (.sender p.1)
            rtpConfigSenderTimeout)).off (.softTimerAdd (.member p.1) rtpConfigMemberTimeout)).off
              (.setRtpError .memberFirstHeard)
          cases csrc with
          | false => exact ⟨rfl, hcreated⟩
          | true =>
              have hused : p.1 ∈ p.2.usedList := by
                rw [(alloc_eq_some halloc).2.1]
                simp
              have hx := hcreated.member p.1 hused
              have hcsrc := hcreated.modifyUsed hx.setValidated.setCsrc
                (f := fun x => x.setValidated.setCsrc) (g := fun x => x.setValidated.setCsrc)
              exact ⟨rfl, hcsrc⟩
  | some m =>
      have hx := h.member m (lookup_eq_some hm).1
      simp only [← hx.flags]
      split
      · exact ⟨rfl, h.off (.setRtpError _)⟩
      · rename_i hbye
        split
        · rename_i hnew
          -- first heard by RTP: the source is reset and the address recorded now
          have htiming := hmatch m (by
            rw [firstDataSlot, hm]
            simp_all)
          have hheard := h.modifyUsed (hx.rtpFirstHeard htiming seq fromAddr)
          exact ⟨rfl, (((hheard.off (.rtpEvent _ _)).off (.softTimerAdd _ _)).off
            (.memberRestart m)).off (.setRtpError _)⟩
        · rename_i htest
          have hknown : (s.member m).flags.self = true ∨ (s.member m).flags.rtpHeard = true := by
            simpa [or_iff_not_imp_left] using htest
          rw [← hx.rtpAddr hknown]
          split
          · split
            · exact ⟨rfl, h.off (.setRtpError _)⟩
            · obtain ⟨hlisted, hnext⟩ := h.ownSsrcConflict (lookup_eq_some hm).1 fromAddr
              rw [← hlisted]
              exact ⟨rfl, hnext.off (.setRtpError _)⟩
          · have hheard := h.modifyUsed (hx.hearRtp (hx.rtpAddr hknown) (hx.rtpSrc hknown))
            exact ⟨rfl, (hheard.off (.senderRestart m)).off (.memberRestart m)⟩

end ActsLike

/-! ## RTCP packets -/

/-- Whose message is accepted is in the table. -/
theorem mem_used_of_rtcpAccepted {s : Session} {ssrc : UInt32} {fromAddr : SockaddrIn}
    {pktSize : UInt32} {m : Slot} (h : (s.rtcpHandleSsrc ssrc fromAddr pktSize).1 = some m) :
    m ∈ (s.rtcpHandleSsrc ssrc fromAddr pktSize).2.usedList := by
  have hcase := s.rtcpHandleSsrc_case ssrc fromAddr pktSize
  generalize s.rtcpHandleSsrc ssrc fromAddr pktSize = res at h hcase
  cases hcase with
  | tableFull | leaving | thirdParty | collision => simp at h
  | created j s' hnone halloc =>
      obtain rfl : j = m := by simpa using h
      show j ∈ s'.usedList
      rw [(alloc_eq_some halloc).2.1]
      simp
  | joined j hj =>
      obtain rfl : j = m := by simpa using h
      exact (lookup_eq_some hj).1
  | refreshed j hj =>
      obtain rfl : j = m := by simpa using h
      exact (lookup_eq_some hj).1

namespace ActsLike

theorem foldl {α : Type} {f : Session → α → Session}
    (hf : ∀ s t x, ActsLike a b s t → ActsLike a b (f s x) (f t x)) (h : ActsLike a b s t)
    (l : List α) : ActsLike a b (l.foldl f s) (l.foldl f t) := by
  induction l generalizing s t with
  | nil => exact h
  | cons x l ih => exact ih (hf s t x h)

theorem reportBlocks (h : ActsLike a b s t) (ssrc : UInt32) (blocks : List (List UInt8)) :
    ActsLike a b (Session.reportBlocks ssrc blocks s) (Session.reportBlocks ssrc blocks t) :=
  h.foldl (f := fun s block => s.emit (.rrRpt ssrc block)) (fun _ _ _ h => h.emit _) blocks

theorem recordSr (h : ActsLike a b s t) {m : Slot} (hm : m ∈ s.usedList) (ntp : NtpTs)
    (rtpTs psent osent : UInt32) :
    ActsLike a b (s.recordSr m ntp rtpTs psent osent) (t.recordSr m ntp rtpTs psent osent) := by
  have hx := h.member m hm
  have hreport := (h.modifyUsed (m := m)
    (f := fun x => { x with lastSr := ntp, rtpTs := rtpTs, pktCount := psent, octetCount := osent })
    (g := fun x => { x with lastSr := ntp, rtpTs := rtpTs, pktCount := psent, octetCount := osent })
    ⟨hx.ssrc, hx.flags, hx.cname, rfl, hx.lastSrLocalTime, hx.report, hx.rtcpAddr, hx.rtpAddr,
      hx.rtpSrc⟩)
  have hnow : s.ntpTsNow.1 = t.ntpTsNow.1 := congrArg (fun x => x.ntpTsNow.1) h.shell
  have hclock := hreport.off .ntpTsNow
  have hy := hclock.member m hm
  exact hclock.modifyUsed (f := fun x => { x with lastSrLocalTime := s.ntpTsNow.1 })
    (g := fun x => { x with lastSrLocalTime := t.ntpTsNow.1 })
    ⟨hy.ssrc, hy.flags, hy.cname, hy.lastSr, hnow, hy.report, hy.rtcpAddr, hy.rtpAddr, hy.rtpSrc⟩

theorem recordCname (h : ActsLike a b s t) {m : Slot} (hm : m ∈ s.usedList)
    (cname : List UInt8) : ActsLike a b (s.recordCname m cname) (t.recordCname m cname) := by
  have hx := h.member m hm
  refine h.modifyUsed (RtpMember.ActsLike.setValidated ?_)
  have hcname : (rtpMemberSetCname (s.member m) cname).SameCname
      (rtpMemberSetCname (t.member m) cname) := by
    refine ⟨rfl, fun i hi => ByteMem.storeBytes_congr _ _ (Nat.zero_le i) ?_⟩
    -- the length octet is the length, reduced to eight bits
    have hlen : (UInt8.ofNat cname.length).toNat ≤ cname.length := by
      rw [UInt8.toNat_ofNat']
      exact Nat.mod_le ..
    have hi' : i < (UInt8.ofNat cname.length).toNat := hi
    omega
  exact ⟨hx.ssrc, hx.flags, hcname, hx.lastSr, hx.lastSrLocalTime, hx.report, hx.rtcpAddr,
    hx.rtpAddr, hx.rtpSrc⟩

theorem acceptMsg (h : ActsLike a b s t) {m : Slot} (hm : m ∈ s.usedList) (msg : RtcpMsg) :
    ActsLike a b (s.acceptMsg m msg) (t.acceptMsg m msg) := by
  cases msg with
  | sr ssrc ntp rtpTs psent osent blocks sub =>
      exact ((h.recordSr hm ntp rtpTs psent osent).reportBlocks ssrc blocks).emit _
  | rr ssrc blocks => exact h.reportBlocks ssrc blocks
  | sdes ssrc cnames =>
      -- the member stays in the table from one item to the next
      simp only [Session.acceptMsg]
      induction cnames generalizing s t with
      | nil => exact h
      | cons cname cnames ih => exact ih (h.recordCname hm cname) hm
  | bye ssrc => exact h

theorem byeSource (h : ActsLike a b s t) (ssrc pktSize : UInt32) :
    ActsLike a b (s.rtcpHandleByeSource ssrc pktSize) (t.rtcpHandleByeSource ssrc pktSize) := by
  rw [rtcpHandleByeSource, rtcpHandleByeSource, ← h.lookup]
  cases hm : s.rtpSessionLookupMember ssrc with
  | none => exact h
  | some m =>
      have hused := (lookup_eq_some hm).1
      have hx := h.member m hused
      simp only [← hx.flags]
      split
      · exact h
      · have hevent := h.off (.rtcpEvent .rxBye ⟨true, (s.member m).flags.rtpHeard⟩ pktSize)
        have htable := (OffTable.rtcpEvent .rxBye ⟨true, (s.member m).flags.rtpHeard⟩
          pktSize).memberTable s
        have hmem : m ∈ (s.rtcpIntervalHandleRtcpEvent .rxBye
            ⟨true, (s.member m).flags.rtpHeard⟩ pktSize).usedList := by
          rw [Session.usedList, htable]
          exact hused
        have hbye := hevent.modifyUsed (hevent.member m hmem).setByeReceived
        exact ((hbye.off (.softTimerDel (.sender m))).off (.softTimerDel (.member m))).off
          (.softTimerAdd (.leave m) rtpConfigLeaveTimeout)

/-- The leftovers a message brings into play are the same in both sessions. -/
def MsgMatches (p : Session × Session) (msg : RtcpMsg) : Prop :=
  ∀ ssrc ∈ msg.source, ReportsMatch p.1 p.2 ssrc

instance (p : Session × Session) (msg : RtcpMsg) : Decidable (MsgMatches p msg) :=
  Option.decidableForallMem msg.source

theorem handleMsg (h : ActsLike a b s t) {msg : RtcpMsg} (hmatch : MsgMatches (s, t) msg)
    (fromAddr : SockaddrIn) (len : UInt32) :
    ActsLike a b (Session.handleMsg fromAddr len s msg) (Session.handleMsg fromAddr len t msg) := by
  have hsource : ∀ ssrc, msg.source = some ssrc →
      ActsLike a b
        (match (s.rtcpHandleSsrc ssrc fromAddr len).1 with
          | none => (s.rtcpHandleSsrc ssrc fromAddr len).2
          | some m => (s.rtcpHandleSsrc ssrc fromAddr len).2.acceptMsg m msg)
        (match (t.rtcpHandleSsrc ssrc fromAddr len).1 with
          | none => (t.rtcpHandleSsrc ssrc fromAddr len).2
          | some m => (t.rtcpHandleSsrc ssrc fromAddr len).2.acceptMsg m msg) := by
    intro ssrc hssrc
    obtain ⟨haccepted, hnext⟩ := h.rtcpHandleSsrc (hmatch ssrc hssrc) fromAddr len
    rw [← haccepted]
    split
    · exact hnext
    · rename_i m hm
      exact hnext.acceptMsg (mem_used_of_rtcpAccepted hm) msg
  cases msg with
  | sr ssrc ntp rtpTs psent osent blocks sub => exact hsource ssrc rfl
  | rr ssrc blocks => exact hsource ssrc rfl
  | sdes ssrc cnames => exact hsource ssrc rfl
  | bye ssrc => exact h.byeSource ssrc len

/-- The leftovers an RTCP packet brings into play, message by message, are the same in both
    sessions. -/
def RtcpMatches (s t : Session) (pkt : ByteMem) (len : UInt32) (fromAddr : SockaddrIn) : Prop :=
  Runs.Guarded (Runs.both (Session.handleMsg fromAddr len)) MsgMatches
    (s.setRtcpError .noError, t.setRtcpError .noError) (rtcpMsgs pkt len)

theorem rtcpRx (h : ActsLike a b s t) {pkt : ByteMem} {len : UInt32} {fromAddr : SockaddrIn}
    (hmatch : RtcpMatches s t pkt len fromAddr) :
    ActsLike a b ((s.rtcpRx len fromAddr).val pkt) ((t.rtcpRx len fromAddr).val pkt) := by
  rw [val_rtcpRx, val_rtcpRx]
  split
  · exact hmatch.simulation (fun s t msg h hmsg => h.handleMsg hmsg fromAddr len)
      (h.off (.setRtcpError .noError))
  · exact h.off (f := fun x => { x.setRtcpError ((rtcpCheckPkt len).val pkt) with
      invalidRtcpPkt := x.invalidRtcpPkt + 1 }) ⟨fun _ => rfl, fun _ => rfl, fun _ => rfl,
        fun _ => rfl⟩

end ActsLike

end Session

end Prtp
