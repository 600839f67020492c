import Prtp.ForeignPackets
import Prtp.MemberTimeouts

set_option autoImplicit false

/-! # The entries of the conflict table

An entry stays as long as its timer has ticks left, and nothing but a collision with the session's own
SSRC starts that timer. Whatever else a session does leaves the entries, their times and the session's
own name alone. -/

namespace Prtp

namespace Session

/-! ## The session's own member -/

/-- The session's own member has left the table or is leaving it. -/
def Gone (s : Session) : Prop := s.self ∈ s.usedList → s.selfMember.flags.byeReceived = true

/-- The own member is in the table and not leaving. -/
theorem not_gone_iff {s : Session} :
    ¬ s.Gone ↔ s.self ∈ s.usedList ∧ s.selfMember.flags.byeReceived = false := by
  rw [Gone, Classical.not_imp, Bool.not_eq_true]

/-- `s'` has the own member of `s`, which does not come back once it is gone. -/
structure SameOwn (s s' : Session) : Prop where
  self : s'.self = s.self
  flag : s'.selfMember.flags.self = s.selfMember.flags.self
  gone : s.Gone → s'.Gone

namespace SameOwn

theorem trans {s s' s'' : Session} (h : SameOwn s s') (h' : SameOwn s' s'') : SameOwn s s'' where
  self := h'.self.trans h.self
  flag := h'.flag.trans h.flag
  gone hgone := h'.gone (h.gone hgone)

/-- The own member's record keeps what matters, and it does not join. -/
theorem of_record {s s' : Session} (hself : s'.self = s.self)
    (hflag : (s'.member s.self).flags.self = (s.member s.self).flags.self)
    (hbye : (s.member s.self).flags.byeReceived = true →
      (s'.member s.self).flags.byeReceived = true)
    (hused : s.self ∈ s'.usedList → s.self ∈ s.usedList) : SameOwn s s' := by
  refine ⟨hself, ?_, fun hgone hin => ?_⟩
  · rw [selfMember, hself, hflag, selfMember]
  · rw [hself] at hin
    rw [selfMember, hself]
    exact hbye (hgone (hused hin))

theorem of_table {s s' : Session} (hself : s'.self = s.self)
    (htable : s'.memberTable = s.memberTable) : SameOwn s s' := by
  have hmember : ∀ m, s'.member m = s.member m := fun m => by rw [member, member, htable]
  refine of_record hself ?_ (fun hbye => ?_) fun hin => ?_
  · rw [hmember]
  · rw [hmember]
    exact hbye
  · rwa [usedList, htable] at hin

theorem modifyMember (s : Session) (j : Slot) {f : RtpMember → RtpMember}
    (hflag : (f (s.member j)).flags.self = (s.member j).flags.self)
    (hbye : (s.member j).flags.byeReceived = true → (f (s.member j)).flags.byeReceived = true) :
    SameOwn s (s.modifyMember j f) := by
  refine of_record rfl ?_ (fun h => ?_) id
  · rw [member_modifyMember]
    split
    · rename_i hj
      rw [hflag, hj]
    · rfl
  · rw [member_modifyMember]
    split
    · rename_i hj
      exact hbye (hj ▸ h)
    · exact h

/-- A new member in another slot than the own one. -/
theorem alloc {s s' : Session} {ssrc : UInt32} {j : Slot}
    (halloc : s.rtpSessionAllocMember ssrc = some (j, s')) (hother : j ≠ s.self) :
    SameOwn s s' := by
  obtain ⟨-, hused, harray, -, -, hself, -⟩ := alloc_eq_some halloc
  have hmember : s'.member s.self = s.member s.self := by
    rw [member, harray, Function.update_of_ne (Ne.symm hother), member]
  refine of_record hself ?_ (fun hbye => ?_) fun hin => ?_
  · rw [hmember]
  · rw [hmember]
    exact hbye
  · rw [hused, List.mem_append, List.mem_singleton] at hin
    exact hin.resolve_right (Ne.symm hother)

theorem changeRandomSsrc (s : Session) (j : Slot) :
    SameOwn s (s.rtpMemberTableChangeRandomSsrc j) := by
  unfold rtpMemberTableChangeRandomSsrc
  split
  · exact of_table rfl rfl
  · refine SameOwn.trans ?_ (modifyMember _ j rfl id)
    exact of_table rfl rfl

theorem ownSsrcConflict (s : Session) (j : Slot) (fromAddr : SockaddrIn) :
    SameOwn s (s.ownSsrcConflict j fromAddr).2 := by
  simp only [Session.ownSsrcConflict]
  split
  · exact of_table rfl rfl
  · have hadd : SameOwn s
        ((s.rtpSourceConflictLookup fromAddr).2.rtpSourceConflictAdd fromAddr) := of_table rfl rfl
    exact (hadd.trans (changeRandomSsrc _ j)).trans (of_table rfl rfl)

end SameOwn

/-! ## What leaves the entries alone -/

/-- `s'` has the entries of `s` in its conflict table, each with the ticks it had left, and the own
    member of `s` under the same SSRC. -/
structure Undisturbed (s s' : Session) : Prop extends SameOwn s s' where
  table : s'.srcConflict = s.srcConflict
  left : ∀ c, s'.ticksLeft (.conflict c) = s.ticksLeft (.conflict c)
  ssrc : s'.selfMember.ssrc = s.selfMember.ssrc

namespace Undisturbed

theorem trans {s s' s'' : Session} (h : Undisturbed s s') (h' : Undisturbed s' s'') :
    Undisturbed s s'' where
  toSameOwn := h.toSameOwn.trans h'.toSameOwn
  table := h'.table.trans h.table
  left c := (h'.left c).trans (h.left c)
  ssrc := h'.ssrc.trans h.ssrc

/-- Only the wheel changes, and not for the entries. -/
theorem of_left {s s' : Session} (hself : s'.self = s.self)
    (htable : s'.memberTable = s.memberTable) (hconflict : s'.srcConflict = s.srcConflict)
    (hleft : ∀ c, s'.ticksLeft (.conflict c) = s.ticksLeft (.conflict c)) : Undisturbed s s' := by
  refine ⟨.of_table hself htable, hconflict, hleft, ?_⟩
  rw [selfMember, hself, member, htable, selfMember, member]

theorem of_eq {s s' : Session} (hself : s'.self = s.self)
    (htable : s'.memberTable = s.memberTable) (hconflict : s'.srcConflict = s.srcConflict)
    (htimer : s'.softTimer = s.softTimer) : Undisturbed s s' :=
  of_left hself htable hconflict fun c => by rw [ticksLeft, htimer, ticksLeft]

theorem refl (s : Session) : Undisturbed s s := of_eq rfl rfl rfl rfl

theorem quiet {s s' : Session} (h : Quiet s s') : Undisturbed s s' where
  toSameOwn := by
    refine .of_record h.self (h.member s.self).self (fun hbye => ?_) fun hin => h.usedList ▸ hin
    exact (h.member s.self).byeReceived.trans hbye
  table := h.srcConflict
  left c := by rw [ticksLeft, h.timer, ticksLeft]
  ssrc := h.selfMember.ssrc

theorem setRtpError (s : Session) (e : RtpRxError) : Undisturbed s (s.setRtpError e) :=
  quiet (.setRtpError s e)

theorem setRtcpError (s : Session) (e : RtcpRxError) : Undisturbed s (s.setRtcpError e) :=
  quiet (.setRtcpError s e)

theorem modifyMember (s : Session) (j : Slot) {f : RtpMember → RtpMember}
    (hssrc : (f (s.member j)).ssrc = (s.member j).ssrc)
    (hflag : (f (s.member j)).flags.self = (s.member j).flags.self)
    (hbye : (s.member j).flags.byeReceived = true → (f (s.member j)).flags.byeReceived = true) :
    Undisturbed s (s.modifyMember j f) :=
  ⟨.modifyMember s j hflag hbye, rfl, fun _ => rfl, (SameNames.modifyMember s j hssrc).ssrc s.self⟩

theorem add (s : Session) {e : TimerElem} (d : Int) (he : ∀ c, e ≠ .conflict c) :
    Undisturbed s (s.softTimerAdd e d) :=
  of_left rfl rfl rfl fun c => SoftTimer.remaining_add_of_ne _ (Ne.symm (he c)) d

theorem del (s : Session) {e : TimerElem} (he : ∀ c, e ≠ .conflict c) :
    Undisturbed s (s.softTimerDel e) :=
  of_left rfl rfl rfl fun c => by rw [ticksLeft_del, if_neg (Ne.symm (he c))]

/-- A new member in another slot than the own one. -/
theorem alloc {s s' : Session} {ssrc : UInt32} {j : Slot}
    (halloc : s.rtpSessionAllocMember ssrc = some (j, s')) (hother : j ≠ s.self) :
    Undisturbed s s' := by
  obtain ⟨-, -, harray, htimer, -, hself, hconflict⟩ := alloc_eq_some halloc
  refine ⟨.alloc halloc hother, hconflict, fun c => by rw [ticksLeft, htimer, ticksLeft], ?_⟩
  rw [selfMember, hself, member, harray, Function.update_of_ne (Ne.symm hother), selfMember, member]

theorem rtpEvent (s : Session) (newMember newSender : Bool) :
    Undisturbed s (s.rtcpIntervalHandleRtpEvent newMember newSender) := of_eq rfl rfl rfl rfl

theorem nonBye (s : Session) (flags : IntervalFlags) (pktSize : UInt32) :
    Undisturbed s (s.rtcpIntervalHandleRtcpEvent .rxNonBye flags pktSize) := of_eq rfl rfl rfl rfl

theorem memberStart (s : Session) (j : Slot) : Undisturbed s (s.rtpTimersMemberStart j) :=
  add s _ (by simp)

theorem senderStart (s : Session) (j : Slot) : Undisturbed s (s.rtpTimersSenderStart j) :=
  add s _ (by simp)

theorem memberRestart (s : Session) (j : Slot) : Undisturbed s (s.rtpTimersMemberRestart j) :=
  (del s (by simp)).trans (memberStart _ j)

theorem senderRestart (s : Session) (j : Slot) : Undisturbed s (s.rtpTimersSenderRestart j) :=
  (del s (by simp)).trans (senderStart _ j)

theorem rtpCreated {s s' : Session} {ssrc : UInt32} {j : Slot}
    (halloc : s.rtpSessionAllocMember ssrc = some (j, s')) (hother : j ≠ s.self) (seq : UInt16)
    (fromAddr : SockaddrIn) : Undisturbed s (s'.rtpCreated j seq fromAddr) := by
  have hrecord := (alloc halloc hother).trans
    (modifyMember s' j (f := rtpFirstHeard seq fromAddr) rfl rfl id)
  have hsender := (hrecord.trans (rtpEvent _ true true)).trans (senderStart _ j)
  exact (hsender.trans (memberStart _ j)).trans (setRtpError _ _)

theorem rtcpCreated {s s' : Session} {ssrc : UInt32} {j : Slot}
    (halloc : s.rtpSessionAllocMember ssrc = some (j, s')) (hother : j ≠ s.self)
    (fromAddr : SockaddrIn) (pktSize : UInt32) :
    Undisturbed s (s'.rtcpCreated j fromAddr pktSize) := by
  have hrecord := (alloc halloc hother).trans
    (modifyMember s' j (f := rtcpFirstHeard fromAddr) rfl rfl id)
  have hmember := (hrecord.trans (nonBye _ ⟨true, false⟩ pktSize)).trans (memberStart _ j)
  exact hmember.trans (setRtcpError _ _)

theorem rtpJoined (s : Session) (j : Slot) (seq : UInt16) (fromAddr : SockaddrIn) :
    Undisturbed s (s.rtpJoined j seq fromAddr) := by
  have hrecord := modifyMember s j (f := rtpFirstHeard seq fromAddr) rfl rfl id
  have hsender := (hrecord.trans (rtpEvent _ false true)).trans (senderStart _ j)
  exact (hsender.trans (memberRestart _ j)).trans (setRtpError _ _)

theorem rtcpJoined (s : Session) (j : Slot) (fromAddr : SockaddrIn) :
    Undisturbed s (s.rtcpJoined j fromAddr) :=
  ((modifyMember s j (f := rtcpFirstHeard fromAddr) rfl rfl id).trans (memberRestart _ j)).trans
    (setRtcpError _ _)

theorem rtpRefreshed (s : Session) (j : Slot) : Undisturbed s (s.rtpRefreshed j) :=
  ((modifyMember s j (f := RtpMember.setRtpHeard) rfl rfl id).trans (senderRestart _ j)).trans
    (memberRestart _ j)

theorem rtcpRefreshed (s : Session) (j : Slot) (pktSize : UInt32) :
    Undisturbed s (s.rtcpRefreshed j pktSize) := by
  have hmember := (modifyMember s j (f := RtpMember.setRtcpHeard) rfl rfl id).trans
    (memberRestart _ j)
  exact (hmember.trans (nonBye _ ⟨false, false⟩ pktSize)).trans (setRtcpError _ _)

theorem leaving (s : Session) {event : RtcpEvent} (hevent : event ≠ .rxNonBye)
    (flags : IntervalFlags) (pktSize : UInt32) :
    Undisturbed s (s.rtcpIntervalHandleRtcpEvent event flags pktSize) := by
  obtain ⟨hself, hconflict⟩ := s.self_leaving hevent flags pktSize
  refine of_left hself (memberTable_leaving s hevent flags pktSize) hconflict fun c => ?_
  rcases s.softTimer_leaving hevent flags pktSize with h | ⟨tc, tn, h⟩
  · rw [ticksLeft, h, ticksLeft]
  · rw [ticksLeft, h]
    exact ((del s (by simp)).trans (add _ _ (by simp))).left c

theorem leaveOn (s : Session) (j : Slot) : Undisturbed s (s.leaveOn j) := by
  have hrecord := modifyMember s j (f := RtpMember.setByeReceived) rfl rfl fun _ => rfl
  have hstop := (hrecord.trans (del _ (e := .sender j) (by simp))).trans
    (del _ (e := .member j) (by simp))
  exact hstop.trans (add _ _ (by simp))

theorem byeSource (s : Session) (ssrc pktSize : UInt32) :
    Undisturbed s (s.rtcpHandleByeSource ssrc pktSize) := by
  by_cases habsent :
      ∀ j, s.rtpSessionLookupMember ssrc = some j → (s.member j).flags.byeReceived = true
  · rw [rtcpHandleByeSource_of_absent habsent]
    exact refl s
  · simp only [not_forall, Bool.not_eq_true] at habsent
    obtain ⟨j, hj, hbye⟩ := habsent
    rw [rtcpHandleByeSource_of_present hj hbye]
    exact (leaving s (by decide) _ _).trans (leaveOn _ j)

theorem rtpTxCount (s : Session) (payloadLen : UInt32) :
    Undisturbed s (s.rtpTxCount payloadLen) := by
  unfold Session.rtpTxCount
  split
  · exact (senderRestart s s.self).trans (of_eq rfl rfl rfl rfl)
  · have hsent : Undisturbed s (s.setWeSent true) := of_eq rfl rfl rfl rfl
    have hrecord := hsent.trans
      (modifyMember (s.setWeSent true) s.self (f := RtpMember.setSender) rfl rfl id)
    have hsender := (hrecord.trans (rtpEvent _ false true)).trans (senderRestart _ s.self)
    exact hsender.trans (of_eq rfl rfl rfl rfl)

theorem dealloc (s : Session) (j : Slot) : Undisturbed s (s.rtpSessionDeallocMember j) := by
  have hstop := ((del s (e := .member j) (by simp)).trans (del _ (e := .sender j) (by simp))).trans
    (del _ (e := .leave j) (by simp))
  refine hstop.trans ⟨.of_record rfl rfl id fun hin => ?_, rfl, fun _ => rfl, rfl⟩
  exact ((Pool.mem_used_release _ j _).1 hin).1

theorem senderTimedout (s : Session) (j : Slot) :
    Undisturbed s (s.rtcpIntervalSenderTimedout j) := by
  apply rtcpIntervalSenderTimedout_rule (R := Undisturbed) Undisturbed.trans
  · exact fun s => modifyMember s j rfl rfl id
  · exact fun s => modifyMember s j rfl rfl id
  · exact fun _ => of_eq rfl rfl rfl rfl
  · exact fun s => leaving s (by decide) _ _

theorem intervalTimeout (s : Session) : Undisturbed s s.rtcpIntervalTimeout := by
  apply rtcpIntervalTimeout_rule (R := Undisturbed) Undisturbed.trans
  · exact fun s => quiet (.drawInterval s)
  · exact fun s => quiet (.rtcpSendReport s)
  · exact fun _ _ _ _ => of_eq rfl rfl rfl rfl
  · refine fun s tc tn => of_left rfl rfl rfl fun c => ?_
    exact SoftTimer.remaining_add_of_ne _ (show TimerElem.conflict c ≠ .rtcp by simp) _

theorem timerCallback (s : Session) {e : TimerElem} (he : ∀ c, e ≠ .conflict c) :
    Undisturbed s (Session.timerCallback e s) := by
  cases e with
  | rtcp => exact intervalTimeout s
  | member j => exact (leaving s (by decide) _ 0).trans (dealloc _ j)
  | sender j => exact senderTimedout s j
  | leave j => exact dealloc s j
  | conflict c => exact absurd rfl (he c)

end Undisturbed

/-! ## Entries -/

/-- Nobody's timer runs but that of an entry in use. -/
def EntriesTimed (s : Session) : Prop :=
  ∀ c, c ∉ s.srcConflict.pool.used → s.ticksLeft (.conflict c) = none

/-- An entry for `addr` has at least `n` ticks left. -/
def ListedFor (s : Session) (addr : SockaddrIn) (n : ℕ) : Prop :=
  ∃ c ∈ s.srcConflict.pool.used, s.srcConflict.addr c = addr ∧
    ∃ k, n ≤ k ∧ s.ticksLeft (.conflict c) = some k

section SameEntries

variable {s s' : Session} (htable : s'.srcConflict = s.srcConflict)
  (hleft : ∀ c, s'.ticksLeft (.conflict c) = s.ticksLeft (.conflict c))

include htable hleft

theorem EntriesTimed.congr (h : s.EntriesTimed) : s'.EntriesTimed := by
  intro c hc
  rw [htable] at hc
  rw [hleft]
  exact h c hc

theorem ListedFor.congr {addr : SockaddrIn} {n : ℕ} (h : s.ListedFor addr n) :
    s'.ListedFor addr n := by
  obtain ⟨c, hc, haddr, k, hk, hticks⟩ := h
  refine ⟨c, ?_, ?_, k, hk, ?_⟩
  · rw [htable]
    exact hc
  · rw [htable]
    exact haddr
  · rw [hleft]
    exact hticks

end SameEntries

theorem Undisturbed.entriesTimed {s s' : Session} (h : Undisturbed s s') (hs : s.EntriesTimed) :
    s'.EntriesTimed := hs.congr h.table h.left

theorem Undisturbed.listedFor {s s' : Session} (h : Undisturbed s s') {addr : SockaddrIn} {n : ℕ}
    (hs : s.ListedFor addr n) : s'.ListedFor addr n := hs.congr h.table h.left

theorem conflictListed_iff {s : Session} {addr : SockaddrIn} :
    s.conflictListed addr = true ↔
      ∃ c ∈ s.srcConflict.pool.used, s.srcConflict.addr c = addr := by
  have hfind : s.conflictListed addr =
      (s.srcConflict.pool.findUsed fun c => decide (s.srcConflict.addr c = addr)).isSome := by
    simp only [conflictListed, rtpSourceConflictLookup,
      RtpSourceConflictTable.rtpSourceConflictLookup]
    split
    · rename_i hnone
      rw [hnone]
      rfl
    · rename_i c hsome
      rw [hsome]
      rfl
  rw [hfind, Pool.findUsed, List.find?_isSome]
  simp

theorem ListedFor.listed {s : Session} {addr : SockaddrIn} {n : ℕ} (h : s.ListedFor addr n) :
    s.conflictListed addr = true := by
  obtain ⟨c, hc, haddr, -⟩ := h
  exact conflictListed_iff.2 ⟨c, hc, haddr⟩

/-- `RTP_CONFIG_SOURCE_CONFLICT_TIMEOUT` in ticks. -/
theorem conflict_ticks : rtpConfigSourceConflictTimeout.toNat ⌈/⌉ 100 = 50 := by decide

/-- A lookup starts the entry that it finds again, and leaves the others alone. -/
theorem conflictLookup_entries {s : Session} (hwheel : s.WheelKept) (addr : SockaddrIn) :
    (s.rtpSourceConflictLookup addr).2.srcConflict = s.srcConflict ∧
      ((s.conflictListed addr = false ∧ (s.rtpSourceConflictLookup addr).2 = s) ∨
        ∃ c ∈ s.srcConflict.pool.used, s.srcConflict.addr c = addr ∧
          ∀ x, (s.rtpSourceConflictLookup addr).2.ticksLeft (.conflict x) =
            if x = c then some 50 else s.ticksLeft (.conflict x)) := by
  refine ⟨rfl, ?_⟩
  simp only [conflictListed, rtpSourceConflictLookup,
    RtpSourceConflictTable.rtpSourceConflictLookup]
  split
  · exact Or.inl ⟨rfl, rfl⟩
  · rename_i c hfind
    obtain ⟨hc, haddr⟩ := Pool.findUsed_eq_some hfind
    refine Or.inr ⟨c, hc, of_decide_eq_true haddr, fun x => ?_⟩
    have hstopped : (s.softTimerDel (.conflict c)).ticksLeft (.conflict c) = none := by
      rw [ticksLeft_del, if_pos rfl]
    have hleft := ticksLeft_add (s := s.softTimerDel (.conflict c)) hwheel.rate hstopped
      ⟨rtpConfigSourceConflictTimeout, by decide⟩ (.conflict x)
    rw [ticksLeft_del, conflict_ticks] at hleft
    refine hleft.trans ?_
    by_cases hx : x = c
    · simp [hx]
    · simp [hx]

/-- An entry is added to a table that is not full, or nothing changes. -/
theorem conflictAdd_entries {s : Session} (hwheel : s.WheelKept) (htimed : s.EntriesTimed)
    (addr : SockaddrIn) :
    (s.srcConflict.pool.free = [] ∧ s.rtpSourceConflictAdd addr = s) ∨
      ∃ c, c ∉ s.srcConflict.pool.used ∧
        (s.rtpSourceConflictAdd addr).srcConflict.pool.used = s.srcConflict.pool.used ++ [c] ∧
        (s.rtpSourceConflictAdd addr).srcConflict.addr =
          Function.update s.srcConflict.addr c addr ∧
        ∀ x, (s.rtpSourceConflictAdd addr).ticksLeft (.conflict x) =
          if x = c then some 50 else s.ticksLeft (.conflict x) := by
  simp only [rtpSourceConflictAdd, RtpSourceConflictTable.rtpSourceConflictAdd]
  cases htake : s.srcConflict.pool.take with
  | none => exact Or.inl ⟨(Pool.take_eq_none _).1 htake, rfl⟩
  | some p =>
      have hc := Pool.not_mem_used_of_take htake
      refine Or.inr ⟨p.1, hc, (Pool.take_eq_some htake).2, rfl, fun x => ?_⟩
      have hleft := ticksLeft_add hwheel.rate (htimed p.1 hc)
        ⟨rtpConfigSourceConflictTimeout, by decide⟩ (.conflict x)
      rw [conflict_ticks] at hleft
      refine hleft.trans ?_
      by_cases hx : x = p.1
      · simp [hx]
      · simp [hx]

/-- `s'` comes from `s` by a collision with `addr`: the entries are kept, and `addr` has a full lifetime in
    the table if there was `room`. -/
structure EntryKept (addr : SockaddrIn) (room : Prop) (s s' : Session) : Prop where
  timed : s'.EntriesTimed
  listed : ∀ a n, n ≤ 50 → s.ListedFor a n → s'.ListedFor a n
  whole : room → s'.ListedFor addr 50

theorem EntryKept.congr {addr : SockaddrIn} {room : Prop} {s t t' : Session}
    (h : EntryKept addr room s t) (htable : t'.srcConflict = t.srcConflict)
    (htimer : t'.softTimer = t.softTimer) : EntryKept addr room s t' := by
  have hleft : ∀ c, t'.ticksLeft (.conflict c) = t.ticksLeft (.conflict c) := fun c => by
    rw [ticksLeft, htimer, ticksLeft]
  exact ⟨h.timed.congr htable hleft, fun a n hn hs => (h.listed a n hn hs).congr htable hleft,
    fun hroom => (h.whole hroom).congr htable hleft⟩

/-- A collision with an address that is not in the table. -/
theorem conflictAdd_kept {s : Session} (hwheel : s.WheelKept) (htimed : s.EntriesTimed)
    (addr : SockaddrIn) :
    EntryKept addr (s.srcConflict.pool.free ≠ []) s (s.rtpSourceConflictAdd addr) := by
  rcases conflictAdd_entries hwheel htimed addr with ⟨hfull, hadd⟩ | ⟨c, hc, hused, haddr, hleft⟩
  · rw [hadd]
    exact ⟨htimed, fun _ _ _ hs => hs, fun hroom => absurd hfull hroom⟩
  · have hmem : ∀ x, x ∈ (s.rtpSourceConflictAdd addr).srcConflict.pool.used ↔
        x ∈ s.srcConflict.pool.used ∨ x = c := by simp [hused]
    refine ⟨?_, ?_, ?_⟩
    · intro x hx
      rw [hmem, not_or] at hx
      rw [hleft, if_neg hx.2]
      exact htimed x hx.1
    · rintro a n - ⟨x, hx, hxaddr, k, hk, hxleft⟩
      have hxc : x ≠ c := fun h => hc (h ▸ hx)
      refine ⟨x, (hmem x).2 (Or.inl hx), ?_, k, hk, ?_⟩
      · rw [haddr, Function.update_of_ne hxc]
        exact hxaddr
      · rw [hleft, if_neg hxc]
        exact hxleft
    · intro _
      refine ⟨c, (hmem c).2 (Or.inr rfl), ?_, 50, Nat.le_refl _, ?_⟩
      · rw [haddr, Function.update_self]
      · rw [hleft, if_pos rfl]

/-- A collision keeps the entries and gives the address that collides a full lifetime, unless the table
    is full. -/
theorem conflictKept {s : Session} (hwheel : s.WheelKept) (htimed : s.EntriesTimed) (j : Slot)
    (fromAddr : SockaddrIn) :
    EntryKept fromAddr (s.conflictListed fromAddr = false → s.srcConflict.pool.free ≠ []) s
      (s.ownSsrcConflict j fromAddr).2 := by
  obtain ⟨-, ⟨hunlisted, heq⟩ | ⟨c, hc, haddr, hleft⟩⟩ := conflictLookup_entries hwheel fromAddr
  · -- a new collision
    have hresult : (s.ownSsrcConflict j fromAddr).2 =
        ((s.rtpSourceConflictAdd fromAddr).rtpMemberTableChangeRandomSsrc
          j).rtpSessionResetTxStats := by
      rw [conflictListed] at hunlisted
      simp only [ownSsrcConflict, hunlisted, heq]
      rfl
    have hrename : ∀ t : Session,
        ((t.rtpMemberTableChangeRandomSsrc j).rtpSessionResetTxStats).srcConflict = t.srcConflict ∧
          ((t.rtpMemberTableChangeRandomSsrc j).rtpSessionResetTxStats).softTimer = t.softTimer := by
      intro t
      unfold rtpMemberTableChangeRandomSsrc
      split
      · exact ⟨rfl, rfl⟩
      · exact ⟨rfl, rfl⟩
    obtain ⟨htable, htimer⟩ := hrename (s.rtpSourceConflictAdd fromAddr)
    have hadded := (conflictAdd_kept hwheel htimed fromAddr).congr htable htimer
    rw [hresult]
    exact ⟨hadded.timed, hadded.listed, fun hroom => hadded.whole (hroom hunlisted)⟩
  · -- a collision that is known
    have hlisted : s.conflictListed fromAddr = true := conflictListed_iff.2 ⟨c, hc, haddr⟩
    rw [ownSsrcConflict_listed hlisted]
    refine ⟨fun x hx => ?_, ?_, fun _ => ⟨c, hc, haddr, 50, Nat.le_refl _, ?_⟩⟩
    · have hxc : x ≠ c := fun h => hx (h ▸ hc)
      rw [hleft, if_neg hxc]
      exact htimed x hx
    · rintro a n hn ⟨x, hx, hxaddr, k, hk, hxleft⟩
      by_cases hxc : x = c
      · exact ⟨x, hx, hxaddr, 50, hn, by rw [hleft, if_pos hxc]⟩
      · exact ⟨x, hx, hxaddr, k, hk, by rw [hleft, if_neg hxc]; exact hxleft⟩
    · rw [hleft, if_pos rfl]

/-- When the wheel advances, every entry has one tick less. -/
theorem ListedFor.expire {s : Session} (hwheel : s.WheelKept)
    (hempty : s.softTimer.timeoutList = []) {addr : SockaddrIn} {n : ℕ}
    (h : s.ListedFor addr (n + 1)) : (s.setTimer s.softTimer.expire).ListedFor addr n := by
  obtain ⟨c, hc, haddr, k, hk, hleft⟩ := h
  have hdue : s.softTimer.remaining (.conflict c) ≠ some 0 := by
    intro hzero
    have hmem := hwheel.ahead _ hzero
    rw [hempty] at hmem
    exact absurd hmem List.not_mem_nil
  refine ⟨c, hc, haddr, k - 1, by omega, ?_⟩
  show s.softTimer.expire.remaining (.conflict c) = some (k - 1)
  rw [SoftTimer.remaining_expire hdue, show s.softTimer.remaining (.conflict c) = some k from hleft]
  rfl

/-- An element that fires takes no entry with time left with it. -/
theorem ListedFor.fire {s : Session} {e : TimerElem} {rest : List TimerElem}
    (htop : s.softTimer.timeoutList = e :: rest) {addr : SockaddrIn} {n : ℕ} (hn : 0 < n)
    (h : s.ListedFor addr n) :
    (timerCallback e (s.setTimer s.softTimer.popTimeout)).ListedFor addr n := by
  obtain ⟨c, hc, haddr, k, hk, hleft⟩ := h
  have hne : e ≠ .conflict c := by
    rintro rfl
    have hdue : s.ticksLeft (.conflict c) = some 0 :=
      SoftTimer.remaining_of_mem_timeoutList (htop ▸ List.mem_cons_self ..)
    rw [hleft, Option.some_inj] at hdue
    omega
  have hpop : (s.setTimer s.softTimer.popTimeout).ticksLeft (.conflict c) = some k := by
    rw [ticksLeft_pop htop, if_neg (Ne.symm hne)]
    exact hleft
  have hkept : (s.setTimer s.softTimer.popTimeout).ListedFor addr n := ⟨c, hc, haddr, k, hk, hpop⟩
  cases e with
  | conflict x =>
      refine ⟨c, (Pool.mem_used_release _ x c).2 ⟨hc, ?_⟩, haddr, k, hk, hpop⟩
      rintro rfl
      exact hne rfl
  | rtcp | member | sender | leave =>
      exact (Undisturbed.timerCallback _ (by simp)).listedFor hkept

theorem EntriesTimed.fire {s : Session} {e : TimerElem} {rest : List TimerElem}
    (htop : s.softTimer.timeoutList = e :: rest) (h : s.EntriesTimed) :
    (timerCallback e (s.setTimer s.softTimer.popTimeout)).EntriesTimed := by
  have hpop : (s.setTimer s.softTimer.popTimeout).EntriesTimed := by
    intro c hc
    rw [ticksLeft_pop htop]
    split
    · rfl
    · exact h c hc
  cases e with
  | conflict x =>
      intro c hc
      show (s.setTimer s.softTimer.popTimeout).ticksLeft (.conflict c) = none
      by_cases hx : c = x
      · rw [ticksLeft_pop htop, if_pos (hx ▸ rfl)]
      · exact hpop c fun hin => hc ((Pool.mem_used_release _ x c).2 ⟨hin, hx⟩)
  | rtcp | member | sender | leave =>
      exact (Undisturbed.timerCallback _ (by simp)).entriesTimed hpop

theorem EntriesTimed.expire {s : Session} (h : s.EntriesTimed) :
    (s.setTimer s.softTimer.expire).EntriesTimed := by
  intro c hc
  have hstopped : ¬ s.softTimer.Running (.conflict c) := SoftTimer.remaining_eq_none.1 (h c hc)
  exact SoftTimer.remaining_eq_none.2 fun hrun =>
    hstopped ((SoftTimer.running_expire s.softTimer _).1 hrun)

end Session

end Prtp
