import Prtp.ConflictEntries

set_option autoImplicit false

/-! # How often collisions make a session change its SSRC

Once a packet from an address has made the session change its SSRC, the address is in the conflict table
and stays there as long as it goes on carrying the session's SSRC. So it cannot make the session change
its SSRC again, provided that the table had room for it. -/

namespace Prtp

/-! ## What is noticed -/

/-- The ticks so far, and when each address was last noticed to carry the session's own SSRC. -/
structure CollisionWatch where
  now : ℕ
  last : SockaddrIn → Option ℕ

namespace CollisionWatch

def start : CollisionWatch := ⟨0, fun _ => none⟩

def tick (w : CollisionWatch) : CollisionWatch := { w with now := w.now + 1 }

/-- The address was noticed less than 50 ticks ago. -/
def recent (w : CollisionWatch) (addr : SockaddrIn) : Bool :=
  (w.last addr).any fun t => decide (w.now < t + 50)

/-- A packet from `addr`, which carries the session's own SSRC if `own`, and makes the session change
    it if `changes`. The address is noticed with the change, and then as long as it goes on. -/
def note (w : CollisionWatch) (addr : SockaddrIn) (own changes : Bool) : CollisionWatch :=
  if own && (w.recent addr || changes) then
    { w with last := Function.update w.last addr (some w.now) }
  else w

theorem recent_eq_true {w : CollisionWatch} {addr : SockaddrIn} :
    w.recent addr = true ↔ ∃ t, w.last addr = some t ∧ w.now < t + 50 := by
  simp [recent, Option.any_eq_true]

theorem note_now (w : CollisionWatch) (addr : SockaddrIn) (own changes : Bool) :
    (w.note addr own changes).now = w.now := by
  unfold note
  split
  · rfl
  · rfl

/-- What a note makes of an address: it is noticed now, or as it was. -/
theorem note_last (w : CollisionWatch) (addr : SockaddrIn) (own changes : Bool) :
    (w.note addr own changes).last addr = some w.now ∨
      (w.note addr own changes).last addr = w.last addr := by
  unfold note
  split
  · exact Or.inl (Function.update_self ..)
  · exact Or.inr rfl

theorem note_recent {w : CollisionWatch} {addr : SockaddrIn} (h : w.recent addr = true)
    (own changes : Bool) : (w.note addr own changes).recent addr = true := by
  obtain ⟨t, ht, hlt⟩ := recent_eq_true.1 h
  rw [recent_eq_true, note_now]
  rcases w.note_last addr own changes with hnow | hsame
  · exact ⟨w.now, hnow, by omega⟩
  · exact ⟨t, hsame.trans ht, hlt⟩

theorem note_changes (w : CollisionWatch) (addr : SockaddrIn) :
    (w.note addr true true).last addr = some w.now := by
  simp [note]

end CollisionWatch

namespace Session

/-- A packet for `ssrc` from `fromAddr` collides with the session's own member, which has another address
    on this channel. -/
def ownCollision (s : Session) (addr : RtpMember → SockaddrIn) (ssrc : UInt32)
    (fromAddr : SockaddrIn) : Bool :=
  decide (s.rtpSessionLookupMember ssrc = some s.self) && !s.selfMember.flags.byeReceived &&
    decide (addr s.selfMember ≠ fromAddr)

/-- The collision makes the session change its SSRC. -/
def newCollision (s : Session) (addr : RtpMember → SockaddrIn) (ssrc : UInt32)
    (fromAddr : SockaddrIn) : Bool :=
  s.ownCollision addr ssrc fromAddr && !s.conflictListed fromAddr

/-- A source is noticed each time it is handled, also one that a BYE names. -/
def collisionHistory : History CollisionWatch where
  rtp fromAddr w s ssrc := w.note fromAddr (decide (ssrc = s.selfMember.ssrc))
    (s.newCollision RtpMember.rtpAddr ssrc fromAddr)
  msg fromAddr w s
    | .bye ssrc => w.note fromAddr (decide (ssrc = s.selfMember.ssrc)) false
    | .sr ssrc .. | .rr ssrc _ | .sdes ssrc _ =>
        w.note fromAddr (decide (ssrc = s.selfMember.ssrc))
          (s.newCollision RtpMember.rtcpAddr ssrc fromAddr)
  tx w _ := w
  expire w _ := w.tick
  fire w _ _ := w

theorem collisionHistory_source {fromAddr : SockaddrIn} {w : CollisionWatch} {s : Session}
    {msg : RtcpMsg} {ssrc : UInt32} (hsource : msg.source = some ssrc) :
    collisionHistory.msg fromAddr w s msg =
      w.note fromAddr (decide (ssrc = s.selfMember.ssrc))
        (s.newCollision RtpMember.rtcpAddr ssrc fromAddr) := by
  cases msg with
  | bye _ => simp [RtcpMsg.source] at hsource
  | sr | rr | sdes =>
      simp only [RtcpMsg.source, Option.some.injEq] at hsource
      rw [← hsource]
      rfl

/-! ## The guard -/

/-- The conflict table has room for a new collision, an address in it does not speak for the session
    where the session would believe it, and nobody is put into the session's own slot. -/
def LoopSafe (s : Session) (addr : RtpMember → SockaddrIn) (ssrc : UInt32)
    (fromAddr : SockaddrIn) : Prop :=
  (s.newCollision addr ssrc fromAddr = true → s.srcConflict.pool.free ≠ []) ∧
    (s.rtpSessionLookupMember ssrc = some s.self → s.selfMember.flags.byeReceived = false →
      addr s.selfMember = fromAddr → s.conflictListed fromAddr = false) ∧
    (s.rtpSessionLookupMember ssrc = none → s.freeList.head? ≠ some s.self)

instance (s : Session) (addr : RtpMember → SockaddrIn) (ssrc : UInt32) (fromAddr : SockaddrIn) :
    Decidable (s.LoopSafe addr ssrc fromAddr) :=
  inferInstanceAs (Decidable ((_ → _ ≠ _) ∧ (_ → _ → _ → _) ∧ (_ → _ ≠ _)))

/-- Every source of a packet is safe. -/
def loopSafe : ActGuard where
  rtp fromAddr s ssrc := s.LoopSafe RtpMember.rtpAddr ssrc fromAddr
  msg fromAddr s msg := ∀ ssrc ∈ msg.source, s.LoopSafe RtpMember.rtcpAddr ssrc fromAddr
  tx _ _ := True
  expire _ := True
  fire _ _ := True

instance : loopSafe.Evaluable where
  rtp fromAddr s ssrc := inferInstanceAs (Decidable (s.LoopSafe _ ssrc fromAddr))
  msg _ _ msg := Option.decidableForallMem msg.source
  tx _ _ := isTrue trivial
  expire _ := isTrue trivial
  fire _ _ := isTrue trivial

/-! ## What a source does -/

/-- The ways in which handling a packet for `ssrc` from `fromAddr` bears on the entries: it leaves them
    alone, or a member collides. -/
inductive SourceActs (s : Session) (addr : RtpMember → SockaddrIn) (ssrc : UInt32)
    (fromAddr : SockaddrIn) (s' : Session) : Prop
  | apart (h : Undisturbed s s') (hnone : s.ownCollision addr ssrc fromAddr = false)
  | collision (j : Slot) (hj : s.rtpSessionLookupMember ssrc = some j)
      (hbye : (s.member j).flags.byeReceived = false) (haddr : addr (s.member j) ≠ fromAddr)
      (h : Undisturbed (s.ownSsrcConflict j fromAddr).2 s')

section Source

variable {s : Session} {addr : RtpMember → SockaddrIn} {ssrc : UInt32} {fromAddr : SockaddrIn}

theorem ownCollision_absent (h : s.rtpSessionLookupMember ssrc = none) :
    s.ownCollision addr ssrc fromAddr = false := by
  simp [ownCollision, h]

theorem ownCollision_other {j : Slot} (hj : s.rtpSessionLookupMember ssrc = some j)
    (hother : j = s.self → (s.member j).flags.byeReceived = true ∨ addr (s.member j) = fromAddr) :
    s.ownCollision addr ssrc fromAddr = false := by
  by_cases hself : j = s.self
  · rcases hother hself with hbye | haddr
    · simp [ownCollision, selfMember, ← hself, hbye]
    · simp [ownCollision, selfMember, ← hself, haddr]
  · simp [ownCollision, hj, hself]

theorem rtpHandleSsrc_acts (hflag : s.selfMember.flags.self = true)
    (helsewhere : s.rtpSessionLookupMember ssrc = none → s.freeList.head? ≠ some s.self)
    (seq : UInt16) (csrc : Bool) :
    SourceActs s RtpMember.rtpAddr ssrc fromAddr (s.rtpHandleSsrc ssrc seq fromAddr csrc).2 := by
  have hcase := s.rtpHandleSsrc_case ssrc seq fromAddr csrc
  generalize s.rtpHandleSsrc ssrc seq fromAddr csrc = res at hcase
  have hnew : ∀ {j s'}, s.rtpSessionLookupMember ssrc = none →
      s.rtpSessionAllocMember ssrc = some (j, s') → j ≠ s.self := by
    rintro j s' hnone halloc rfl
    exact helsewhere hnone (head_freeList_of_alloc halloc)
  -- the session's own member has the flag of it
  have hnotSelf : ∀ {j}, (s.member j).flags.self = false → j ≠ s.self := by
    rintro j hnot rfl
    rw [selfMember, hnot] at hflag
    exact absurd hflag Bool.false_ne_true
  cases hcase with
  | tableFull _ hnone => exact .apart (.setRtpError s _) (ownCollision_absent hnone)
  | created j s' hnone halloc =>
      exact .apart (.rtpCreated halloc (hnew hnone halloc) seq fromAddr) (ownCollision_absent hnone)
  | createdCsrc j s' hnone halloc =>
      have hcreated := Undisturbed.rtpCreated halloc (hnew hnone halloc) seq fromAddr
      refine .apart (hcreated.trans ?_) (ownCollision_absent hnone)
      exact Undisturbed.modifyMember _ j (f := fun x => x.setValidated.setCsrc) rfl rfl id
  | leaving _ j hj hbye =>
      exact .apart (.setRtpError s _) (ownCollision_other hj fun _ => Or.inl hbye)
  | joined _ j hj hbye hnot =>
      exact .apart (.rtpJoined s j seq fromAddr)
        (ownCollision_other hj fun hself => absurd hself (hnotSelf hnot))
  | thirdParty _ j hj hbye hnot =>
      exact .apart (.setRtpError s _)
        (ownCollision_other hj fun hself => absurd hself (hnotSelf hnot))
  | collision _ j hj hbye hself haddr err => exact .collision j hj hbye haddr (.setRtpError _ err)
  | refreshed _ j hj hbye hknown haddr =>
      exact .apart (.rtpRefreshed s j) (ownCollision_other hj fun _ => Or.inr haddr)

theorem rtcpHandleSsrc_acts (hflag : s.selfMember.flags.self = true)
    (helsewhere : s.rtpSessionLookupMember ssrc = none → s.freeList.head? ≠ some s.self)
    (pktSize : UInt32) :
    SourceActs s RtpMember.rtcpAddr ssrc fromAddr (s.rtcpHandleSsrc ssrc fromAddr pktSize).2 := by
  have hcase := s.rtcpHandleSsrc_case ssrc fromAddr pktSize
  generalize s.rtcpHandleSsrc ssrc fromAddr pktSize = res at hcase
  cases hcase with
  | tableFull hnone => exact .apart (.setRtcpError s _) (ownCollision_absent hnone)
  | created j s' hnone halloc =>
      have hother : j ≠ s.self := by
        rintro rfl
        exact helsewhere hnone (head_freeList_of_alloc halloc)
      exact .apart (.rtcpCreated halloc hother fromAddr pktSize) (ownCollision_absent hnone)
  | leaving j hj hbye =>
      exact .apart (.setRtcpError s _) (ownCollision_other hj fun _ => Or.inl hbye)
  | joined j hj hbye hnot =>
      have hother : j ≠ s.self := by
        rintro rfl
        rw [selfMember, hnot] at hflag
        exact absurd hflag Bool.false_ne_true
      exact .apart (.rtcpJoined s j fromAddr)
        (ownCollision_other hj fun hself => absurd hself hother)
  | thirdParty j hj hbye hknown haddr hforeign =>
      have hother : j ≠ s.self := by
        rintro rfl
        exact hforeign (lookup_eq_some hj).2.symm
      exact .apart (.setRtcpError s _) (ownCollision_other hj fun hself => absurd hself hother)
  | collision j hj hbye hknown haddr hown err =>
      exact .collision j hj hbye haddr (.setRtcpError _ err)
  | refreshed j hj hbye hknown haddr =>
      exact .apart (.rtcpRefreshed s j pktSize) (ownCollision_other hj fun _ => Or.inr haddr)

end Source

/-! ## Every address noticed recently is listed -/

/-- The addresses noticed less than 50 ticks ago are in the conflict table until that time is over, or the
    session's own member is gone. -/
structure Sheltered (w : CollisionWatch) (s : Session) : Prop extends WheelKept s where
  unique : s.UniqueSsrc
  flag : s.selfMember.flags.self = true
  timed : s.EntriesTimed
  past : ∀ a t, w.last a = some t → t ≤ w.now
  listed : ∀ a t, w.last a = some t → w.now < t + 50 → s.ListedFor a (t + 50 - w.now) ∨ s.Gone

/-- The entries are kept, and the own member. -/
theorem Sheltered.kept {w : CollisionWatch} {s s' : Session} (h : Sheltered w s)
    (hown : SameOwn s s') (hunique : s'.UniqueSsrc) (hwheel : s'.WheelKept)
    (htimed : s'.EntriesTimed)
    (hlisted : ∀ a n, 0 < n → n ≤ 50 → s.ListedFor a n → s'.ListedFor a n) : Sheltered w s' where
  toWheelKept := hwheel
  unique := hunique
  flag := hown.flag.trans h.flag
  timed := htimed
  past := h.past
  listed a t ht hlt := by
    have hpast := h.past a t ht
    exact (h.listed a t ht hlt).imp (hlisted a _ (by omega) (by omega)) hown.gone

theorem Sheltered.undisturbed {w : CollisionWatch} {s s' : Session} (h : Sheltered w s)
    (hsame : Undisturbed s s') (hunique : s'.UniqueSsrc) (hwheel : s'.WheelKept) :
    Sheltered w s' :=
  h.kept hsame.toSameOwn hunique hwheel (hsame.entriesTimed h.timed) fun _ _ _ _ => hsame.listedFor

/-- An address may be noticed if it is listed for the whole time, or the own member is gone. -/
theorem Sheltered.note {w : CollisionWatch} {s : Session} (h : Sheltered w s) {a : SockaddrIn}
    {own changes : Bool} (hlisted : own = true → (w.recent a = true ∨ changes = true) →
      s.ListedFor a 50 ∨ s.Gone) : Sheltered (w.note a own changes) s := by
  unfold CollisionWatch.note
  split
  · rename_i hnoted
    rw [Bool.and_eq_true, Bool.or_eq_true] at hnoted
    refine ⟨h.toWheelKept, h.unique, h.flag, h.timed, fun b t ht => ?_, fun b t ht hlt => ?_⟩
    all_goals change Function.update w.last a (some w.now) b = some t at ht
    · by_cases hb : b = a
      · rw [hb, Function.update_self, Option.some_inj] at ht
        exact ht.ge
      · rw [Function.update_of_ne hb] at ht
        exact h.past b t ht
    · by_cases hb : b = a
      · rw [hb, Function.update_self, Option.some_inj] at ht
        have hwhole : t + 50 - w.now = 50 := by omega
        rw [hb, hwhole]
        exact hlisted hnoted.1 hnoted.2
      · rw [Function.update_of_ne hb] at ht
        exact h.listed b t ht hlt
  · exact h

/-- An address noticed recently is listed while the own member is there. -/
theorem Sheltered.recent_listed {w : CollisionWatch} {s : Session} (h : Sheltered w s)
    {a : SockaddrIn} (hrecent : w.recent a = true) (hthere : ¬ s.Gone) :
    s.conflictListed a = true := by
  obtain ⟨t, ht, hlt⟩ := CollisionWatch.recent_eq_true.1 hrecent
  exact ((h.listed a t ht hlt).resolve_right hthere).listed

/-- A packet from `a` takes `s`, in which `w` has been noticed, to `s'` and `w'`: it does not change the
    session's SSRC if `a` was noticed recently, and `a` is noticed if it does. -/
structure Withstood (a : SockaddrIn) (w : CollisionWatch) (s : Session) (w' : CollisionWatch)
    (s' : Session) : Prop where
  sheltered : Sheltered w' s'
  named : s'.selfMember.ssrc = s.selfMember.ssrc ∨
    w.recent a = false ∧ w'.last a = some w.now

theorem Sheltered.source {w : CollisionWatch} {s s' : Session} (h : Sheltered w s)
    {addr : RtpMember → SockaddrIn} {ssrc : UInt32} {fromAddr : SockaddrIn}
    (hsafe : s.LoopSafe addr ssrc fromAddr) (hacts : SourceActs s addr ssrc fromAddr s')
    (hunique : s'.UniqueSsrc) (hwheel : s'.WheelKept) :
    Withstood fromAddr w s
      (w.note fromAddr (decide (ssrc = s.selfMember.ssrc)) (s.newCollision addr ssrc fromAddr))
      s' := by
  obtain ⟨hroom, hapart, -⟩ := hsafe
  cases hacts with
  | apart hsame hnone =>
      have hkept := h.undisturbed hsame hunique hwheel
      refine ⟨hkept.note fun hown hnoted => ?_, Or.inl hsame.ssrc⟩
      by_cases hgone : s.Gone
      · exact Or.inr (hsame.gone hgone)
      -- the session takes the packet for its own, so the address is not listed
      · exfalso
        have hnew : s.newCollision addr ssrc fromAddr = false := by simp [newCollision, hnone]
        have hlisted := h.recent_listed (hnoted.resolve_right (by simp [hnew])) hgone
        rw [not_gone_iff] at hgone
        have hlookup := h.unique.lookup hgone.1
        rw [← selfMember, ← of_decide_eq_true hown] at hlookup
        have haddr : addr s.selfMember = fromAddr := by
          by_contra hne
          simp [ownCollision, hlookup, hgone.2, hne] at hnone
        rw [hapart hlookup hgone.2 haddr] at hlisted
        exact absurd hlisted Bool.false_ne_true
  | collision j hj hbye haddr hsame =>
      obtain ⟨hused, hssrc⟩ := lookup_eq_some hj
      obtain ⟨htimed, hentries, hwhole⟩ := conflictKept h.toWheelKept h.timed j fromAddr
      have hkept : Sheltered w s' := h.kept
        ((SameOwn.ownSsrcConflict s j fromAddr).trans hsame.toSameOwn) hunique hwheel
        (hsame.entriesTimed htimed) fun a n _ hn hs => hsame.listedFor (hentries a n hn hs)
      by_cases hself : j = s.self
      · subst hself
        have hcollision : s.ownCollision addr ssrc fromAddr = true := by
          simp [ownCollision, hj, selfMember, hbye, haddr]
        have hlistedFor := hsame.listedFor (hwhole fun hnew =>
          hroom (by simp [newCollision, hcollision, hnew]))
        refine ⟨hkept.note fun _ _ => Or.inl hlistedFor, ?_⟩
        by_cases hlisted : s.conflictListed fromAddr = true
        · left
          rw [hsame.ssrc, ownSsrcConflict_listed hlisted]
          rfl
        · have hnew : s.newCollision addr ssrc fromAddr = true := by
            simp [newCollision, hcollision, hlisted]
          refine Or.inr ⟨?_, ?_⟩
          · by_contra hrecent
            rw [Bool.not_eq_false] at hrecent
            exact hlisted (h.recent_listed hrecent (not_gone_iff.2 ⟨hused, hbye⟩))
          · rw [hnew, decide_eq_true (show ssrc = s.selfMember.ssrc from hssrc.symm)]
            exact w.note_changes fromAddr
      · refine ⟨hkept.note fun hown _ => Or.inr ?_, Or.inl ?_⟩
        · -- somebody else has the session's SSRC, so its own member is not there
          refine hsame.gone ((SameOwn.ownSsrcConflict s j fromAddr).gone fun hin => ?_)
          exact absurd (h.unique j hused s.self hin (hssrc.trans (of_decide_eq_true hown))) hself
        · have hrecord := ((Untouched.frame s.self).ownSsrcConflict s fromAddr (Or.inl hself)).record
          refine hsame.ssrc.trans ?_
          rw [selfMember, (SameOwn.ownSsrcConflict s j fromAddr).self, hrecord, selfMember]

theorem Sheltered.byeSource {w : CollisionWatch} {s : Session} (h : Sheltered w s) (ssrc : UInt32)
    (fromAddr : SockaddrIn) (pktSize : UInt32)
    (hwheel : (s.rtcpHandleByeSource ssrc pktSize).WheelKept) :
    Withstood fromAddr w s (collisionHistory.msg fromAddr w s (.bye ssrc))
      (s.rtcpHandleByeSource ssrc pktSize) := by
  have hsame := Undisturbed.byeSource s ssrc pktSize
  have hkept := h.undisturbed hsame ((sameNames_byeSource s ssrc pktSize).unique h.unique) hwheel
  refine ⟨hkept.note fun hown _ => Or.inr ?_, Or.inl hsame.ssrc⟩
  by_cases hgone : s.Gone
  · exact hsame.gone hgone
  · -- the BYE is for the session's own member
    obtain ⟨hin, hbye⟩ := not_gone_iff.1 hgone
    obtain ⟨hflag, -⟩ := bye_flags h.unique hin hbye pktSize
    intro _
    rw [selfMember, hsame.self, of_decide_eq_true hown, selfMember, hflag]
    rfl

/-! ## Runs -/

/-- The sources of the packets are safe, and between two calls no callback is owed. -/
abbrev loopSafeSettled : ActGuard := { loopSafe with expire := fun s => s.softTimer.timeoutList = [] }

/-- A packet's source, in a safe run. -/
theorem Sheltered.rtpSource {w : CollisionWatch} {s : Session} (h : Sheltered w s) {ssrc : UInt32}
    {fromAddr : SockaddrIn} (hsafe : s.LoopSafe RtpMember.rtpAddr ssrc fromAddr) (seq : UInt16)
    (csrc : Bool) :
    Withstood fromAddr w s (collisionHistory.rtp fromAddr w s ssrc)
      (s.rtpHandleSsrc ssrc seq fromAddr csrc).2 :=
  h.source hsafe (rtpHandleSsrc_acts h.flag hsafe.2.2 seq csrc)
    (unique_rtpHandleSsrc h.unique ssrc seq fromAddr csrc)
    (wheelKept_rules.rtpSource h.toWheelKept trivial)

theorem Sheltered.rtcpSource {w : CollisionWatch} {s : Session} (h : Sheltered w s) {msg : RtcpMsg}
    {ssrc : UInt32} {fromAddr : SockaddrIn} (hsource : msg.source = some ssrc)
    (hsafe : loopSafe.msg fromAddr s msg) (pktSize : UInt32) :
    Withstood fromAddr w s (collisionHistory.msg fromAddr w s msg)
      (s.rtcpHandleSsrc ssrc fromAddr pktSize).2 := by
  have hsafe' : s.LoopSafe RtpMember.rtcpAddr ssrc fromAddr := hsafe ssrc hsource
  rw [collisionHistory_source hsource]
  exact h.source hsafe' (rtcpHandleSsrc_acts h.flag hsafe'.2.2 pktSize)
    (unique_rtcpHandleSsrc h.unique ssrc fromAddr pktSize)
    (wheelKept_rules.rtcpSource h.toWheelKept trivial hsource)

theorem Sheltered.byeSource_wheel {w : CollisionWatch} {s : Session} (h : Sheltered w s)
    (ssrc pktSize : UInt32) : (s.rtcpHandleByeSource ssrc pktSize).WheelKept := by
  rcases WheelKept.frame.byeSource s ssrc pktSize with hsame | ⟨flags, hsame⟩
  · exact hsame h.toWheelKept
  · exact hsame (h.toWheelKept.leaving (by decide) flags pktSize)

theorem Sheltered.quiet {w : CollisionWatch} {s s' : Session} (h : Sheltered w s)
    (hquiet : Quiet s s') : Sheltered w s' :=
  h.undisturbed (.quiet hquiet) (unique_rules.quiet hquiet h.unique)
    (wheelKept_rules.quiet hquiet h.toWheelKept)

theorem sheltered_rules : HistoryRules collisionHistory Sheltered loopSafeSettled where
  quiet hquiet h := h.quiet hquiet
  rtpSource h hsafe := (h.rtpSource hsafe _ _).sheltered
  rtcpSource h hsafe hsource := (h.rtcpSource hsource hsafe _).sheltered
  byeSource h _ := (h.byeSource _ _ _ (h.byeSource_wheel _ _)).sheltered
  txCount h _ := h.undisturbed (.rtpTxCount _ _) ((sameNames_txCount _ _).unique h.unique)
    (WheelKept.frame.rtpTxCount _ _ h.toWheelKept)
  expire {w s} h hempty := by
    have hown : SameOwn s (s.setTimer s.softTimer.expire) := .of_table rfl rfl
    refine ⟨wheelKept_rules.expire h.toWheelKept hempty, unique_rules.expire h.unique trivial,
      h.flag, h.timed.expire, fun a t ht => ?_, fun a t ht hlt => ?_⟩
    · exact (h.past a t ht).trans (Nat.le_succ _)
    · have hlater : w.now + 1 < t + 50 := hlt
      have hpast := h.past a t ht
      refine (h.listed a t ht (by omega)).imp (fun hs => ?_) hown.gone
      rw [show t + 50 - w.now = t + 50 - (w.now + 1) + 1 by omega] at hs
      exact hs.expire h.toWheelKept hempty
  fire {w s e rest} htop h _ := by
    have hpop : SameOwn s (s.setTimer s.softTimer.popTimeout) := .of_table rfl rfl
    have hown : SameOwn (s.setTimer s.softTimer.popTimeout)
        (timerCallback e (s.setTimer s.softTimer.popTimeout)) := by
      cases e with
      | conflict c => exact .of_table rfl rfl
      | rtcp | member | sender | leave =>
          exact (Undisturbed.timerCallback _ (by simp)).toSameOwn
    exact h.kept (hpop.trans hown) (unique_rules.fire htop h.unique trivial)
      (wheelKept_rules.fire htop h.toWheelKept trivial) (h.timed.fire htop)
      fun _ _ hn _ hs => hs.fire htop hn

end Session

/-- The address a call's packet comes from. -/
def Op.sender : Op → Option SockaddrIn
  | .rxRtp _ _ fromAddr => some fromAddr
  | .rxRtcp _ _ fromAddr => some fromAddr
  | .tx .. => none
  | .tick => none

namespace Session

/-- What `g` allows of packets from `a`, and nothing else. -/
def ActGuard.only (g : ActGuard) (a : SockaddrIn) : ActGuard where
  rtp fromAddr s ssrc := fromAddr = a ∧ g.rtp fromAddr s ssrc
  msg fromAddr s msg := fromAddr = a ∧ g.msg fromAddr s msg
  tx _ _ := False
  expire _ := False
  fire _ _ := False

theorem ActGuard.only_admits {g : ActGuard} {s : Session} {op : Op} {a : SockaddrIn}
    (hsender : op.sender = some a) (h : g.admits s op) : (g.only a).admits s op := by
  cases op with
  | rxRtp pkt len fromAddr =>
      have ha : fromAddr = a := Option.some.inj hsender
      intro hvalid
      obtain ⟨hssrc, hcsrc⟩ := h hvalid
      exact ⟨⟨ha, hssrc⟩, fun hok => (hcsrc hok).mono fun _ _ hg => ⟨ha, hg⟩⟩
  | rxRtcp pkt len fromAddr =>
      have ha : fromAddr = a := Option.some.inj hsender
      exact Runs.Guarded.mono (fun _ _ hg => ⟨ha, hg⟩) h
  | tx | tick => exact absurd hsender (by simp [Op.sender])

/-- While a packet from `a` is handled that has arrived in `s`. -/
structure Handling (a : SockaddrIn) (w : CollisionWatch) (s : Session) (w' : CollisionWatch)
    (s' : Session) : Prop extends Withstood a w s w' s' where
  now : w'.now = w.now
  recent : w.recent a = true → w'.recent a = true

theorem Handling.source {a : SockaddrIn} {w w' : CollisionWatch} {s s' s'' : Session}
    (h : Handling a w s w' s') {own changes : Bool}
    (hsource : Withstood a w' s' (w'.note a own changes) s'') :
    Handling a w s (w'.note a own changes) s'' := by
  refine ⟨⟨hsource.sheltered, ?_⟩, (w'.note_now a own changes).trans h.now,
    fun hrecent => CollisionWatch.note_recent (h.recent hrecent) own changes⟩
  rcases hsource.named with hsame | ⟨hold, hnoted⟩
  · rcases h.named with hsame' | ⟨hold, hnoted⟩
    · exact Or.inl (hsame.trans hsame')
    · refine Or.inr ⟨hold, ?_⟩
      rcases w'.note_last a own changes with hnow | hkept
      · rw [hnow, h.now]
      · rw [hkept, hnoted]
  · refine Or.inr ⟨?_, by rw [hnoted, h.now]⟩
    by_contra hrecent
    rw [Bool.not_eq_false] at hrecent
    rw [h.recent hrecent] at hold
    exact absurd hold (by decide)

theorem handling_rules (a : SockaddrIn) (w : CollisionWatch) (s : Session) :
    HistoryRules collisionHistory (Handling a w s) (loopSafe.only a) where
  quiet hquiet h := by
    refine ⟨⟨h.sheltered.quiet hquiet, ?_⟩, h.now, h.recent⟩
    rw [hquiet.selfMember.ssrc]
    exact h.named
  rtpSource h hg := by
    obtain ⟨rfl, hsafe⟩ := hg
    exact h.source (h.sheltered.rtpSource hsafe _ _)
  rtcpSource {x s' ssrc fromAddr pktSize msg} h hg hsource := by
    obtain ⟨rfl, hsafe⟩ := hg
    have hstep := h.sheltered.rtcpSource hsource hsafe pktSize
    rw [collisionHistory_source hsource] at hstep ⊢
    exact h.source hstep
  byeSource h hg := by
    obtain ⟨rfl, -⟩ := hg
    exact h.source (h.sheltered.byeSource _ _ _ (h.sheltered.byeSource_wheel _ _))
  txCount _ hfalse := hfalse.elim
  expire _ hfalse := hfalse.elim
  fire _ _ hfalse := hfalse.elim

/-- A session starts with nothing noticed. -/
theorem sheltered_rtpSessionInit (mem : Session) (config : RtpSessionConfig) :
    Sheltered .start (mem.rtpSessionInit config) where
  toWheelKept := (settled_rtpSessionInit mem config).toWheelKept
  unique := unique_rtpSessionInit mem config
  flag := (kept_rtpSessionInit mem config).1.hasSelf.2.1
  timed c _ := by
    obtain ⟨tc, tn, h⟩ := softTimer_rtpSessionInit mem config
    rw [ticksLeft, h, SoftTimer.remaining_add_of_ne _ (by simp), SoftTimer.remaining_init]
  past _ _ ht := absurd ht (by simp [CollisionWatch.start])
  listed _ _ ht := absurd ht (by simp [CollisionWatch.start])

/-- What has been noticed of a run. -/
def collisions (mem : Session) (config : RtpSessionConfig) (ops : List Op) : CollisionWatch :=
  collisionHistory.run .start (mem.rtpSessionInit config) ops

theorem clocked_collisionHistory : collisionHistory.Clocked CollisionWatch.now where
  rtp fromAddr w s ssrc := w.note_now ..
  msg fromAddr w s msg := by
    cases msg with
    | bye | sr | rr | sdes => exact w.note_now ..
  tx _ _ := rfl
  expire _ _ := rfl
  fire _ _ _ := rfl

theorem sheltered_run {mem : Session} {config : RtpSessionConfig} {ops : List Op}
    (hg : Runs.Guarded step loopSafe.admits (mem.rtpSessionInit config) ops) :
    Sheltered (collisions mem config ops) (runSession mem config ops) :=
  sheltered_rules.run ((settled_rtpSessionInit mem config).guarded hg)
    (sheltered_rtpSessionInit mem config)

/-- A packet from an address that was noticed recently does not make the session change its SSRC, and an
    address is noticed by the packet that does. -/
structure ChangesOnce (w : CollisionWatch) (s : Session) (op : Op) (a : SockaddrIn) : Prop where
  stays : w.recent a = true → (step s op).selfMember.ssrc = s.selfMember.ssrc
  noticed : (step s op).selfMember.ssrc ≠ s.selfMember.ssrc →
    (collisionHistory.note w s op).last a = some w.now

theorem Sheltered.changesOnce {w : CollisionWatch} {s : Session} (h : Sheltered w s) {op : Op}
    {a : SockaddrIn} (hsender : op.sender = some a) (hadmits : loopSafe.admits s op) :
    ChangesOnce w s op a := by
  have hstart : Handling a w s w s := ⟨⟨h, Or.inl rfl⟩, rfl, id⟩
  have hstep := (handling_rules a w s).step w s op hstart (ActGuard.only_admits hsender hadmits)
  refine ⟨fun hrecent => hstep.named.resolve_right fun hchanged => ?_,
    fun hchanged => (hstep.named.resolve_left hchanged).2⟩
  rw [hrecent] at hchanged
  exact absurd hchanged.1 (by decide)

/-- In every run in which the sources of packets are safe, a packet from an address that made the session
    change its SSRC does not do so again until 50 ticks have passed without one that carries it. -/
theorem changes_once_per_address (mem : Session) (config : RtpSessionConfig) (ops : List Op)
    (hg : Runs.Guarded step loopSafe.admits (mem.rtpSessionInit config) ops) (op : Op)
    (a : SockaddrIn) (hsender : op.sender = some a)
    (hadmits : loopSafe.admits (runSession mem config ops) op) :
    (collisions mem config ops).now = ticks ops ∧
      ChangesOnce (collisions mem config ops) (runSession mem config ops) op a :=
  ⟨(clocked_collisionHistory.run ops _ _).trans (Nat.zero_add _),
    (sheltered_run hg).changesOnce hsender hadmits⟩

/-- Data from port 7 with the session's SSRC 2, and 49 ticks later data from there with its new one. -/
theorem changes_once_looped :
    ChangesOnce
      (collisions (zeroed (.still .zero)) (plainConfig 1000 4)
        (.rxRtp (rtpFrom 2) 12 (.ofPort 7) :: List.replicate 49 .tick))
      (runSession (zeroed (.still .zero)) (plainConfig 1000 4)
        (.rxRtp (rtpFrom 2) 12 (.ofPort 7) :: List.replicate 49 .tick))
      (.rxRtp (rtpFrom 3) 12 (.ofPort 7)) (.ofPort 7) :=
  (changes_once_per_address _ _ _ (by decide +kernel) _ _ rfl (by decide +kernel)).2

/-- Memory in which `random32` counts from 0 for long. -/
def manyDraws : Session :=
  zeroed { Env.still .zero with random32 := (List.range 40).map UInt32.ofNat }

/-- Data with the session's SSRC from 17 addresses, each with the SSRC that the one before has led to. -/
def collisionsFrom17 : List Op :=
  (List.range 17).map fun i =>
    .rxRtp (rtpFrom (UInt8.ofNat (i + 1))) 12 (.ofPort (UInt16.ofNat (200 + i)))

/-- The seventeenth address finds the conflict table full, and its next packet makes the session change
    its SSRC again. -/
theorem changes_twice_when_full :
    ¬ ∀ (mem : Session) (config : RtpSessionConfig) (ops : List Op) (op : Op) (a : SockaddrIn),
      op.sender = some a → ChangesOnce (collisions mem config ops) (runSession mem config ops) op a := by
  intro hall
  have hstays := (hall manyDraws (plainConfig 1000 4) collisionsFrom17
    (.rxRtp (rtpFrom 18) 12 (.ofPort 216)) (.ofPort 216) rfl).stays (by decide +kernel)
  revert hstays
  decide +kernel

end Session

end Prtp
