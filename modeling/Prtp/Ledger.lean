import Prtp.Library.Tally
import Prtp.Types

set_option autoImplicit false

/-! # The ledger of a session

What the membership bookkeeping of RFC 3550 6.2 and 6.3 is for, apart from the code that does it: who
is in the session, who sends, which of the three timers watches whom, and two counters that have to
agree with that. `Event` is everything that can happen to it. A ledger is `Kept` if the counters are
right and every other participant is watched by the timers its state calls for; an event keeps it so
unless it takes the session itself off its own ledger. -/

namespace Prtp

/-- What a ledger says about one slot of the table. -/
structure Entry where
  used : Bool
  self : Bool
  bye : Bool
  heard : Bool
  memberTe : Bool
  senderTe : Bool
  leaveTe : Bool
deriving DecidableEq

namespace Entry

/-- A participant that has not left. -/
def present (e : Entry) : Bool := e.used && !e.bye

/-- A participant that sends data. -/
def sending (e : Entry) : Bool := e.present && e.heard

/-- Each timer of the slot of another participant runs exactly when it has something to watch. -/
structure Remote (e : Entry) : Prop where
  notSelf : e.used = true → e.self = false
  memberTe : e.memberTe = e.present
  senderTe : e.senderTe = e.sending
  leaveTe : e.leaveTe = (e.used && e.bye)

instance (e : Entry) : Decidable e.Remote :=
  decidable_of_iff
    ((e.used = true → e.self = false) ∧ e.memberTe = e.present ∧ e.senderTe = e.sending ∧
      e.leaveTe = (e.used && e.bye))
    ⟨fun h => ⟨h.1, h.2.1, h.2.2.1, h.2.2.2⟩, fun h => ⟨h.1, h.2, h.3, h.4⟩⟩

end Entry

/-- The slots, which of them is the session's own, and the counters. -/
@[ext] structure Ledger where
  entry : Slot → Entry
  self : Slot
  members : UInt32
  senders : UInt32
  weSent : Bool

namespace Ledger

/-- Replace the entry of `m`. -/
def put (l : Ledger) (m : Slot) (e : Entry) : Ledger :=
  { l with entry := Function.update l.entry m e }

@[simp] theorem self_put (l : Ledger) (m : Slot) (e : Entry) : (l.put m e).self = l.self := rfl

@[simp] theorem members_put (l : Ledger) (m : Slot) (e : Entry) :
    (l.put m e).members = l.members := rfl

@[simp] theorem senders_put (l : Ledger) (m : Slot) (e : Entry) :
    (l.put m e).senders = l.senders := rfl

@[simp] theorem weSent_put (l : Ledger) (m : Slot) (e : Entry) :
    (l.put m e).weSent = l.weSent := rfl

@[simp] theorem entry_put_self (l : Ledger) (m : Slot) (e : Entry) : (l.put m e).entry m = e :=
  Function.update_self ..

theorem entry_put_of_ne (l : Ledger) {m j : Slot} (h : j ≠ m) (e : Entry) :
    (l.put m e).entry j = l.entry j :=
  Function.update_of_ne h ..

@[simp] theorem put_put (l : Ledger) (m : Slot) (e e' : Entry) : (l.put m e).put m e' = l.put m e' := by
  simp [put]

theorem put_entry (l : Ledger) (m : Slot) : l.put m (l.entry m) = l := by
  simp [put]

/-- Who is present, the session itself included. -/
def present (l : Ledger) (m : Slot) : Bool := (l.entry m).present

/-- Who sends: the session itself if it has sent lately, another if it was heard lately. -/
def sending (l : Ledger) (m : Slot) : Bool := if m = l.self then l.weSent else (l.entry m).sending

/-! ## Events -/

/-- What can happen to a ledger. -/
inductive Event
  /-- nothing -/
  | idle
  /-- a new participant takes a slot -/
  | join (m : Slot) (sending : Bool)
  /-- a participant is heard again, by a data packet or not -/
  | hear (m : Slot) (data : Bool)
  /-- a participant's first data packet -/
  | speak (m : Slot)
  /-- a BYE names a participant -/
  | quit (m : Slot)
  /-- the session sends a data packet -/
  | transmit
  | memberExpired (m : Slot)
  | senderExpired (m : Slot)
  | leaveExpired (m : Slot)

/-- When an event can happen. -/
def Enabled (l : Ledger) : Event → Prop
  | .idle | .transmit => True
  | .join m _ => (l.entry m).used = false
  | .hear m data =>
      (l.entry m).present = true ∧
        (data = true → (l.entry m).self = true ∨ (l.entry m).heard = true)
  | .speak m =>
      (l.entry m).present = true ∧ (l.entry m).self = false ∧ (l.entry m).heard = false
  | .quit m => (l.entry m).present = true
  | .memberExpired m => (l.entry m).memberTe = true
  | .senderExpired m => (l.entry m).senderTe = true
  | .leaveExpired m => (l.entry m).leaveTe = true

/-- One more, if `b`. -/
def bump (n : UInt32) (b : Bool) : UInt32 := if b then n + 1 else n

/-- One less, if `b`. -/
def drop (n : UInt32) (b : Bool) : UInt32 := if b then n - 1 else n

/-- Nobody is watched here any more. -/
def vacate (e : Entry) : Entry :=
  { e with used := false, memberTe := false, senderTe := false, leaveTe := false }

/-- What an event does. -/
def apply (l : Ledger) : Event → Ledger
  | .idle => l
  | .join m sending =>
      { l.put m
          { (l.entry m) with
            used := true, self := false, bye := false, heard := sending, memberTe := true
            senderTe := (l.entry m).senderTe || sending } with
        members := l.members + 1
        senders := bump l.senders sending }
  | .hear m data =>
      l.put m
        { (l.entry m) with
          heard := (l.entry m).heard || data
          memberTe := true
          senderTe := (l.entry m).senderTe || data }
  | .speak m =>
      { l.put m { (l.entry m) with heard := true, memberTe := true, senderTe := true } with
        senders := l.senders + 1 }
  | .quit m =>
      { l.put m
          { (l.entry m) with bye := true, memberTe := false, senderTe := false, leaveTe := true } with
        members := l.members - 1
        senders := drop l.senders (l.entry m).heard }
  | .transmit =>
      { l.put l.self { (l.entry l.self) with senderTe := true } with
        senders := bump l.senders !l.weSent
        weSent := true }
  | .memberExpired m =>
      { l.put m (vacate (l.entry m)) with
        members := l.members - 1
        senders := drop l.senders (l.entry m).heard }
  | .senderExpired m =>
      { l.put m { (l.entry m) with heard := false, senderTe := false } with
        senders := l.senders - 1
        weSent := l.weSent && m ≠ l.self }
  | .leaveExpired m => l.put m (vacate (l.entry m))

/-! ## Kept ledgers -/

/-- The session itself is on its own ledger, and has not left. -/
def HasSelf (l : Ledger) : Prop :=
  (l.entry l.self).used = true ∧ (l.entry l.self).self = true ∧ (l.entry l.self).bye = false

instance (l : Ledger) : Decidable l.HasSelf := inferInstanceAs (Decidable (_ ∧ _))

/-- The counters are right and everybody else is watched by the right timers. -/
structure Kept (l : Ledger) : Prop where
  hasSelf : l.HasSelf
  remote : ∀ m, m ≠ l.self → (l.entry m).Remote
  members : l.members = UInt32.ofNat (tally l.present)
  senders : l.senders = UInt32.ofNat (tally l.sending)

/-- The session's own slot: nothing but its sender timer runs, and that while it sends. -/
structure OwnTimers (l : Ledger) : Prop where
  memberTe : (l.entry l.self).memberTe = false
  leaveTe : (l.entry l.self).leaveTe = false
  senderTe : (l.entry l.self).senderTe = l.weSent

/-- A counter after one of the things it counts has changed its answer. -/
def recount (n : UInt32) (old new : Bool) : UInt32 := bump (drop n old) new

@[simp] theorem bump_true (n : UInt32) : bump n true = n + 1 := rfl

@[simp] theorem bump_false (n : UInt32) : bump n false = n := rfl

@[simp] theorem drop_true (n : UInt32) : drop n true = n - 1 := rfl

@[simp] theorem recount_false_left (n : UInt32) (new : Bool) : recount n false new = bump n new :=
  rfl

@[simp] theorem recount_false_right (n : UInt32) (old : Bool) : recount n old false = drop n old :=
  rfl

@[simp] theorem recount_same (n : UInt32) (b : Bool) : recount n b b = n := by
  cases b
  · rfl
  · simp [recount]

theorem ofNat_recount {n n' : Nat} {old new : Bool} (h : n' + old.toNat = n + new.toNat) :
    UInt32.ofNat n' = recount (UInt32.ofNat n) old new := by
  cases old <;> cases new <;> simp only [Bool.toNat_false, Bool.toNat_true] at h
  · obtain rfl : n' = n := by omega
    rfl
  · obtain rfl : n' = n + 1 := by omega
    exact UInt32.ofNat_add n 1
  · obtain rfl : n = n' + 1 := by omega
    simp [UInt32.ofNat_add]
  · obtain rfl : n' = n := by omega
    exact (recount_same _ true).symm

theorem present_put (l : Ledger) (m : Slot) (e : Entry) :
    (l.put m e).present = Function.update l.present m e.present := by
  funext j
  by_cases hj : j = m
  · subst hj
    simp [present]
  · rw [present, entry_put_of_ne l hj, Function.update_of_ne hj, present]

theorem sending_put_of_ne (l : Ledger) {m : Slot} (hm : m ≠ l.self) (e : Entry) :
    (l.put m e).sending = Function.update l.sending m e.sending := by
  funext j
  by_cases hj : j = m
  · subst hj
    simp [sending, hm]
  · simp [sending, entry_put_of_ne l hj, Function.update_of_ne hj]

theorem tally_present_put (l : Ledger) (m : Slot) (e : Entry) :
    tally (l.put m e).present + (l.entry m).present.toNat = tally l.present + e.present.toNat := by
  rw [present_put]
  exact tally_update l.present m e.present

theorem tally_sending_put (l : Ledger) {m : Slot} (hm : m ≠ l.self) (e : Entry) :
    tally (l.put m e).sending + (l.entry m).sending.toNat = tally l.sending + e.sending.toNat := by
  rw [sending_put_of_ne l hm]
  have h := tally_update l.sending m e.sending
  rwa [sending, if_neg hm] at h

namespace Kept

/-- A kept ledger in which another participant's entry is replaced, and the counters follow. -/
theorem put_remote {l : Ledger} (h : l.Kept) {m : Slot} (hm : m ≠ l.self) {e : Entry}
    (he : e.Remote) :
    Kept
      { l.put m e with
        members := recount l.members (l.entry m).present e.present
        senders := recount l.senders (l.entry m).sending e.sending } where
  hasSelf := by
    have hself := h.hasSelf
    rwa [HasSelf, ← entry_put_of_ne l hm.symm e] at hself
  remote := by
    intro j hj
    by_cases hjm : j = m
    · subst hjm
      simpa using he
    · have hold := h.remote j hj
      rwa [← entry_put_of_ne l hjm e] at hold
  members := by
    rw [h.members]
    exact (ofNat_recount (tally_present_put l m e)).symm
  senders := by
    rw [h.senders]
    exact (ofNat_recount (tally_sending_put l hm e)).symm

/-- A kept ledger in which the session's own entry is replaced by one that is still its own. -/
theorem put_self {l : Ledger} (h : l.Kept) {e : Entry} (hused : e.used = true)
    (hflag : e.self = true) (hbye : e.bye = false) (sending : Bool) :
    Kept
      { l.put l.self e with
        senders := recount l.senders l.weSent sending
        weSent := sending } where
  hasSelf := by simp [HasSelf, hused, hflag, hbye]
  remote := by
    intro j hj
    have hold := h.remote j hj
    rwa [← entry_put_of_ne l hj e] at hold
  members := by
    have hpresent : (l.entry l.self).present = e.present := by
      obtain ⟨hu, -, hb⟩ := h.hasSelf
      simp [Entry.present, hused, hbye, hu, hb]
    have htally := tally_present_put l l.self e
    rw [hpresent, Nat.add_right_cancel_iff] at htally
    show l.members = UInt32.ofNat (tally (l.put l.self e).present)
    rw [htally, h.members]
  senders := by
    have hsending : Ledger.sending { l.put l.self e with
        senders := recount l.senders l.weSent sending
        weSent := sending } = Function.update l.sending l.self sending := by
      funext j
      by_cases hj : j = l.self
      · subst hj
        simp [Ledger.sending]
      · simp [Ledger.sending, hj, entry_put_of_ne l hj]
    have htally := tally_update l.sending l.self sending
    rw [Ledger.sending, if_pos rfl] at htally
    rw [hsending, ofNat_recount htally, ← h.senders]

theorem ne_self_of_unused {l : Ledger} (h : l.Kept) {m : Slot} (hm : (l.entry m).used = false) :
    m ≠ l.self := by
  rintro rfl
  rw [h.hasSelf.1] at hm
  exact absurd hm (by decide)

theorem ne_self_of_not_self {l : Ledger} (h : l.Kept) {m : Slot} (hm : (l.entry m).self = false) :
    m ≠ l.self := by
  rintro rfl
  rw [h.hasSelf.2.1] at hm
  exact absurd hm (by decide)

theorem join {l : Ledger} (h : l.Kept) {m : Slot} (hfree : (l.entry m).used = false)
    (sending : Bool) : (l.apply (.join m sending)).Kept := by
  have hm := h.ne_self_of_unused hfree
  obtain ⟨-, -, hsnd, hlv⟩ := h.remote m hm
  simp only [Entry.present, Entry.sending, hfree, Bool.false_and] at hsnd hlv
  have hput := h.put_remote hm (e := { (l.entry m) with
    used := true, self := false, bye := false, heard := sending, memberTe := true
    senderTe := (l.entry m).senderTe || sending })
    ⟨fun _ => rfl, rfl, by simp [Entry.sending, Entry.present, hsnd], by simp [hlv]⟩
  simpa [Ledger.apply, Entry.present, Entry.sending, hfree] using hput

/-- Hearing another participant again changes nothing: the timers it starts already run. -/
theorem apply_hear_remote {l : Ledger} (h : l.Kept) {m : Slot} (hm : m ≠ l.self) {data : Bool}
    (henabled : l.Enabled (.hear m data)) : l.apply (.hear m data) = l := by
  obtain ⟨hpresent, hdata⟩ := henabled
  have hR := h.remote m hm
  have hused : (l.entry m).used = true := by
    rw [Entry.present, Bool.and_eq_true] at hpresent
    exact hpresent.1
  have hheard : data = true → (l.entry m).heard = true := fun hd =>
    (hdata hd).resolve_left (by rw [hR.notSelf hused]; decide)
  have hsame : ((l.entry m).heard || data) = (l.entry m).heard ∧
      ((l.entry m).senderTe || data) = (l.entry m).senderTe := by
    cases hd : data with
    | false => simp
    | true => simp [hheard hd, hR.senderTe, Entry.sending, hpresent]
  have hmem := hR.memberTe.trans hpresent
  simp only [Ledger.apply, hsame.1, hsame.2, ← hmem]
  exact l.put_entry m

theorem hear {l : Ledger} (h : l.Kept) {m : Slot} {data : Bool}
    (henabled : l.Enabled (.hear m data)) : (l.apply (.hear m data)).Kept := by
  by_cases hm : m = l.self
  · subst hm
    obtain ⟨hu, hs, hb⟩ := h.hasSelf
    have hput := h.put_self (e := { (l.entry l.self) with
      heard := (l.entry l.self).heard || data
      memberTe := true
      senderTe := (l.entry l.self).senderTe || data }) hu hs hb l.weSent
    rw [recount_same] at hput
    exact hput
  · rw [h.apply_hear_remote hm henabled]
    exact h

theorem speak {l : Ledger} (h : l.Kept) {m : Slot} (henabled : l.Enabled (.speak m)) :
    (l.apply (.speak m)).Kept := by
  obtain ⟨hpresent, hflag, hheard⟩ := henabled
  have hm := h.ne_self_of_not_self hflag
  obtain ⟨-, -, -, hlv⟩ := h.remote m hm
  rw [Entry.present, Bool.and_eq_true] at hpresent
  have hput := h.put_remote hm (e := { (l.entry m) with
    heard := true, memberTe := true, senderTe := true })
    ⟨fun _ => hflag, by simp [Entry.present, hpresent],
      by simp [Entry.sending, Entry.present, hpresent], hlv⟩
  simpa [Ledger.apply, Entry.present, Entry.sending, hpresent, hheard] using hput

theorem quit {l : Ledger} (h : l.Kept) {m : Slot} (hm : m ≠ l.self)
    (henabled : l.Enabled (.quit m)) : (l.apply (.quit m)).Kept := by
  have hpresent : (l.entry m).present = true := henabled
  rw [Entry.present, Bool.and_eq_true] at hpresent
  have hput := h.put_remote hm (e := { (l.entry m) with
    bye := true, memberTe := false, senderTe := false, leaveTe := true })
    ⟨(h.remote m hm).notSelf, by simp [Entry.present], by simp [Entry.sending, Entry.present],
      by simp [hpresent]⟩
  simpa [Ledger.apply, Entry.present, Entry.sending, hpresent] using hput

theorem transmit {l : Ledger} (h : l.Kept) : (l.apply .transmit).Kept := by
  obtain ⟨hu, hs, hb⟩ := h.hasSelf
  have hput := h.put_self (e := { (l.entry l.self) with senderTe := true }) hu hs hb true
  cases hw : l.weSent <;> simpa [Ledger.apply, hw] using hput

theorem remote_vacate (e : Entry) : (vacate e).Remote :=
  ⟨by simp [vacate], by simp [vacate, Entry.present], by simp [vacate, Entry.sending, Entry.present],
    by simp [vacate]⟩

theorem memberExpired {l : Ledger} (h : l.Kept) {m : Slot} (hm : m ≠ l.self)
    (henabled : l.Enabled (.memberExpired m)) : (l.apply (.memberExpired m)).Kept := by
  have hpresent : (l.entry m).present = true := (h.remote m hm).memberTe.symm.trans henabled
  have hput := h.put_remote hm (remote_vacate (l.entry m))
  rw [Entry.sending, hpresent] at hput
  simpa [Ledger.apply, Entry.present, Entry.sending, vacate] using hput

theorem senderExpired {l : Ledger} (h : l.Kept) {m : Slot} (hsend : m = l.self → l.weSent = true)
    (henabled : l.Enabled (.senderExpired m)) : (l.apply (.senderExpired m)).Kept := by
  by_cases hm : m = l.self
  · subst hm
    obtain ⟨hu, hs, hb⟩ := h.hasSelf
    have hput := h.put_self (e := { (l.entry l.self) with heard := false, senderTe := false })
      hu hs hb false
    simpa [Ledger.apply, hsend rfl] using hput
  · obtain ⟨hnot, hmem, hsnd, hlv⟩ := h.remote m hm
    have hsending : (l.entry m).sending = true := hsnd.symm.trans henabled
    have hput := h.put_remote hm (e := { (l.entry m) with heard := false, senderTe := false })
      ⟨hnot, hmem, by simp [Entry.sending], hlv⟩
    have hpresent : Entry.present { (l.entry m) with heard := false, senderTe := false } =
        (l.entry m).present := rfl
    rw [hsending, hpresent, recount_same] at hput
    simpa [Ledger.apply, Entry.sending, hm] using hput

theorem leaveExpired {l : Ledger} (h : l.Kept) {m : Slot} (hm : m ≠ l.self)
    (henabled : l.Enabled (.leaveExpired m)) : (l.apply (.leaveExpired m)).Kept := by
  have hleft : (l.entry m).used = true ∧ (l.entry m).bye = true := by
    have hrun : (l.entry m).leaveTe = true := henabled
    rwa [(h.remote m hm).leaveTe, Bool.and_eq_true] at hrun
  have hput := h.put_remote hm (remote_vacate (l.entry m))
  -- who has left is not counted before its slot is freed, nor after
  have hcount : (l.entry m).present = (vacate (l.entry m)).present ∧
      (l.entry m).sending = (vacate (l.entry m)).sending := by
    simp [Entry.sending, Entry.present, vacate, hleft]
  rw [hcount.1, hcount.2, recount_same, recount_same] at hput
  exact hput

/-- Every event keeps a kept ledger, if the session itself is still on it afterwards and its sender
    timer does not expire while it is not sending. -/
theorem apply {l : Ledger} (h : l.Kept) {e : Event} (henabled : l.Enabled e)
    (hself : (l.apply e).HasSelf) (hsend : e = .senderExpired l.self → l.weSent = true) :
    (l.apply e).Kept := by
  cases e with
  | idle => exact h
  | join m sending => exact h.join henabled sending
  | hear m data => exact h.hear henabled
  | speak m => exact h.speak henabled
  | quit m =>
      refine h.quit ?_ henabled
      rintro rfl
      simp [HasSelf, Ledger.apply] at hself
  | transmit => exact h.transmit
  | memberExpired m =>
      refine h.memberExpired ?_ henabled
      rintro rfl
      simp [HasSelf, Ledger.apply, vacate] at hself
  | senderExpired m => exact h.senderExpired (fun hm => hsend (by rw [hm])) henabled
  | leaveExpired m =>
      refine h.leaveExpired ?_ henabled
      rintro rfl
      simp [HasSelf, Ledger.apply, vacate] at hself

end Kept

/-- A session that has lost its own entry never gets it back. -/
theorem not_hasSelf_apply {l : Ledger} (h : ¬ l.HasSelf) {e : Event} (henabled : l.Enabled e) :
    ¬ (l.apply e).HasSelf := by
  intro hself
  apply h
  have hother : ∀ {m x}, m ≠ l.self → ((l.put m x).entry l.self) = l.entry l.self :=
    fun hm => entry_put_of_ne l (Ne.symm hm) _
  cases e with
  | idle => exact hself
  | transmit => simpa [HasSelf, Ledger.apply] using hself
  | hear m data | speak m | senderExpired m =>
      by_cases hm : m = l.self
      · subst hm
        simpa [HasSelf, Ledger.apply] using hself
      · simpa [HasSelf, Ledger.apply, hother hm] using hself
  | join m sending | quit m | memberExpired m | leaveExpired m =>
      by_cases hm : m = l.self
      · subst hm
        simp [HasSelf, Ledger.apply, vacate] at hself
      · simpa [HasSelf, Ledger.apply, hother hm] using hself

/-- The session itself stays on its ledger, with its timers in order, through every event but those
    that name it as if it were another participant. -/
theorem OwnTimers.apply {l : Ledger} (hkept : l.Kept) (h : l.OwnTimers) {e : Event}
    (henabled : l.Enabled e) (hhear : ∀ data, e ≠ .hear l.self data) (hquit : e ≠ .quit l.self) :
    (l.apply e).HasSelf ∧ (l.apply e).OwnTimers := by
  obtain ⟨hu, hs, hb⟩ := hkept.hasSelf
  obtain ⟨hmem, hlv, hsnd⟩ := h
  have hother : ∀ {m x}, m ≠ l.self → ((l.put m x).entry l.self) = l.entry l.self :=
    fun hm => entry_put_of_ne l (Ne.symm hm) _
  -- an event at another slot leaves the own slot and `we_sent` as they are
  have hframe : ∀ {l' : Ledger}, l'.self = l.self → l'.weSent = l.weSent →
      l'.entry l.self = l.entry l.self → l'.HasSelf ∧ l'.OwnTimers := by
    intro l' h1 h2 h3
    refine ⟨?_, ?_, ?_, ?_⟩
    · rw [HasSelf, h1, h3]
      exact ⟨hu, hs, hb⟩
    · rw [h1, h3, hmem]
    · rw [h1, h3, hlv]
    · rw [h1, h2, h3, hsnd]
  cases e with
  | idle => exact ⟨⟨hu, hs, hb⟩, hmem, hlv, hsnd⟩
  | transmit => exact ⟨by simp [HasSelf, Ledger.apply, hu, hs, hb], by simpa [Ledger.apply] using hmem,
      by simpa [Ledger.apply] using hlv, by simp [Ledger.apply]⟩
  | join m sending =>
      exact hframe rfl rfl (hother (hkept.ne_self_of_unused henabled))
  | hear m data =>
      refine hframe rfl rfl (hother ?_)
      rintro rfl
      exact hhear data rfl
  | speak m => exact hframe rfl rfl (hother (hkept.ne_self_of_not_self henabled.2.1))
  | quit m =>
      refine hframe rfl rfl (hother ?_)
      rintro rfl
      exact hquit rfl
  | memberExpired m =>
      refine hframe rfl rfl (hother ?_)
      rintro rfl
      exact absurd (hmem.symm.trans henabled) (by decide)
  | senderExpired m =>
      by_cases hm : m = l.self
      · subst hm
        exact ⟨by simp [HasSelf, Ledger.apply, hu, hs, hb], by simpa [Ledger.apply] using hmem,
          by simpa [Ledger.apply] using hlv, by simp [Ledger.apply]⟩
      · exact hframe rfl (by simp [Ledger.apply, hm]) (hother hm)
  | leaveExpired m =>
      refine hframe rfl rfl (hother ?_)
      rintro rfl
      exact absurd (hlv.symm.trans henabled) (by decide)

end Ledger

end Prtp
