import Prtp.Types
import Mathlib.Data.List.Find
import Mathlib.Data.List.FinRange

set_option autoImplicit false

/-! # Members: the table and the timers

`rtp_member.c`, `rtp_member_table.c`, `rtp_timers.c` and `rtp_session_util.c`: looking up, creating
and releasing members, and starting and stopping their three timers. -/

namespace Prtp

/-! ## `rtp_member.c` -/

/-- `rtp_member_init`: the addresses, `rtp_src` and the SR fields keep what is in memory. -/
def rtpMemberInit (m : RtpMember) (ssrc : UInt32) : RtpMember :=
  { m with
    ssrc := ssrc
    cname := m.cname.store 0 0
    cnameLen := 0
    flags := .zero
    lastSr := ntpTsInit
    lastSrLocalTime := ntpTsInit }

/-- `rtp_member_set_cname`, given the bytes copied. The cap at `RTP_CONFIG_SDES_CNAME_MAX = 256`
    never applies to an 8-bit length. -/
def rtpMemberSetCname (m : RtpMember) (cname : List UInt8) : RtpMember :=
  { m with
    cnameLen := UInt8.ofNat cname.length
    cname := m.cname.storeBytes 0 cname }

namespace RtpMember

def setSelf (m : RtpMember) : RtpMember := { m with flags := { m.flags with self := true } }

def setRtpHeard (m : RtpMember) : RtpMember := { m with flags := { m.flags with rtpHeard := true } }

def clearRtpHeard (m : RtpMember) : RtpMember :=
  { m with flags := { m.flags with rtpHeard := false } }

def setRtcpHeard (m : RtpMember) : RtpMember :=
  { m with flags := { m.flags with rtcpHeard := true } }

def setByeReceived (m : RtpMember) : RtpMember :=
  { m with flags := { m.flags with byeReceived := true } }

def setValidated (m : RtpMember) : RtpMember :=
  { m with flags := { m.flags with validated := true } }

def setSender (m : RtpMember) : RtpMember := { m with flags := { m.flags with sender := true } }

def clearSender (m : RtpMember) : RtpMember := { m with flags := { m.flags with sender := false } }

def setCsrc (m : RtpMember) : RtpMember := { m with flags := { m.flags with csrc := true } }

end RtpMember

/-! ## `rtp_member_table.c` -/

namespace RtpMemberTable

/-- `rtp_member_table_init` -/
def rtpMemberTableInit (mt : RtpMemberTable) : RtpMemberTable :=
  { mt with
    pool := Pool.full (List.finRange _) (List.nodup_finRange _) List.mem_finRange
    numMembers := 0 }

/-- `rtp_member_table_lookup`: the first used slot with that SSRC. -/
def rtpMemberTableLookup (mt : RtpMemberTable) (ssrc : UInt32) : Option Slot :=
  mt.pool.findUsed fun m => decide ((mt.memberArray m).ssrc = ssrc)

/-- `rtp_member_table_alloc_member` -/
def rtpMemberTableAllocMember (mt : RtpMemberTable) (ssrc : UInt32) :
    Option (Slot × RtpMemberTable) :=
  match mt.pool.take with
  | none => none
  | some (m, pool) =>
    some (m,
      { memberArray := Function.update mt.memberArray m (rtpMemberInit (mt.memberArray m) ssrc)
        pool := pool
        numMembers := mt.numMembers + 1 })

/-- `rtp_member_table_free` -/
def rtpMemberTableFree (mt : RtpMemberTable) (m : Slot) : RtpMemberTable :=
  { mt with pool := mt.pool.release m, numMembers := mt.numMembers - 1 }

/-- The loop of `rtp_member_table_change_random_ssrc`: the first draw no used slot has, and the
    draws that are left. -/
def drawUnusedSsrc (mt : RtpMemberTable) : List UInt32 → Option (UInt32 × List UInt32)
  | [] => none
  | ssrc :: draws =>
    if mt.rtpMemberTableLookup ssrc = none then some (ssrc, draws) else mt.drawUnusedSsrc draws

end RtpMemberTable

namespace Session

/-- `rtp_random32` where it is called once. -/
def rtpRandom32 (s : Session) : UInt32 × Session :=
  (s.env.random32.headD 0, { s with env := { s.env with random32 := s.env.random32.tail } })

/-- `rtp_member_table_change_random_ssrc` -/
def rtpMemberTableChangeRandomSsrc (s : Session) (m : Slot) : Session :=
  match s.memberTable.drawUnusedSsrc s.env.random32 with
  | none => { s with undef := true }
  | some (ssrc, draws) =>
    { s with env := { s.env with random32 := draws } }.modifyMember m
      fun x => { x with ssrc := ssrc }

/-! ## `rtp_timers.c` -/

/-- `soft_timer_add` on the session's wheel. -/
def softTimerAdd (s : Session) (e : TimerElem) (expires : Int) : Session :=
  s.setTimer (s.softTimer.softTimerAdd e expires)

/-- `soft_timer_del` on the session's wheel. -/
def softTimerDel (s : Session) (e : TimerElem) : Session :=
  s.setTimer (s.softTimer.softTimerDel e)

/-- `is_soft_timer_running` on the session's wheel. -/
def isSoftTimerRunning (s : Session) (e : TimerElem) : Bool := s.softTimer.isSoftTimerRunning e

/-- `rtp_timers_init_member`: `soft_timer_init_elem` makes a link point at itself, which is only
    sound for a link that is on no list. -/
def rtpTimersInitMember (s : Session) (m : Slot) : Session :=
  { s with
    undef :=
      s.undef || s.isSoftTimerRunning (.member m) || s.isSoftTimerRunning (.sender m) ||
        s.isSoftTimerRunning (.leave m) }

/-- `rtp_timers_deinit_member` -/
def rtpTimersDeinitMember (s : Session) (m : Slot) : Session :=
  ((s.softTimerDel (.member m)).softTimerDel (.sender m)).softTimerDel (.leave m)

/-- `rtp_timers_sender_start` -/
def rtpTimersSenderStart (s : Session) (m : Slot) : Session :=
  s.softTimerAdd (.sender m) rtpConfigSenderTimeout

/-- `rtp_timers_sender_stop` -/
def rtpTimersSenderStop (s : Session) (m : Slot) : Session := s.softTimerDel (.sender m)

/-- `rtp_timers_sender_restart` -/
def rtpTimersSenderRestart (s : Session) (m : Slot) : Session :=
  (s.softTimerDel (.sender m)).softTimerAdd (.sender m) rtpConfigSenderTimeout

/-- `rtp_timers_member_start` -/
def rtpTimersMemberStart (s : Session) (m : Slot) : Session :=
  s.softTimerAdd (.member m) rtpConfigMemberTimeout

/-- `rtp_timers_member_stop` -/
def rtpTimersMemberStop (s : Session) (m : Slot) : Session := s.softTimerDel (.member m)

/-- `rtp_timers_member_restart` -/
def rtpTimersMemberRestart (s : Session) (m : Slot) : Session :=
  (s.softTimerDel (.member m)).softTimerAdd (.member m) rtpConfigMemberTimeout

/-- `rtp_timers_leave_start` -/
def rtpTimersLeaveStart (s : Session) (m : Slot) : Session :=
  s.softTimerAdd (.leave m) rtpConfigLeaveTimeout

/-! ## `rtp_session_util.c` -/

/-- `rtp_session_lookup_member` -/
def rtpSessionLookupMember (s : Session) (ssrc : UInt32) : Option Slot :=
  s.memberTable.rtpMemberTableLookup ssrc

/-- `rtp_session_alloc_member` -/
def rtpSessionAllocMember (s : Session) (ssrc : UInt32) : Option (Slot × Session) :=
  match s.memberTable.rtpMemberTableAllocMember ssrc with
  | none => none
  | some (m, mt) => some (m, { s with memberTable := mt }.rtpTimersInitMember m)

/-- `rtp_session_dealloc_member` -/
def rtpSessionDeallocMember (s : Session) (m : Slot) : Session :=
  let s := s.rtpTimersDeinitMember m
  { s with memberTable := s.memberTable.rtpMemberTableFree m }

end Session

/-! ## What the table operations do -/

theorem Session.lookup_eq_some {s : Session} {ssrc : UInt32} {m : Slot}
    (h : s.rtpSessionLookupMember ssrc = some m) : m ∈ s.usedList ∧ (s.member m).ssrc = ssrc := by
  obtain ⟨hmem, hssrc⟩ := Pool.findUsed_eq_some h
  exact ⟨hmem, of_decide_eq_true hssrc⟩

theorem Session.lookup_eq_none {s : Session} {ssrc : UInt32} :
    s.rtpSessionLookupMember ssrc = none ↔ ∀ m ∈ s.usedList, (s.member m).ssrc ≠ ssrc := by
  simp [rtpSessionLookupMember, RtpMemberTable.rtpMemberTableLookup, Pool.findUsed_eq_none,
    usedList, member]

/-- Only the used slots and their SSRCs matter. -/
theorem Session.lookup_congr {s t : Session} (hused : t.usedList = s.usedList)
    (hssrc : ∀ m ∈ s.usedList, (t.member m).ssrc = (s.member m).ssrc) (ssrc : UInt32) :
    t.rtpSessionLookupMember ssrc = s.rtpSessionLookupMember ssrc := by
  have hpool : t.memberTable.pool.used = s.memberTable.pool.used := hused
  simp only [rtpSessionLookupMember, RtpMemberTable.rtpMemberTableLookup, Pool.findUsed, hpool]
  apply List.find?_congr
  intro m hm
  have hm := hssrc m hm
  rw [member, member] at hm
  rw [hm]

/-- A change to a record that keeps its SSRC. -/
theorem Session.lookup_modifyMember {s t : Session} {m : Slot} {f : RtpMember → RtpMember}
    (hf : (f (s.member m)).ssrc = (s.member m).ssrc)
    (ht : t.memberTable = (s.modifyMember m f).memberTable) (ssrc : UInt32) :
    t.rtpSessionLookupMember ssrc = s.rtpSessionLookupMember ssrc := by
  refine lookup_congr ?_ ?_ ssrc
  · rw [usedList, ht]
    rfl
  · intro j _
    rw [member, ht, ← member, member_modifyMember]
    split
    · rename_i hj
      rw [hf, hj]
    · rfl

end Prtp
