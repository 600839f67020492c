import Prtp.ReportPace
import Prtp.ReportFailures
import Prtp.OwnAddresses
import Prtp.SessionDeinit
import Prtp.AverageSize
import Mathlib.Data.Rat.Floor

set_option autoImplicit false

/-! # How late a session may report

As long as nobody speaks in the session's name, its own member is counted in `members`, which therefore
never falls below `pmembers`: that stays the 1 it starts with, and no member that leaves moves the timer
or `tp`. So `tp` is the time of the last attempt to report, every delay the interval timer is started
with ends no later than one interval after `tp`, and no interval is longer than the table, the average
size and the bandwidth allow. Whatever happens, the session tries to report again within that time and
the tenth of a second a tick takes. -/

namespace Prtp

namespace Session

/-! ## The longest interval -/

/-- The longest interval between two reports, in seconds, with `most` members, a bandwidth of `bw` octets
    a second and an average size of at most `size`: nobody sends, and the draw is the largest. -/
def longestInterval (most : ℕ) (bw size : ℚ) : ℚ :=
  max 5 (size * most * (4 / 3) / bw) * (3 / 2) / compensation

/-- The average size is one that packets of at most `size` octets lead to. -/
def AvgWithin (size : ℚ) (s : Session) : Prop :=
  0 ≤ s.rtcpVar.avgRtcpSize ∧ s.rtcpVar.avgRtcpSize ≤ size

/-- The load of `n` members on their share of the bandwidth. -/
theorem load_le {avg size bw share : ℚ} {n most : ℕ} (hbw : 0 < bw) (havg : 0 ≤ avg)
    (hsize : avg ≤ size) (hshare : (n : ℚ) ≤ most * (4 / 3) * share) (hpos : 0 < share) :
    avg * n / (bw * share) ≤ size * most * (4 / 3) / bw := by
  have hload : avg * n ≤ size * (most * (4 / 3) * share) :=
    mul_le_mul hsize hshare (Nat.cast_nonneg n) (havg.trans hsize)
  rw [div_le_div_iff₀ (mul_pos hbw hpos) hbw]
  calc avg * n * bw ≤ size * (most * (4 / 3) * share) * bw :=
        mul_le_mul_of_nonneg_right hload hbw.le
    _ = size * most * (4 / 3) * (bw * share) := by ring

theorem toInt_toInt32_of_lt {x : UInt32} (h : x.toNat < 2147483648) : x.toInt32.toInt = x.toNat := by
  rw [toInt_toInt32, if_pos h]

/-- Whoever shares the bandwidth, the interval before the draw is bounded. -/
theorem intervalBase_le {cvar : RtcpControlVar} {most : ℕ} {size t : ℚ} (hbw : 0 < cvar.rtcpBw)
    (havg : 0 ≤ cvar.avgRtcpSize) (hsize : cvar.avgRtcpSize ≤ size)
    (hmembers : cvar.members.toNat ≤ most) (hmost : most < 2147483648)
    (ht : rtcpIntervalBase cvar = some t) : t ≤ max 5 (size * most * (4 / 3) / cvar.rtcpBw) := by
  have hcast : (cvar.members.toNat : ℚ) ≤ most := by exact_mod_cast hmembers
  have hmany : (0 : ℚ) ≤ most := Nat.cast_nonneg most
  have hclamp : ∀ {least load : ℚ}, least ≤ 5 → load ≤ size * most * (4 / 3) / cvar.rtcpBw →
      (if load < least then least else load) ≤ max 5 (size * most * (4 / 3) / cvar.rtcpBw) := by
    intro least load hleast hload
    split
    · exact hleast.trans (le_max_left ..)
    · exact hload.trans (le_max_right ..)
  have hleast : (if cvar.initial then (5 / 2 : ℚ) else 5) ≤ 5 := by split <;> norm_num
  simp only [rtcpIntervalBase] at ht
  by_cases hshared : (cvar.senders.toNat : ℚ) ≤ cvar.members.toNat * (1 / 4)
  · have hfew : cvar.senders.toNat * 4 ≤ cvar.members.toNat := by
      have hfour : (cvar.senders.toNat * 4 : ℚ) ≤ cvar.members.toNat := by linarith
      exact_mod_cast hfour
    rw [decide_eq_true hshared] at ht
    simp only [if_true] at ht
    split at ht
    · -- the session is one of the senders
      rw [if_neg (by positivity), Option.some_inj, toInt_toInt32_of_lt (by omega)] at ht
      rw [← ht]
      exact hclamp hleast (load_le hbw havg hsize (by linarith) (by norm_num))
    · -- the others have the rest of the bandwidth
      have hsub : (cvar.members - cvar.senders).toNat = cvar.members.toNat - cvar.senders.toNat :=
        UInt32.toNat_sub_of_le _ _ (UInt32.le_iff_toNat_le.2 (by omega))
      have hrest : ((cvar.members - cvar.senders).toNat : ℚ) ≤ most := by
        exact_mod_cast (by omega : (cvar.members - cvar.senders).toNat ≤ most)
      rw [if_neg (by norm_num [hbw.ne']), Option.some_inj, toInt_toInt32_of_lt (by omega)] at ht
      rw [← ht]
      exact hclamp hleast (load_le hbw havg hsize (by linarith) (by norm_num))
  · rw [decide_eq_false hshared] at ht
    simp only [Bool.false_eq_true, if_false] at ht
    rw [if_neg hbw.ne', Option.some_inj, toInt_toInt32_of_lt (by omega)] at ht
    have hload : cvar.avgRtcpSize * cvar.members.toNat / (cvar.rtcpBw * 1) ≤
        size * most * (4 / 3) / cvar.rtcpBw := load_le hbw havg hsize (by linarith) one_pos
    rw [mul_one] at hload
    rw [← ht]
    exact hclamp hleast hload

theorem drawInterval_le {s : Session} {most : ℕ} {size t : ℚ} (hbw : 0 < s.rtcpVar.rtcpBw)
    (havg : s.AvgWithin size) (hmembers : s.rtcpVar.members.toNat ≤ most) (hmost : most < 2147483648)
    (ht : s.drawInterval.1 = some t) : 0 ≤ t ∧ t ≤ longestInterval most s.rtcpVar.rtcpBw size := by
  obtain ⟨base, hbase, hleast⟩ := intervalBase_ge hbw
  have hlong := intervalBase_le hbw havg.1 havg.2 hmembers hmost hbase
  obtain ⟨hzero, hone⟩ := (s.env.drand48 0).2
  have heq : base * ((s.env.drand48 0).1 + 1 / 2) / compensation = t := by
    have hmap : (rtcpIntervalBase s.rtcpVar).map _ = some t := ht
    rw [hbase] at hmap
    exact Option.some.inj hmap
  have hpos : (0 : ℚ) ≤ base := le_trans (by split <;> norm_num) hleast
  have hcomp : (0 : ℚ) < compensation := by norm_num
  rw [← heq]
  refine ⟨by positivity, ?_⟩
  rw [longestInterval]
  refine div_le_div_of_nonneg_right ?_ hcomp.le
  exact mul_le_mul hlong (by linarith) (by linarith) (hpos.trans hlong)

/-! ## The average size -/

/-- A received RTCP packet has at most `size` octets. -/
def RtcpWithin (size : ℕ) : Op → Prop
  | .rxRtcp _ len _ => len.toNat ≤ size
  | .rxRtp .. | .tx .. | .tick => True

instance (size : ℕ) : DecidablePred (RtcpWithin size)
  | .rxRtcp _ len _ => inferInstanceAs (Decidable (len.toNat ≤ size))
  | .rxRtp .. | .tx .. | .tick => isTrue trivial

theorem rtcpSendReport_le (s : Session) :
    (s.rtcpSendReport.1.toNat : ℚ) ≤ rtpConfigRtcpEncoderBufferLen := by
  have hle : s.rtcpSendReport.1.toNat ≤ rtpConfigRtcpEncoderBufferLen := by
    by_cases hfits : s.ReportFits
    · rw [(s.rtcpSendReport_fits hfits).2, UInt32.toNat_ofNat']
      exact (Nat.mod_le _ _).trans hfits
    · rw [(s.rtcpSendReport_full hfits).1]
      exact Nat.zero_le _
  exact_mod_cast hle

namespace AvgWithin

variable {size : ℚ} {s s' : Session}

theorem of_eq (h : s.AvgWithin size) (heq : s'.rtcpVar.avgRtcpSize = s.rtcpVar.avgRtcpSize) :
    s'.AvgWithin size := by
  rw [AvgWithin, heq]
  exact h

/-- Between the average and a size within the bound lies within the bound. -/
theorem averaged {avg len : ℚ} (h : 0 ≤ avg ∧ avg ≤ size) (hpos : 0 ≤ len) (hlen : len ≤ size) :
    0 ≤ 1 / 16 * len + 15 / 16 * avg ∧ 1 / 16 * len + 15 / 16 * avg ≤ size :=
  ⟨by linarith [h.1], by linarith [h.2]⟩

theorem leaving (h : s.AvgWithin size) {event : RtcpEvent} (hevent : event ≠ .rxNonBye)
    (flags : IntervalFlags) (pktSize : UInt32) :
    (s.rtcpIntervalHandleRtcpEvent event flags pktSize).AvgWithin size := by
  refine h.of_eq ?_
  rw [rtcpEvent_leaving s hevent]
  split <;> rfl

theorem intervalTimeout (h : s.AvgWithin size) (hsize : (rtpConfigRtcpEncoderBufferLen : ℚ) ≤ size) :
    s.rtcpIntervalTimeout.AvgWithin size := by
  have hsend := ((Quiet.drawInterval s).trans (.rtcpSendReport s.drawInterval.2)).rtcpVar
  have hle := s.drawInterval.2.rtcpSendReport_le
  simp only [rtcpIntervalTimeout]
  split
  · refine averaged ?_ (Nat.cast_nonneg _) (hle.trans hsize)
    rw [hsend]
    exact h
  · exact h

end AvgWithin

theorem avgRtcpSize_ownSsrcConflict (s : Session) (m : Slot) (fromAddr : SockaddrIn) :
    (s.ownSsrcConflict m fromAddr).2.rtcpVar.avgRtcpSize = s.rtcpVar.avgRtcpSize := by
  simp only [ownSsrcConflict, rtpMemberTableChangeRandomSsrc]
  split
  · rfl
  · split <;> rfl

theorem avgRtcpSize_rtpHandleSsrc (s : Session) (ssrc : UInt32) (seq : UInt16) (fromAddr : SockaddrIn)
    (csrc : Bool) :
    (s.rtpHandleSsrc ssrc seq fromAddr csrc).2.rtcpVar.avgRtcpSize = s.rtcpVar.avgRtcpSize := by
  have hcase := s.rtpHandleSsrc_case ssrc seq fromAddr csrc
  generalize s.rtpHandleSsrc ssrc seq fromAddr csrc = res at hcase
  cases hcase with
  | tableFull | leaving | joined | thirdParty | refreshed => rfl
  | created m s' hnone halloc | createdCsrc m s' hnone halloc =>
      have hvar : s'.rtcpVar = s.rtcpVar := (alloc_eq_some halloc).2.2.2.2.1
      rw [← hvar]
      rfl
  | collision _ m _ _ _ _ err => exact s.avgRtcpSize_ownSsrcConflict m fromAddr

/-- Apart from received RTCP packets, whatever a session does keeps the average in its bounds. -/
theorem avgWithin_rules {size : ℚ} (hsize : (rtpConfigRtcpEncoderBufferLen : ℚ) ≤ size) :
    ActRules (AvgWithin size) { ActGuard.any with msg := fun _ _ _ => False } where
  quiet hq h := h.of_eq (by rw [hq.rtcpVar])
  rtpSource h _ := h.of_eq (avgRtcpSize_rtpHandleSsrc _ _ _ _ _)
  rtcpSource _ hfalse := hfalse.elim
  byeSource _ hfalse := hfalse.elim
  txCount h _ := h.of_eq (by unfold rtpTxCount; split <;> rfl)
  expire h _ := h
  fire {s e rest} htop h _ := by
    have hpop : (s.setTimer s.softTimer.popTimeout).AvgWithin size := h
    cases e with
    | rtcp => exact hpop.intervalTimeout hsize
    | member m => exact hpop.leaving (by decide) _ 0
    | sender m =>
        apply rtcpIntervalSenderTimedout_rule (R := fun s s' => s.AvgWithin size → s'.AvgWithin size)
        · exact fun h h' hs => h' (h hs)
        · exact fun _ hs => hs
        · exact fun _ hs => hs
        · exact fun _ hs => hs
        · exact fun _ hs => hs.leaving (by decide) _ 0
        · exact hpop
    | leave m => exact hpop
    | conflict c => exact hpop

theorem avgWithin_step {size : ℕ} (hsize : rtpConfigRtcpEncoderBufferLen ≤ size) {s : Session}
    {op : Op} (h : s.AvgWithin size) (hop : RtcpWithin size op) : (step s op).AvgWithin size := by
  have hbuffer : (rtpConfigRtcpEncoderBufferLen : ℚ) ≤ size := by exact_mod_cast hsize
  cases op with
  | rxRtcp pkt len fromAddr =>
      have hmsg : ∀ (t : Session) msg, t.AvgWithin size → (handleMsg fromAddr len t msg).AvgWithin size := by
        intro t msg ht
        rw [AvgWithin, avgRtcpSize_handleMsg]
        split
        · exact AvgWithin.averaged ht (Nat.cast_nonneg _) (by exact_mod_cast hop)
        · exact ht
      show ((s.rtcpRx len fromAddr).val pkt).AvgWithin size
      rw [val_rtcpRx]
      split
      · have hcleared : (s.setRtcpError .noError).AvgWithin size := h.of_eq rfl
        exact Runs.run_invariant hmsg hcleared _
      · exact h
  | rxRtp pkt len fromAddr =>
      exact (avgWithin_rules hbuffer).step s _ h (ActGuard.any_admits s (.rxRtp pkt len fromAddr))
  | tx payload payloadLen rtpTs csrc ncsrc => exact (avgWithin_rules hbuffer).step s _ h trivial
  | tick => exact (avgWithin_rules hbuffer).step s _ h ⟨trivial, fun _ _ => trivial⟩

/-- The callbacks of a tick find the average in its bounds too. -/
theorem avgWithin_tickFirings {size : ℕ} (hsize : rtpConfigRtcpEncoderBufferLen ≤ size) {s : Session}
    (h : s.AvgWithin size) : ∀ p ∈ s.tickFirings, p.2.AvgWithin size := by
  intro p hp
  have hbuffer : (rtpConfigRtcpEncoderBufferLen : ℚ) ≤ size := by exact_mod_cast hsize
  obtain ⟨t, rest, ht, -, hpop⟩ :=
    (avgWithin_rules hbuffer).firings h trivial (fun _ _ => trivial) p hp
  rw [hpop]
  exact ht

/-! ## Nothing is brought forward -/

/-- The session's own member is counted. -/
theorem InOrder.members_pos {s : Session} (h : s.InOrder) : 0 < s.rtcpVar.members := by
  have hown : s.self ∈ s.usedList.filter fun m => !(s.member m).flags.byeReceived := by
    have hbye : s.selfMember.flags.byeReceived = false := h.selfAllocated.notBye
    rw [List.mem_filter]
    exact ⟨h.selfAllocated.used, by rw [show s.member s.self = s.selfMember from rfl, hbye]; rfl⟩
  rw [UInt32.lt_iff_toNat_lt, h.membershipKept.members]
  exact List.length_pos_of_mem hown

theorem InOrder.members_le {s : Session} (h : s.InOrder) :
    s.rtcpVar.members.toNat ≤ rtpConfigMaxMembersPerSession := by
  have hmembers : s.rtcpVar.members = UInt32.ofNat (tally s.ledger.present) := h.1.members
  rw [hmembers, toNat_ofNat_tally]
  exact tally_slots_le _

/-- Where somebody is still counted when a member has left, nobody was counted too many at the last
    scheduling, and nothing of the schedule moves. -/
theorem samePace_leaving {s : Session} {event : RtcpEvent} {flags : IntervalFlags} {pktSize : UInt32}
    (hevent : event ≠ .rxNonBye) (hpmembers : s.rtcpVar.pmembers = 1)
    (hpos : 0 < (s.rtcpIntervalHandleRtcpEvent event flags pktSize).rtcpVar.members) :
    SamePace s (s.rtcpIntervalHandleRtcpEvent event flags pktSize) := by
  rw [rtcpEvent_leaving s hevent] at hpos ⊢
  split
  · rename_i hless
    rw [if_pos hless, (reverseReconsider_rescheduled (s.countOff flags)).members] at hpos
    rw [hpmembers] at hless
    simp only [UInt32.lt_iff_toNat_lt, UInt32.toNat_zero, UInt32.toNat_one] at hpos hless
    omega
  · exact SamePace.frame.countOff s flags

/-- Whatever but the interval timer fires leaves the schedule alone. -/
theorem samePace_timerCallback {s : Session} {e : TimerElem} (he : e ≠ .rtcp)
    (hpmembers : s.rtcpVar.pmembers = 1) (hpos : 0 < (timerCallback e s).rtcpVar.members) :
    SamePace s (timerCallback e s) := by
  cases e with
  | rtcp => exact absurd rfl he
  | member m =>
      have hleave := samePace_leaving (s := s) (by decide) hpmembers hpos
      exact SamePace.frame.trans hleave (SamePace.frame.memberTimedout s m)
  | sender m =>
      obtain ⟨s', hs', heq⟩ := SamePace.frame.senderTimedout s m
      have hcallback : timerCallback (.sender m) s = _ := heq
      have hpm : s'.rtcpVar.pmembers = 1 := hs'.schedule.pmembers.trans hpmembers
      rw [hcallback] at hpos ⊢
      exact SamePace.frame.trans hs' (samePace_leaving (by decide) hpm hpos)
  | leave m => exact SamePace.frame.dealloc s m
  | conflict c => exact SamePace.frame.conflicts s _

/-- So does a BYE. -/
theorem samePace_bye {s : Session} {ssrc pktSize : UInt32} (hpmembers : s.rtcpVar.pmembers = 1)
    (hpos : 0 < (s.rtcpHandleByeSource ssrc pktSize).rtcpVar.members) :
    SamePace s (s.rtcpHandleByeSource ssrc pktSize) := by
  by_cases habsent :
      ∀ m, s.rtpSessionLookupMember ssrc = some m → (s.member m).flags.byeReceived = true
  · rw [rtcpHandleByeSource_of_absent habsent]
    exact SamePace.frame.refl s
  · simp only [not_forall, Bool.not_eq_true] at habsent
    obtain ⟨m, hm, hbye⟩ := habsent
    rw [rtcpHandleByeSource_of_present hm hbye] at hpos ⊢
    exact SamePace.frame.trans (samePace_leaving (by decide) hpmembers hpos) (SamePace.frame.leaveOn _ m)

/-- The session is in order, no callback is overdue, and `pmembers` is what it was at the start. -/
structure Unhurried (s : Session) : Prop where
  inOrder : s.InOrder
  wheel : s.WheelKept
  pmembers : s.rtcpVar.pmembers = 1

/-- What is said of the pace of an unhurried session has to survive the advance of the wheel and the
    interval timer, and nothing else. -/
theorem unhurriedRules {P : Pace → Session → Prop} {g : ActGuard} (hle : g.Le selfUnnamedSettled)
    (hsame : ∀ {x s s'}, SamePace s s' → P x s → P x s')
    (hexpire : ∀ {x s}, s.Unhurried → P x s → g.expire s →
      P (paceHistory.expire x s) (s.setTimer s.softTimer.expire))
    (hrtcp : ∀ {x s rest}, s.softTimer.timeoutList = .rtcp :: rest → s.Unhurried → P x s →
      g.fire .rtcp (s.setTimer s.softTimer.popTimeout) →
      P (paceHistory.fire x (s.setTimer s.softTimer.popTimeout) .rtcp)
        (s.setTimer s.softTimer.popTimeout).rtcpIntervalTimeout) :
    HistoryRules paceHistory (fun x s => s.Unhurried ∧ P x s) g := by
  have horder := orderedWheel_rules.mono hle
  have hprev : ∀ {s : Session}, s.Unhurried → s.InOrder ∧ s.WheelKept := fun h => ⟨h.inOrder, h.wheel⟩
  have hkeep : ∀ {x} {s s' : Session}, SamePace s s' → s'.InOrder ∧ s'.WheelKept →
      s.Unhurried ∧ P x s → s'.Unhurried ∧ P x s' := fun hpace hnext h =>
    ⟨⟨hnext.1, hnext.2, hpace.schedule.pmembers.trans h.1.pmembers⟩, hsame hpace h.2⟩
  constructor
  case quiet => exact fun hq h => hkeep (SamePace.frame.quiet hq) (horder.quiet hq (hprev h.1)) h
  case rtpSource =>
    exact fun h hg => hkeep (SamePace.frame.rtpHandleSsrc ..) (horder.rtpSource (hprev h.1) hg) h
  case rtcpSource =>
    exact fun h hg hsource =>
      hkeep (SamePace.frame.rtcpHandleSsrc ..) (horder.rtcpSource (hprev h.1) hg hsource) h
  case byeSource =>
    intro x s ssrc fromAddr pktSize h hg
    have hnext : (s.rtcpHandleByeSource ssrc pktSize).InOrder ∧ _ := horder.byeSource (hprev h.1) hg
    exact hkeep (samePace_bye h.1.pmembers hnext.1.members_pos) hnext h
  case txCount => exact fun h hg => hkeep (SamePace.frame.rtpTxCount ..) (horder.txCount (hprev h.1) hg) h
  case expire =>
    intro x s h hg
    have hnext : (s.setTimer s.softTimer.expire).InOrder ∧ _ := horder.expire (hprev h.1) hg
    exact ⟨⟨hnext.1, hnext.2, h.1.pmembers⟩, hexpire h.1 h.2 hg⟩
  case fire =>
    intro x s e rest htop h hg
    have hnext := horder.fire htop (hprev h.1) hg
    by_cases he : e = .rtcp
    · subst he
      have hpm : (timerCallback .rtcp (s.setTimer s.softTimer.popTimeout)).rtcpVar.pmembers =
          s.rtcpVar.pmembers := (pmembers_intervalTimeout _).1
      exact ⟨⟨hnext.1, hnext.2, hpm.trans h.1.pmembers⟩, hrtcp htop h.1 h.2 hg⟩
    · have hpm : (s.setTimer s.softTimer.popTimeout).rtcpVar.pmembers = 1 := h.1.pmembers
      have hfire := samePace_timerCallback he hpm hnext.1.members_pos
      have hnote : paceHistory.fire x (s.setTimer s.softTimer.popTimeout) e = x := by
        simp [paceHistory, he]
      rw [hnote]
      exact hkeep (SamePace.frame.trans (.popTimeout htop he) hfire) hnext h

/-- No member that leaves by a BYE, and no timer but that of the interval, moves `tp`, `tn` or the
    interval timer. -/
def Unhastened (s : Session) : Op → Prop
  | .rxRtcp pkt len fromAddr =>
      ∀ msgs ssrc, msgs ++ [.bye ssrc] <+: rtcpMsgs pkt len →
        let t := Runs.run (handleMsg fromAddr len) (s.setRtcpError .noError) msgs
        SamePace t (handleMsg fromAddr len t (.bye ssrc))
  | .tick => ∀ p ∈ s.tickFirings, p.1 ≠ .rtcp → SamePace p.2 (timerCallback p.1 p.2)
  | .rxRtp .. | .tx .. => True

theorem unhurried_rules : ActRules Unhurried selfUnnamedSettled := by
  have hrules : HistoryRules paceHistory (fun _ s => s.Unhurried ∧ True) selfUnnamedSettled :=
    unhurriedRules ⟨id, id, id, id, id⟩ (fun _ h => h) (fun _ h _ => h) (fun _ _ h _ => h)
  exact {
    quiet := fun hq h => (hrules.quiet (x := ⟨0, []⟩) hq ⟨h, trivial⟩).1
    rtpSource := fun h hg => (hrules.rtpSource (x := ⟨0, []⟩) ⟨h, trivial⟩ hg).1
    rtcpSource := fun h hg hsource => (hrules.rtcpSource (x := ⟨0, []⟩) ⟨h, trivial⟩ hg hsource).1
    byeSource := fun h hg => (hrules.byeSource (x := ⟨0, []⟩) ⟨h, trivial⟩ hg).1
    txCount := fun h hg => (hrules.txCount (x := ⟨0, []⟩) ⟨h, trivial⟩ hg).1
    expire := fun h hg => (hrules.expire (x := ⟨0, []⟩) ⟨h, trivial⟩ hg).1
    fire := fun htop h hg => (hrules.fire (x := ⟨0, []⟩) htop ⟨h, trivial⟩ hg).1 }

theorem Unhurried.unhastened {s : Session} (h : s.Unhurried) {op : Op}
    (hg : selfUnnamedSettled.admits s op) : s.Unhastened op := by
  cases op with
  | rxRtp | tx => trivial
  | rxRtcp pkt len fromAddr =>
      intro msgs ssrc hprefix t
      obtain ⟨rest, hmsgs⟩ := hprefix
      have hguarded : Runs.Guarded (handleMsg fromAddr len) (selfUnnamedSettled.msg fromAddr)
          (s.setRtcpError .noError) (rtcpMsgs pkt len) := hg
      rw [← hmsgs, List.append_assoc, Runs.guarded_append] at hguarded
      obtain ⟨hbefore, hbye, -⟩ := hguarded
      have hstart : (s.setRtcpError .noError).Unhurried := unhurried_rules.quiet (.setRtcpError s _) h
      have hstep : ∀ (s : Session) msg, s.Unhurried → selfUnnamedSettled.msg fromAddr s msg →
          (handleMsg fromAddr len s msg).Unhurried := fun _ _ hs hmsg => unhurried_rules.handleMsg hs hmsg
      have ht : t.Unhurried := hbefore.invariant hstep hstart
      have hnext : (t.rtcpHandleByeSource ssrc len).Unhurried := unhurried_rules.byeSource ht hbye
      exact samePace_bye ht.pmembers hnext.inOrder.members_pos
  | tick =>
      intro p hp he
      obtain ⟨t, rest, ht, htop, hpop⟩ := unhurried_rules.firings h hg.1 hg.2 p hp
      have hnext := unhurried_rules.fire htop ht trivial
      rw [hpop]
      exact samePace_timerCallback he ht.pmembers hnext.inOrder.members_pos

/-- As long as nobody speaks in the session's name and packets fit, `pmembers` stays 1, and no report is ever
    brought forward: the members that leave or time out move neither the timer of the next report nor what it
    is computed from. -/
theorem never_hastened (mem : Session) (config : RtpSessionConfig) (ops : List Op)
    (hg : Runs.Guarded step selfUnnamed.admits (mem.rtpSessionInit config) ops) :
    (runSession mem config ops).rtcpVar.pmembers = 1 ∧
      ∀ op, selfUnnamed.admits (runSession mem config ops) op →
        (runSession mem config ops).Unhastened op := by
  have hsettled := settled_rtpSessionInit mem config
  have hstart : (mem.rtpSessionInit config).Unhurried :=
    ⟨kept_rtpSessionInit mem config, hsettled.toWheelKept, rfl⟩
  have hunhurried : (runSession mem config ops).Unhurried :=
    unhurried_rules.run (hsettled.guarded hg) hstart
  refine ⟨hunhurried.pmembers, fun op hop => hunhurried.unhastened ?_⟩
  exact ActGuard.admits_with_expire hop fun _ => (settled_runSession mem config ops).empty

/-- A session that hears SSRC 9 come and go. -/
theorem never_hastened_join_leave :
    (runSession (zeroed (.still .zero)) (plainConfig 1000 4)
        [.rxRtcp (rrFrom 9) 8 (.ofPort 7), .tick, .rxRtcp (byeFor 9) 16 (.ofPort 7)]).rtcpVar.pmembers = 1 ∧
      ∀ op, selfUnnamed.admits (runSession (zeroed (.still .zero)) (plainConfig 1000 4)
          [.rxRtcp (rrFrom 9) 8 (.ofPort 7), .tick, .rxRtcp (byeFor 9) 16 (.ofPort 7)]) op →
        (runSession (zeroed (.still .zero)) (plainConfig 1000 4)
          [.rxRtcp (rrFrom 9) 8 (.ofPort 7), .tick, .rxRtcp (byeFor 9) 16 (.ofPort 7)]).Unhastened op :=
  never_hastened _ _ _ (by decide +kernel)

/-! ## The next expiry -/

/-- What the conversion of a number that is not negative cuts off only makes it smaller. -/
theorem truncToUInt32_le {q : ℚ} (hq : 0 ≤ q) : ((truncToUInt32 q).toNat : ℚ) ≤ q := by
  have hnum : 0 ≤ q.num := Rat.num_nonneg.2 hq
  have hword := toNat_ofInt32 (q.num.tdiv q.den)
  have hfloor : q.num.tdiv q.den = ⌊q⌋ := by
    rw [Int.tdiv_eq_ediv_of_nonneg hnum, Rat.floor_def']
  have hpos : 0 ≤ ⌊q⌋ := Int.floor_nonneg.2 hq
  have hle : ((truncToUInt32 q).toNat : ℤ) ≤ ⌊q⌋ := by
    rw [truncToUInt32, hword, hfloor]
    omega
  exact le_trans (by exact_mod_cast hle) (Int.floor_le q)

/-- A delay until a time that is not past ends less than a tick after that time. -/
theorem elapsed_intervalDelay {tc tn : ℚ} (h : tc ≤ tn) :
    elapsed ((intervalDelay tc (some tn)).1.toNat ⌈/⌉ 100) 100 ≤ tn - tc + 1 / 10 := by
  have hround : ∀ d : ℕ, elapsed (d ⌈/⌉ 100) 100 ≤ (d : ℚ) / 1000 + 99 / 1000 := by
    intro d
    have hceil : d ⌈/⌉ 100 * 100 ≤ d + 99 := by
      rw [Nat.ceilDiv_eq_add_pred_div]
      omega
    have hcast : ((d ⌈/⌉ 100 : ℕ) : ℚ) * 100 ≤ d + 99 := by exact_mod_cast hceil
    rw [elapsed]
    push_cast
    linarith
  have hmilli : ((intervalDelay tc (some tn)).1.toNat : ℚ) ≤ (tn - tc) * 1000 + 1 := by
    have hq : 0 ≤ (tn - tc) * 1000 := mul_nonneg (sub_nonneg.2 h) (by norm_num)
    have hdelay : (intervalDelay tc (some tn)).1 =
        if (truncToUInt32 ((tn - tc) * 1000)).toInt32.toInt ≤ 0 then 1
        else (truncToUInt32 ((tn - tc) * 1000)).toInt32.toInt := rfl
    rw [hdelay]
    split
    · simpa using hq
    · have hfloor := truncToUInt32_le hq
      have hnat : (truncToUInt32 ((tn - tc) * 1000)).toInt32.toInt.toNat ≤
          (truncToUInt32 ((tn - tc) * 1000)).toNat := by
        rw [toInt_toInt32]
        split <;> omega
      have hcast : ((truncToUInt32 ((tn - tc) * 1000)).toInt32.toInt.toNat : ℚ) ≤
          (truncToUInt32 ((tn - tc) * 1000)).toNat := by exact_mod_cast hnat
      linarith
  have := hround (intervalDelay tc (some tn)).1.toNat
  linarith

/-- The interval timer starts itself again, to expire an interval after what is then `tp`. -/
theorem intervalTimeout_due {s : Session} {most : ℕ} {size : ℚ} (hbw : 0 < s.rtcpVar.rtcpBw)
    (havg : s.AvgWithin size) (hbuffer : (rtpConfigRtcpEncoderBufferLen : ℚ) ≤ size)
    (hmembers : s.rtcpVar.members.toNat ≤ most) (hmost : most < 2147483648) :
    ∃ t, t ≤ longestInterval most s.rtcpVar.rtcpBw size ∧
      s.rtcpCurrentTime ≤ s.rtcpIntervalTimeout.rtcpVar.tp + t ∧
      s.rtcpIntervalTimeout.softTimer = s.softTimer.softTimerAdd .rtcp
        (intervalDelay s.rtcpCurrentTime (some (s.rtcpIntervalTimeout.rtcpVar.tp + t))) := by
  obtain ⟨t, ht, -⟩ := drawInterval_ge hbw
  by_cases hle : s.rtcpVar.tp + t ≤ s.rtcpCurrentTime
  · -- the report goes out, and the interval is drawn once more
    obtain ⟨r, hr, hvar, htimer⟩ : ∃ r : Session,
        s.rtcpIntervalTimeout = { r.drawInterval.2.rtcpIntervalSchedule s.rtcpCurrentTime
            (r.drawInterval.1.map fun t => t + s.rtcpCurrentTime) with
          rtcpVar := { (r.drawInterval.2.rtcpIntervalSchedule s.rtcpCurrentTime
            (r.drawInterval.1.map fun t => t + s.rtcpCurrentTime)).rtcpVar with initial := false } } ∧
        r.rtcpVar = { s.rtcpVar with
          avgRtcpSize := 1 / 16 * (s.drawInterval.2.rtcpSendReport.1.toNat : ℚ) +
            15 / 16 * s.rtcpVar.avgRtcpSize
          tp := s.rtcpCurrentTime } ∧
        r.softTimer = s.softTimer := by
      have hquiet := (Quiet.drawInterval s).trans (.rtcpSendReport s.drawInterval.2)
      refine ⟨{ s.drawInterval.2.rtcpSendReport.2 with
        rtcpVar := { s.drawInterval.2.rtcpSendReport.2.rtcpVar with
          avgRtcpSize := 1 / 16 * (s.drawInterval.2.rtcpSendReport.1.toNat : ℚ) +
            15 / 16 * s.drawInterval.2.rtcpSendReport.2.rtcpVar.avgRtcpSize
          tp := s.rtcpCurrentTime } }, ?_, ?_, hquiet.timer⟩
      · simp only [rtcpIntervalTimeout]
        rw [if_pos (by rw [ht]; exact decide_eq_true hle)]
      · simp only [hquiet.rtcpVar]
    have hbw' : 0 < r.rtcpVar.rtcpBw := by
      rw [hvar]
      exact hbw
    obtain ⟨t', ht', -⟩ := drawInterval_ge hbw'
    have havg' : r.AvgWithin size := by
      rw [AvgWithin, hvar]
      exact AvgWithin.averaged havg (Nat.cast_nonneg _) ((rtcpSendReport_le _).trans hbuffer)
    have hmembers' : r.rtcpVar.members.toNat ≤ most := by
      rw [hvar]
      exact hmembers
    obtain ⟨hzero, hlong⟩ := drawInterval_le hbw' havg' hmembers' hmost ht'
    have htp : s.rtcpIntervalTimeout.rtcpVar.tp = s.rtcpCurrentTime := by
      rw [hr]
      exact congrArg RtcpControlVar.tp hvar
    rw [hvar] at hlong
    refine ⟨t', hlong, by rw [htp]; linarith, ?_⟩
    rw [htp, hr, ht', ← htimer, add_comm s.rtcpCurrentTime]
    rfl
  · obtain ⟨-, hlong⟩ := drawInterval_le hbw havg hmembers hmost ht
    have hskip : s.rtcpIntervalTimeout =
        s.drawInterval.2.rtcpIntervalSchedule s.rtcpCurrentTime (some (s.rtcpVar.tp + t)) := by
      simp only [rtcpIntervalTimeout]
      rw [if_neg (by rw [ht]; exact fun h => hle (of_decide_eq_true h)), ht]
      rfl
    rw [hskip]
    exact ⟨t, hlong, (not_le.1 hle).le, rfl⟩

/-! ## The attempts -/

/-- What the last attempt and the longest interval allow: `x.now` ticks have passed, the last attempt is
    remembered as `tp`, and the interval timer expires within `limit` of it. -/
structure Timely (bw limit : ℚ) (x : Pace) (s : Session) : Prop where
  clock : s.ClockAt (UInt32.ofNat x.now) 100
  fits : x.now * 100 < 2 ^ 32
  rtcpBw : s.rtcpVar.rtcpBw = bw
  tp : s.rtcpVar.tp = elapsed x.last 100
  due : ∃ n, s.ticksLeft .rtcp = some n ∧ elapsed (x.now + n) 100 ≤ elapsed x.last 100 + limit
  first : ∀ t ∈ x.attempts.head?, elapsed t 100 ≤ limit
  spaced : x.attempts.IsChain fun t t' => elapsed t' 100 ≤ elapsed t 100 + limit

namespace Timely

variable {bw limit : ℚ} {x : Pace} {s s' : Session}

theorem of_same (h : Timely bw limit x s) (hsame : SamePace s s') : Timely bw limit x s' where
  clock := ⟨hsame.schedule.tick.trans h.clock.1, hsame.schedule.tickRate.trans h.clock.2⟩
  fits := h.fits
  rtcpBw := hsame.rtcpBw.trans h.rtcpBw
  tp := hsame.schedule.tp.trans h.tp
  due := by
    obtain ⟨n, hn, hdue⟩ := h.due
    exact ⟨n, hsame.left.trans hn, hdue⟩
  first := h.first
  spaced := h.spaced

/-- An attempt that comes within the limit of the last one. -/
theorem attempt (h : Timely bw limit x s) (hdue : elapsed x.now 100 ≤ elapsed x.last 100 + limit) :
    (∀ t ∈ (x.attempts ++ [x.now]).head?, elapsed t 100 ≤ limit) ∧
      (x.attempts ++ [x.now]).IsChain fun t t' => elapsed t' 100 ≤ elapsed t 100 + limit := by
  constructor
  · intro t ht
    cases hold : x.attempts with
    | nil =>
        rw [hold] at ht
        obtain rfl : x.now = t := by simpa using ht
        have hzero : elapsed x.last 100 = 0 := by simp [Pace.last, hold, elapsed]
        rwa [hzero, zero_add] at hdue
    | cons a rest =>
        apply h.first
        rw [hold] at ht ⊢
        exact ht
  · refine h.spaced.append (.singleton _) ?_
    intro a ha b hb
    obtain rfl : x.now = b := by simpa using hb
    have hlast : x.last = a := by rw [Pace.last, Option.mem_def.1 ha]; rfl
    rwa [hlast] at hdue

theorem expire (h : Timely bw limit x s) (hempty : s.softTimer.timeoutList = [])
    (hahead : s.softTimer.Ahead) (hfits : (s.softTimer.tick.toNat + 1) * 100 < 2 ^ 32) :
    Timely bw limit (paceHistory.expire x s) (s.setTimer s.softTimer.expire) where
  clock := by
    refine ⟨?_, h.clock.2⟩
    show s.softTimer.tick + 1 = UInt32.ofNat (x.now + 1)
    rw [UInt32.ofNat_add, ← h.clock.1]
    rfl
  fits := by
    have hnow : s.softTimer.tick.toNat = x.now := by
      have hsmall := h.fits
      rw [h.clock.1]
      exact UInt32.toNat_ofNat_of_lt' (by simp [UInt32.size]; omega)
    rwa [hnow] at hfits
  rtcpBw := h.rtcpBw
  tp := h.tp
  due := by
    obtain ⟨n, hn, hdue⟩ := h.due
    have hne : s.softTimer.remaining .rtcp ≠ some 0 := by
      intro h0
      have hmem := hahead _ h0
      rw [hempty] at hmem
      exact absurd hmem List.not_mem_nil
    have hleft := SoftTimer.remaining_expire hne
    rw [show s.softTimer.remaining .rtcp = some n from hn] at hleft hne
    have hpos : n ≠ 0 := fun h0 => hne (congrArg some h0)
    refine ⟨n - 1, hleft, ?_⟩
    have hsum : x.now + 1 + (n - 1) = x.now + n := by omega
    show elapsed (x.now + 1 + (n - 1)) 100 ≤ _
    rw [hsum]
    exact hdue
  first := h.first
  spaced := h.spaced

/-- When the interval timer expires it is started again, with the limit counted from the report it
    sends, if it does. -/
theorem intervalTimeout {most : ℕ} {size : ℚ} {rest : List TimerElem} (hbw : 0 < bw)
    (h : Timely bw (longestInterval most bw size + 1 / 10) x s)
    (htop : s.softTimer.timeoutList = .rtcp :: rest)
    (havg : s.AvgWithin size) (hbuffer : (rtpConfigRtcpEncoderBufferLen : ℚ) ≤ size)
    (hmembers : s.rtcpVar.members.toNat ≤ most) (hmost : most < 2147483648) :
    Timely bw (longestInterval most bw size + 1 / 10)
      (paceHistory.fire x (s.setTimer s.softTimer.popTimeout) .rtcp)
      (s.setTimer s.softTimer.popTimeout).rtcpIntervalTimeout := by
  have hnow : elapsed x.now 100 ≤ elapsed x.last 100 + (longestInterval most bw size + 1 / 10) := by
    obtain ⟨n, hn, hdue⟩ := h.due
    have hzero : s.softTimer.remaining .rtcp = some 0 :=
      SoftTimer.remaining_of_mem_timeoutList (by rw [htop]; exact List.mem_cons_self ..)
    obtain rfl : 0 = n := Option.some.inj (hzero.symm.trans hn)
    exact hdue
  have hpop : (s.setTimer s.softTimer.popTimeout).ClockAt (UInt32.ofNat x.now) 100 := h.clock
  have hstopped : (s.setTimer s.softTimer.popTimeout).ticksLeft .rtcp = none :=
    (SoftTimer.remaining_popTimeout htop _).trans (if_pos rfl)
  have htp : (s.setTimer s.softTimer.popTimeout).rtcpVar.tp = elapsed x.last 100 := h.tp
  have hbw' : (s.setTimer s.softTimer.popTimeout).rtcpVar.rtcpBw = bw := h.rtcpBw
  have havg' : (s.setTimer s.softTimer.popTimeout).AvgWithin size := havg
  have hmembers' : (s.setTimer s.softTimer.popTimeout).rtcpVar.members.toNat ≤ most := hmembers
  generalize s.setTimer s.softTimer.popTimeout = r at hpop hstopped htp hbw' havg' hmembers'
  have hclock : r.rtcpIntervalTimeout.ClockAt (UInt32.ofNat x.now) 100 := clockAt_intervalTimeout hpop
  have htime : r.rtcpCurrentTime = elapsed x.now 100 := by
    rw [currentTime_eq_elapsed hpop h.fits, hpop.2]
  obtain ⟨t, hlong, hahead, htimer⟩ := intervalTimeout_due (by rw [hbw']; exact hbw) havg' hbuffer
    hmembers' hmost
  rw [hbw'] at hlong
  have hdelay := elapsed_intervalDelay hahead
  rw [htime] at hdelay
  have hleft : r.rtcpIntervalTimeout.ticksLeft .rtcp = some
      ((intervalDelay r.rtcpCurrentTime (some (r.rtcpIntervalTimeout.rtcpVar.tp + t))).1.toNat ⌈/⌉ 100) := by
    rw [ticksLeft, htimer, SoftTimer.remaining_add_self hstopped, toNat_getSoftTick hpop.2]
  have hsum : ∀ n, elapsed (x.now + n) 100 = elapsed x.now 100 + elapsed n 100 := by
    intro n
    unfold elapsed
    push_cast
    ring
  have hdue : ∃ n, r.rtcpIntervalTimeout.ticksLeft .rtcp = some n ∧ elapsed (x.now + n) 100 ≤
      r.rtcpIntervalTimeout.rtcpVar.tp + (longestInterval most bw size + 1 / 10) := by
    refine ⟨_, hleft, ?_⟩
    rw [hsum, htime]
    linarith
  cases hcall : r.sendReportCall with
  | some r' =>
      obtain ⟨htp', -, hbw''⟩ := r.intervalTimeout_sent hcall
      have hnote : paceHistory.fire x r .rtcp = { x with attempts := x.attempts ++ [x.now] } := by
        simp [paceHistory, hcall]
      have hlast : (Pace.mk x.now (x.attempts ++ [x.now])).last = x.now := by simp [Pace.last]
      obtain ⟨hfirst, hspaced⟩ := h.attempt hnow
      rw [hnote]
      rw [htp', htime] at hdue
      exact ⟨hclock, h.fits, hbw''.trans hbw', by rw [htp', htime, hlast], by rw [hlast]; exact hdue,
        hfirst, hspaced⟩
  | none =>
      obtain ⟨htp', -, hbw''⟩ := r.intervalTimeout_skipped hcall
      have hnote : paceHistory.fire x r .rtcp = x := by simp [paceHistory, hcall]
      rw [hnote]
      rw [htp', htp] at hdue
      exact ⟨hclock, h.fits, hbw''.trans hbw', htp'.trans htp, hdue, h.first, h.spaced⟩

end Timely

/-! ## Runs -/

/-- Nobody speaks in the session's name, no callback is owed between two calls, the next tick's time
    fits 32 bits, and the average size is within its bounds when a timer fires. -/
def timelyGuard (size : ℚ) : ActGuard :=
  { selfUnnamed with
    expire := fun s => s.softTimer.timeoutList = [] ∧ (s.softTimer.tick.toNat + 1) * 100 < 2 ^ 32
    fire := fun _ s => s.AvgWithin size }

theorem timelyGuard_le (size : ℚ) : (timelyGuard size).Le selfUnnamedSettled :=
  ⟨id, id, id, And.left, fun _ => trivial⟩

theorem timely_rules {bw size : ℚ} (hbw : 0 < bw) (hbuffer : (rtpConfigRtcpEncoderBufferLen : ℚ) ≤ size) :
    HistoryRules paceHistory (fun x s => s.Unhurried ∧
      Timely bw (longestInterval rtpConfigMaxMembersPerSession bw size + 1 / 10) x s)
      (timelyGuard size) := by
  apply unhurriedRules (timelyGuard_le size)
  · exact fun hsame h => h.of_same hsame
  · exact fun hs h hg => h.expire hg.1 hs.wheel.ahead hg.2
  · intro x s rest htop hs h hg
    have havg : s.AvgWithin size := hg
    exact h.intervalTimeout hbw htop havg hbuffer hs.inOrder.members_le (by decide)

theorem rtcpInit_due {s : Session} {size : ℚ} (hclock : s.ClockAt 0 100)
    (hstopped : s.ticksLeft .rtcp = none) (hbw : 0 < s.config.sessionBw)
    (haverage : (rtpConfigAverageRtcpSize : ℚ) ≤ size) :
    ∃ n, s.rtcpInit.ticksLeft .rtcp = some n ∧ elapsed n 100 ≤
      longestInterval rtpConfigMaxMembersPerSession s.config.sessionBw.toNat size + 1 / 10 := by
  have hpos : (0 : ℚ) < s.rtcpIntervalControlVarInit.rtcpVar.rtcpBw := by
    show (0 : ℚ) < s.config.sessionBw.toNat
    exact_mod_cast UInt32.lt_iff_toNat_lt.1 hbw
  have havg : s.rtcpIntervalControlVarInit.AvgWithin size := ⟨Nat.cast_nonneg _, haverage⟩
  have hmembers : s.rtcpIntervalControlVarInit.rtcpVar.members.toNat ≤ rtpConfigMaxMembersPerSession := by
    show (1 : UInt32).toNat ≤ _
    decide
  obtain ⟨t, ht, -⟩ := drawInterval_ge hpos
  obtain ⟨hzero, hlong⟩ := drawInterval_le hpos havg hmembers (by decide) ht
  have hdelay := elapsed_intervalDelay (le_add_of_nonneg_right (a := s.rtcpCurrentTime) hzero)
  have htimer : s.rtcpInit.softTimer = s.softTimer.softTimerAdd .rtcp
      (intervalDelay s.rtcpCurrentTime (some (s.rtcpCurrentTime + t))) := by
    simp only [rtcpInit, ht]
    rfl
  refine ⟨(intervalDelay s.rtcpCurrentTime (some (s.rtcpCurrentTime + t))).1.toNat ⌈/⌉ 100, ?_, ?_⟩
  · rw [ticksLeft, htimer, SoftTimer.remaining_add_self hstopped, toNat_getSoftTick hclock.2]
  · have hlong' : t ≤ longestInterval rtpConfigMaxMembersPerSession s.config.sessionBw.toNat size := hlong
    linarith

theorem samePace_initSelf (s : Session) (config : RtpSessionConfig) :
    SamePace s (s.rtpSessionInitSelf config) := by
  have hrandom : SamePace s s.rtpRandom32.2 := .of_eq rfl ⟨_, _, _, _, rfl⟩
  simp only [rtpSessionInitSelf]
  cases halloc : s.rtpRandom32.2.rtpSessionAllocMember s.rtpRandom32.1 with
  | none => exact SamePace.frame.trans hrandom (.of_eq rfl ⟨_, _, _, _, rfl⟩)
  | some p =>
      exact SamePace.frame.trans (SamePace.frame.trans hrandom (SamePace.frame.alloc halloc))
        (.of_eq rfl ⟨_, _, _, _, rfl⟩)

theorem timely_rtpSessionInit (mem : Session) {config : RtpSessionConfig} {size : ℚ}
    (hbw : 0 < config.sessionBw) (haverage : (rtpConfigAverageRtcpSize : ℚ) ≤ size) :
    Timely config.sessionBw.toNat
      (longestInterval rtpConfigMaxMembersPerSession config.sessionBw.toNat size + 1 / 10) ⟨0, []⟩
      (mem.rtpSessionInit config) := by
  obtain ⟨hclock, htp⟩ := clock_rtpSessionInit mem config
  have hself := samePace_initSelf (mem.rtpSessionBlank config) config
  have hconfig : ((mem.rtpSessionBlank config).rtpSessionInitSelf config).config = config :=
    (atHome_rtpSessionInit mem config).config
  have hstopped : ((mem.rtpSessionBlank config).rtpSessionInitSelf config).ticksLeft .rtcp = none :=
    hself.left.trans (SoftTimer.remaining_init ..)
  obtain ⟨n, hn, hdue⟩ := rtcpInit_due ⟨hself.schedule.tick, hself.schedule.tickRate⟩ hstopped
    (by rw [hconfig]; exact hbw) haverage
  rw [hconfig] at hdue
  have hstart : elapsed 0 100 = 0 := by simp [elapsed]
  refine ⟨hclock, by decide, rtcpBw_rtpSessionInit mem config, ?_, ⟨n, ?_, ?_⟩, by simp, .nil⟩
  · rw [htp]
    exact hstart.symm
  · rw [rtpSessionInit_eq]
    exact hn
  · show elapsed (0 + n) 100 ≤ elapsed 0 100 + _
    rw [hstart, zero_add, zero_add]
    exact hdue

/-- What the guard of the rules asks for beyond the packets. -/
theorem timelyGuarded {size n : ℕ} (hsize : rtpConfigRtcpEncoderBufferLen ≤ size) {s : Session}
    (hsettled : s.Settled) (hclock : s.ClockAt (UInt32.ofNat n) 100) (havg : s.AvgWithin size)
    {ops : List Op} (hg : Runs.Guarded step selfUnnamed.admits s ops)
    (hlen : ∀ op ∈ ops, RtcpWithin size op) (hticks : (n + ticks ops) * 100 < 2 ^ 32) :
    Runs.Guarded step (timelyGuard size).admits s ops := by
  induction ops generalizing n s with
  | nil => trivial
  | cons op ops ih =>
      obtain ⟨hop, hrest⟩ := hg
      rw [ticks_cons, ← Nat.add_assoc] at hticks
      rw [List.forall_mem_cons] at hlen
      refine ⟨?_, ih (settled_step hsettled op) ?_ (avgWithin_step hsize havg hlen.1) hrest hlen.2 hticks⟩
      · cases op with
        | tick =>
            have hnow : s.softTimer.tick.toNat = n := by
              rw [hclock.1]
              exact UInt32.toNat_ofNat_of_lt' (by simp [UInt32.size]; omega)
            refine ⟨⟨hsettled.empty, ?_⟩, avgWithin_tickFirings hsize havg⟩
            rw [hnow]
            simp only [Op.isTick, if_true] at hticks
            omega
        | rxRtp | rxRtcp | tx => exact hop
      · have hstep := clockAt_step hclock op
        cases htick : op.isTick <;> simpa [htick, UInt32.ofNat_add] using hstep

theorem paceHistory_clocked : paceHistory.Clocked Pace.now := by
  refine ⟨fun _ _ _ _ => rfl, fun _ _ _ _ => rfl, fun _ _ => rfl, fun _ _ => rfl, fun x s e => ?_⟩
  simp only [paceHistory]
  split <;> rfl

theorem timely_run (mem : Session) {config : RtpSessionConfig} {size : ℕ}
    (hbw : 0 < config.sessionBw) (hsize : rtpConfigRtcpEncoderBufferLen ≤ size) {ops : List Op}
    (hg : Runs.Guarded step selfUnnamed.admits (mem.rtpSessionInit config) ops)
    (hlen : ∀ op ∈ ops, RtcpWithin size op) (hticks : ticks ops * 100 < 2 ^ 32) :
    (runSession mem config ops).Unhurried ∧
      Timely config.sessionBw.toNat
        (longestInterval rtpConfigMaxMembersPerSession config.sessionBw.toNat size + 1 / 10)
        (paceHistory.run ⟨0, []⟩ (mem.rtpSessionInit config) ops) (runSession mem config ops) := by
  have hpos : (0 : ℚ) < config.sessionBw.toNat := by exact_mod_cast UInt32.lt_iff_toNat_lt.1 hbw
  have hbuffer : (rtpConfigRtcpEncoderBufferLen : ℚ) ≤ size := by exact_mod_cast hsize
  have haverage : (rtpConfigAverageRtcpSize : ℚ) ≤ size := hbuffer
  obtain ⟨hclock, -⟩ := clock_rtpSessionInit mem config
  have hsettled := settled_rtpSessionInit mem config
  have havg : (mem.rtpSessionInit config).AvgWithin size := ⟨Nat.cast_nonneg _, haverage⟩
  have hguard := timelyGuarded (n := 0) hsize hsettled hclock havg hg hlen (by simpa using hticks)
  exact (timely_rules hpos hbuffer).run hguard
    ⟨⟨kept_rtpSessionInit mem config, hsettled.toWheelKept, rfl⟩, timely_rtpSessionInit mem hbw haverage⟩

/-- As long as nobody speaks in the session's name, packets fit and the clock of `2 ^ 32` milliseconds does not
    wrap: no more than the longest interval and a tick passes from the initialisation to the first attempt to
    report, from each attempt to the next, and from the last one to now. The interval is that of a session with
    some bandwidth, and of RTCP packets that are not longer than `size`. -/
theorem reports_timely (mem : Session) {config : RtpSessionConfig} {size : ℕ}
    (hbw : 0 < config.sessionBw) (hsize : 256 ≤ size) {ops : List Op}
    (hg : Runs.Guarded step selfUnnamed.admits (mem.rtpSessionInit config) ops)
    (hlen : ∀ op ∈ ops, RtcpWithin size op) (hticks : ticks ops * 100 < 2 ^ 32) :
    (∀ t ∈ (reportAttempts mem config ops).head?,
        elapsed t 100 ≤ longestInterval 32 config.sessionBw.toNat size + 1 / 10) ∧
      (reportAttempts mem config ops).IsChain (fun t t' =>
        elapsed t' 100 ≤ elapsed t 100 + (longestInterval 32 config.sessionBw.toNat size + 1 / 10)) ∧
      elapsed (ticks ops) 100 ≤ elapsed ((reportAttempts mem config ops).getLast?.getD 0) 100 +
        (longestInterval 32 config.sessionBw.toNat size + 1 / 10) := by
  obtain ⟨-, h⟩ := timely_run mem hbw hsize hg hlen hticks
  refine ⟨h.first, h.spaced, ?_⟩
  have hnow := paceHistory_clocked.run ops ⟨0, []⟩ (mem.rtpSessionInit config)
  rw [Nat.zero_add] at hnow
  obtain ⟨n, -, hdue⟩ := h.due
  have hmono := Paced.elapsed_mono (Nat.le_add_right (paceHistory.run ⟨0, []⟩
    (mem.rtpSessionInit config) ops).now n)
  rw [hnow] at hmono hdue
  exact hmono.trans hdue

/-- A session that hears SSRC 9 come and go tries to report after 1.1 and 3.2 seconds. -/
theorem reports_timely_join_leave :
    reportAttempts (zeroed (.still .zero)) (plainConfig 1000 4)
        (.rxRtcp (byeFor 9) 16 (.ofPort 7) :: List.replicate 35 .tick) = [11, 32] ∧
      elapsed (ticks (.rxRtcp (byeFor 9) 16 (.ofPort 7) :: List.replicate 35 .tick)) 100 ≤
        elapsed ((reportAttempts (zeroed (.still .zero)) (plainConfig 1000 4)
          (.rxRtcp (byeFor 9) 16 (.ofPort 7) :: List.replicate 35 .tick)).getLast?.getD 0) 100 +
          (longestInterval 32 (plainConfig 1000 4).sessionBw.toNat (256 : ℕ) + 1 / 10) :=
  ⟨by decide +kernel,
    (reports_timely (zeroed (.still .zero)) (by decide) (le_refl 256) (by decide +kernel) (by decide)
      (by decide)).2.2⟩

end Session

end Prtp
