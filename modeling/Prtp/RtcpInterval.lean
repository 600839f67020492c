import Prtp.MemberTable

set_option autoImplicit false

/-! # The RTCP transmission interval

The part of `rtcp.c` that computes the interval between reports (RFC 3550 A.7), keeps the member
and sender counts it depends on, and arms the interval timer. -/

namespace Prtp

/-! ## The interval -/

/-- `COMPENSATION`, `2.71828 - 1.5` -/
abbrev compensation : ℚ := 121828 / 100000

/-- The value `t` of `rtcp_interval_calc` before the random factor: `none` when the division by a
    zero bandwidth yields an infinity or a NaN, which no comparison replaces. -/
def rtcpIntervalBase (cvar : RtcpControlVar) : Option ℚ :=
  let rtcpMinTime : ℚ := if cvar.initial then 5 / 2 else 5
  let shared : Bool := decide ((cvar.senders.toNat : ℚ) ≤ cvar.members.toNat * (1 / 4))
  let rtcpBw : ℚ :=
    if shared then (if cvar.weSent then cvar.rtcpBw * (1 / 4) else cvar.rtcpBw * (1 - 1 / 4))
    else cvar.rtcpBw
  let n : Int32 :=
    if shared then (if cvar.weSent then cvar.senders else cvar.members - cvar.senders).toInt32
    else cvar.members.toInt32
  let load : ℚ := cvar.avgRtcpSize * (n.toInt : ℚ)
  if rtcpBw = 0 then (if load < 0 then some rtcpMinTime else none)
  else
    let t := load / rtcpBw
    some (if t < rtcpMinTime then rtcpMinTime else t)

/-- `rtcp_interval_calc`, given the value `drand48` returns. -/
def rtcpIntervalCalc (cvar : RtcpControlVar) (drand48 : ℚ) : Option ℚ :=
  (rtcpIntervalBase cvar).map fun t => t * (drand48 + 1 / 2) / compensation

/-- `rtcp_interval_cal_delta_in_ms`: out of a value that is not finite the conversion to `uint32_t`
    makes `0`, and anything not positive as an `int` counts as one millisecond. -/
def rtcpIntervalCalDeltaInMs (tc : ℚ) (tn : Option ℚ) : Int :=
  let delta : Int :=
    match tn with
    -- an infinity or a NaN
    | none => 0
    | some tn => (truncToUInt32 ((tn - tc) * 1000)).toInt32.toInt
  if delta ≤ 0 then 1 else delta

/-- The two bits `RTCP_INTERVAL_FLAGS_MEMBER` and `RTCP_INTERVAL_FLAGS_SENDER`. -/
structure IntervalFlags where
  member : Bool
  sender : Bool
deriving DecidableEq

/-- `RTCP_EVENT_*` -/
inductive RtcpEvent
  | rxNonBye
  | rxBye
  | timeout
deriving DecidableEq

namespace Session

/-- `rtcp_current_time` -/
def rtcpCurrentTime (s : Session) : ℚ := s.softTimer.softTimerGetTickTime / 1000

/-- `rtcp_interval_calc` with the next `drand48`. -/
def drawInterval (s : Session) : Option ℚ × Session :=
  let (d, s') := s.drand48
  (rtcpIntervalCalc s.rtcpVar d, s')

/-- `cvar->tn = tn` -/
def setTn (s : Session) (tn : Option ℚ) : Session :=
  { s with rtcpVar := { s.rtcpVar with tn := tn, tnMembers := s.rtcpVar.members } }

/-- `rtcp_interval_schedule` -/
def rtcpIntervalSchedule (s : Session) (tc : ℚ) (tn : Option ℚ) : Session :=
  (s.setTn tn).softTimerAdd .rtcp (rtcpIntervalCalDeltaInMs tc tn)

/-- `rtcp_interval_reschedule` -/
def rtcpIntervalReschedule (s : Session) (tc : ℚ) (tn : Option ℚ) : Session :=
  ((s.setTn tn).softTimerDel .rtcp).softTimerAdd .rtcp (rtcpIntervalCalDeltaInMs tc tn)

/-- `rtcp_interval_control_var_init` -/
def rtcpIntervalControlVarInit (s : Session) : Session :=
  { s with
    rtcpVar :=
      { s.rtcpVar with
        tp := 0
        senders := 0
        pmembers := 1
        members := 1
        weSent := false
        initial := true
        rtcpBw := s.config.sessionBw.toNat
        avgRtcpSize := rtpConfigAverageRtcpSize } }

/-- `rtcp_interval_handle_rtp_event` -/
def rtcpIntervalHandleRtpEvent (s : Session) (newMember newSender : Bool) : Session :=
  { s with
    rtcpVar :=
      { s.rtcpVar with
        members := if newMember then s.rtcpVar.members + 1 else s.rtcpVar.members
        senders := if newSender then s.rtcpVar.senders + 1 else s.rtcpVar.senders } }

/-- The fraction `members / pmembers` by which reverse reconsideration shrinks the interval. -/
def reconsiderationRatio (s : Session) : ℚ :=
  (s.rtcpVar.members.toNat : ℚ) / s.rtcpVar.pmembers.toNat

/-- The reverse reconsideration step of `rtcp_interval_handle_rtcp_event`, taken when `members` has
    fallen below `pmembers`. -/
def reverseReconsider (s : Session) : Session :=
  let tc := s.rtcpCurrentTime
  let ratio := s.reconsiderationRatio
  let tn := s.rtcpVar.tn.map fun tn => tc + ratio * (tn - tc)
  let s := { s with rtcpVar := { s.rtcpVar with tp := tc - ratio * (tc - s.rtcpVar.tp) } }
  let s := s.rtcpIntervalReschedule tc tn
  { s with rtcpVar := { s.rtcpVar with pmembers := s.rtcpVar.members } }

/-- `rtcp_interval_handle_rtcp_event` -/
def rtcpIntervalHandleRtcpEvent (s : Session) (event : RtcpEvent) (flags : IntervalFlags)
    (pktSize : UInt32) : Session :=
  match event with
  | .rxNonBye =>
    { s with
      rtcpVar :=
        { s.rtcpVar with
          members := if flags.member then s.rtcpVar.members + 1 else s.rtcpVar.members
          avgRtcpSize := 1 / 16 * (pktSize.toNat : ℚ) + 15 / 16 * s.rtcpVar.avgRtcpSize } }
  -- a BYE does not go into the average size
  | .rxBye | .timeout =>
    let s :=
      { s with
        rtcpVar :=
          { s.rtcpVar with
            senders := if flags.sender then s.rtcpVar.senders - 1 else s.rtcpVar.senders
            members := if flags.member then s.rtcpVar.members - 1 else s.rtcpVar.members } }
    if s.rtcpVar.members < s.rtcpVar.pmembers then s.reverseReconsider else s

/-- The counters after a BYE or a timeout. -/
def countOff (s : Session) (flags : IntervalFlags) : Session :=
  { s with
    rtcpVar :=
      { s.rtcpVar with
        senders := if flags.sender then s.rtcpVar.senders - 1 else s.rtcpVar.senders
        members := if flags.member then s.rtcpVar.members - 1 else s.rtcpVar.members } }

theorem rtcpEvent_leaving (s : Session) {event : RtcpEvent} (hevent : event ≠ .rxNonBye)
    (flags : IntervalFlags) (pktSize : UInt32) :
    s.rtcpIntervalHandleRtcpEvent event flags pktSize =
      if (s.countOff flags).rtcpVar.members < s.rtcpVar.pmembers then
        (s.countOff flags).reverseReconsider
      else s.countOff flags := by
  cases event with
  | rxNonBye => exact absurd rfl hevent
  | rxBye | timeout => rfl

end Session

end Prtp
