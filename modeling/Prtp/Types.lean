import Prtp.Library.ByteMem
import Prtp.Library.Pool
import Prtp.SoftTimer
import Mathlib.Algebra.Order.Field.Rat
import Mathlib.Algebra.Order.Ring.Int
import Mathlib.Data.Fintype.Basic
import Mathlib.Data.Rat.Lemmas

set_option autoImplicit false

/-! # The data of a session

The records of `rtp_session.h`, `rtp_member.h`, `rtp_member_table.h`, `rtp_source_conflict.h`,
`rfc3550.h` and `ntp_ts.h`, with the constants of `rtp_config.h`.

Pointers to members are slot numbers. Unsigned fields keep their widths. A `double` is an exact
rational; where the code can produce an infinity or a NaN the field is an `Option`. What the session
gets from outside (random numbers, clocks, the caller's timestamp function) is the stream `Env`,
and what it hands to its callbacks is collected in `out`. -/

namespace Prtp

/-! ## `rtp_config.h` -/

abbrev rtpConfigMaxMembersPerSession : Nat := 32
abbrev rtpConfigMaxRtpPktSize : Nat := 1024
abbrev rtpConfigAverageRtcpSize : Nat := 256
abbrev rtpConfigSourceConflictTableSize : Nat := 16
abbrev rtpConfigSourceConflictTimeout : Int := 5000
abbrev rtpConfigSenderTimeout : Int := 5000
abbrev rtpConfigMemberTimeout : Int := 10000
abbrev rtpConfigLeaveTimeout : Int := 3000
abbrev rtpConfigMaxDropout : Nat := 3000
abbrev rtpConfigMaxMisorder : Nat := 100
abbrev rtpConfigMinSequential : UInt32 := 2
abbrev rtpConfigRtcpEncoderBufferLen : Nat := 256

/-- Size of `rtp_session_t.rtp_pkt`, which is declared with `RTP_CONFIG_AVERAGE_RTCP_SIZE`. -/
abbrev rtpPktLen : Nat := rtpConfigAverageRtcpSize

/-! ## Numbers -/

/-- Conversion of a `double` to `uint32_t`: truncation, then reduction modulo `2^32`. -/
def truncToUInt32 (q : ℚ) : UInt32 := UInt32.ofInt (q.num.tdiv q.den)

theorem truncToUInt32_div (a : ℤ) {d : ℤ} (hd : 0 < d) :
    truncToUInt32 (a / d) = UInt32.ofInt (a.tdiv d) := by
  obtain ⟨c, hnum, hden⟩ := Rat.exists_eq_mul_div_num_and_eq_mul_div_den a hd.ne'
  have hpos : (0 : ℤ) < ((a : ℚ) / d).den := Int.natCast_pos.2 ((a : ℚ) / d).den_pos
  have hc : 0 < c := (mul_pos_iff_of_pos_right hpos).1 (hden ▸ hd)
  have htdiv := Int.mul_tdiv_mul_of_pos ((a : ℚ) / d).num ((a : ℚ) / d).den hc
  rw [← hnum, ← hden] at htdiv
  rw [truncToUInt32, htdiv]

theorem toNat_ofInt16 (t : ℤ) : ((UInt16.ofInt t).toNat : ℤ) = t % 65536 := by
  rw [UInt16.ofInt, UInt16.toNat_ofNat']
  omega

theorem toNat_ofInt32 (t : ℤ) : ((UInt32.ofInt t).toNat : ℤ) = t % 4294967296 := by
  rw [UInt32.ofInt, UInt32.toNat_ofNat']
  omega

/-- A word, read as `int32_t`. -/
theorem toInt_toInt32 (x : UInt32) :
    x.toInt32.toInt = if x.toNat < 2147483648 then (x.toNat : ℤ) else x.toNat - 4294967296 := by
  have h : x.toInt32.toInt = x.toBitVec.toInt := rfl
  rw [h, BitVec.toInt_eq_toNat_cond, UInt32.toNat_toBitVec]
  split
  · rw [if_pos (by omega)]
  · rw [if_neg (by omega)]
    rfl

theorem zero_le_toInt32 (x : UInt32) : 0 ≤ x.toInt32 ↔ x.toNat < 2147483648 := by
  have hlt := x.toNat_lt
  rw [Int32.le_iff_toInt_le, toInt_toInt32, Int32.toInt_zero]
  split
  · omega
  · omega

/-- The values `drand48` returns. -/
abbrev Drand48 : Type := { q : ℚ // 0 ≤ q ∧ q < 1 }

/-- `struct timeval` -/
structure Timeval where
  tvSec : Int
  tvUsec : Int
deriving DecidableEq

/-- `ntp_ts_t` -/
structure NtpTs where
  second : UInt32
  fraction : UInt32
deriving DecidableEq

/-- Seconds from 1900 to 1970. -/
abbrev ntpUnixOffset : UInt32 := 0x83AA7E80

/-- `ntp_ts_init` -/
def ntpTsInit : NtpTs := ⟨0, 0⟩

/-- `ntp_ts_to_unix_time` -/
def ntpTsToUnixTime (nt : NtpTs) : Timeval :=
  { tvSec := (nt.second - ntpUnixOffset).toNat
    tvUsec := (truncToUInt32 (nt.fraction.toNat * 1000000 / 4294967296)).toNat }

/-- `ntp_ts_from_unix_time` -/
def ntpTsFromUnixTime (ut : Timeval) : NtpTs :=
  { second := UInt32.ofInt (ut.tvSec + ntpUnixOffset.toNat)
    fraction := truncToUInt32 ((ut.tvUsec + 1) * 4294967296 / 1000000) }

/-- `ntp_ts_diff_in_sec` -/
def ntpTsDiffInSec (a b : NtpTs) : ℚ :=
  let ua := ntpTsToUnixTime a
  let ub := ntpTsToUnixTime b
  let la : ℚ := ua.tvSec * 1000000 + ua.tvUsec
  let lb : ℚ := ub.tvSec * 1000000 + ub.tvUsec
  (lb - la) / 1000000

/-! ## Members -/

/-- `struct sockaddr_in`, which the code compares bytewise over its whole size. -/
structure SockaddrIn where
  sinFamily : UInt16
  sinPort : UInt16
  sinAddr : UInt32
  sinZero : UInt64
deriving DecidableEq

/-- `rtp_source_t` -/
structure RtpSource where
  maxSeq : UInt16
  cycles : UInt32
  baseSeq : UInt32
  badSeq : UInt32
  probation : UInt32
  received : UInt32
  expectedPrior : UInt32
  receivedPrior : UInt32
  transit : UInt32
  jitter : UInt32
deriving DecidableEq

/-- The `RTP_FLAG_*` bits of a member's `flags` word. -/
structure RtpFlags where
  self : Bool
  rtpHeard : Bool
  rtcpHeard : Bool
  byeReceived : Bool
  validated : Bool
  sender : Bool
  csrc : Bool
deriving DecidableEq

/-- The `flags` word `0`. -/
def RtpFlags.zero : RtpFlags := ⟨false, false, false, false, false, false, false⟩

/-- `rtp_member_t`; its three timer elements are named by `TimerElem`. -/
@[ext] structure RtpMember where
  rtpAddr : SockaddrIn
  rtcpAddr : SockaddrIn
  ssrc : UInt32
  cname : ByteMem
  cnameLen : UInt8
  flags : RtpFlags
  rtpSrc : RtpSource
  lastSr : NtpTs
  lastSrLocalTime : NtpTs
  rtpTs : UInt32
  pktCount : UInt32
  octetCount : UInt32

/-- An index of `member_array`: what a `rtp_member_t*` points at. -/
abbrev Slot : Type := Fin rtpConfigMaxMembersPerSession

/-- Found once, here, for every `m ∈ l` that a definition decides. -/
instance : LawfulBEq Slot := inferInstance

/-- `rtp_member_table_t`: `free_list` and `used_list` are the two queues of the pool. -/
structure RtpMemberTable where
  memberArray : Slot → RtpMember
  pool : Pool Slot
  numMembers : UInt32

/-- An index of the conflict table's `entries`. -/
abbrev ConflictSlot : Type := Fin rtpConfigSourceConflictTableSize

/-- `rtp_source_conflict_table_t` -/
@[ext] structure RtpSourceConflictTable where
  addr : ConflictSlot → SockaddrIn
  pool : Pool ConflictSlot

/-- The timer elements of a session. -/
inductive TimerElem
  | rtcp
  | member (m : Slot)
  | sender (m : Slot)
  | leave (m : Slot)
  | conflict (c : ConflictSlot)
deriving DecidableEq

/-! ## Session -/

/-- `rtcp_control_var_t`. `tn` is `none` when the code holds an infinity or a NaN there. The last
    field is a history variable no function reads: the value of `members` when `tn` was last
    assigned. -/
structure RtcpControlVar where
  tp : ℚ
  tn : Option ℚ
  pmembers : UInt32
  members : UInt32
  senders : UInt32
  rtcpBw : ℚ
  avgRtcpSize : ℚ
  weSent : Bool
  initial : Bool
  tnMembers : UInt32

/-- `rtp_session_config_t` -/
structure RtpSessionConfig where
  rtpAddr : SockaddrIn
  rtcpAddr : SockaddrIn
  sessionBw : UInt32
  cname : ByteMem
  cnameLen : UInt8
  pt : UInt8
  alignBy4 : Bool

/-- `rtp_rx_error_t` -/
inductive RtpRxError
  | noError | headerTooShort | invalidCsrcCount | invalidRtpVersion | invalidPayloadType
  | invalidOctetCount | notImplemented | seqError | memberAllocFailed | memberFirstHeard
  | memberByeInProgress | memberFirstRtpAfterRtcp | thirdPartyConflict | sourceInConflictList
  | ssrcConflict
deriving DecidableEq

/-- `rtcp_rx_error_t` -/
inductive RtcpRxError
  | noError | headerTooShort | lenNotMultiple4 | invalidMask | invalidCompoundPacket
  | memberAllocFailed | memberFirstHeard | memberByeInProgress | thirdPartyConflict
  | sourceInConflictList | ssrcConflict
deriving DecidableEq

/-- `rtp_rx_report_t` -/
structure RtpRxReport where
  payload : List UInt8
  payloadLen : UInt32
  rtpTs : UInt32
  seq : UInt16
  csrc : List UInt32
  ncsrc : Nat
deriving DecidableEq

/-- What a session hands out: its callbacks with the bytes they can see, and the log line that
    `rtcp_send_report` prints on entry. -/
inductive Output
  | rxRtp (rpt : RtpRxReport)
  | srRpt (fromSsrc : UInt32) (r : List UInt8)
  | rrRpt (fromSsrc : UInt32) (rr : List UInt8)
  | txRtp (pkt : List UInt8)
  | txRtcp (pkt : List UInt8)
  | logRtcpTx
deriving DecidableEq

/-- What the session will be given, in order: results of `rtp_random32`, `drand48`, `gettimeofday`
    and the `rtp_timestamp` callback, and the stack bytes an encoder is built in. -/
structure Env where
  random32 : List UInt32
  drand48 : Nat → Drand48
  timeofday : Nat → Timeval
  rtpTimestamp : Nat → UInt32
  stack : ByteMem

/-- `rtp_session_t`. `undef` marks a run that has come to one of these, and says nothing from then on: a store
    outside `rtp_pkt`, a timer link re-initialised while it is queued, an own member taken from a full
    table, the null store of `RTPCRASH`, or the retry loop of a SSRC change running through every draw `Env`
    holds. -/
structure Session where
  softTimer : SoftTimer TimerElem
  rtpPkt : ByteMem
  seq : UInt16
  memberTable : RtpMemberTable
  rtcpVar : RtcpControlVar
  self : Slot
  srcConflict : RtpSourceConflictTable
  invalidRtcpPkt : UInt32
  invalidRtpPkt : UInt32
  lastRtpError : RtpRxError
  lastRtcpError : RtcpRxError
  txPktCount : UInt32
  txOctetCount : UInt32
  config : RtpSessionConfig
  env : Env
  out : List Output
  undef : Bool

namespace Session

/-- `*m` -/
def member (s : Session) (m : Slot) : RtpMember := s.memberTable.memberArray m

/-- `*m = x` -/
def setMember (s : Session) (m : Slot) (x : RtpMember) : Session :=
  { s with
    memberTable :=
      { s.memberTable with memberArray := Function.update s.memberTable.memberArray m x } }

/-- Update `*m` in place. -/
def modifyMember (s : Session) (m : Slot) (f : RtpMember → RtpMember) : Session :=
  s.setMember m (f (s.member m))

/-- Hand something to a callback. -/
def emit (s : Session) (o : Output) : Session := { s with out := s.out ++ [o] }

/-- `sess->self`, followed. -/
def selfMember (s : Session) : RtpMember := s.member s.self

/-- The slots on `used_list`. -/
def usedList (s : Session) : List Slot := s.memberTable.pool.used

/-- The slots on `free_list`. -/
def freeList (s : Session) : List Slot := s.memberTable.pool.free

theorem member_setMember (s : Session) (m j : Slot) (x : RtpMember) :
    (s.setMember m x).member j = if j = m then x else s.member j := by
  simp [member, setMember, Function.update_apply]

theorem member_modifyMember (s : Session) (m j : Slot) (f : RtpMember → RtpMember) :
    (s.modifyMember m f).member j = if j = m then f (s.member m) else s.member j :=
  member_setMember ..

theorem member_modifyMember_self (s : Session) (m : Slot) (f : RtpMember → RtpMember) :
    (s.modifyMember m f).member m = f (s.member m) :=
  (member_modifyMember ..).trans (if_pos rfl)

theorem member_modifyMember_of_ne (s : Session) {m j : Slot} (h : j ≠ m)
    (f : RtpMember → RtpMember) : (s.modifyMember m f).member j = s.member j :=
  (member_modifyMember ..).trans (if_neg h)

theorem mem_freeList_iff (s : Session) (i : Slot) : i ∈ s.freeList ↔ i ∉ s.usedList :=
  s.memberTable.pool.mem_free_iff i

/-- Replace the wheel. -/
def setTimer (s : Session) (t : SoftTimer TimerElem) : Session := { s with softTimer := t }

/-- `ntp_ts_now` -/
def ntpTsNow (s : Session) : NtpTs × Session :=
  (ntpTsFromUnixTime (s.env.timeofday 0),
    { s with env := { s.env with timeofday := fun n => s.env.timeofday (n + 1) } })

/-- `rtp_session_timestamp` -/
def rtpSessionTimestamp (s : Session) : UInt32 × Session :=
  (s.env.rtpTimestamp 0,
    { s with env := { s.env with rtpTimestamp := fun n => s.env.rtpTimestamp (n + 1) } })

/-- `drand48` -/
def drand48 (s : Session) : ℚ × Session :=
  ((s.env.drand48 0).1,
    { s with env := { s.env with drand48 := fun n => s.env.drand48 (n + 1) } })

end Session

end Prtp
