import Prtp.MemberTable

set_option autoImplicit false

/-! # The source conflict table (`rtp_source_conflict.c`)

Addresses from which the session's own SSRC was heard, each kept for
`RTP_CONFIG_SOURCE_CONFLICT_TIMEOUT` after it was last seen. -/

namespace Prtp

namespace RtpSourceConflictTable

/-- `rtp_source_conflict_table_init` -/
def rtpSourceConflictTableInit (tbl : RtpSourceConflictTable) : RtpSourceConflictTable :=
  { tbl with pool := Pool.full (List.finRange _) (List.nodup_finRange _) List.mem_finRange }

/-- `rtp_source_conflict_lookup`: a hit restarts the entry's timer. -/
def rtpSourceConflictLookup (tbl : RtpSourceConflictTable) (tmr : SoftTimer TimerElem)
    (addr : SockaddrIn) : Bool × SoftTimer TimerElem :=
  match tbl.pool.findUsed fun c => decide (tbl.addr c = addr) with
  | none => (false, tmr)
  | some c =>
    (true, (tmr.softTimerDel (.conflict c)).softTimerAdd (.conflict c)
      rtpConfigSourceConflictTimeout)

/-- `rtp_source_conflict_add` -/
def rtpSourceConflictAdd (tbl : RtpSourceConflictTable) (tmr : SoftTimer TimerElem)
    (addr : SockaddrIn) : Bool × RtpSourceConflictTable × SoftTimer TimerElem :=
  match tbl.pool.take with
  | none => (false, tbl, tmr)
  | some (c, pool) =>
    (true, { addr := Function.update tbl.addr c addr, pool := pool },
      tmr.softTimerAdd (.conflict c) rtpConfigSourceConflictTimeout)

/-- `rtp_source_conflict_timer_expired` -/
def rtpSourceConflictTimerExpired (tbl : RtpSourceConflictTable) (c : ConflictSlot) :
    RtpSourceConflictTable :=
  { tbl with pool := tbl.pool.release c }

end RtpSourceConflictTable

namespace Session

/-- `rtp_source_conflict_lookup` on the session's table. -/
def rtpSourceConflictLookup (s : Session) (addr : SockaddrIn) : Bool × Session :=
  let r := s.srcConflict.rtpSourceConflictLookup s.softTimer addr
  (r.1, s.setTimer r.2)

/-- `rtp_source_conflict_add` on the session's table; the callers ignore its result. -/
def rtpSourceConflictAdd (s : Session) (addr : SockaddrIn) : Session :=
  let r := s.srcConflict.rtpSourceConflictAdd s.softTimer addr
  { s with srcConflict := r.2.1, softTimer := r.2.2 }

end Session

end Prtp
