import Prtp.Session

set_option autoImplicit false

/-! # A compound packet as a list of messages

Which sources an RTCP packet names, with what it says about each, depends on its octets only; what
becomes of each depends on the session. Here the two are taken apart: `rtcpMsgs` decodes the octets,
`handleMsg` interprets one message, and `val_rtcpRx` shows that `rtcp_rx` is the run of `handleMsg`
over the decoded messages. Results about received packets are invariants of that run. -/

namespace Prtp

open ByteReader

/-- One source named by a packet, with what the handlers do once it is accepted. -/
inductive RtcpMsg
  | sr (ssrc : UInt32) (ntp : NtpTs) (rtpTs psent osent : UInt32) (blocks : List (List UInt8))
      (sub : List UInt8)
  | rr (ssrc : UInt32) (blocks : List (List UInt8))
  | sdes (ssrc : UInt32) (cnames : List (List UInt8))
  | bye (ssrc : UInt32)
  deriving DecidableEq

namespace RtcpMsg

/-- The source whose address the message is checked against: every message but a BYE has one. -/
def source : RtcpMsg → Option UInt32
  | .sr ssrc .. => some ssrc
  | .rr ssrc _ => some ssrc
  | .sdes ssrc _ => some ssrc
  | .bye _ => none

end RtcpMsg

namespace Session

/-! ## Interpretation -/

/-- The callbacks of the loops over `rr[i]`. -/
def reportBlocks (fromSsrc : UInt32) (blocks : List (List UInt8)) (s : Session) : Session :=
  blocks.foldl (fun s block => s.emit (.rrRpt fromSsrc block)) s

/-- What follows `rtcp_handle_ssrc` for an accepted message of the member `m`. -/
def acceptMsg (s : Session) (m : Slot) : RtcpMsg → Session
  | .sr ssrc ntp rtpTs psent osent blocks sub =>
      (reportBlocks ssrc blocks (s.recordSr m ntp rtpTs psent osent)).emit (.srRpt ssrc sub)
  | .rr ssrc blocks => reportBlocks ssrc blocks s
  | .sdes _ cnames => cnames.foldl (fun s cname => s.recordCname m cname) s
  | .bye _ => s

/-- One message: a BYE is handled as it is, any other once its source is accepted. -/
def handleMsg (fromAddr : SockaddrIn) (len : UInt32) (s : Session) (msg : RtcpMsg) : Session :=
  match msg with
  | .bye ssrc => s.rtcpHandleByeSource ssrc len
  | .sr ssrc .. | .rr ssrc _ | .sdes ssrc _ =>
      let res := s.rtcpHandleSsrc ssrc fromAddr len
      match res.1 with
      | none => res.2
      | some m => res.2.acceptMsg m msg

/-- What one message can come to: a source that is turned away, one that is accepted, a BYE. -/
theorem handleMsg_rule {P : Session → Prop} {fromAddr : SockaddrIn} {len : UInt32} {s : Session}
    {msg : RtcpMsg}
    (hrejected : ∀ ssrc, msg.source = some ssrc → (s.rtcpHandleSsrc ssrc fromAddr len).1 = none →
      P (s.rtcpHandleSsrc ssrc fromAddr len).2)
    (haccepted : ∀ ssrc m, msg.source = some ssrc →
      (s.rtcpHandleSsrc ssrc fromAddr len).1 = some m →
      P ((s.rtcpHandleSsrc ssrc fromAddr len).2.acceptMsg m msg))
    (hbye : ∀ ssrc, msg = .bye ssrc → P (s.rtcpHandleByeSource ssrc len)) :
    P (handleMsg fromAddr len s msg) := by
  have hsource : ∀ ssrc, msg.source = some ssrc →
      P (match (s.rtcpHandleSsrc ssrc fromAddr len).1 with
        | none => (s.rtcpHandleSsrc ssrc fromAddr len).2
        | some m => (s.rtcpHandleSsrc ssrc fromAddr len).2.acceptMsg m msg) := by
    intro ssrc hssrc
    split
    · rename_i hnone
      exact hrejected ssrc hssrc hnone
    · rename_i m hm
      exact haccepted ssrc m hssrc hm
  cases msg with
  | sr ssrc ntp rtpTs psent osent blocks sub => exact hsource ssrc rfl
  | rr ssrc blocks => exact hsource ssrc rfl
  | sdes ssrc cnames => exact hsource ssrc rfl
  | bye ssrc => exact hbye ssrc rfl

/-! ## Decoding -/

/-- The report blocks from offset `rr` on. -/
def blocksAt (pkt : ByteMem) : Nat → Nat → List (List UInt8)
  | 0, _ => []
  | n + 1, rr => pkt.slice rr 24 :: blocksAt pkt n (rr + 24)

/-- The SR at `r`. -/
def srAt (pkt : ByteMem) (r : Nat) : RtcpMsg :=
  .sr ((be32 (r + 4)).val pkt) ⟨(be32 (r + 8)).val pkt, (be32 (r + 12)).val pkt⟩
    ((be32 (r + 16)).val pkt) ((be32 (r + 20)).val pkt) ((be32 (r + 24)).val pkt)
    (blocksAt pkt ((readCount r).val pkt) (r + 28)) (pkt.slice r ((readSize r).val pkt))

/-- The RR at `r`. -/
def rrAt (pkt : ByteMem) (r : Nat) : RtcpMsg :=
  .rr ((be32 (r + 4)).val pkt) (blocksAt pkt ((readCount r).val pkt) (r + 8))

/-- The CNAMEs of the items from `rsp` on that the inner loop of `rtcp_handle_sdes` records, and
    where it leaves `rsp`. -/
def cnamesAt (pkt : ByteMem) (stop : Nat) : Nat → Nat → List (List UInt8) × Nat
  | 0, rsp => ([], rsp)
  | n + 1, rsp =>
      if pkt rsp = 0 then ([], rsp)
      else
        let rspn := rsp + (pkt (rsp + 1)).toNat + 2
        if stop ≤ rspn then ([], rspn)
        else
          let rest := cnamesAt pkt stop n rspn
          if pkt rsp = rtcpSdesCname then
            (pkt.slice (rsp + 2) (pkt (rsp + 1)).toNat :: rest.1, rest.2)
          else rest

/-- The chunks from `sd` on. -/
def chunksAt (pkt : ByteMem) (stop : Nat) : Nat → Nat → List RtcpMsg
  | 0, _ => []
  | count + 1, sd =>
      if stop ≤ sd + 4 then []
      else
        let items := cnamesAt pkt stop (stop - (sd + 4)) (sd + 4)
        .sdes ((be32 sd).val pkt) items.1 ::
          chunksAt pkt stop count (sd + 4 * ((items.2 - sd) / 4 + 1))

/-- The sources of a BYE from `src` on. -/
def byesAt (pkt : ByteMem) : Nat → Nat → List RtcpMsg
  | 0, _ => []
  | n + 1, src => .bye ((be32 src).val pkt) :: byesAt pkt n (src + 4)

/-- The messages of the sub-packet at `r`. -/
def msgsAt (pkt : ByteMem) (r : Nat) : List RtcpMsg :=
  if pkt (r + 1) = rtcpSr then [srAt pkt r]
  else if pkt (r + 1) = rtcpRr then [rrAt pkt r]
  else if pkt (r + 1) = rtcpSdes then
    chunksAt pkt ((readSdesEnd r).val pkt) ((readCount r).val pkt) (r + 4)
  else if pkt (r + 1) = rtcpBye then byesAt pkt ((readCount r).val pkt) (r + 4)
  else []

/-- The messages of the sub-packets from `r` on. -/
def msgsFrom (pkt : ByteMem) (len : UInt32) : Nat → Nat → List RtcpMsg
  | 0, _ => []
  | n + 1, r =>
      if len.toNat ≤ r then []
      else msgsAt pkt r ++ msgsFrom pkt len n (r + (readSize r).val pkt)

/-- The messages of a compound packet: none if `rtcp_check_pkt` rejects it. -/
def rtcpMsgs (pkt : ByteMem) (len : UInt32) : List RtcpMsg :=
  if (rtcpCheckPkt len).val pkt = .noError then msgsFrom pkt len (len.toNat / 4) 0 else []

/-! ## The handlers are runs over the messages -/

theorem val_rrItems (ssrc : UInt32) (pkt : ByteMem) (n rr : Nat) (s : Session) :
    (rtcpHandleRrItems ssrc n rr s).val pkt = reportBlocks ssrc (blocksAt pkt n rr) s := by
  induction n generalizing rr s with
  | zero => rfl
  | succ n ih =>
      rw [rtcpHandleRrItems, val_bind, val_bytes, ih]
      rfl

theorem val_rtcpHandleSr (s : Session) (pkt : ByteMem) (r : Nat) (fromAddr : SockaddrIn)
    (len : UInt32) :
    (s.rtcpHandleSr r fromAddr len).val pkt = handleMsg fromAddr len s (srAt pkt r) := by
  rw [rtcpHandleSr, val_bind]
  simp only [handleMsg, srAt]
  cases (s.rtcpHandleSsrc ((be32 (r + 4)).val pkt) fromAddr len).1 with
  | none => rfl
  | some m =>
      simp only [val_bind, val_pure, val_rrItems, val_bytes]
      rfl

theorem val_rtcpHandleRr (s : Session) (pkt : ByteMem) (r : Nat) (fromAddr : SockaddrIn)
    (len : UInt32) :
    (s.rtcpHandleRr r fromAddr len).val pkt = handleMsg fromAddr len s (rrAt pkt r) := by
  rw [rtcpHandleRr, val_bind]
  simp only [handleMsg, rrAt]
  cases (s.rtcpHandleSsrc ((be32 (r + 4)).val pkt) fromAddr len).1 with
  | none => rfl
  | some m =>
      simp only [val_bind, val_rrItems]
      rfl

/-- The inner loop records the CNAMEs in order if the source was accepted, and moves `rsp` the same
    way if it was not. -/
theorem val_sdesItems (m : Option Slot) (pkt : ByteMem) (stop n rsp : Nat) (s : Session) :
    (rtcpHandleSdesItems m stop n rsp s).val pkt =
      ((cnamesAt pkt stop n rsp).2,
        match m with
        | none => s
        | some x => (cnamesAt pkt stop n rsp).1.foldl (fun s cname => s.recordCname x cname) s) := by
  induction n generalizing rsp s with
  | zero => cases m <;> rfl
  | succ n ih =>
      simp only [rtcpHandleSdesItems, cnamesAt, val_bind, val_byte, val_ite, val_pure]
      split
      · cases m <;> rfl
      · split
        · cases m <;> rfl
        · cases m with
          | none =>
              simp only [ih]
              split <;> rfl
          | some x =>
              simp only [val_ite, val_bind, val_bytes, ih]
              split <;> rfl

theorem val_sdesChunks (fromAddr : SockaddrIn) (len : UInt32) (pkt : ByteMem) (stop count sd : Nat)
    (s : Session) :
    (rtcpHandleSdesChunks fromAddr len stop count sd s).val pkt =
      Runs.run (handleMsg fromAddr len) s (chunksAt pkt stop count sd) := by
  induction count generalizing sd s with
  | zero => rfl
  | succ count ih =>
      simp only [rtcpHandleSdesChunks, chunksAt, val_ite, val_pure]
      split
      · rfl
      · rw [val_bind, val_bind, ih, val_sdesItems, Runs.run_cons]
        congr 1

theorem val_byeSources (fromAddr : SockaddrIn) (len : UInt32) (pkt : ByteMem) (n src : Nat)
    (s : Session) :
    (rtcpHandleByeSources len n src s).val pkt =
      Runs.run (handleMsg fromAddr len) s (byesAt pkt n src) := by
  induction n generalizing src s with
  | zero => rfl
  | succ n ih =>
      rw [rtcpHandleByeSources, val_bind, ih, byesAt, Runs.run_cons]
      rfl

theorem val_rtcpDispatch (s : Session) (pkt : ByteMem) (r : Nat) (fromAddr : SockaddrIn)
    (len : UInt32) :
    (s.rtcpDispatch r fromAddr len).val pkt =
      Runs.run (handleMsg fromAddr len) s (msgsAt pkt r) := by
  simp only [rtcpDispatch, msgsAt, val_bind, val_byte, val_ite, val_pure]
  split
  · exact s.val_rtcpHandleSr pkt r fromAddr len
  · split
    · exact s.val_rtcpHandleRr pkt r fromAddr len
    · split
      · rw [rtcpHandleSdes, val_bind, val_bind, val_sdesChunks]
      · split
        · rw [rtcpHandleBye, val_bind, val_byeSources fromAddr]
        · rfl

theorem val_rtcpRxLoop (fromAddr : SockaddrIn) (len : UInt32) (pkt : ByteMem) (n r : Nat)
    (s : Session) :
    (rtcpRxLoop fromAddr len n r s).val pkt =
      Runs.run (handleMsg fromAddr len) s (msgsFrom pkt len n r) := by
  induction n generalizing r s with
  | zero => rfl
  | succ n ih =>
      simp only [rtcpRxLoop, msgsFrom, val_ite, val_pure]
      split
      · rfl
      · rw [val_bind, val_bind, val_rtcpDispatch, ih, Runs.run_append]

/-- `rtcp_rx` handles the messages of an accepted packet one after the other, and only counts a
    rejected one. -/
theorem val_rtcpRx (s : Session) (pkt : ByteMem) (len : UInt32) (fromAddr : SockaddrIn) :
    (s.rtcpRx len fromAddr).val pkt =
      if (rtcpCheckPkt len).val pkt = .noError then
        Runs.run (handleMsg fromAddr len) (s.setRtcpError .noError) (rtcpMsgs pkt len)
      else
        { s.setRtcpError ((rtcpCheckPkt len).val pkt) with
          invalidRtcpPkt := s.invalidRtcpPkt + 1 } := by
  rw [rtcpRx, val_bind, val_ite, val_pure]
  split
  · rename_i h
    rw [val_rtcpRxLoop, rtcpMsgs, if_pos h, h]
  · rfl

end Session

end Prtp
