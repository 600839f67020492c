import Prtp.HandedOut
import Prtp.Library.Networks
import Prtp.OwnAddresses
import Prtp.RtpRoundTrip

set_option autoImplicit false

/-! # Sessions that talk to each other

Any number of sessions over a datagram network: what one of them hands to `tx_rtp` or `tx_rtcp` may reach
any other one, any number of times, in any order and as late as it likes, in a receive buffer that holds
anything behind it, and may also get lost. The only thing asked of the network is that no datagram comes
from an address of its receiver, and of an application that the packets it sends fit `rtp_pkt`, or are
rejected, and name no more than 15 CSRCs.

Beside the network runs a log of what the datagrams were made from: the transmits of the applications and
the reports of the interval timers, each with the session it was called in. `ExchangeRules` is the rule the
results about exchanges rest on. It is free of octets: what a session hears is the data of a transmit, or
the two messages of a report, that somebody in the log has sent. -/

namespace Prtp

open ByteReader

/-! ## Datagrams -/

/-- What a session sends, on either of its channels. -/
inductive Datagram
  | rtp (bytes : List UInt8)
  | rtcp (bytes : List UInt8)
deriving DecidableEq

/-- The datagram a callback sends, if it is one that sends. -/
def Output.datagram : Output → Option Datagram
  | .txRtp pkt => some (.rtp pkt)
  | .txRtcp pkt => some (.rtcp pkt)
  | _ => none

/-- How a datagram arrives: what its buffer held before, and the address it comes from. -/
structure Arrival where
  buffer : ByteMem
  fromAddr : SockaddrIn

namespace Datagram

/-- The octets of a datagram. -/
def bytes : Datagram → List UInt8
  | .rtp bytes => bytes
  | .rtcp bytes => bytes

/-- The call a datagram is to its receiver. -/
def op (d : Datagram) (a : Arrival) : Op :=
  match d with
  | .rtp bytes => .rxRtp (a.buffer.storeBytes 0 bytes) (UInt32.ofNat bytes.length) a.fromAddr
  | .rtcp bytes => .rxRtcp (a.buffer.storeBytes 0 bytes) (UInt32.ofNat bytes.length) a.fromAddr

end Datagram

/-- The datagrams a call sends. -/
def Session.posts (s : Session) (op : Op) : List Datagram :=
  ((step s op).out.drop s.out.length).filterMap Output.datagram

/-- What a call sends is among the outputs it hands out. -/
theorem Session.mem_posts {s : Session} {op : Op} {d : Datagram} {P : Output → Prop}
    (hd : d ∈ s.posts op) (h : HandsOut P s (step s op)) : ∃ o, o.datagram = some d ∧ P o := by
  obtain ⟨new, hnew, hall⟩ := h
  rw [posts, hnew, List.drop_left, List.mem_filterMap] at hd
  obtain ⟨o, ho, hdatagram⟩ := hd
  exact ⟨o, hdatagram, hall o ho⟩

/-- A session on a network. -/
def sessions : Machine Session Op Datagram Arrival := ⟨step, Session.posts, Datagram.op⟩

/-! ## The log -/

/-- What a datagram was made from: a transmit or a report, with the session it was called in. -/
inductive Origin
  | data (s : Session) (payload : ByteMem) (payloadLen rtpTs : UInt32) (csrc : ℕ → UInt32)
      (ncsrc : UInt8)
  | report (s : Session)

/-- The transmits and reports of all parties. -/
abbrev SentLog (ι : Type) : Type := List (ι × Origin)

/-- What a call adds to the log. -/
def noteSent {ι : Type} (log : SentLog ι) (i : ι) (s : Session) : Op → SentLog ι
  | .tx payload payloadLen rtpTs csrc ncsrc =>
      log ++ [(i, .data s payload payloadLen rtpTs csrc ncsrc)]
  | .tick => log ++ s.tickReports.map fun r => (i, .report r)
  | .rxRtp .. => log
  | .rxRtcp .. => log

theorem mem_noteSent {ι : Type} {log : SentLog ι} {e : ι × Origin} (h : e ∈ log) (i : ι)
    (s : Session) (op : Op) : e ∈ noteSent log i s op := by
  cases op with
  | tx | tick => exact List.mem_append_left _ h
  | rxRtp | rxRtcp => exact h

namespace Origin

/-- These octets went out for this origin: the transmit was not rejected, the report fitted. -/
def Sends : Origin → Datagram → Prop
  | .data s payload payloadLen rtpTs csrc ncsrc, .rtp bytes =>
      s.SendsRtp payload payloadLen rtpTs csrc ncsrc bytes ∧ ncsrc.toNat ≤ 15
  | .report s, .rtcp bytes => s.Transmits bytes
  | .data .., .rtcp _ => False
  | .report _, .rtp _ => False

/-- The header of a transmit's packet. -/
def hdr (s : Session) (rtpTs : UInt32) (csrc : ℕ → UInt32) (ncsrc : UInt8) : Session.RtpHdr :=
  ⟨s.seq, rtpTs, s.selfMember.ssrc, (List.range ncsrc.toNat).map csrc⟩

/-- The messages of a report. -/
def msgs (s : Session) : List RtcpMsg :=
  [s.reportMsg, .sdes s.selfMember.ssrc [s.selfCname]]

end Origin

namespace Exchange

variable {ι : Type} (config : ι → RtpSessionConfig)

/-- What a party does itself: it ticks, and it transmits packets that fit `rtp_pkt`, or are rejected, and
    name no more CSRCs than the header can count. -/
def Own : Op → Prop
  | .tx _ payloadLen _ _ ncsrc => Session.TxFits payloadLen ncsrc ∧ ncsrc.toNat ≤ 15
  | .tick => True
  | .rxRtp .. => False
  | .rxRtcp .. => False

/-- A datagram does not come from its receiver's own address for the channel. -/
def Foreign (config : RtpSessionConfig) : Datagram → Arrival → Prop
  | .rtp _, a => a.fromAddr ≠ config.rtpAddr
  | .rtcp _, a => a.fromAddr ≠ config.rtcpAddr

instance : (op : Op) → Decidable (Own op)
  | .tx .. => inferInstanceAs (Decidable (_ ∧ _))
  | .tick => isTrue trivial
  | .rxRtp .. => isFalse id
  | .rxRtcp .. => isFalse id

instance (config : RtpSessionConfig) : (d : Datagram) → (a : Arrival) → Decidable (Foreign config d a)
  | .rtp _, _ => inferInstanceAs (Decidable (_ ≠ _))
  | .rtcp _, _ => inferInstanceAs (Decidable (_ ≠ _))

/-- The moves of an exchange. -/
abbrev Move (ι : Type) : Type := Network.Move ι Op Arrival

/-- The sessions, just initialised on memory holding `mem`, and nothing sent. -/
def start (mem : ι → Session) : Network ι Session Datagram :=
  ⟨fun i => (mem i).rtpSessionInit (config i), []⟩

/-- What the moves of an exchange have to meet. -/
abbrev Moves : Network ι Session Datagram → Move ι → Prop :=
  Network.Moves (fun _ _ op => Own op) fun i _ _ d a => Foreign (config i) d a

variable [DecidableEq ι]

/-- The moves make up an exchange. -/
def Proper (mem : ι → Session) (moves : List (Move ι)) : Prop :=
  Runs.Guarded (Network.step sessions) (Moves config) (start config mem) moves

instance (mem : ι → Session) (moves : List (Move ι)) : Decidable (Proper config mem moves) :=
  inferInstanceAs (Decidable (Runs.Guarded _ _ _ _))

/-- The log of an exchange. -/
def log (mem : ι → Session) (moves : List (Move ι)) : SentLog ι :=
  Runs.history (Network.step sessions) (Network.note sessions noteSent) [] (start config mem) moves

/-- The parties after an exchange. -/
def parties (mem : ι → Session) (moves : List (Move ι)) : ι → Session :=
  (Runs.run (Network.step sessions) (start config mem) moves).party

end Exchange

/-! ## What the parties send -/

namespace Session

/-- A transmit sends its packet, if it is not rejected. -/
theorem posts_tx {s : Session} {payload : ByteMem} {payloadLen rtpTs : UInt32} {csrc : ℕ → UInt32}
    {ncsrc : UInt8} (hown : Exchange.Own (.tx payload payloadLen rtpTs csrc ncsrc)) {d : Datagram}
    (hd : d ∈ s.posts (.tx payload payloadLen rtpTs csrc ncsrc)) :
    (Origin.data s payload payloadLen rtpTs csrc ncsrc).Sends d := by
  obtain ⟨o, hdatagram, bytes, rfl, hsends⟩ :=
    mem_posts hd (s.handsOut_rtpTx payload rtpTs csrc hown.1)
  obtain rfl := Option.some.inj hdatagram
  exact ⟨hsends, hown.2⟩

/-- A tick sends the reports of the interval timer that fit. -/
theorem posts_tick {s : Session} {d : Datagram} (hd : d ∈ s.posts .tick) :
    ∃ r ∈ s.tickReports, (Origin.report r).Sends d := by
  obtain ⟨o, hdatagram, ho⟩ := mem_posts hd s.handsOut_tick
  rcases ho with rfl | ⟨r, hr, bytes, rfl, hsends⟩
  · exact absurd hdatagram (by simp [Output.datagram])
  · obtain rfl := Option.some.inj hdatagram
    exact ⟨r, hr, hsends⟩

/-- What arrives is not answered. -/
theorem posts_hear (s : Session) (d : Datagram) (a : Arrival) : s.posts (d.op a) = [] := by
  refine List.eq_nil_iff_forall_not_mem.2 fun d' hd' => ?_
  cases d with
  | rtp bytes =>
      obtain ⟨o, hdatagram, report, rfl⟩ := mem_posts hd' (s.handsOut_rtpRx _ _ _)
      exact absurd hdatagram (by simp [Output.datagram])
  | rtcp bytes =>
      obtain ⟨o, hdatagram, msg, ho⟩ := mem_posts hd' (s.handsOut_rtcpRx _ _ _)
      cases msg with
      | sr ssrc ntp rtpTs psent osent blocks sub =>
          rcases ho with rfl | ⟨block, -, rfl⟩
          · exact absurd hdatagram (by simp [Output.datagram])
          · exact absurd hdatagram (by simp [Output.datagram])
      | rr ssrc blocks =>
          obtain ⟨block, -, rfl⟩ := ho
          exact absurd hdatagram (by simp [Output.datagram])
      | sdes | bye => exact ho.elim

/-! ## What the parties hear -/

/-- A packet of another payload type is refused. -/
theorem PktAt.otherType {s : Session} {payload pkt : ByteMem} {payloadLen rtpTs len : UInt32}
    {csrc : ℕ → UInt32} {ncsrc pad : ℕ}
    (h : PktAt s payload payloadLen.toNat rtpTs csrc ncsrc pad pkt) (hcc : ncsrc < 16)
    (hlen : len.toNat = rtpPktSize ncsrc payloadLen.toNat + pad) {pt : UInt8}
    (hpt : s.config.pt.toNat % 128 ≠ pt.toNat) :
    (rtpHeaderValidityCheck len pt).val pkt = .error .invalidPayloadType := by
  have hsize : rtpPktSize ncsrc payloadLen.toNat = 12 + 4 * ncsrc + payloadLen.toNat := by
    rw [rtpPktSize, rtpHdrSize]
    omega
  have hcount : hdrCc (pkt 0) = ncsrc := h.cc.trans (Nat.mod_eq_of_lt hcc)
  have hfirst := h.first
  rw [Nat.mod_eq_of_lt hcc] at hfirst
  have hversion : (pkt 0).toNat / 64 = 2 := by
    rw [hfirst]
    split
    · omega
    · omega
  simp only [rtpHeaderValidityCheck, val_ite, val_bind, val_byte, val_pure, hcount]
  rw [if_neg (by omega), if_neg (by omega), if_neg (by omega), if_pos]
  rwa [h.second, Nat.mod_mod]

/-- `rtp_rx` on a packet it refuses. -/
def rtpRefused (s : Session) (e : RtpRxError) : Session :=
  { s.rtpSessionTimestamp.2.setRtpError e with invalidRtpPkt := s.invalidRtpPkt + 1 }

/-- A data packet that somebody has sent is taken for what it was made from, or refused by a session of
    another payload type. -/
theorem val_rtpRx_of_sendsRtp {s t : Session} {payload buffer : ByteMem} {payloadLen rtpTs : UInt32}
    {csrc : ℕ → UInt32} {ncsrc : UInt8} {bytes : List UInt8} (hpt : s.config.pt.toNat < 128)
    (hsent : s.SendsRtp payload payloadLen rtpTs csrc ncsrc bytes) (hfew : ncsrc.toNat ≤ 15)
    (fromAddr : SockaddrIn) :
    (t.rtpRx (UInt32.ofNat bytes.length) fromAddr).val (buffer.storeBytes 0 bytes) =
      if t.config.pt = s.config.pt then
        t.rtpSessionTimestamp.2.rtpRxData (Origin.hdr s rtpTs csrc ncsrc)
          (payload.slice 0 payloadLen.toNat) payloadLen t.rtpSessionTimestamp.1 fromAddr
      else t.rtpRefused .invalidPayloadType := by
  have hholds := ByteMem.Holds.storeBytes_self buffer 0 bytes
  have hcc : ncsrc.toNat < 16 := Nat.lt_succ_of_le hfew
  obtain ⟨pad, hsize, hpad, hat⟩ := pktAt_of_sendsRtp hsent hholds
  have hlt : bytes.length < 4294967296 := by
    have hfits := hsent.fits
    have hlen : rtpPktLen = 256 := rfl
    by_cases hnone : pad = 0
    · omega
    · have hoctet := (buffer.storeBytes 0 bytes
        (rtpPktSize ncsrc.toNat payloadLen.toNat + pad - 1)).toNat_lt
      rw [hat.padding hnone] at hoctet
      omega
  have hlen : (UInt32.ofNat bytes.length).toNat = bytes.length := by
    rw [UInt32.toNat_ofNat', Nat.mod_eq_of_lt hlt]
  split
  · rename_i hsame
    have hvalid := hat.valid hcc hpt (hlen.trans hsize) hpad
    rw [← hsame] at hvalid
    have hpayload : (ByteReader.bytes (rtpHdrSize ncsrc.toNat) payloadLen.toNat).val
        (buffer.storeBytes 0 bytes) = payload.slice 0 payloadLen.toNat := by
      have hstored := hat.payload
      rw [ByteMem.Holds, ByteMem.slice_length] at hstored
      rw [val_bytes, hstored]
    rw [t.val_rtpRx_of_ok hvalid, hat.hdr hcc, hpayload]
    rfl
  · rename_i hother
    have hne : s.config.pt.toNat % 128 ≠ t.config.pt.toNat := by
      rw [Nat.mod_eq_of_lt hpt]
      exact fun h => hother (UInt8.toNat.inj h.symm)
    rw [t.val_rtpRx_of_error (hat.otherType hcc (hlen.trans hsize) hne)]
    rfl

theorem reportBytes_length (s : Session) :
    s.reportBytes.length = s.reportSize + RtcpEncoder.sdesSize s.selfMember.cnameLen.toNat := by
  rw [reportBytes, compoundReport, List.length_append, rtcpSubPkt_length, rtcpSubPkt_length, ← reportBody,
    s.reportBody_length, RtcpEncoder.sdesChunk_length, selfCname, ByteMem.slice_length]
  rfl

/-- A report that somebody has sent passes the packet check, and consists of its two messages. -/
theorem rtcpMsgs_of_transmits {s : Session} {bytes : List UInt8} (hsent : s.Transmits bytes)
    (buffer : ByteMem) :
    (rtcpCheckPkt (UInt32.ofNat bytes.length)).val (buffer.storeBytes 0 bytes) = .noError ∧
      rtcpMsgs (buffer.storeBytes 0 bytes) (UInt32.ofNat bytes.length) = Origin.msgs s := by
  obtain ⟨hfits, rfl⟩ := hsent.eq
  have hholds := ByteMem.Holds.storeBytes_self buffer 0 s.reportBytes
  have hlt : s.reportBytes.length < 4294967296 := by
    have hroom : rtpConfigRtcpEncoderBufferLen ≤ 512 := by decide
    rw [ReportFits, ← s.reportBytes_length] at hfits
    omega
  have hlen : (UInt32.ofNat s.reportBytes.length).toNat = s.reportBytes.length := by
    rw [UInt32.toNat_ofNat', Nat.mod_eq_of_lt hlt]
  have hat := reportAt_of_holds hfits hholds hlen
  exact ⟨hat.accepted, hat.msgs⟩

theorem val_rtcpRx_of_transmits {s : Session} (t : Session) {bytes : List UInt8}
    (hsent : s.Transmits bytes) (buffer : ByteMem) (fromAddr : SockaddrIn) :
    (t.rtcpRx (UInt32.ofNat bytes.length) fromAddr).val (buffer.storeBytes 0 bytes) =
      Runs.run (handleMsg fromAddr (UInt32.ofNat bytes.length)) (t.setRtcpError .noError)
        (Origin.msgs s) := by
  obtain ⟨haccepted, hmsgs⟩ := rtcpMsgs_of_transmits hsent buffer
  rw [val_rtcpRx, if_pos haccepted, hmsgs]

/-- What the interval timer reports from is a session of the tick, with one element off its wheel and an
    interval drawn. -/
theorem ActRules.reports {P : Session → Prop} {g : ActGuard} (h : ActRules P g) {s : Session}
    (hP : P s) (hexpire : g.expire s) (hfire : ∀ p ∈ s.tickFirings, g.fire p.1 p.2) :
    ∀ r ∈ s.tickReports, ∃ t timer, P t ∧ r = (t.setTimer timer).drawInterval.2 := by
  intro r hr
  obtain ⟨c, hc, hcall⟩ := firing_of_tickReports hr
  obtain ⟨t, rest, ht, -, hpop⟩ := h.firings hP hexpire hfire _ hc
  simp only at hpop
  exact ⟨t, _, ht, by rw [eq_of_sendReportCall hcall, hpop]⟩

/-- What every party keeps, as long as what reaches it comes from abroad. -/
theorem party_rules (config : RtpSessionConfig) :
    ActRules (fun s => (s.InOrder ∧ s.AtHome config) ∧ s.UniqueSsrc) (abroad config) :=
  (atHome_rules config).and (unique_rules.mono (abroad config).le_any)

end Session

/-! ## The rule -/

/-- The session a datagram was made from. -/
def Origin.session : Origin → Session
  | .data s .. => s
  | .report s => s

namespace Exchange

variable {ι : Type} {config : ι → RtpSessionConfig} {P : SentLog ι → ι → Session → Prop}

/-- A party in whose name nobody else speaks, and of which the fact holds. -/
structure Party (config : ι → RtpSessionConfig) (P : SentLog ι → ι → Session → Prop) (log : SentLog ι)
    (i : ι) (s : Session) : Prop where
  inOrder : s.InOrder
  atHome : s.AtHome (config i)
  unique : s.UniqueSsrc
  fact : P log i s

/-- A call of the log that sent something. -/
structure Sent (config : ι → RtpSessionConfig) (P : SentLog ι → ι → Session → Prop) (log : SentLog ι)
    (i : ι) (o : Origin) : Prop where
  mem : (i, o) ∈ log
  sends : ∃ d, o.Sends d
  config : o.session.config = config i
  fact : P log i o.session

/-- A datagram that some call of its poster has sent. -/
def Genuine (config : ι → RtpSessionConfig) (P : SentLog ι → ι → Session → Prop) (log : SentLog ι)
    (i : ι) (d : Datagram) : Prop :=
  ∃ o, Sent config P log i o ∧ o.Sends d

/-- What a fact about a party, and the log, has to survive to hold in every exchange. -/
structure Rules (config : ι → RtpSessionConfig) (P : SentLog ι → ι → Session → Prop) : Prop where
  lasts : ∀ {log i s op j t}, P log j t → P (noteSent log i s op) j t
  tx : ∀ {log i s payload payloadLen rtpTs csrc ncsrc}, Party config P log i s →
    Session.TxFits payloadLen ncsrc → P log i (s.rtpTx payload payloadLen rtpTs csrc ncsrc)
  tick : ∀ {log i s}, Party config P log i s → P log i s.rtpSessionTimerTick
  reports : ∀ {log i s r}, Party config P log i s → r ∈ s.tickReports → P log i r
  refused : ∀ {log i s e}, Party config P log i s → P log i (s.rtpRefused e)
  data : ∀ {log i s j r payload payloadLen rtpTs csrc ncsrc fromAddr}, Party config P log i s →
    Sent config P log j (.data r payload payloadLen rtpTs csrc ncsrc) →
    fromAddr ≠ (config i).rtpAddr →
    P log i (s.rtpSessionTimestamp.2.rtpRxData (Origin.hdr r rtpTs csrc ncsrc)
      (payload.slice 0 payloadLen.toNat) payloadLen s.rtpSessionTimestamp.1 fromAddr)
  report : ∀ {log i s j r fromAddr len}, Party config P log i s → Sent config P log j (.report r) →
    fromAddr ≠ (config i).rtcpAddr →
    P log i (Runs.run (Session.handleMsg fromAddr len) (s.setRtcpError .noError) (Origin.msgs r))

theorem Sent.lasts (hr : Rules config P) {log : SentLog ι} {j : ι} {o : Origin}
    (h : Sent config P log j o) (i : ι) (s : Session) (op : Op) :
    Sent config P (noteSent log i s op) j o :=
  ⟨mem_noteSent h.mem i s op, h.sends, h.config, hr.lasts h.fact⟩

/-- What a party does itself, it does abroad. -/
theorem Own.admits {s : Session} {op : Op} (h : Own op) (config : RtpSessionConfig) :
    (Session.abroad config).admits s op := by
  cases op with
  | tx payload payloadLen rtpTs csrc ncsrc => exact h.1
  | tick => exact ⟨trivial, fun _ _ => trivial⟩
  | rxRtp | rxRtcp => exact h.elim

/-- A genuine datagram from elsewhere speaks in nobody's name but its sender's. -/
theorem Genuine.admits {log : SentLog ι} {i j : ι} {d : Datagram} {a : Arrival} {s : Session}
    (h : Genuine config P log j d) (hforeign : Foreign (config i) d a) :
    (Session.abroad (config i)).admits s (d.op a) := by
  obtain ⟨o, -, hsends⟩ := h
  cases o with
  | data r payload payloadLen rtpTs csrc ncsrc =>
      cases d with
      | rtp bytes => exact fun _ => ⟨hforeign, fun _ => Runs.guarded_of_forall (fun _ _ => hforeign) _ _⟩
      | rtcp => exact hsends.elim
  | report r =>
      cases d with
      | rtp => exact hsends.elim
      | rtcp bytes =>
          have hmsgs := (Session.rtcpMsgs_of_transmits hsends a.buffer).2
          simp only [Datagram.op, Session.ActGuard.admits, Session.RtcpGuarded]
          rw [hmsgs]
          refine ⟨⟨hforeign, ?_⟩, ⟨hforeign, by simp [RtcpMsg.source]⟩, trivial⟩
          rw [Session.reportMsg]
          split <;> simp [RtcpMsg.source]

/-- A party stays a party. -/
theorem Party.step {log log' : SentLog ι} {i : ι} {s : Session} {op : Op}
    (h : Party config P log i s) (hadmits : (Session.abroad (config i)).admits s op)
    (hfact : P log' i (step s op)) : Party config P log' i (step s op) := by
  obtain ⟨⟨hinOrder, hatHome⟩, hunique⟩ :=
    (Session.party_rules (config i)).step s op ⟨⟨h.inOrder, h.atHome⟩, h.unique⟩ hadmits
  exact ⟨hinOrder, hatHome, hunique, hfact⟩

/-- What a party hears. -/
theorem Rules.heard (hr : Rules config P) (hpt : ∀ i, (config i).pt.toNat < 128) {log : SentLog ι}
    {i j : ι} {s : Session} {d : Datagram} {a : Arrival} (h : Party config P log i s)
    (hgenuine : Genuine config P log j d) (hforeign : Foreign (config i) d a) :
    P log i (step s (d.op a)) := by
  obtain ⟨o, hsent, hsends⟩ := hgenuine
  cases o with
  | data r payload payloadLen rtpTs csrc ncsrc =>
      cases d with
      | rtp bytes =>
          have hpt' : r.config.pt.toNat < 128 := by
            rw [show r.config = config j from hsent.config]
            exact hpt j
          have hval : (s.rtpRx (UInt32.ofNat bytes.length) a.fromAddr).val (a.buffer.storeBytes 0 bytes) = _ :=
            Session.val_rtpRx_of_sendsRtp hpt' hsends.1 hsends.2 a.fromAddr
          rw [show step s (Datagram.op (.rtp bytes) a) = _ from hval]
          split
          · exact hr.data h hsent hforeign
          · exact hr.refused h
      | rtcp => exact hsends.elim
  | report r =>
      cases d with
      | rtp => exact hsends.elim
      | rtcp bytes =>
          have hval := Session.val_rtcpRx_of_transmits s hsends a.buffer a.fromAddr
          rw [show step s (Datagram.op (.rtcp bytes) a) = _ from hval]
          exact hr.report h hsent hforeign

theorem Rules.network (hr : Rules config P) (hpt : ∀ i, (config i).pt.toNat < 128) :
    Network.Rules sessions noteSent (fun _ _ op => Own op) (fun i _ _ d a => Foreign (config i) d a)
      (Party config P) (Genuine config P) where
  localLasts h := ⟨h.inOrder, h.atHome, h.unique, hr.lasts h.fact⟩
  genuineLasts := by
    rintro log i s op j d ⟨o, hsent, hsends⟩
    exact ⟨o, hsent.lasts hr i s op, hsends⟩
  act {log i s op} h hown := by
    refine h.step (hown.admits (config i)) (hr.lasts ?_)
    cases op with
    | tx payload payloadLen rtpTs csrc ncsrc => exact hr.tx h hown.1
    | tick => exact hr.tick h
    | rxRtp | rxRtcp => exact hown.elim
  hear h hgenuine hforeign :=
    h.step (hgenuine.admits hforeign) (hr.lasts (hr.heard hpt h hgenuine hforeign))
  actPosts {log i s op} h hown d hd := by
    cases op with
    | tx payload payloadLen rtpTs csrc ncsrc =>
        have hsends := Session.posts_tx hown hd
        refine ⟨_, ⟨List.mem_append_right _ (List.mem_singleton.2 rfl), ⟨d, hsends⟩, ?_, ?_⟩, hsends⟩
        · exact h.atHome.config
        · exact hr.lasts h.fact
    | tick =>
        obtain ⟨r, hr', hsends⟩ := Session.posts_tick hd
        obtain ⟨t, timer, ht, rfl⟩ := (Session.atHome_rules (config i)).reports
          ⟨h.inOrder, h.atHome⟩ trivial (fun _ _ => trivial) r hr'
        refine ⟨_, ⟨List.mem_append_right _ (List.mem_map_of_mem hr'), ⟨d, hsends⟩, ?_, ?_⟩, hsends⟩
        · exact (Session.Quiet.drawInterval _).config.trans ht.2.config
        · exact hr.lasts (hr.reports h hr')
    | rxRtp | rxRtcp => exact hown.elim
  hearPosts {log i s j d a} _ _ _ d' hd' := by
    rw [show sessions.posts s (sessions.hear d a) = [] from s.posts_hear d a] at hd'
    exact absurd hd' (by simp)

/-- In every exchange the fact holds of every party. -/
theorem Rules.party [DecidableEq ι] (hr : Rules config P) (hpt : ∀ i, (config i).pt.toNat < 128)
    {mem : ι → Session} (hstart : ∀ i, P [] i ((mem i).rtpSessionInit (config i))) {moves : List (Move ι)}
    (hmoves : Proper config mem moves) (i : ι) :
    Party config P (log config mem moves) i (parties config mem moves i) := by
  have hkept : Network.Kept (Party config P) (Genuine config P) [] (start config mem) :=
    ⟨fun i => ⟨Session.kept_rtpSessionInit (mem i) (config i),
      Session.atHome_rtpSessionInit (mem i) (config i),
      Session.unique_rtpSessionInit (mem i) (config i), hstart i⟩, by simp [start]⟩
  exact ((hr.network hpt).run hmoves hkept).parties i

end Exchange

end Prtp
