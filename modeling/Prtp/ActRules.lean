import Prtp.QuietChanges
import Prtp.SsrcCases

set_option autoImplicit false

/-! # Proof rules for runs of a session

A call on a session is made of a few *acts* that move members and timers: handling a source of a
data packet or of an RTCP packet, handling a source of a BYE, counting a transmit, advancing the
wheel and firing a timer. Everything between two acts is *quiet*. `ActRules` states what a property
of sessions has to survive, act by act; `ActRules.run` concludes that it survives every run in which
the acts meet a guard. -/

namespace Prtp

open ByteReader

namespace Session

/-! ## Guards -/

/-- Conditions on the acts of a run: on a source of a data packet from an address, on a message of
    an RTCP packet from an address, on the sizes of a transmit, on advancing the wheel and on firing
    a timer, each in the session in which it happens. -/
structure ActGuard where
  rtp : SockaddrIn → Session → UInt32 → Prop
  msg : SockaddrIn → Session → RtcpMsg → Prop
  tx : UInt32 → UInt8 → Prop
  expire : Session → Prop
  fire : TimerElem → Session → Prop

/-- The header fields of a data packet. -/
def rtpHdrOf (pkt : ByteMem) : RtpHdr := readRtpHdr.val pkt

/-- `G` holds of each source of a data packet when `rtp_rx` handles it: of its SSRC, and, if the
    packet is accepted, of each of its CSRCs. -/
def RtpGuarded (G : Session → UInt32 → Prop) (s : Session) (pkt : ByteMem) (len : UInt32)
    (fromAddr : SockaddrIn) : Prop :=
  let (arrival, s) := s.rtpSessionTimestamp
  let hdr := rtpHdrOf pkt
  let src := s.rtpRxSource hdr arrival fromAddr
  ((rtpHeaderValidityCheck len s.config.pt).val pkt).toBool = true →
    G s hdr.ssrc ∧
      (src.1 = true → Runs.Guarded (rtpHandleCsrc hdr.seq fromAddr hdr.ts arrival) G src.2 hdr.csrc)

/-- `G` holds of each message of an RTCP packet when `rtcp_rx` handles it. -/
def RtcpGuarded (G : Session → RtcpMsg → Prop) (s : Session) (pkt : ByteMem) (len : UInt32)
    (fromAddr : SockaddrIn) : Prop :=
  Runs.Guarded (handleMsg fromAddr len) G (s.setRtcpError .noError) (rtcpMsgs pkt len)

/-- The guard holds of every act of a call. -/
def ActGuard.admits (g : ActGuard) (s : Session) : Op → Prop
  | .rxRtp pkt len fromAddr => RtpGuarded (g.rtp fromAddr) s pkt len fromAddr
  | .rxRtcp pkt len fromAddr => RtcpGuarded (g.msg fromAddr) s pkt len fromAddr
  | .tx _ payloadLen _ _ ncsrc => g.tx payloadLen ncsrc
  | .tick => g.expire s ∧ ∀ p ∈ s.tickFirings, g.fire p.1 p.2

/-- A guard whose conditions can be evaluated. -/
class ActGuard.Evaluable (g : ActGuard) where
  rtp : ∀ fromAddr s ssrc, Decidable (g.rtp fromAddr s ssrc)
  msg : ∀ fromAddr s msg, Decidable (g.msg fromAddr s msg)
  tx : ∀ payloadLen ncsrc, Decidable (g.tx payloadLen ncsrc)
  expire : ∀ s, Decidable (g.expire s)
  fire : ∀ e s, Decidable (g.fire e s)

instance ActGuard.decidableAdmits (g : ActGuard) [h : g.Evaluable] (s : Session) :
    (op : Op) → Decidable (g.admits s op)
  | .rxRtp _ _ fromAddr =>
      have := h.rtp fromAddr
      inferInstanceAs (Decidable (_ → _ ∧ (_ → _)))
  | .rxRtcp _ _ fromAddr =>
      have := h.msg fromAddr
      inferInstanceAs (Decidable (Runs.Guarded _ _ _ _))
  | .tx _ payloadLen _ _ ncsrc => h.tx payloadLen ncsrc
  | .tick =>
      have := h.expire
      have := h.fire
      inferInstanceAs (Decidable (_ ∧ ∀ p ∈ _, _))

/-- The guard every run meets. -/
def ActGuard.any : ActGuard := ⟨fun _ _ _ => True, fun _ _ _ => True, fun _ _ => True,
  fun _ => True, fun _ _ => True⟩

/-! ## The rules -/

theorem ActGuard.any_admits (s : Session) (op : Op) : ActGuard.any.admits s op := by
  cases op with
  | rxRtp pkt len fromAddr =>
      exact fun _ => ⟨trivial, fun _ => Runs.guarded_of_forall (fun _ _ => trivial) _ _⟩
  | rxRtcp pkt len fromAddr => exact Runs.guarded_of_forall (fun _ _ => trivial) _ _
  | tx payload payloadLen rtpTs csrc ncsrc => trivial
  | tick => exact ⟨trivial, fun _ _ => trivial⟩

/-- A history variable: what is noted of each act, in the session in which it happens. -/
structure History (γ : Type) where
  rtp : SockaddrIn → γ → Session → UInt32 → γ
  msg : SockaddrIn → γ → Session → RtcpMsg → γ
  tx : γ → Session → γ
  expire : γ → Session → γ
  fire : γ → Session → TimerElem → γ

namespace History

variable {γ : Type}

/-- Nothing is noted. -/
def none : History Unit := ⟨fun _ _ _ _ => (), fun _ _ _ _ => (), fun _ _ => (), fun _ _ => (),
  fun _ _ _ => ()⟩

/-- What is noted of the sources of a data packet. -/
def noteRtp (h : History γ) (g : γ) (s : Session) (pkt : ByteMem) (len : UInt32)
    (fromAddr : SockaddrIn) : γ :=
  let (arrival, s) := s.rtpSessionTimestamp
  let hdr := rtpHdrOf pkt
  let src := s.rtpRxSource hdr arrival fromAddr
  if ((rtpHeaderValidityCheck len s.config.pt).val pkt).toBool then
    let g := h.rtp fromAddr g s hdr.ssrc
    if src.1 then
      Runs.history (rtpHandleCsrc hdr.seq fromAddr hdr.ts arrival) (h.rtp fromAddr) g src.2 hdr.csrc
    else g
  else g

/-- What is noted of the messages of an RTCP packet. -/
def noteRtcp (h : History γ) (g : γ) (s : Session) (pkt : ByteMem) (len : UInt32)
    (fromAddr : SockaddrIn) : γ :=
  Runs.history (handleMsg fromAddr len) (h.msg fromAddr) g (s.setRtcpError .noError)
    (rtcpMsgs pkt len)

/-- What is noted of a tick. -/
def noteTick (h : History γ) (g : γ) (s : Session) : γ :=
  s.tickFirings.foldl (fun g p => h.fire g p.2 p.1) (h.expire g s)

/-- What is noted of a call. -/
def note (h : History γ) (g : γ) (s : Session) : Op → γ
  | .rxRtp pkt len fromAddr => h.noteRtp g s pkt len fromAddr
  | .rxRtcp pkt len fromAddr => h.noteRtcp g s pkt len fromAddr
  | .tx .. => h.tx g s
  | .tick => h.noteTick g s

/-- The history of a run. -/
def run (h : History γ) (g : γ) (s : Session) (ops : List Op) : γ :=
  Runs.history Prtp.step h.note g s ops

end History

/-- A history variable that tells a packet's source, with its sequence number, from the sources on its
    CSRC list. -/
structure PacketHistory (γ : Type) where
  data : SockaddrIn → γ → Session → UInt32 → UInt16 → γ
  csrc : SockaddrIn → γ → Session → UInt32 → γ
  msg : SockaddrIn → γ → Session → RtcpMsg → γ
  tx : γ → Session → γ
  expire : γ → Session → γ
  fire : γ → Session → TimerElem → γ

namespace PacketHistory

variable {γ : Type}

/-- What is noted of the sources of a data packet. -/
def noteRtp (h : PacketHistory γ) (g : γ) (s : Session) (pkt : ByteMem) (len : UInt32)
    (fromAddr : SockaddrIn) : γ :=
  let (arrival, s) := s.rtpSessionTimestamp
  let hdr := rtpHdrOf pkt
  let src := s.rtpRxSource hdr arrival fromAddr
  if ((rtpHeaderValidityCheck len s.config.pt).val pkt).toBool then
    let g := h.data fromAddr g s hdr.ssrc hdr.seq
    if src.1 then
      Runs.history (rtpHandleCsrc hdr.seq fromAddr hdr.ts arrival) (h.csrc fromAddr) g src.2 hdr.csrc
    else g
  else g

/-- What is noted of a call. -/
def note (h : PacketHistory γ) (g : γ) (s : Session) : Op → γ
  | .rxRtp pkt len fromAddr => h.noteRtp g s pkt len fromAddr
  | .rxRtcp pkt len fromAddr =>
      Runs.history (handleMsg fromAddr len) (h.msg fromAddr) g (s.setRtcpError .noError)
        (rtcpMsgs pkt len)
  | .tx .. => h.tx g s
  | .tick => s.tickFirings.foldl (fun g p => h.fire g p.2 p.1) (h.expire g s)

/-- The history of a run. -/
def run (h : PacketHistory γ) (g : γ) (s : Session) (ops : List Op) : γ :=
  Runs.history Prtp.step h.note g s ops

end PacketHistory

/-- All the sources of a data packet are noted alike. -/
def History.packets {γ : Type} (h : History γ) : PacketHistory γ where
  data fromAddr g s ssrc _ := h.rtp fromAddr g s ssrc
  csrc := h.rtp
  msg := h.msg
  tx := h.tx
  expire := h.expire
  fire := h.fire

theorem History.note_packets {γ : Type} (h : History γ) (g : γ) (s : Session) (op : Op) :
    h.packets.note g s op = h.note g s op := by
  cases op <;> rfl

section Received

variable {γ : Type} (h : PacketHistory γ) {P : γ → Session → Prop} {x : γ} {s : Session} {pkt : ByteMem}
  {len : UInt32} {fromAddr : SockaddrIn}

/-- The rule for a data packet, with what is noted of its sources: a property holds afterwards if it is
    kept when the packet is not valid, by each source whose turn comes, and when the payload is handed
    on. -/
theorem rtpRx_rule {G : Session → UInt32 → Prop} (hclock : P x s.rtpSessionTimestamp.2)
    (hinvalid : ∀ x s e, P x s → P x { s.setRtpError e with invalidRtpPkt := s.invalidRtpPkt + 1 })
    (hdata : ∀ x s hdr arrival, P x s → G s hdr.ssrc →
      P (h.data fromAddr x s hdr.ssrc hdr.seq) (s.rtpRxSource hdr arrival fromAddr).2)
    (hcsrc : ∀ x s seq rtpTs arrival csrc, P x s → G s csrc →
      P (h.csrc fromAddr x s csrc) (rtpHandleCsrc seq fromAddr rtpTs arrival s csrc))
    (hhanded : ∀ x s o, P x s → P x ((s.setRtpError .noError).emit o))
    (hg : RtpGuarded G s pkt len fromAddr) :
    P (h.noteRtp x s pkt len fromAddr) ((s.rtpRx len fromAddr).val pkt) := by
  simp only [RtpGuarded] at hg
  simp only [rtpRx, PacketHistory.noteRtp, val_bind]
  cases hvalid : (rtpHeaderValidityCheck len s.rtpSessionTimestamp.2.config.pt).val pkt with
  | error e => exact hinvalid _ _ e hclock
  | ok r =>
      rw [hvalid] at hg
      obtain ⟨hssrc, hlist⟩ := hg rfl
      have hsrc := hdata _ _ (rtpHdrOf pkt) s.rtpSessionTimestamp.1 hclock hssrc
      have hhdr : readRtpHdr.val pkt = rtpHdrOf pkt := rfl
      simp only [Except.toBool, if_true, val_bind, val_pure, rtpRxData, hhdr]
      cases hok : (s.rtpSessionTimestamp.2.rtpRxSource (rtpHdrOf pkt) s.rtpSessionTimestamp.1
          fromAddr).1 with
      | false => exact hsrc
      | true =>
          exact hhanded _ _ _ ((hlist hok).history (fun x s csrc => hcsrc x s _ _ _ csrc) hsrc)

/-- The rule for an RTCP packet, with what is noted of its messages. -/
theorem rtcpRx_rule {G : Session → RtcpMsg → Prop} (hP : P x s)
    (herror : ∀ x s e, P x s → P x (s.setRtcpError e))
    (hinvalid : ∀ x s, P x s → P x { s with invalidRtcpPkt := s.invalidRtcpPkt + 1 })
    (hmsg : ∀ x s msg, P x s → G s msg → P (h.msg fromAddr x s msg) (handleMsg fromAddr len s msg))
    (hg : RtcpGuarded G s pkt len fromAddr) :
    P (h.note x s (.rxRtcp pkt len fromAddr)) ((s.rtcpRx len fromAddr).val pkt) := by
  rw [val_rtcpRx]
  split
  · exact hg.history hmsg (herror _ _ _ hP)
  · rename_i hrejected
    rw [PacketHistory.note, rtcpMsgs, if_neg hrejected]
    exact hinvalid _ _ (herror _ _ _ hP)

end Received

/-- What a property of sessions and a history variable of packets has to survive for every guarded run
    to keep it. A data packet's source is one act with the check of its sequence number. -/
structure PacketRules {γ : Type} (h : PacketHistory γ) (P : γ → Session → Prop) (g : ActGuard) :
    Prop where
  calm : ∀ {x s s'}, Calm s s' → P x s → P x s'
  data : ∀ {x s hdr arrival fromAddr}, P x s → g.rtp fromAddr s hdr.ssrc →
    P (h.data fromAddr x s hdr.ssrc hdr.seq) (s.rtpRxSource hdr arrival fromAddr).2
  csrc : ∀ {x s csrc seq fromAddr}, P x s → g.rtp fromAddr s csrc →
    P (h.csrc fromAddr x s csrc) (s.rtpHandleSsrc csrc seq fromAddr true).2
  rtcpSource : ∀ {x s ssrc fromAddr pktSize msg}, P x s → g.msg fromAddr s msg →
    msg.source = some ssrc →
    P (h.msg fromAddr x s msg) (s.rtcpHandleSsrc ssrc fromAddr pktSize).2
  byeSource : ∀ {x s ssrc fromAddr pktSize}, P x s → g.msg fromAddr s (.bye ssrc) →
    P (h.msg fromAddr x s (.bye ssrc)) (s.rtcpHandleByeSource ssrc pktSize)
  txCount : ∀ {x s payloadLen ncsrc}, P x s → g.tx payloadLen ncsrc →
    P (h.tx x s) (s.rtpTxCount payloadLen)
  expire : ∀ {x s}, P x s → g.expire s → P (h.expire x s) (s.setTimer s.softTimer.expire)
  fire : ∀ {x s e rest}, s.softTimer.timeoutList = e :: rest → P x s →
    g.fire e (s.setTimer s.softTimer.popTimeout) →
    P (h.fire x (s.setTimer s.softTimer.popTimeout) e)
      (timerCallback e (s.setTimer s.softTimer.popTimeout))

namespace PacketRules

variable {γ : Type} {h : PacketHistory γ} {P : γ → Session → Prop} {g : ActGuard}

theorem rtpHandleCsrc (hr : PacketRules h P g) {x : γ} {s : Session} {seq : UInt16}
    {fromAddr : SockaddrIn} {rtpTs arrival csrc : UInt32} (hP : P x s)
    (hg : g.rtp fromAddr s csrc) :
    P (h.csrc fromAddr x s csrc) (Session.rtpHandleCsrc seq fromAddr rtpTs arrival s csrc) := by
  have hsrc : P _ (s.rtpHandleSsrc csrc seq fromAddr true).2 := hr.csrc hP hg
  simp only [Session.rtpHandleCsrc]
  split
  · exact hsrc
  · exact hr.calm (.modifyMember _ _ ⟨rfl, rfl, rfl, rfl, rfl, rfl, rfl⟩ rfl rfl) hsrc

theorem rtpRx (hr : PacketRules h P g) {x : γ} {s : Session} {pkt : ByteMem} {len : UInt32}
    {fromAddr : SockaddrIn} (hP : P x s)
    (hg : RtpGuarded (g.rtp fromAddr) s pkt len fromAddr) :
    P (h.noteRtp x s pkt len fromAddr) ((s.rtpRx len fromAddr).val pkt) := by
  apply rtpRx_rule h (G := g.rtp fromAddr)
  · exact hr.calm (.rtpSessionTimestamp s) hP
  · intro x s e hP
    refine hr.calm (s := s) ?_ hP
    exact .of_table ⟨rfl, rfl, rfl, rfl, rfl, rfl, rfl, fun _ => .refl _⟩ rfl
  · exact fun _ _ _ _ hP hg => hr.data hP hg
  · exact fun _ _ _ _ _ _ hP hg => hr.rtpHandleCsrc hP hg
  · exact fun _ _ _ hP => hr.calm ((Calm.setRtpError _ _).trans (.emit _ _)) hP
  · exact hg

theorem handleMsg (hr : PacketRules h P g) {x : γ} {s : Session} {msg : RtcpMsg}
    {fromAddr : SockaddrIn} {len : UInt32} (hP : P x s) (hg : g.msg fromAddr s msg) :
    P (h.msg fromAddr x s msg) (Session.handleMsg fromAddr len s msg) := by
  apply handleMsg_rule
  · intro ssrc hsource _
    exact hr.rtcpSource hP hg hsource
  · intro ssrc m hsource _
    exact hr.calm (.acceptMsg _ _ _) (hr.rtcpSource hP hg hsource)
  · rintro ssrc rfl
    exact hr.byeSource hP hg

theorem rtcpRx (hr : PacketRules h P g) {x : γ} {s : Session} {pkt : ByteMem} {len : UInt32}
    {fromAddr : SockaddrIn} (hP : P x s) (hg : RtcpGuarded (g.msg fromAddr) s pkt len fromAddr) :
    P (h.note x s (.rxRtcp pkt len fromAddr)) ((s.rtcpRx len fromAddr).val pkt) := by
  apply rtcpRx_rule h (G := g.msg fromAddr) hP
  · exact fun _ _ e hP => hr.calm (.setRtcpError _ e) hP
  · intro x s hP
    refine hr.calm (s := s) ?_ hP
    exact .of_table ⟨rfl, rfl, rfl, rfl, rfl, rfl, rfl, fun _ => .refl _⟩ rfl
  · exact fun _ _ _ hP hg => hr.handleMsg hP hg
  · exact hg

theorem tick (hr : PacketRules h P g) {x : γ} {s : Session} (hP : P x s) (hexpire : g.expire s)
    (hfire : ∀ p ∈ s.tickFirings, g.fire p.1 p.2) : P (h.note x s .tick) s.rtpSessionTimerTick :=
  SoftTimer.fireTimeouts_history (fun _ _ _ _ htop hP hg => hr.fire htop hP hg) hfire
    (hr.expire hP hexpire)

/-- One admitted call keeps the property. -/
theorem step (hr : PacketRules h P g) (x : γ) (s : Session) (op : Op) (hP : P x s)
    (hg : g.admits s op) : P (h.note x s op) (Prtp.step s op) := by
  cases op with
  | rxRtp pkt len fromAddr => exact hr.rtpRx hP hg
  | rxRtcp pkt len fromAddr => exact hr.rtcpRx hP hg
  | tx payload payloadLen rtpTs csrc ncsrc =>
      exact hr.calm (.rtpTx _ _ _ _ _ _) (hr.txCount hP hg)
  | tick => exact hr.tick hP hg.1 hg.2

/-- A run of admitted calls keeps the property. -/
theorem run (hr : PacketRules h P g) {x : γ} {s : Session} {ops : List Op}
    (hg : Runs.Guarded Prtp.step g.admits s ops) (hP : P x s) :
    P (h.run x s ops) (Runs.run Prtp.step s ops) :=
  hg.history hr.step hP

end PacketRules

/-- What a property of sessions and a history variable has to survive for every guarded run to keep
    it. -/
structure HistoryRules {γ : Type} (h : History γ) (P : γ → Session → Prop) (g : ActGuard) :
    Prop where
  quiet : ∀ {x s s'}, Quiet s s' → P x s → P x s'
  rtpSource : ∀ {x s ssrc seq fromAddr csrc}, P x s → g.rtp fromAddr s ssrc →
    P (h.rtp fromAddr x s ssrc) (s.rtpHandleSsrc ssrc seq fromAddr csrc).2
  rtcpSource : ∀ {x s ssrc fromAddr pktSize msg}, P x s → g.msg fromAddr s msg →
    msg.source = some ssrc →
    P (h.msg fromAddr x s msg) (s.rtcpHandleSsrc ssrc fromAddr pktSize).2
  byeSource : ∀ {x s ssrc fromAddr pktSize}, P x s → g.msg fromAddr s (.bye ssrc) →
    P (h.msg fromAddr x s (.bye ssrc)) (s.rtcpHandleByeSource ssrc pktSize)
  txCount : ∀ {x s payloadLen ncsrc}, P x s → g.tx payloadLen ncsrc →
    P (h.tx x s) (s.rtpTxCount payloadLen)
  expire : ∀ {x s}, P x s → g.expire s → P (h.expire x s) (s.setTimer s.softTimer.expire)
  fire : ∀ {x s e rest}, s.softTimer.timeoutList = e :: rest → P x s →
    g.fire e (s.setTimer s.softTimer.popTimeout) →
    P (h.fire x (s.setTimer s.softTimer.popTimeout) e)
      (timerCallback e (s.setTimer s.softTimer.popTimeout))

namespace HistoryRules

variable {γ : Type} {h : History γ} {P : γ → Session → Prop} {g : ActGuard}

theorem rtpRxSource (hr : HistoryRules h P g) {x : γ} {s : Session} {hdr : RtpHdr}
    {arrival : UInt32} {fromAddr : SockaddrIn} (hP : P x s) (hg : g.rtp fromAddr s hdr.ssrc) :
    P (h.rtp fromAddr x s hdr.ssrc) (s.rtpRxSource hdr arrival fromAddr).2 := by
  have hsrc : P _ (s.rtpHandleSsrc hdr.ssrc hdr.seq fromAddr false).2 := hr.rtpSource hP hg
  simp only [Session.rtpRxSource]
  split
  · exact hsrc
  · rename_i m hm
    have hseq := hr.quiet (Quiet.modifyMember _ m
      (f := fun x => { x with rtpSrc := (((s.rtpHandleSsrc hdr.ssrc hdr.seq fromAddr
        false).2.member m).rtpSrc.rtpUpdateSeq hdr.seq).2 })
      ⟨rfl, rfl, rfl, rfl, rfl, rfl, rfl⟩) hsrc
    split
    · exact hr.quiet (.setRtpError _ _) hseq
    · refine hr.quiet ?_ hseq
      exact (Quiet.modifyMember _ m ⟨rfl, rfl, rfl, rfl, rfl, rfl, rfl⟩).trans
        (Quiet.modifyMember _ m ⟨rfl, rfl, rfl, rfl, rfl, rfl, rfl⟩)

/-- What survives quiet changes survives calm ones. -/
theorem packets (hr : HistoryRules h P g) : PacketRules h.packets P g where
  calm hc := hr.quiet hc.toQuiet
  data := hr.rtpRxSource
  csrc := hr.rtpSource
  rtcpSource := hr.rtcpSource
  byeSource := hr.byeSource
  txCount := hr.txCount
  expire := hr.expire
  fire := hr.fire

theorem handleMsg (hr : HistoryRules h P g) {x : γ} {s : Session} {msg : RtcpMsg}
    {fromAddr : SockaddrIn} {len : UInt32} (hP : P x s) (hg : g.msg fromAddr s msg) :
    P (h.msg fromAddr x s msg) (Session.handleMsg fromAddr len s msg) :=
  hr.packets.handleMsg hP hg

/-- One admitted call keeps the property. -/
theorem step (hr : HistoryRules h P g) (x : γ) (s : Session) (op : Op) (hP : P x s)
    (hg : g.admits s op) : P (h.note x s op) (Prtp.step s op) := by
  rw [← h.note_packets]
  exact hr.packets.step x s op hP hg

/-- A run of admitted calls keeps the property. -/
theorem run (hr : HistoryRules h P g) {x : γ} {s : Session} {ops : List Op}
    (hg : Runs.Guarded Prtp.step g.admits s ops) (hP : P x s) :
    P (h.run x s ops) (Runs.run Prtp.step s ops) :=
  hg.history hr.step hP

end HistoryRules

/-- What a property of sessions has to survive for every guarded run to keep it. -/
structure ActRules (P : Session → Prop) (g : ActGuard) : Prop where
  quiet : ∀ {s s'}, Quiet s s' → P s → P s'
  rtpSource : ∀ {s ssrc seq fromAddr csrc}, P s → g.rtp fromAddr s ssrc →
    P (s.rtpHandleSsrc ssrc seq fromAddr csrc).2
  rtcpSource : ∀ {s ssrc fromAddr pktSize msg}, P s → g.msg fromAddr s msg →
    msg.source = some ssrc → P (s.rtcpHandleSsrc ssrc fromAddr pktSize).2
  byeSource : ∀ {s ssrc fromAddr pktSize}, P s → g.msg fromAddr s (.bye ssrc) →
    P (s.rtcpHandleByeSource ssrc pktSize)
  txCount : ∀ {s payloadLen ncsrc}, P s → g.tx payloadLen ncsrc → P (s.rtpTxCount payloadLen)
  expire : ∀ {s}, P s → g.expire s → P (s.setTimer s.softTimer.expire)
  fire : ∀ {s e rest}, s.softTimer.timeoutList = e :: rest → P s →
    g.fire e (s.setTimer s.softTimer.popTimeout) →
    P (timerCallback e (s.setTimer s.softTimer.popTimeout))

namespace ActRules

variable {P : Session → Prop} {g : ActGuard}

/-- The rules for a property alone are those for a history variable that nothing is noted in. -/
theorem history (h : ActRules P g) : HistoryRules .none (fun _ => P) g where
  quiet := h.quiet
  rtpSource := h.rtpSource
  rtcpSource := h.rtcpSource
  byeSource := h.byeSource
  txCount := h.txCount
  expire := h.expire
  fire := h.fire

theorem rtpRxSource (h : ActRules P g) {s : Session} {hdr : RtpHdr} {arrival : UInt32}
    {fromAddr : SockaddrIn} (hP : P s) (hg : g.rtp fromAddr s hdr.ssrc) :
    P (s.rtpRxSource hdr arrival fromAddr).2 :=
  h.history.rtpRxSource (x := ()) hP hg

theorem handleMsg (h : ActRules P g) {s : Session} {msg : RtcpMsg} {fromAddr : SockaddrIn}
    {len : UInt32} (hP : P s) (hg : g.msg fromAddr s msg) :
    P (Session.handleMsg fromAddr len s msg) :=
  h.history.handleMsg (x := ()) hP hg

/-- The callbacks of an admitted tick: the property holds until each element is popped. -/
theorem firings (h : ActRules P g) {s : Session} (hP : P s) (hexpire : g.expire s)
    (hfire : ∀ p ∈ s.tickFirings, g.fire p.1 p.2) :
    ∀ p ∈ s.tickFirings, ∃ t rest, P t ∧ t.softTimer.timeoutList = p.1 :: rest ∧
      p.2 = t.setTimer t.softTimer.popTimeout :=
  SoftTimer.firings_invariant (fun _ _ _ htop hP hg => h.fire htop hP hg) hfire
    (h.expire hP hexpire)

/-- One admitted call keeps the property. -/
theorem step (h : ActRules P g) (s : Session) (op : Op) (hP : P s) (hg : g.admits s op) :
    P (Prtp.step s op) :=
  h.history.step () s op hP hg

/-- A run of admitted calls keeps the property. -/
theorem run (h : ActRules P g) {s : Session} {ops : List Op}
    (hg : Runs.Guarded Prtp.step g.admits s ops) (hP : P s) : P (Runs.run Prtp.step s ops) :=
  hg.invariant h.step hP

end ActRules

/-- Two guards, the first of which allows no more than the second. -/
structure ActGuard.Le (g g' : ActGuard) : Prop where
  rtp : ∀ {fromAddr s ssrc}, g.rtp fromAddr s ssrc → g'.rtp fromAddr s ssrc
  msg : ∀ {fromAddr s msg}, g.msg fromAddr s msg → g'.msg fromAddr s msg
  tx : ∀ {payloadLen ncsrc}, g.tx payloadLen ncsrc → g'.tx payloadLen ncsrc
  expire : ∀ {s}, g.expire s → g'.expire s
  fire : ∀ {e s}, g.fire e s → g'.fire e s

theorem ActGuard.le_any (g : ActGuard) : g.Le .any where
  rtp _ := trivial
  msg _ := trivial
  tx _ := trivial
  expire _ := trivial
  fire _ := trivial

theorem ActRules.mono {P : Session → Prop} {g g' : ActGuard} (h : ActRules P g') (hle : g.Le g') :
    ActRules P g where
  quiet := h.quiet
  rtpSource hP hg := h.rtpSource hP (hle.rtp hg)
  rtcpSource hP hg := h.rtcpSource hP (hle.msg hg)
  byeSource hP hg := h.byeSource hP (hle.msg hg)
  txCount hP hg := h.txCount hP (hle.tx hg)
  expire hP hg := h.expire hP (hle.expire hg)
  fire htop hP hg := h.fire htop hP (hle.fire hg)

/-- Where the property makes one guard on packets follow from another, a call that the one admits is
    admitted by the other. -/
theorem ActRules.admits {P : Session → Prop} {g g' : ActGuard} (h : ActRules P g)
    (hrtp : ∀ {fromAddr s ssrc}, P s → g.rtp fromAddr s ssrc → g'.rtp fromAddr s ssrc)
    (hmsg : ∀ {fromAddr s msg}, P s → g.msg fromAddr s msg → g'.msg fromAddr s msg)
    (htx : ∀ {payloadLen ncsrc}, g.tx payloadLen ncsrc → g'.tx payloadLen ncsrc)
    (hexpire : ∀ {s}, g.expire s → g'.expire s) (hfire : ∀ {e s}, g.fire e s → g'.fire e s)
    {s : Session} {op : Op} (hP : P s) (hg : g.admits s op) : g'.admits s op := by
  cases op with
  | rxRtp pkt len fromAddr =>
      intro hvalid
      obtain ⟨hssrc, hlist⟩ := hg hvalid
      have hclock : P s.rtpSessionTimestamp.2 := h.quiet (.rtpSessionTimestamp s) hP
      refine ⟨hrtp hclock hssrc, fun hok => ?_⟩
      refine (hlist hok).of_invariant (P := P) ?_ (h.rtpRxSource hclock hssrc)
      exact fun t csrc ht hcsrc => ⟨hrtp ht hcsrc, h.history.packets.rtpHandleCsrc (x := ()) ht hcsrc⟩
  | rxRtcp pkt len fromAddr =>
      refine hg.of_invariant (P := P) ?_ (h.quiet (.setRtcpError s _) hP)
      exact fun t msg ht hmsg' => ⟨hmsg ht hmsg', h.handleMsg ht hmsg'⟩
  | tx payload payloadLen rtpTs csrc ncsrc => exact htx hg
  | tick => exact ⟨hexpire hg.1, fun p hp => hfire (hg.2 p hp)⟩

theorem ActRules.and {P P' : Session → Prop} {g : ActGuard} (h : ActRules P g)
    (h' : ActRules P' g) : ActRules (fun s => P s ∧ P' s) g where
  quiet hq hP := ⟨h.quiet hq hP.1, h'.quiet hq hP.2⟩
  rtpSource hP hg := ⟨h.rtpSource hP.1 hg, h'.rtpSource hP.2 hg⟩
  rtcpSource hP hg hsource := ⟨h.rtcpSource hP.1 hg hsource, h'.rtcpSource hP.2 hg hsource⟩
  byeSource hP hg := ⟨h.byeSource hP.1 hg, h'.byeSource hP.2 hg⟩
  txCount hP hg := ⟨h.txCount hP.1 hg, h'.txCount hP.2 hg⟩
  expire hP hg := ⟨h.expire hP.1 hg, h'.expire hP.2 hg⟩
  fire htop hP hg := ⟨h.fire htop hP.1 hg, h'.fire htop hP.2 hg⟩

/-- A property that needs no guard holds after every run. -/
theorem ActRules.run_any {P : Session → Prop} (h : ActRules P .any) {s : Session} (hP : P s)
    (ops : List Op) : P (Runs.run Prtp.step s ops) :=
  h.run (Runs.guarded_of_forall ActGuard.any_admits s ops) hP

end Session

end Prtp
