import Prtp.Deliveries
import Prtp.FirstAccepted

set_option autoImplicit false

/-! # The first packet of a source that is delivered

Data packets of one SSRC, all from one address, given to `rtp_rx` one after the other. The packet by
which the source is first heard on this channel starts its trial and is not looked at any further,
whether it creates the member or RTCP has; from then on `rtp_rx` delivers what `rtp_update_seq` accepts. -/

namespace Prtp

open ByteReader

namespace Session

/-- A data packet as it arrives. -/
structure DataPkt where
  pkt : ByteMem
  len : UInt32

def DataPkt.seq (p : DataPkt) : UInt16 := (rtpHdrOf p.pkt).seq

/-- A packet of `ssrc` whose header is valid in a session of payload type `pt`. -/
structure ValidData (pt : UInt8) (ssrc : UInt32) (p : DataPkt) : Prop where
  valid : ((rtpHeaderValidityCheck p.len pt).val p.pkt).toBool = true
  ssrc : (rtpHdrOf p.pkt).ssrc = ssrc

/-- `rtp_rx` on a packet from `fromAddr`. -/
def rx (fromAddr : SockaddrIn) (s : Session) (p : DataPkt) : Session :=
  (s.rtpRx p.len fromAddr).val p.pkt

/-- `rtp_rx` calls `rx_rtp` for the packet. -/
def Delivers (fromAddr : SockaddrIn) (s : Session) (p : DataPkt) : Prop :=
  (s.rxRtpCall p.pkt p.len fromAddr).isSome = true

/-- None of the packets is delivered. -/
def Silent (fromAddr : SockaddrIn) (s : Session) (ps : List DataPkt) : Prop :=
  Runs.Guarded (rx fromAddr) (fun s p => ¬ Delivers fromAddr s p) s ps

/-- `p`, received after `pre`, is the first packet that is delivered. -/
def FirstDelivered (fromAddr : SockaddrIn) (s : Session) (pre : List DataPkt) (p : DataPkt) : Prop :=
  Silent fromAddr s pre ∧ Delivers fromAddr (Runs.run (rx fromAddr) s pre) p

/-- `ssrc` has not been heard as a source of data: it is not in the table, where a slot is free, or it is
    a member that only RTCP has heard of. -/
inductive Unheard (s : Session) (ssrc : UInt32) : Prop
  | absent (hnone : s.rtpSessionLookupMember ssrc = none) (hfree : s.freeList ≠ [])
  | known (m : Slot) (hm : s.rtpSessionLookupMember ssrc = some m)
      (hbye : (s.member m).flags.byeReceived = false) (hself : (s.member m).flags.self = false)
      (hnew : (s.member m).flags.rtpHeard = false)

/-- An RTCP packet that creates the member leaves it unheard. -/
theorem unheard_rtcpHandleSsrc {s : Session} {ssrc : UInt32}
    (hnone : s.rtpSessionLookupMember ssrc = none) (hfree : s.freeList ≠ []) (fromAddr : SockaddrIn)
    (pktSize : UInt32) : (s.rtcpHandleSsrc ssrc fromAddr pktSize).2.Unheard ssrc := by
  have hcase := s.rtcpHandleSsrc_case ssrc fromAddr pktSize
  generalize s.rtcpHandleSsrc ssrc fromAddr pktSize = res at hcase
  cases hcase with
  | tableFull _ hfull => exact absurd hfull hfree
  | created m s' _ halloc =>
      have hrecord : (s'.rtcpCreated m fromAddr pktSize).member m =
          rtcpFirstHeard fromAddr (rtpMemberInit (s.member m) ssrc) :=
        (member_alloc halloc (rtcpFirstHeard fromAddr) m).trans (if_pos rfl)
      refine .known m (lookup_alloc hnone halloc (f := rtcpFirstHeard fromAddr) rfl rfl) ?_ ?_ ?_
      all_goals
        rw [hrecord]
        rfl
  | leaving m hm | joined m hm | thirdParty m hm | collision m hm | refreshed m hm =>
      rw [hnone] at hm
      cases hm

/-- `m` is the member `ssrc`, heard as a source of data from `fromAddr`. -/
structure HearsData (pt : UInt8) (ssrc : UInt32) (fromAddr : SockaddrIn) (m : Slot) (s : Session) :
    Prop where
  config : s.config.pt = pt
  lookup : s.rtpSessionLookupMember ssrc = some m
  bye : (s.member m).flags.byeReceived = false
  heard : (s.member m).flags.rtpHeard = true
  addr : (s.member m).rtpAddr = fromAddr

/-! ## What `rtp_rx` does with a packet it does not deliver -/

/-- A valid packet whose source is refused. -/
theorem rx_refused {s t : Session} {fromAddr : SockaddrIn} {p : DataPkt}
    (hvalid : ((rtpHeaderValidityCheck p.len s.config.pt).val p.pkt).toBool = true)
    (hsource : s.rtpSessionTimestamp.2.rtpRxSource (rtpHdrOf p.pkt) s.rtpSessionTimestamp.1 fromAddr =
      (false, t)) : s.rx fromAddr p = t := by
  cases hcheck : (rtpHeaderValidityCheck p.len s.config.pt).val p.pkt with
  | error e =>
      rw [hcheck] at hvalid
      exact absurd hvalid Bool.false_ne_true
  | ok r =>
      have hhdr : readRtpHdr.val p.pkt = rtpHdrOf p.pkt := rfl
      rw [rx, s.val_rtpRx_of_ok hcheck, hhdr]
      simp only [rtpRxData, hsource]
      rfl

theorem not_delivers_of_refused {s t : Session} {fromAddr : SockaddrIn} {p : DataPkt}
    (hsource : s.rtpSessionTimestamp.2.rtpRxSource (rtpHdrOf p.pkt) s.rtpSessionTimestamp.1 fromAddr =
      (false, t)) : ¬ Delivers fromAddr s p := by
  intro hdelivers
  obtain ⟨-, m, haccepts⟩ := rxRtpCall_isSome.1 hdelivers
  have hclock : s.rtpSessionTimestamp.2.Accepts (rtpHdrOf p.pkt) fromAddr m :=
    ⟨haccepts.lookup, haccepts.bye, haccepts.known, haccepts.addr, haccepts.seq⟩
  rw [rtpRxSource_accepts hclock] at hsource
  cases hsource

theorem config_alloc {s s' : Session} {ssrc : UInt32} {m : Slot}
    (h : s.rtpSessionAllocMember ssrc = some (m, s')) : s'.config = s.config := by
  rw [rtpSessionAllocMember] at h
  split at h
  · exact absurd h (by simp)
  · rw [Option.some_inj, Prod.mk.injEq] at h
    rw [← h.2]
    rfl

/-- The packet by which a source is first heard starts its numbering over what the slot held, and goes no
    further. -/
theorem Unheard.rtpHandleSsrc {s : Session} {ssrc : UInt32} (h : s.Unheard ssrc) (seq : UInt16)
    (fromAddr : SockaddrIn) :
    ∃ m t, s.rtpHandleSsrc ssrc seq fromAddr false = (none, t) ∧
      HearsData s.config.pt ssrc fromAddr m t ∧
      (t.member m).rtpSrc = (s.member m).rtpSrc.rtpInitSeq seq true := by
  have hcase := s.rtpHandleSsrc_case ssrc seq fromAddr false
  cases h with
  | absent hnone hfree =>
      -- `rtp_handle_ssrc` creates the member and returns NULL
      cases halloc : s.rtpSessionAllocMember ssrc with
      | none => exact absurd (rtpSessionAllocMember_eq_none.1 halloc) hfree
      | some r =>
          obtain ⟨m, s'⟩ := r
          have hrecord : (s'.rtpCreated m seq fromAddr).member m =
              rtpFirstHeard seq fromAddr (rtpMemberInit (s.member m) ssrc) :=
            (member_alloc halloc (rtpFirstHeard seq fromAddr) m).trans (if_pos rfl)
          refine ⟨m, s'.rtpCreated m seq fromAddr, ?_, ⟨?_, ?_, ?_, ?_, ?_⟩, ?_⟩
          · rw [Session.rtpHandleSsrc, hnone, halloc]
            rfl
          · show s'.config.pt = s.config.pt
            rw [config_alloc halloc]
          · exact lookup_alloc hnone halloc (f := rtpFirstHeard seq fromAddr) rfl rfl
          all_goals rw [hrecord]
          · rfl
          · rfl
          · rfl
          · rfl
  | known m hm hbye hself hnew =>
      -- RTCP has created it: `rtp_heard` is FALSE, and NULL is returned just the same
      have hrecord : (s.rtpJoined m seq fromAddr).member m = rtpFirstHeard seq fromAddr (s.member m) :=
        Function.update_self ..
      refine ⟨m, s.rtpJoined m seq fromAddr, ?_, ⟨rfl, ?_, ?_, ?_, ?_⟩, ?_⟩
      · rw [Session.rtpHandleSsrc, hm]
        simp only [hbye, hself, hnew]
        rfl
      · exact (lookup_modifyMember (f := rtpFirstHeard seq fromAddr) rfl rfl ssrc).trans hm
      all_goals rw [hrecord]
      · exact hbye
      · rfl
      · rfl
      · rfl

/-- The packet by which a source is first heard is not delivered, and starts its numbering. -/
theorem Unheard.rx {s : Session} {ssrc : UInt32} (h : s.Unheard ssrc) (fromAddr : SockaddrIn)
    {p : DataPkt} (hp : ValidData s.config.pt ssrc p) :
    ¬ Delivers fromAddr s p ∧
      ∃ m, HearsData s.config.pt ssrc fromAddr m (s.rx fromAddr p) ∧
        ((s.rx fromAddr p).member m).rtpSrc = (s.member m).rtpSrc.rtpInitSeq p.seq true := by
  have hclock : s.rtpSessionTimestamp.2.Unheard ssrc := by
    cases h with
    | absent hnone hfree => exact .absent hnone hfree
    | known m hm hbye hself hnew => exact .known m hm hbye hself hnew
  obtain ⟨m, t, hhandle, hhears, hinit⟩ := hclock.rtpHandleSsrc p.seq fromAddr
  have hsource : s.rtpSessionTimestamp.2.rtpRxSource (rtpHdrOf p.pkt) s.rtpSessionTimestamp.1
      fromAddr = (false, t) := by
    rw [rtpRxSource, hp.ssrc, show (rtpHdrOf p.pkt).seq = p.seq from rfl, hhandle]
  refine ⟨not_delivers_of_refused hsource, m, ?_⟩
  rw [rx_refused hp.valid hsource]
  exact ⟨hhears, hinit⟩

/-! ## The trial -/

/-- A packet of a known source with a sequence number that is refused. -/
theorem rtpRxSource_refused {s : Session} {hdr : RtpHdr} {fromAddr : SockaddrIn} {m : Slot}
    (hm : s.rtpSessionLookupMember hdr.ssrc = some m)
    (hbye : (s.member m).flags.byeReceived = false) (hheard : (s.member m).flags.rtpHeard = true)
    (haddr : (s.member m).rtpAddr = fromAddr)
    (hseq : ((s.member m).rtpSrc.rtpUpdateSeq hdr.seq).1 = false) (arrival : UInt32) :
    s.rtpRxSource hdr arrival fromAddr =
      (false, ((s.rtpRefreshed m).modifyMember m fun x =>
        { x with rtpSrc := (x.rtpSrc.rtpUpdateSeq hdr.seq).2 }).setRtpError .seqError) := by
  have hrecord : (s.rtpRefreshed m).member m = (s.member m).setRtpHeard := Function.update_self ..
  have hrefused : (((s.rtpRefreshed m).member m).rtpSrc.rtpUpdateSeq hdr.seq).1 = false := by
    rw [hrecord]
    exact hseq
  simp only [rtpRxSource, rtpHandleSsrc_known hm hbye (.inr hheard) haddr, hrefused]
  rfl

theorem HearsData.of_quiet {pt : UInt8} {ssrc : UInt32} {fromAddr : SockaddrIn} {m : Slot}
    {s t : Session} (h : HearsData pt ssrc fromAddr m s) (hquiet : Quiet s t) :
    HearsData pt ssrc fromAddr m t where
  config := (congrArg RtpSessionConfig.pt hquiet.config).trans h.config
  lookup := (hquiet.lookup ssrc).trans h.lookup
  bye := (hquiet.member m).byeReceived.trans h.bye
  heard := (hquiet.member m).rtpHeard.trans h.heard
  addr := (hquiet.member m).rtpAddr.trans h.addr

/-- A packet of a source that is heard is delivered if its sequence number is accepted. -/
theorem HearsData.delivers_iff {pt : UInt8} {ssrc : UInt32} {fromAddr : SockaddrIn} {m : Slot}
    {s : Session} (h : HearsData pt ssrc fromAddr m s) {p : DataPkt} (hp : ValidData pt ssrc p) :
    Delivers fromAddr s p ↔ ((s.member m).rtpSrc.rtpUpdateSeq p.seq).1 = true := by
  have hvalid := hp.valid
  rw [← h.config] at hvalid
  rw [Delivers, rxRtpCall_isSome, and_iff_right hvalid]
  constructor
  · rintro ⟨j, haccepts⟩
    have hlookup := haccepts.lookup
    rw [hp.ssrc, h.lookup] at hlookup
    obtain rfl : m = j := Option.some.inj hlookup
    exact haccepts.seq
  · intro hseq
    exact ⟨m, hp.ssrc ▸ h.lookup, h.bye, .inr h.heard, h.addr, hseq⟩

/-- If it is not, the sequence number has been fed to the source. -/
theorem HearsData.rx {pt : UInt8} {ssrc : UInt32} {fromAddr : SockaddrIn} {m : Slot}
    {s : Session} (h : HearsData pt ssrc fromAddr m s) {p : DataPkt} (hp : ValidData pt ssrc p)
    (hnot : ¬ Delivers fromAddr s p) :
    HearsData pt ssrc fromAddr m (s.rx fromAddr p) ∧
      ((s.rx fromAddr p).member m).rtpSrc = ((s.member m).rtpSrc.rtpUpdateSeq p.seq).2 := by
  have hvalid := hp.valid
  rw [← h.config] at hvalid
  have hrefused : ((s.member m).rtpSrc.rtpUpdateSeq p.seq).1 = false :=
    Bool.eq_false_iff.2 fun hseq => hnot ((h.delivers_iff hp).2 hseq)
  have hlookup : s.rtpSessionLookupMember (rtpHdrOf p.pkt).ssrc = some m := by
    rw [hp.ssrc]
    exact h.lookup
  have hsource := rtpRxSource_refused (s := s.rtpSessionTimestamp.2) hlookup h.bye h.heard h.addr
    hrefused s.rtpSessionTimestamp.1
  rw [rx_refused hvalid hsource]
  have hheard : (s.rtpSessionTimestamp.2.rtpRefreshed m).member m = (s.member m).setRtpHeard :=
    Function.update_self ..
  have hrecord : ∀ f : RtpMember → RtpMember,
      (((s.rtpSessionTimestamp.2.rtpRefreshed m).modifyMember m f).setRtpError .seqError).member m =
        f ((s.member m).setRtpHeard) := by
    intro f
    rw [← hheard]
    exact Function.update_self ..
  refine ⟨⟨h.config, ?_, ?_, ?_, ?_⟩, ?_⟩
  · have hfed := lookup_modifyMember (s := s.rtpSessionTimestamp.2.rtpRefreshed m) (m := m)
      (f := fun x => { x with rtpSrc := (x.rtpSrc.rtpUpdateSeq (rtpHdrOf p.pkt).seq).2 }) rfl rfl ssrc
    have hset : (s.rtpSessionTimestamp.2.rtpRefreshed m).rtpSessionLookupMember ssrc =
        s.rtpSessionLookupMember ssrc :=
      lookup_modifyMember (f := RtpMember.setRtpHeard) rfl rfl ssrc
    exact (hfed.trans hset).trans h.lookup
  all_goals rw [hrecord]
  · exact h.bye
  · rfl
  · exact h.addr
  · rfl

/-- Until something is delivered, `rtp_rx` is `rtp_update_seq` on the sequence numbers. -/
theorem HearsData.run {pt : UInt8} {ssrc : UInt32} {fromAddr : SockaddrIn} {m : Slot}
    {s : Session} (h : HearsData pt ssrc fromAddr m s) {ps : List DataPkt}
    (hps : ∀ p ∈ ps, ValidData pt ssrc p) :
    (Silent fromAddr s ps ↔ (s.member m).rtpSrc.AllRefused (ps.map DataPkt.seq)) ∧
      (Silent fromAddr s ps →
        HearsData pt ssrc fromAddr m (Runs.run (Session.rx fromAddr) s ps) ∧
          ((Runs.run (Session.rx fromAddr) s ps).member m).rtpSrc =
            (s.member m).rtpSrc.updateSeqs (ps.map DataPkt.seq)) := by
  -- a packet that is not delivered leaves a session which still hears the source
  induction ps generalizing s with
  | nil => exact ⟨iff_of_true trivial trivial, fun _ => ⟨h, rfl⟩⟩
  | cons p ps ih =>
      have hp := hps p List.mem_cons_self
      have hrest := fun q hq => hps q (List.mem_cons_of_mem p hq)
      have hdelivers := h.delivers_iff hp
      constructor
      · constructor
        · rintro ⟨hnot, hsilent⟩
          obtain ⟨hnext, hsrc⟩ := h.rx hp hnot
          have hrefused := (ih hnext hrest).1.1 hsilent
          rw [hsrc] at hrefused
          exact ⟨Bool.eq_false_iff.2 fun hseq => hnot (hdelivers.2 hseq), hrefused⟩
        · rintro ⟨hseq, hrefused⟩
          have hnot : ¬ Delivers fromAddr s p := fun hd =>
            Bool.false_ne_true (hseq.symm.trans (hdelivers.1 hd))
          obtain ⟨hnext, hsrc⟩ := h.rx hp hnot
          refine ⟨hnot, (ih hnext hrest).1.2 ?_⟩
          rw [hsrc]
          exact hrefused
      · rintro ⟨hnot, hsilent⟩
        obtain ⟨hnext, hsrc⟩ := h.rx hp hnot
        obtain ⟨hend, hendsrc⟩ := (ih hnext hrest).2 hsilent
        exact ⟨hend, hendsrc.trans (by rw [hsrc]; rfl)⟩

theorem HearsData.firstDelivered_iff {pt : UInt8} {ssrc : UInt32} {fromAddr : SockaddrIn} {m : Slot}
    {s : Session} (h : HearsData pt ssrc fromAddr m s) {pre : List DataPkt} {p : DataPkt}
    (hpre : ∀ q ∈ pre, ValidData pt ssrc q) (hp : ValidData pt ssrc p) :
    FirstDelivered fromAddr s pre p ↔
      (s.member m).rtpSrc.FirstAccepted (pre.map DataPkt.seq) p.seq := by
  obtain ⟨hiff, hrun⟩ := h.run hpre
  unfold FirstDelivered RtpSource.FirstAccepted
  rw [← hiff]
  refine and_congr_right fun hsilent => ?_
  obtain ⟨hend, hsrc⟩ := hrun hsilent
  rw [hend.delivers_iff hp, hsrc]

/-- The first packet of a source that `rtp_rx` delivers is the first to complete a run of
    `RTP_CONFIG_MIN_SEQUENTIAL` consecutive numbers received after the packet by which the source was
    first heard, unless that run lies over the wrap. -/
theorem first_delivery {s : Session} {ssrc : UInt32} (hs : s.Unheard ssrc) (fromAddr : SockaddrIn)
    {ps : List DataPkt} (hps : ∀ p ∈ ps, ValidData s.config.pt ssrc p)
    (hwrap : ∀ seqs, seqs ++ [65535, 0] <+: ps.tail.map DataPkt.seq →
      Consecutive rtpConfigMinSequential.toNat (seqs ++ [65535]))
    (pre : List DataPkt) (p : DataPkt) (hpre : pre ++ [p] <+: ps) :
    FirstDelivered fromAddr s pre p ↔
      RtpSource.FirstCompletes (pre.tail.map DataPkt.seq) p.seq := by
  have hvalid : ∀ q ∈ pre ++ [p], ValidData s.config.pt ssrc q := fun q hq => hps q (hpre.mem hq)
  have hp := hvalid p (List.mem_append_right pre (List.mem_singleton_self p))
  cases pre with
  | nil =>
      refine iff_of_false (fun h => (hs.rx fromAddr hp).1 h.2) ?_
      rintro ⟨-, hdone⟩
      exact not_consecutive_two_singleton p.seq hdone
  | cons first pre =>
      obtain ⟨hnot, m, hhears, hinit⟩ := hs.rx fromAddr (hvalid first List.mem_cons_self)
      have hwaiting : ((s.rx fromAddr first).member m).rtpSrc.Waiting [] := by
        rw [hinit]
        exact RtpSource.waiting_rtpInitSeq _ first.seq
      have hlater : ∀ q ∈ pre, ValidData s.config.pt ssrc q := fun q hq =>
        hvalid q (List.mem_cons_of_mem first (List.mem_append_left [p] hq))
      have hsplit : FirstDelivered fromAddr s (first :: pre) p ↔
          FirstDelivered fromAddr (s.rx fromAddr first) pre p :=
        and_congr_left fun _ => and_iff_right hnot
      have hseqs : pre.map DataPkt.seq ++ [p.seq] <+: ps.tail.map DataPkt.seq := by
        obtain ⟨rest, rfl⟩ := hpre
        exact ⟨rest.map DataPkt.seq, by simp⟩
      rw [hsplit, hhears.firstDelivered_iff hlater hp]
      exact RtpSource.firstAccepted_iff hwaiting hwrap hseqs

/-- A session in which nobody has been heard yet. -/
def nobodyHeard : Session := runSession (zeroed (.still .zero)) (plainConfig 1000 4) []

theorem unheard_nobodyHeard : nobodyHeard.Unheard 5 :=
  .absent (by decide +kernel) (by decide +kernel)

/-- A data packet of SSRC 5, without payload. -/
def dataOf (seq : UInt8) : DataPkt := ⟨pktOf [128, 0, 0, seq, 0, 0, 0, 0, 0, 0, 0, 5], 12⟩

theorem validData_ten : ValidData nobodyHeard.config.pt 5 (dataOf 10) :=
  ⟨by decide +kernel, by decide +kernel⟩

theorem validData_eleven : ValidData nobodyHeard.config.pt 5 (dataOf 11) :=
  ⟨by decide +kernel, by decide +kernel⟩

/-- The packets of the unit test: 10 creates the member, 10 comes again and 11 is delivered. -/
theorem first_delivery_eleven :
    FirstDelivered (.ofPort 7) nobodyHeard [dataOf 10, dataOf 10] (dataOf 11) := by
  have hps : ∀ p ∈ [dataOf 10, dataOf 10, dataOf 11], ValidData nobodyHeard.config.pt 5 p := by
    intro p hp
    simp only [List.mem_cons, List.not_mem_nil, or_false] at hp
    rcases hp with rfl | rfl | rfl
    · exact validData_ten
    · exact validData_ten
    · exact validData_eleven
  refine (first_delivery unheard_nobodyHeard (.ofPort 7) hps ?_ _ _ List.prefix_rfl).2
    (RtpSource.firstCompletes_pair 10)
  intro seqs hseqs
  have hmem : (65535 : UInt16) ∈ seqs ++ [65535, 0] :=
    List.mem_append_right seqs List.mem_cons_self
  exact absurd (hseqs.mem hmem) (by decide +kernel)

/-- 10 and 11 are consecutive, but 10 only creates the member: 11 is not delivered. -/
theorem creating_packet_not_counted :
    nobodyHeard.Unheard 5 ∧ ValidData nobodyHeard.config.pt 5 (dataOf 10) ∧
      ValidData nobodyHeard.config.pt 5 (dataOf 11) ∧
      RtpSource.FirstCompletes [(dataOf 10).seq] (dataOf 11).seq ∧
      ¬ FirstDelivered (.ofPort 7) nobodyHeard [dataOf 10] (dataOf 11) := by
  refine ⟨unheard_nobodyHeard, validData_ten, validData_eleven, RtpSource.firstCompletes_pair 10, ?_⟩
  rintro ⟨-, hdelivers⟩
  have hnot : ((nobodyHeard.rx (.ofPort 7) (dataOf 10)).rxRtpCall (dataOf 11).pkt (dataOf 11).len
      (.ofPort 7)).isSome = false := by decide +kernel
  exact Bool.false_ne_true (hnot.symm.trans hdelivers)

end Session

end Prtp
