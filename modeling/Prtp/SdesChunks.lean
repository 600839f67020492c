import Prtp.RtcpMessages
import Prtp.RtcpWalk
import Prtp.SessionLedger

set_option autoImplicit false

/-! # Source descriptions

A SDES sub-packet is a list of chunks, a chunk is a SSRC and a list of items, an item is a type, a length
and a text. `rtcp_handle_sdes` walks over the items octet by octet and over the chunks word by word, up to
an end pointer that it computes from the length word as it stands in the packet, without `ntohs`. The two
octets of the length are thus read in the wrong order: the pointer lies behind the sub-packet while that has
256 words or less, and somewhere inside it for some of the longer ones. Chunks behind the pointer are not
looked at, nor are items that do not end before it. -/

namespace Prtp

open ByteReader

/-! ## Chunks and their octets -/

/-- `rtcp_sdes_item_t`, of a type other than `RTCP_SDES_END`. -/
structure SdesItem where
  type : UInt8
  data : List UInt8
  type_ne : type ≠ 0
  data_le : data.length ≤ 255
  deriving DecidableEq

namespace SdesItem

/-- The item in a packet: type, length, text. -/
def bytes (i : SdesItem) : List UInt8 := i.type :: UInt8.ofNat i.data.length :: i.data

@[simp] theorem bytes_length (i : SdesItem) : i.bytes.length = i.data.length + 2 := rfl

theorem toNat_length (i : SdesItem) : (UInt8.ofNat i.data.length).toNat = i.data.length := by
  have hle := i.data_le
  rw [UInt8.toNat_ofNat']
  omega

end SdesItem

/-- The texts of the CNAME items. -/
def cnamesOf : List SdesItem → List (List UInt8)
  | [] => []
  | i :: is => if i.type = rtcpSdesCname then i.data :: cnamesOf is else cnamesOf is

/-- The texts of the CNAME items that end before `room` octets are used up. -/
def cnamesBefore : ℕ → List SdesItem → List (List UInt8)
  | _, [] => []
  | room, i :: is =>
      if room ≤ i.data.length + 2 then []
      else if i.type = rtcpSdesCname then i.data :: cnamesBefore (room - (i.data.length + 2)) is
      else cnamesBefore (room - (i.data.length + 2)) is

/-- `rtcp_sdes`: a source and what is said about it. -/
structure SdesChunk where
  src : UInt32
  items : List SdesItem
  deriving DecidableEq

namespace SdesChunk

def itemBytes (c : SdesChunk) : List UInt8 := c.items.flatMap SdesItem.bytes

/-- The chunk in a packet: one null octet at least ends the items, and null octets fill the word. -/
def bytes (c : SdesChunk) : List UInt8 :=
  be32Bytes c.src ++ (c.itemBytes ++ List.replicate (4 - c.itemBytes.length % 4) 0)

/-- The texts of the CNAME items of the chunk. -/
def cnames (c : SdesChunk) : List (List UInt8) := cnamesOf c.items

theorem bytes_length (c : SdesChunk) :
    c.bytes.length = 4 * ((4 + c.itemBytes.length) / 4 + 1) := by
  simp only [bytes, List.length_append, be32Bytes_length, List.length_replicate]
  omega

end SdesChunk

/-- With room to spare every CNAME counts. -/
theorem cnamesBefore_eq_cnamesOf {room : ℕ} {items : List SdesItem}
    (h : (items.flatMap SdesItem.bytes).length < room) :
    cnamesBefore room items = cnamesOf items := by
  induction items generalizing room with
  | nil => rfl
  | cons i is ih =>
      simp only [List.flatMap_cons, List.length_append, SdesItem.bytes_length] at h
      rw [cnamesBefore, cnamesOf, if_neg (by omega), ih (by omega)]

theorem length_le_of_mem_cnamesBefore {room : ℕ} {items : List SdesItem} :
    ∀ data ∈ cnamesBefore room items, data.length ≤ 255 := by
  induction items generalizing room with
  | nil => simp [cnamesBefore]
  | cons i is ih =>
      rw [cnamesBefore]
      split
      · simp
      · split
        · exact List.forall_mem_cons.2 ⟨i.data_le, ih⟩
        · exact ih

namespace Session

/-! ## The walk over the items -/

/-- The inner loop finds the CNAMEs of the items that end before `stop`, and leaves `rsp` at the null
    octet behind the items or at or behind `stop`. -/
theorem cnamesAt_items {pkt : ByteMem} (stop : ℕ) {items : List SdesItem} (n rsp : ℕ)
    (h : pkt.Holds rsp (items.flatMap SdesItem.bytes ++ [0])) (hn : stop - rsp ≤ n)
    (hrsp : rsp < stop) :
    (cnamesAt pkt stop n rsp).1 = cnamesBefore (stop - rsp) items ∧
      ((cnamesAt pkt stop n rsp).2 = rsp + (items.flatMap SdesItem.bytes).length ∨
        stop ≤ (cnamesAt pkt stop n rsp).2 ∧
          stop ≤ rsp + (items.flatMap SdesItem.bytes).length) := by
  induction items generalizing n rsp with
  | nil =>
      obtain ⟨n, rfl⟩ : ∃ n', n = n' + 1 := ⟨n - 1, by omega⟩
      have hnull : pkt rsp = 0 := (ByteMem.holds_singleton ..).1 h
      simp [cnamesAt, hnull, cnamesBefore]
  | cons i is ih =>
      obtain ⟨n, rfl⟩ : ∃ n', n = n' + 1 := ⟨n - 1, by omega⟩
      rw [List.flatMap_cons, List.append_assoc, ByteMem.holds_append, SdesItem.bytes_length] at h
      obtain ⟨hitem, hrest⟩ := h
      obtain ⟨htype, hlength, hdata⟩ : pkt rsp = i.type ∧
          pkt (rsp + 1) = UInt8.ofNat i.data.length ∧ pkt.slice (rsp + 2) i.data.length = i.data := by
        simpa [SdesItem.bytes, ByteMem.Holds, ByteMem.slice] using hitem
      have hsize : (pkt (rsp + 1)).toNat = i.data.length := by rw [hlength, i.toNat_length]
      simp only [cnamesAt, cnamesBefore, hsize, htype, i.type_ne, if_false, hdata,
        List.flatMap_cons, List.length_append, SdesItem.bytes_length, Nat.add_assoc rsp]
      by_cases hstop : stop ≤ rsp + (i.data.length + 2)
      · have hroom : stop - rsp ≤ i.data.length + 2 := by omega
        rw [if_pos hstop, if_pos hroom]
        exact ⟨rfl, Or.inr ⟨hstop, by omega⟩⟩
      · have hroom : ¬ stop - rsp ≤ i.data.length + 2 := by omega
        rw [if_neg hstop, if_neg hroom, Nat.sub_sub]
        obtain ⟨hnames, hend⟩ := ih n _ hrest (by omega) (by omega)
        rw [Nat.add_assoc rsp] at hend
        split
        · exact ⟨congrArg _ hnames, hend⟩
        · exact ⟨hnames, hend⟩

/-! ## The walk over the chunks -/

/-- What `rtcp_handle_sdes` makes of chunks that start at `sd` when its end pointer is `stop`. -/
def sdesBefore (stop : ℕ) : ℕ → List SdesChunk → List RtcpMsg
  | _, [] => []
  | sd, c :: cs =>
      if stop ≤ sd + 4 then []
      else .sdes c.src (cnamesBefore (stop - (sd + 4)) c.items) ::
        sdesBefore stop (sd + c.bytes.length) cs

theorem sdesBefore_of_le {stop sd : ℕ} (h : stop ≤ sd + 4) (cs : List SdesChunk) :
    sdesBefore stop sd cs = [] := by
  cases cs with
  | nil => rfl
  | cons c cs => rw [sdesBefore, if_pos h]

theorem chunksAt_of_le {stop sd : ℕ} (h : stop ≤ sd + 4) (pkt : ByteMem) (count : ℕ) :
    chunksAt pkt stop count sd = [] := by
  cases count with
  | zero => rfl
  | succ count => rw [chunksAt, if_pos h]

/-- The chunks are walked over one by one, until one reaches over `stop`. -/
theorem chunksAt_chunks {pkt : ByteMem} {stop : ℕ} {cs : List SdesChunk} (sd : ℕ)
    (h : pkt.Holds sd (cs.flatMap SdesChunk.bytes)) :
    chunksAt pkt stop cs.length sd = sdesBefore stop sd cs := by
  induction cs generalizing sd with
  | nil => rfl
  | cons c cs ih =>
      rw [List.flatMap_cons, ByteMem.holds_append] at h
      obtain ⟨hchunk, hrest⟩ := h
      rw [SdesChunk.bytes, ByteMem.holds_append] at hchunk
      obtain ⟨hsrc, hitems⟩ := hchunk
      obtain ⟨k, hk⟩ : ∃ k, 4 - c.itemBytes.length % 4 = k + 1 :=
        ⟨3 - c.itemBytes.length % 4, by omega⟩
      rw [hk, List.replicate_succ, ← List.singleton_append, ← List.append_assoc,
        ByteMem.holds_append] at hitems
      simp only [List.length_cons, chunksAt, sdesBefore]
      split
      · rfl
      · obtain ⟨hnames, hend⟩ := cnamesAt_items stop (stop - (sd + 4)) (sd + 4)
          hitems.1 (Nat.le_refl _) (by omega)
        rw [val_be32_of_holds hsrc, hnames]
        congr 1
        have hsize := c.bytes_length
        rw [← SdesChunk.itemBytes] at hend
        rcases hend with hend | ⟨hpast, hover⟩
        · have hnext : sd + 4 * (((cnamesAt pkt stop (stop - (sd + 4)) (sd + 4)).2 - sd) / 4 + 1) =
              sd + c.bytes.length := by
            rw [hend, hsize, Nat.add_assoc, Nat.add_sub_cancel_left]
          rw [hnext]
          exact ih _ hrest
        · rw [chunksAt_of_le (by omega), sdesBefore_of_le (by omega)]

/-! ## What a chunk does to the member -/

end Session

/-- The member is validated and has exactly this CNAME. -/
structure RtpMember.Named (x : RtpMember) (data : List UInt8) : Prop where
  validated : x.flags.validated = true
  length : x.cnameLen.toNat = data.length
  cname : x.cname.Holds 0 data

/-- A member has one CNAME. -/
theorem RtpMember.Named.unique {x : RtpMember} {data data' : List UInt8} (h : x.Named data)
    (h' : x.Named data') : data = data' := by
  have hlength : data.length = data'.length := h.length.symm.trans h'.length
  have hcname := h.cname
  rw [ByteMem.Holds, hlength] at hcname
  exact hcname.symm.trans h'.cname

namespace Session

/-- Of several CNAMEs the last one stays. -/
theorem named_of_recordCname (s : Session) (m : Slot) {names : List (List UInt8)}
    {data : List UInt8} (hlast : names.getLast? = some data) (hle : data.length ≤ 255) :
    ((names.foldl (fun s cname => s.recordCname m cname) s).member m).Named data := by
  obtain ⟨init, rfl⟩ := List.getLast?_eq_some_iff.1 hlast
  rw [List.foldl_append, List.foldl_cons, List.foldl_nil, recordCname, member_modifyMember,
    if_pos rfl]
  refine ⟨rfl, ?_, ByteMem.Holds.storeBytes_self ..⟩
  change (UInt8.ofNat data.length).toNat = data.length
  rw [UInt8.toNat_ofNat']
  omega

/-- A source the session does not know becomes a member while there is room. -/
theorem rtcpHandleSsrc_new {s : Session} {ssrc : UInt32}
    (hnone : s.rtpSessionLookupMember ssrc = none) (hfree : s.freeList ≠ [])
    (fromAddr : SockaddrIn) (len : UInt32) :
    ∃ m s', s.rtpSessionAllocMember ssrc = some (m, s') ∧
      s.rtcpHandleSsrc ssrc fromAddr len = (some m, s'.rtcpCreated m fromAddr len) := by
  have hcase := s.rtcpHandleSsrc_case ssrc fromAddr len
  generalize s.rtcpHandleSsrc ssrc fromAddr len = res at hcase
  cases hcase with
  | tableFull _ hfull => exact absurd hfull hfree
  | created m s' _ halloc => exact ⟨m, s', halloc, rfl⟩
  | leaving m hm | joined m hm | thirdParty m hm | collision m hm | refreshed m hm =>
      rw [hnone] at hm
      exact absurd hm (by simp)

/-- The record of a member that RTCP has just created. -/
theorem member_rtcpCreated {s s' : Session} {ssrc : UInt32} {m : Slot}
    (halloc : s.rtpSessionAllocMember ssrc = some (m, s')) (fromAddr : SockaddrIn)
    (len : UInt32) :
    (s'.rtcpCreated m fromAddr len).member m =
      rtcpFirstHeard fromAddr (rtpMemberInit (s.member m) ssrc) := by
  have hrecord : (s'.rtcpCreated m fromAddr len).member m =
      (s'.modifyMember m (rtcpFirstHeard fromAddr)).member m := rfl
  rw [hrecord, member_alloc halloc, if_pos rfl]

/-- What the message does is what the chunk says: it passes the source of the chunk to
    `rtcp_handle_ssrc`, and a member found there it leaves validated with the last CNAME of the chunk,
    if the chunk has one. -/
structure Describes (msg : RtcpMsg) (c : SdesChunk) : Prop where
  source : msg.source = some c.src
  named : ∀ (s : Session) (fromAddr : SockaddrIn) (len : UInt32) (m : Slot),
    (s.rtcpHandleSsrc c.src fromAddr len).1 = some m →
    ∀ data ∈ c.cnames.getLast?, ((handleMsg fromAddr len s msg).member m).Named data

/-- In zeroed memory nobody is in the table. -/
theorem lookup_zeroed (ssrc : UInt32) :
    (zeroed (.still .zero)).rtpSessionLookupMember ssrc = none := rfl

/-- The source and the last CNAME settle it. -/
theorem describes_sdes_iff {src : UInt32} {names : List (List UInt8)} {c : SdesChunk}
    (hle : ∀ data ∈ names, data.length ≤ 255) :
    Describes (.sdes src names) c ↔
      src = c.src ∧ ∀ data ∈ c.cnames.getLast?, names.getLast? = some data := by
  constructor
  · rintro ⟨hsource, hnamed⟩
    obtain rfl : src = c.src := Option.some.inj hsource
    refine ⟨rfl, fun data hdata => ?_⟩
    -- a session without members takes the source as a new member, which has no CNAME of its own
    obtain ⟨m, s', halloc, hnew⟩ := rtcpHandleSsrc_new (s := zeroed (.still .zero))
      (lookup_zeroed c.src) (by decide) (.ofPort 0) 0
    have hmember := hnamed (zeroed (.still .zero)) (.ofPort 0) 0 m (congrArg Prod.fst hnew) data hdata
    simp only [handleMsg, hnew, acceptMsg] at hmember
    cases hlast : names.getLast? with
    | none =>
        rw [List.getLast?_eq_none_iff.1 hlast, List.foldl_nil, member_rtcpCreated halloc] at hmember
        exact absurd hmember.validated Bool.false_ne_true
    | some d =>
        have hmem := hle d (List.mem_of_getLast? hlast)
        rw [hmember.unique (named_of_recordCname _ m hlast hmem)]
  · rintro ⟨rfl, hlast⟩
    refine ⟨rfl, fun s fromAddr len m hm data hdata => ?_⟩
    have hnames := hlast data hdata
    simp only [handleMsg, hm, acceptMsg]
    exact named_of_recordCname _ m hnames (hle data (List.mem_of_getLast? hnames))

/-! ## Sub-packets -/

/-- A well-formed SDES sub-packet at `r`, with these chunks. -/
structure SdesAt (pkt : ByteMem) (r : ℕ) (chunks : List SdesChunk) : Prop where
  type : pkt (r + 1) = rtcpSdes
  count : subPktCount pkt r = chunks.length
  size : subPktSize pkt r = 4 + (chunks.flatMap SdesChunk.bytes).length
  holds : pkt.Holds (r + 4) (chunks.flatMap SdesChunk.bytes)

/-- The sources `rtcp_handle_sdes` passes to `rtcp_handle_ssrc`, each with the CNAMEs it then records. -/
def sdesCalls (pkt : ByteMem) (r : ℕ) : List RtcpMsg :=
  chunksAt pkt ((readSdesEnd r).val pkt) (subPktCount pkt r) (r + 4)

/-- `rtcp_handle_sdes` passes on the source of every chunk, once and in order, and records its CNAME. -/
structure SdesHandled (pkt : ByteMem) (r : ℕ) (chunks : List SdesChunk) : Prop where
  run : ∀ (s : Session) (fromAddr : SockaddrIn) (len : UInt32),
    (s.rtcpHandleSdes r fromAddr len).val pkt =
      Runs.run (handleMsg fromAddr len) s (sdesCalls pkt r)
  calls : List.Forall₂ Describes (sdesCalls pkt r) chunks

/-- The end pointer `stop` lies behind the SSRC of the last chunk, and behind the CNAME of that chunk if
    it has one; for the chunks before it nothing more is needed. -/
def SdesReached (stop : ℕ) : ℕ → List SdesChunk → Prop
  | _, [] => True
  | sd, [c] => sd + 4 < stop ∧
      ∀ data ∈ c.cnames.getLast?, (cnamesBefore (stop - (sd + 4)) c.items).getLast? = some data
  | sd, c :: c' :: cs => SdesReached stop (sd + c.bytes.length) (c' :: cs)

theorem SdesReached.lt {stop sd : ℕ} {c : SdesChunk} {cs : List SdesChunk}
    (h : SdesReached stop sd (c :: cs)) : sd + 4 < stop := by
  induction cs generalizing sd c with
  | nil => exact h.1
  | cons c' cs ih =>
      have hlt := ih h
      omega

/-- A chunk that ends before `stop` is taken in whole. -/
theorem cnamesBefore_of_end_le {stop sd : ℕ} {c : SdesChunk} (h : sd + c.bytes.length ≤ stop) :
    cnamesBefore (stop - (sd + 4)) c.items = c.cnames := by
  rw [c.bytes_length] at h
  refine cnamesBefore_eq_cnamesOf ?_
  rw [← SdesChunk.itemBytes]
  omega

theorem describes_sdesBefore_iff (stop sd : ℕ) (cs : List SdesChunk) :
    List.Forall₂ Describes (sdesBefore stop sd cs) cs ↔ SdesReached stop sd cs := by
  have hdescribes : ∀ (sd : ℕ) (c : SdesChunk),
      Describes (.sdes c.src (cnamesBefore (stop - (sd + 4)) c.items)) c ↔
        ∀ data ∈ c.cnames.getLast?,
          (cnamesBefore (stop - (sd + 4)) c.items).getLast? = some data := by
    intro sd c
    rw [describes_sdes_iff length_le_of_mem_cnamesBefore, eq_self_iff_true, true_and]
  induction cs generalizing sd with
  | nil => exact iff_of_true .nil trivial
  | cons c cs ih =>
      by_cases hstop : stop ≤ sd + 4
      · rw [sdesBefore_of_le hstop]
        refine iff_of_false (by simp) fun h => ?_
        have hlt := h.lt
        omega
      · rw [sdesBefore, if_neg hstop, List.forall₂_cons, hdescribes]
        refine (and_congr_right fun _ => ih (sd + c.bytes.length)).trans ?_
        cases cs with
        | nil =>
            rw [SdesReached, SdesReached, and_true]
            exact ⟨fun h => ⟨by omega, h⟩, fun h => h.2⟩
        | cons c' cs =>
            rw [SdesReached]
            refine ⟨fun h => h.2, fun h => ⟨fun data hdata => ?_, h⟩⟩
            have hlt := h.lt
            rw [cnamesBefore_of_end_le (by omega)]
            exact hdata

/-- The end pointer lies behind the sub-packet while that has 256 words or less. -/
theorem subPkt_le_sdesEnd {pkt : ByteMem} {r : ℕ} (h : subPktSize pkt r ≤ 1024) :
    r + subPktSize pkt r ≤ (readSdesEnd r).val pkt := by
  have hend : (readSdesEnd r).val pkt =
      r + 4 * ((be16Word (pkt (r + 3)) (pkt (r + 2))).toNat + 1) := rfl
  rw [subPktSize, val_readSize, toNat_be16Word] at h ⊢
  rw [hend, toNat_be16Word]
  -- the first octet of the length is zero, and becomes the last one
  omega

theorem sdesCalls_eq {pkt : ByteMem} {r : ℕ} {chunks : List SdesChunk} (h : SdesAt pkt r chunks) :
    sdesCalls pkt r = sdesBefore ((readSdesEnd r).val pkt) (r + 4) chunks := by
  rw [sdesCalls, h.count, chunksAt_chunks _ h.holds]

/-- Behind the sub-packet the end pointer cuts nothing off. -/
theorem sdesReached_of_end_le {stop sd : ℕ} {cs : List SdesChunk}
    (h : sd + (cs.flatMap SdesChunk.bytes).length ≤ stop) : SdesReached stop sd cs := by
  induction cs generalizing sd with
  | nil => trivial
  | cons c cs ih =>
      rw [List.flatMap_cons, List.length_append] at h
      cases cs with
      | nil =>
          have hsize := c.bytes_length
          rw [SdesReached, cnamesBefore_of_end_le (by omega)]
          exact ⟨by omega, fun _ hdata => hdata⟩
      | cons c' cs => exact ih (by omega)

theorem sdesBefore_of_end_le {stop sd : ℕ} {cs : List SdesChunk}
    (h : sd + (cs.flatMap SdesChunk.bytes).length ≤ stop) :
    sdesBefore stop sd cs = cs.map fun c => .sdes c.src c.cnames := by
  induction cs generalizing sd with
  | nil => rfl
  | cons c cs ih =>
      rw [List.flatMap_cons, List.length_append] at h
      have hsize := c.bytes_length
      rw [sdesBefore, if_neg (by omega), cnamesBefore_of_end_le (by omega), List.map_cons,
        ih (by omega)]

/-- The calls for a sub-packet of 256 words or less: the chunks as they are. -/
theorem sdesCalls_of_short {pkt : ByteMem} {r : ℕ} {chunks : List SdesChunk}
    (h : SdesAt pkt r chunks) (hshort : subPktSize pkt r ≤ 1024) :
    sdesCalls pkt r = chunks.map fun c => .sdes c.src c.cnames := by
  have hend := subPkt_le_sdesEnd hshort
  rw [h.size] at hend
  rw [sdesCalls_eq h, sdesBefore_of_end_le (by omega)]

theorem val_rtcpHandleSdes (s : Session) (pkt : ByteMem) (r : ℕ) (fromAddr : SockaddrIn)
    (len : UInt32) :
    (s.rtcpHandleSdes r fromAddr len).val pkt =
      Runs.run (handleMsg fromAddr len) s (sdesCalls pkt r) := by
  rw [rtcpHandleSdes, val_bind, val_bind, val_sdesChunks]
  rfl

/-- A well-formed SDES sub-packet is handled as it says exactly when the end pointer leaves enough of it. -/
theorem sdesHandled_iff_reached (pkt : ByteMem) (r : ℕ) (chunks : List SdesChunk)
    (h : SdesAt pkt r chunks) :
    SdesHandled pkt r chunks ↔ SdesReached ((readSdesEnd r).val pkt) (r + 4) chunks := by
  have hcalls : List.Forall₂ Describes (sdesCalls pkt r) chunks ↔
      SdesReached ((readSdesEnd r).val pkt) (r + 4) chunks := by
    rw [sdesCalls_eq h, describes_sdesBefore_iff]
  constructor
  · exact fun hhandled => hcalls.1 hhandled.calls
  · intro hreached
    refine ⟨fun s fromAddr len => ?_, hcalls.2 hreached⟩
    exact s.val_rtcpHandleSdes pkt r fromAddr len

/-! ## Packets made of chunks -/

theorem four_dvd_chunks (chunks : List SdesChunk) :
    (chunks.flatMap SdesChunk.bytes).length % 4 = 0 := by
  induction chunks with
  | nil => rfl
  | cons c cs ih =>
      have hsize := c.bytes_length
      rw [List.flatMap_cons, List.length_append]
      omega

/-- The SDES sub-packet with these chunks. -/
def sdesPkt (chunks : List SdesChunk) : ByteMem :=
  pktOf (rtcpSubPkt chunks.length rtcpSdes (chunks.flatMap SdesChunk.bytes))

/-- Any chunks that the count and the length word can express make up a well-formed sub-packet. -/
theorem sdesAt_sdesPkt {chunks : List SdesChunk} (hcount : chunks.length ≤ 31)
    (hsize : (chunks.flatMap SdesChunk.bytes).length / 4 < 65536) :
    SdesAt (sdesPkt chunks) 0 chunks := by
  have hat : SubPktAt (sdesPkt chunks) 0 chunks.length rtcpSdes (chunks.flatMap SdesChunk.bytes) :=
    subPktAt_of_holds (holds_pktOf [] _) (Nat.lt_succ_of_le hcount) (four_dvd_chunks chunks) hsize
  exact ⟨hat.type, hat.count, hat.size, hat.holds⟩

/-- A chunk of SSRC 5 with the CNAME "ab" and an item of type 2, one of SSRC 6 with the CNAME "c", and one of
    SSRC 7 with no items. Null octets fill the words of each. -/
def smallChunks : List SdesChunk :=
  [⟨5, [⟨rtcpSdesCname, [97, 98], by decide, by decide⟩, ⟨2, [100, 101, 102], by decide, by decide⟩]⟩,
    ⟨6, [⟨rtcpSdesCname, [99], by decide, by decide⟩]⟩, ⟨7, []⟩]

theorem sdesHandled_several : SdesHandled (sdesPkt smallChunks) 0 smallChunks := by
  refine (sdesHandled_iff_reached _ _ _ (sdesAt_sdesPkt (by decide) (by decide))).2 ?_
  exact sdesReached_of_end_le (by decide +kernel)

/-- One chunk of SSRC 5 with four CNAMEs of 252 octets. -/
def longChunk : SdesChunk :=
  ⟨5, List.replicate 4 ⟨rtcpSdesCname, List.replicate 252 97, by decide, by
    rw [List.length_replicate]; omega⟩⟩

/-- A chunk of 256 words is skipped: with its octets swapped the length is 1, and the end pointer points
    to the first item. -/
theorem sdes_long_skipped :
    SdesAt (sdesPkt [longChunk]) 0 [longChunk] ∧
      ¬ SdesHandled (sdesPkt [longChunk]) 0 [longChunk] := by
  have hlong : SdesAt (sdesPkt [longChunk]) 0 [longChunk] :=
    sdesAt_sdesPkt (by decide) (by decide +kernel)
  refine ⟨hlong, fun h => ?_⟩
  have hcalls := h.calls
  have hend : (readSdesEnd 0).val (sdesPkt [longChunk]) = 8 := by decide +kernel
  rw [sdesCalls_eq hlong, hend, sdesBefore_of_le (Nat.le_refl _)] at hcalls
  exact absurd hcalls (by simp)

end Session

end Prtp
