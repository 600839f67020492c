import Prtp.Provenance
import Prtp.ReportLimits

set_option autoImplicit false

/-! # Everybody keeps reporting

In an exchange all that reaches a session on its RTCP channel is reports of the others, none of which is
longer than the buffer they are built in. So the session's own reports keep their pace, whatever the
network does with the datagrams. -/

namespace Prtp

namespace Exchange

variable {ι : Type} {config : ι → RtpSessionConfig}

/-- There is nothing to keep of a fact that always holds. -/
theorem anyFact_rules (config : ι → RtpSessionConfig) : Rules config fun _ _ _ => True :=
  ⟨fun _ => trivial, fun _ _ => trivial, fun _ => trivial, fun _ _ => trivial, fun _ => trivial,
    fun _ _ _ => trivial, fun _ _ _ => trivial⟩

/-- A datagram that somebody has sent is no longer than the buffer of the reports, if it is one. -/
theorem Genuine.rtcpWithin {P : SentLog ι → ι → Session → Prop} {log : SentLog ι} {j : ι} {d : Datagram}
    (h : Genuine config P log j d) (a : Arrival) :
    Session.RtcpWithin rtpConfigRtcpEncoderBufferLen (d.op a) := by
  obtain ⟨o, -, hsends⟩ := h
  cases d with
  | rtp bytes => trivial
  | rtcp bytes =>
      cases o with
      | data => exact hsends.elim
      | report r =>
          obtain ⟨hfits, rfl⟩ := Session.Transmits.eq hsends
          rw [Session.ReportFits, ← r.reportBytes_length] at hfits
          show (UInt32.ofNat r.reportBytes.length).toNat ≤ _
          rw [UInt32.toNat_ofNat']
          exact (Nat.mod_le _ _).trans hfits

/-- What reaches a party from abroad does not speak in its name. -/
theorem Party.unnamed {P : SentLog ι → ι → Session → Prop} {log : SentLog ι} {i : ι} {s : Session} {op : Op}
    (h : Party config P log i s) (hadmits : (Session.abroad (config i)).admits s op) :
    Session.selfUnnamed.admits s op :=
  (Session.atHome_rules (config i)).admits (fun hP hg => hP.2.unnamed.1 hg)
    (fun hP hg => hP.2.unnamed.2 hg) id id id ⟨h.inOrder, h.atHome⟩ hadmits

variable [DecidableEq ι]

/-- The calls of one party in an exchange. -/
def calls (config : ι → RtpSessionConfig) (mem : ι → Session) (moves : List (Move ι)) (i : ι) : List Op :=
  Network.calls sessions i (start config mem) moves

/-- A party's part in an exchange is a run of its session. -/
theorem parties_eq_runSession (mem : ι → Session) (moves : List (Move ι)) (i : ι) :
    parties config mem moves i = runSession (mem i) (config i) (calls config mem moves i) :=
  Network.party_run sessions i (start config mem) moves

section Runs

variable (hpt : ∀ i, (config i).pt.toNat < 128) {mem : ι → Session} {moves : List (Move ι)}
  (hmoves : Proper config mem moves) (i : ι)

include hpt hmoves

/-- In that run nobody speaks in the party's name, and no RTCP packet is longer than the buffer. -/
theorem calls_guarded :
    Runs.Guarded step (fun s op => Session.selfUnnamed.admits s op ∧
        Session.RtcpWithin rtpConfigRtcpEncoderBufferLen op)
      ((mem i).rtpSessionInit (config i)) (calls config mem moves i) := by
  have hkept : Network.Kept (Party config fun _ _ _ => True) (Genuine config fun _ _ _ => True) []
      (start config mem) :=
    ⟨fun i => ⟨Session.kept_rtpSessionInit (mem i) (config i),
      Session.atHome_rtpSessionInit (mem i) (config i),
      Session.unique_rtpSessionInit (mem i) (config i), trivial⟩, by simp [start]⟩
  have hact : ∀ {log : SentLog ι} {i s op}, Party config (fun _ _ _ => True) log i s → Own op →
      Session.selfUnnamed.admits s op ∧ Session.RtcpWithin rtpConfigRtcpEncoderBufferLen op := by
    intro log i s op h hown
    refine ⟨h.unnamed (hown.admits (config i)), ?_⟩
    cases op with
    | tx | tick => trivial
    | rxRtp | rxRtcp => exact hown.elim
  have hhear : ∀ {log : SentLog ι} {i s j d a}, Party config (fun _ _ _ => True) log i s →
      Genuine config (fun _ _ _ => True) log j d → Foreign (config i) d a →
      Session.selfUnnamed.admits s (Datagram.op d a) ∧
        Session.RtcpWithin rtpConfigRtcpEncoderBufferLen (Datagram.op d a) := fun h hgenuine hforeign =>
    ⟨h.unnamed (hgenuine.admits hforeign), hgenuine.rtcpWithin _⟩
  exact ((anyFact_rules config).network hpt).guarded hact hhear hmoves hkept i

/-- In every exchange, whatever its losses, duplicates, delays and reordering, a party's part is a run of its
    session, and as long as its clock of `2 ^ 32` milliseconds does not wrap it tries to report in time: not before
    half the least interval of a beginner and not after the longest, then at least half the least interval and at
    most the longest apart, and if it has not yet done so again the longest interval is not over. -/
theorem parties_report (hbw : 0 < (config i).sessionBw)
    (hticks : ticks (calls config mem moves i) * 100 < 2 ^ 32) :
    parties config mem moves i = runSession (mem i) (config i) (calls config mem moves i) ∧
      (∀ t ∈ (Session.reportAttempts (mem i) (config i) (calls config mem moves i)).head?,
        1.25 / 1.21828 ≤ Session.elapsed t 100 ∧
          Session.elapsed t 100 ≤ Session.longestInterval 32 (config i).sessionBw.toNat 256 + 1 / 10) ∧
      (Session.reportAttempts (mem i) (config i) (calls config mem moves i)).IsChain (fun t t' =>
        Session.elapsed t 100 + 2.5 / 1.21828 ≤ Session.elapsed t' 100 ∧
          Session.elapsed t' 100 ≤ Session.elapsed t 100 +
            (Session.longestInterval 32 (config i).sessionBw.toNat 256 + 1 / 10)) ∧
      Session.elapsed (ticks (calls config mem moves i)) 100 ≤
        Session.elapsed ((Session.reportAttempts (mem i) (config i)
          (calls config mem moves i)).getLast?.getD 0) 100 +
          (Session.longestInterval 32 (config i).sessionBw.toNat 256 + 1 / 10) := by
  have hguarded := calls_guarded hpt hmoves i
  have hunnamed := hguarded.mono fun _ _ hop => hop.1
  have hlen := (hguarded.mono fun _ _ hop => hop.2).forall_mem
  obtain ⟨-, h⟩ := Session.timely_run (mem i) hbw (le_refl _) hunnamed hlen hticks
  obtain ⟨hpaced, -, -⟩ := Session.paceKept_run (mem i) hbw (calls config mem moves i)
  have hshort : Session.leastInterval true = 1.25 / 1.21828 := by norm_num [Session.leastInterval]
  have hlong : Session.leastInterval false = 2.5 / 1.21828 := by norm_num [Session.leastInterval]
  have hnow := Session.paceHistory_clocked.run (calls config mem moves i) ⟨0, []⟩
    ((mem i).rtpSessionInit (config i))
  obtain ⟨n, -, hdue⟩ := h.due
  have hmono := Session.Paced.elapsed_mono (Nat.le_add_right (Session.paceHistory.run ⟨0, []⟩
    ((mem i).rtpSessionInit (config i)) (calls config mem moves i)).now n)
  rw [Nat.zero_add] at hnow
  rw [hnow] at hmono hdue
  refine ⟨parties_eq_runSession mem moves i, fun t ht => ⟨?_, h.first t ht⟩, ?_, hmono.trans hdue⟩
  · rw [← hshort]
    exact hpaced.first t ht
  · rw [List.isChain_iff_forall_rel_of_append_cons_cons]
    intro t t' before after hsplit
    refine ⟨?_, List.isChain_iff_forall_rel_of_append_cons_cons.1 h.spaced hsplit⟩
    rw [← hlong]
    exact List.isChain_iff_forall_rel_of_append_cons_cons.1 hpaced.spaced hsplit

end Runs

theorem parties_report_talk :
    Session.reportAttempts (talkMem false) (talkConfig false)
        (calls talkConfig talkMem talkMoves false) = [11] ∧
      Session.elapsed (ticks (calls talkConfig talkMem talkMoves false)) 100 ≤
        Session.elapsed ((Session.reportAttempts (talkMem false) (talkConfig false)
          (calls talkConfig talkMem talkMoves false)).getLast?.getD 0) 100 +
          (Session.longestInterval 32 (talkConfig false).sessionBw.toNat 256 + 1 / 10) :=
  ⟨by decide +kernel,
    (parties_report (by decide) proper_talk false (by decide) (by decide +kernel)).2.2.2⟩

end Exchange

end Prtp
