import Prtp.GenericList
import Prtp.TimerDeadlines

set_option autoImplicit false

/-! # The timer wheel in memory

`soft_timer.c` and `soft_timer.h` with their pointers. The wheel of `SoftTimer` has lists of elements, and in its
type that no element is on two of them; here every bucket, every element and the local `timeout_list` of
`timer_tick` is a `struct list_head`, and the functions do what the source does to `next` and `prev`. -/

/-- What has a `struct list_head`, and the null pointer. -/
inductive TimerNode (ε : Type) where
  | bucket (b : Fin numBuckets)
  | timeoutList
  | next (e : ε)
  | null
  deriving DecidableEq

/-- `SoftTimer`, with all list heads in memory and the `tick` fields of the elements. -/
structure LinkedTimer (ε : Type) where
  links : Links (TimerNode ε)
  tickRate : Int
  tick : UInt32
  elemTick : ε → UInt32

/-- What can be asked of a wheel. -/
@[ext] structure TimerView (ε : Type) where
  tickRate : Int
  tick : UInt32
  elemTick : ε → UInt32
  running : ε → Bool

namespace SoftTimer

variable {ε : Type} [DecidableEq ε]

def view (timer : SoftTimer ε) : TimerView ε :=
  ⟨timer.tickRate, timer.tick, timer.elemTick, timer.isSoftTimerRunning⟩

/-- A script for callbacks that look at no more than the view. -/
def onView {α : Type} (script : ε → TimerView ε → α → List (Cmd ε) × α) (e : ε) (timer : SoftTimer ε) (mem : α) :
    List (Cmd ε) × α :=
  script e timer.view mem

end SoftTimer

namespace LinkedTimer

open SoftTimer (bucketOf)

variable {ε : Type} [DecidableEq ε]

/-! ## `soft_timer.c` -/

/-- `soft_timer_init` -/
def softTimerInit (timer : LinkedTimer ε) (tickRate : Int) : LinkedTimer ε :=
  { timer with
    tickRate := tickRate
    tick := 0
    links := (List.finRange numBuckets).foldl (fun l b => l.initListHead (.bucket b)) timer.links }

/-- `soft_timer_init_elem` -/
def softTimerInitElem (timer : LinkedTimer ε) (e : ε) : LinkedTimer ε :=
  { timer with links := timer.links.initListHead (.next e) }

/-- `is_soft_timer_running` -/
def isSoftTimerRunning (timer : LinkedTimer ε) (e : ε) : Bool :=
  !(timer.links.next (.next e) = .next e && timer.links.prev (.next e) = .next e)

/-- `get_soft_tick_from_milsec` -/
def getSoftTickFromMilsec (timer : LinkedTimer ε) (milsec : Int) : UInt32 :=
  let tick := UInt32.ofInt (milsec.tdiv timer.tickRate)
  if milsec.tmod timer.tickRate ≠ 0 then tick + 1 else tick

/-- `soft_timer_add` -/
def softTimerAdd (timer : LinkedTimer ε) (e : ε) (expires : Int) : LinkedTimer ε :=
  if timer.isSoftTimerRunning e then timer
  else
    let tick := timer.tick + timer.getSoftTickFromMilsec expires
    { timer with
      links := (timer.links.initListHead (.next e)).listAddTail (.next e) (.bucket (bucketOf tick))
      elemTick := Function.update timer.elemTick e tick }

/-- `soft_timer_del` -/
def softTimerDel (timer : LinkedTimer ε) (e : ε) : LinkedTimer ε :=
  if timer.isSoftTimerRunning e then { timer with links := timer.links.listDelInit (.next e) } else timer

/-- The loop of `timer_tick` over the bucket with head `head`, with `p` and `n` as its two cursors. Without a
    value when the fuel runs out, and when `list_entry` would make an element of something else. -/
def moveDue (head : TimerNode ε) :
    ℕ → TimerNode ε → TimerNode ε → LinkedTimer ε → Option (LinkedTimer ε)
  | 0, _, _, _ => none
  | fuel + 1, p, n, timer =>
      if p = head then some timer
      else
        match p with
        | .next e =>
            let timer :=
              if timer.elemTick e = timer.tick then
                { timer with links := (timer.links.listDel .null p).listAddTail p .timeoutList }
              else timer
            moveDue head fuel n (timer.links.next n) timer
        | _ => none

/-- `timer_tick` up to the callbacks. -/
def expire (fuel : ℕ) (timer : LinkedTimer ε) : Option (LinkedTimer ε) :=
  let timer := { timer with links := timer.links.initListHead .timeoutList, tick := timer.tick + 1 }
  let head : TimerNode ε := .bucket (bucketOf timer.tick)
  moveDue head fuel (timer.links.next head) (timer.links.next (timer.links.next head)) timer

section Drive

variable {σ : Type} (timer : σ → LinkedTimer ε) (setTimer : σ → LinkedTimer ε → σ) (cb : ε → σ → σ)

/-- The second loop of `timer_tick`, over a state that holds a wheel. -/
def fireTimeouts : ℕ → σ → Option σ
  | 0, s => if (timer s).links.listEmpty .timeoutList then some s else none
  | fuel + 1, s =>
      if (timer s).links.listEmpty .timeoutList then some s
      else
        match (timer s).links.next .timeoutList with
        | .next e =>
            fireTimeouts fuel
              (cb e (setTimer s { timer s with links := (timer s).links.listDelInit (.next e) }))
        | _ => none

/-- `soft_timer_drive` -/
def softTimerDrive (fuel : ℕ) (s : σ) : Option σ :=
  ((timer s).expire fuel).bind fun t => fireTimeouts timer setTimer cb fuel (setTimer s t)

end Drive

def view (timer : LinkedTimer ε) : TimerView ε :=
  ⟨timer.tickRate, timer.tick, timer.elemTick, timer.isSoftTimerRunning⟩

end LinkedTimer

/-- A wheel in memory, and what the callbacks look at and change. -/
structure LinkedDriven (ε α : Type) where
  timer : LinkedTimer ε
  mem : α

namespace LinkedDriven

open SoftTimer (Cmd Driven)
open SoftTimer.Driven (Op)

variable {ε α : Type} [DecidableEq ε]

def exec (s : LinkedDriven ε α) : Cmd ε → LinkedDriven ε α
  | .add e expires => { s with timer := s.timer.softTimerAdd e expires }
  | .del e => { s with timer := s.timer.softTimerDel e }

variable (script : ε → TimerView ε → α → List (Cmd ε) × α)

/-- The callback of `e`, which does what `script` says. -/
def callback (e : ε) (s : LinkedDriven ε α) : LinkedDriven ε α :=
  let r := script e s.timer.view s.mem
  r.1.foldl exec { s with mem := r.2 }

def drive (fuel : ℕ) (s : LinkedDriven ε α) : Option (LinkedDriven ε α) :=
  LinkedTimer.softTimerDrive timer (fun s t => { s with timer := t }) (callback script) fuel s

def step (fuel : ℕ) (s : LinkedDriven ε α) : Op ε → Option (LinkedDriven ε α)
  | .cmd c => some (s.exec c)
  | .drive => s.drive script fuel

/-- A wheel after `soft_timer_init`, and elements after `soft_timer_init_elem`. -/
def start (timer : LinkedTimer ε) (tickRate : Int) (elems : List ε) (mem : α) : LinkedDriven ε α :=
  ⟨elems.foldl LinkedTimer.softTimerInitElem (timer.softTimerInit tickRate), mem⟩

end LinkedDriven

/-! ## The rings of a wheel -/

namespace TimerNode

variable {ε : Type}

def bucketRing (b : Fin numBuckets) (ws : List ε) : List (TimerNode ε) := .bucket b :: ws.map .next

def timeoutRing (ws : List ε) : List (TimerNode ε) := .timeoutList :: ws.map .next

/-- Every bucket, the list of the tick if there is one, and every idle element on a ring of its own. -/
def rings (buckets : Fin numBuckets → List ε) (due : Option (List ε)) (idle : List ε) :
    List (List (TimerNode ε)) :=
  (List.finRange numBuckets).map (fun b => bucketRing b (buckets b)) ++
    (due.toList.map timeoutRing ++ idle.map fun e => [.next e])

/-- All rings but that of one bucket. -/
def otherRings (b : Fin numBuckets) (buckets : Fin numBuckets → List ε) (due : Option (List ε)) (idle : List ε) :
    List (List (TimerNode ε)) :=
  ((List.finRange numBuckets).erase b).map (fun b => bucketRing b (buckets b)) ++
    (due.toList.map timeoutRing ++ idle.map fun e => [.next e])

variable {buckets : Fin numBuckets → List ε} {due : Option (List ε)} {idle ws : List ε} {e : ε}

theorem rings_perm_bucket (b : Fin numBuckets) :
    (rings buckets due idle).Perm (bucketRing b (buckets b) :: otherRings b buckets due idle) :=
  ((List.perm_cons_erase (List.mem_finRange b)).map _).append_right _

theorem otherRings_update (b : Fin numBuckets) (ws : List ε) :
    otherRings b (Function.update buckets b ws) due idle = otherRings b buckets due idle := by
  have hkept : ((List.finRange numBuckets).erase b).map (fun c => bucketRing c (Function.update buckets b ws c))
      = ((List.finRange numBuckets).erase b).map fun c => bucketRing c (buckets c) := by
    refine List.map_congr_left fun c hc => ?_
    have hne : c ≠ b := ((List.nodup_finRange _).mem_erase_iff.1 hc).1
    rw [Function.update_of_ne hne]
  rw [otherRings, otherRings, hkept]

theorem rings_perm_update (b : Fin numBuckets) (ws : List ε) :
    (rings (Function.update buckets b ws) due idle).Perm
      (bucketRing b ws :: otherRings b buckets due idle) := by
  have h : (rings (Function.update buckets b ws) due idle).Perm _ := rings_perm_bucket b
  rwa [Function.update_self, otherRings_update] at h

theorem rings_perm_timeout :
    (rings buckets (some ws) idle).Perm (timeoutRing ws :: rings buckets none idle) :=
  List.perm_middle

theorem rings_perm_idle : (rings buckets due (e :: idle)).Perm ([.next e] :: rings buckets due idle) := by
  rw [rings, rings, ← List.append_assoc, ← List.append_assoc]
  exact List.perm_middle

variable [DecidableEq ε] {l : Links (TimerNode ε)}

theorem rings_perm_erase (he : e ∈ idle) :
    (rings buckets due idle).Perm ([.next e] :: rings buckets due (idle.erase e)) :=
  ((((List.perm_cons_erase he).map _).append_left _).append_left _).trans rings_perm_idle

/-- An idle element is put into a bucket. -/
theorem rings_add (hrs : l.Rings (rings buckets due idle)) (he : e ∈ idle) (b : Fin numBuckets) :
    ((l.initListHead (.next e)).listAddTail (.next e) (.bucket b)).Rings
      (rings (Function.update buckets b (buckets b ++ [e])) due (idle.erase e)) := by
  have halone := hrs.perm (rings_perm_erase he)
  have hfresh : TimerNode.next e ∉ (rings buckets due (idle.erase e)).flatten :=
    (Links.rings_cons.1 halone).2.2.1 (List.mem_singleton_self _)
  have hready := (Links.rings_initListHead halone.tail hfresh).perm ((rings_perm_bucket b).cons _)
  exact (Links.rings_enter hready).perm (rings_perm_update b _).symm

/-- An element leaves its bucket. -/
theorem rings_del_bucket {b : Fin numBuckets} (hrs : l.Rings (rings buckets due idle)) (he : e ∈ buckets b) :
    (l.listDelInit (.next e)).Rings
      (rings (Function.update buckets b ((buckets b).erase e)) due (e :: idle)) := by
  have hleft := Links.rings_leave (hrs.perm (rings_perm_bucket b)) he
  exact hleft.perm (((rings_perm_update b _).symm.cons _).trans rings_perm_idle.symm)

/-- An element leaves the list of the tick. -/
theorem rings_del_timeout (hrs : l.Rings (rings buckets (some ws) idle)) (he : e ∈ ws) :
    (l.listDelInit (.next e)).Rings (rings buckets (some (ws.erase e)) (e :: idle)) := by
  have hleft := Links.rings_leave (hrs.perm rings_perm_timeout) he
  exact hleft.perm ((rings_perm_timeout.symm.cons _).trans rings_perm_idle.symm)

/-- An element goes from its bucket to the list of the tick. -/
theorem rings_move {b : Fin numBuckets} (hrs : l.Rings (rings buckets (some ws) idle)) (he : e ∈ buckets b) :
    ((l.listDel .null (.next e)).listAddTail (.next e) .timeoutList).Rings
      (rings (Function.update buckets b ((buckets b).erase e)) (some (ws ++ [e])) idle) := by
  have hopen : (rings buckets (some ws) idle).Perm
      (bucketRing b (buckets b) :: timeoutRing ws :: otherRings b buckets none idle) :=
    rings_perm_timeout.trans (((rings_perm_bucket b).cons _).trans (List.Perm.swap ..))
  have hclose : (rings (Function.update buckets b ((buckets b).erase e)) (some (ws ++ [e])) idle).Perm
      (bucketRing b ((buckets b).erase e) :: timeoutRing (ws ++ [e]) :: otherRings b buckets none idle) :=
    rings_perm_timeout.trans (((rings_perm_update b _).cons _).trans (List.Perm.swap ..))
  exact (Links.rings_pass .null (hrs.perm hopen) he).perm hclose.symm

/-- An element is linked with itself exactly if it is on none of the lists. -/
theorem linked_self_iff (hrs : l.Rings (rings buckets due idle))
    (hall : ((∃ b, e ∈ buckets b) ∨ e ∈ due.getD []) ∨ e ∈ idle) :
    (l.next (.next e) = .next e ∧ l.prev (.next e) = .next e) ↔
      ¬ ((∃ b, e ∈ buckets b) ∨ e ∈ due.getD []) := by
  constructor
  · rintro ⟨hself, -⟩ (⟨b, hb⟩ | hdue)
    · exact (hrs.perm (rings_perm_bucket b)).next_ne (List.mem_map_of_mem hb) hself
    · cases due with
      | none => cases hdue
      | some ws => exact (hrs.perm rings_perm_timeout).next_ne (List.mem_map_of_mem hdue) hself
  · intro hnot
    have halone := hrs.perm (rings_perm_erase (hall.resolve_left hnot))
    exact halone.linked_alone

end TimerNode

namespace LinkedTimer

variable {ε : Type} [DecidableEq ε] {p : LinkedTimer ε} {t : SoftTimer ε} {inTick : Bool} {e : ε}

/-- The links in memory are the lists of the wheel; the list of the tick is there in a tick only. -/
structure Shows (inTick : Bool) (p : LinkedTimer ε) (t : SoftTimer ε) : Prop where
  tickRate : p.tickRate = t.tickRate
  tick : p.tick = t.tick
  elemTick : p.elemTick = t.elemTick
  rings : ∃ idle, p.links.Rings
    (TimerNode.rings t.buckets (if inTick then some t.timeoutList else none) idle) ∧ ∀ e, t.Running e ∨ e ∈ idle
  outside : inTick = false → t.timeoutList = []

omit [DecidableEq ε] in
theorem Shows.getD_timeoutList (h : Shows inTick p t) :
    (if inTick then some t.timeoutList else none).getD [] = t.timeoutList := by
  cases inTick with
  | false => exact (h.outside rfl).symm
  | true => rfl

theorem Shows.isSoftTimerRunning (h : Shows inTick p t) (e : ε) :
    p.isSoftTimerRunning e = t.isSoftTimerRunning e := by
  obtain ⟨idle, hrs, hall⟩ := h.rings
  have hself := TimerNode.linked_self_iff (e := e) hrs
  rw [h.getD_timeoutList] at hself
  rw [LinkedTimer.isSoftTimerRunning, SoftTimer.isSoftTimerRunning, Bool.eq_iff_iff, Bool.not_eq_true',
    ← Bool.not_eq_true, Bool.and_eq_true, decide_eq_true_eq, decide_eq_true_eq, hself (hall e), not_not,
    decide_eq_true_eq]
  exact Iff.rfl

omit [DecidableEq ε] in
theorem Shows.getSoftTickFromMilsec (h : Shows inTick p t) (d : Int) :
    p.getSoftTickFromMilsec d = t.getSoftTickFromMilsec d := by
  rw [LinkedTimer.getSoftTickFromMilsec, SoftTimer.getSoftTickFromMilsec, h.tickRate]

theorem Shows.view (h : Shows inTick p t) : p.view = t.view :=
  TimerView.ext h.tickRate h.tick h.elemTick (funext h.isSoftTimerRunning)

/-! ## Adding and deleting -/

theorem Shows.add (h : Shows inTick p t) (e : ε) (d : Int) :
    Shows inTick (p.softTimerAdd e d) (t.softTimerAdd e d) := by
  have hrunning := h.isSoftTimerRunning e
  by_cases hrun : t.Running e
  · have hp : p.softTimerAdd e d = p := if_pos (hrunning.trans (decide_eq_true hrun))
    rwa [hp, SoftTimer.softTimerAdd_of_running hrun]
  · obtain ⟨idle, hrs, hall⟩ := h.rings
    have hstopped : ¬ p.isSoftTimerRunning e = true := fun hon =>
      hrun (of_decide_eq_true (hrunning.symm.trans hon))
    have hadd := TimerNode.rings_add hrs ((hall e).resolve_left hrun)
      (SoftTimer.bucketOf (t.tick + t.getSoftTickFromMilsec d))
    simp only [LinkedTimer.softTimerAdd, if_neg hstopped, h.getSoftTickFromMilsec, h.tick, h.elemTick]
    refine ⟨?_, ?_, ?_, ⟨idle.erase e, ?_, fun x => ?_⟩, fun hout => ?_⟩
    · rw [SoftTimer.tickRate_add]
      exact h.tickRate
    · rw [SoftTimer.tick_add]
    · rw [SoftTimer.softTimerAdd, dif_neg hrun]
    · rw [SoftTimer.softTimerAdd, dif_neg hrun]
      exact hadd
    · rw [SoftTimer.running_add]
      by_cases hx : x = e
      · exact .inl (.inr hx)
      · exact (hall x).imp .inl fun hmem => (List.mem_erase_of_ne hx).2 hmem
    · rw [SoftTimer.softTimerAdd, dif_neg hrun]
      exact h.outside hout

theorem Shows.del (h : Shows inTick p t) (e : ε) : Shows inTick (p.softTimerDel e) (t.softTimerDel e) := by
  have hrunning := h.isSoftTimerRunning e
  have houtside : inTick = false → (t.softTimerDel e).timeoutList = [] := fun hout => by
    show t.timeoutList.erase e = []
    rw [h.outside hout, List.erase_nil]
  obtain ⟨idle, hrs, hall⟩ := h.rings
  by_cases hrun : t.Running e
  · have hp : p.softTimerDel e = { p with links := p.links.listDelInit (.next e) } :=
      if_pos (hrunning.trans (decide_eq_true hrun))
    have hall' : ∀ x, (t.softTimerDel e).Running x ∨ x ∈ e :: idle := fun x => by
      rw [SoftTimer.running_del, List.mem_cons]
      by_cases hx : x = e
      · exact .inr (.inl hx)
      · exact (hall x).imp (⟨·, hx⟩) .inr
    rw [hp]
    refine ⟨h.tickRate, h.tick, h.elemTick, ⟨e :: idle, ?_, hall'⟩, houtside⟩
    rcases hrun with ⟨b, hb⟩ | hdue
    · -- the element is in one bucket, and on no other list
      have hbuckets : (t.softTimerDel e).buckets = Function.update t.buckets b ((t.buckets b).erase e) := by
        funext c
        by_cases hc : c = b
        · rw [hc, Function.update_self]
          rfl
        · rw [Function.update_of_ne hc]
          refine List.erase_of_not_mem fun hmem => hc (Fin.ext ?_)
          exact (t.placed c e hmem).symm.trans (t.placed b e hb)
      have htimeout : (t.softTimerDel e).timeoutList = t.timeoutList :=
        List.erase_of_not_mem (t.disjoint b e hb)
      rw [hbuckets, htimeout]
      exact TimerNode.rings_del_bucket hrs hb
    · have hbuckets : (t.softTimerDel e).buckets = t.buckets :=
        funext fun b => List.erase_of_not_mem fun hmem => t.disjoint b e hmem hdue
      cases inTick with
      | false =>
          rw [h.outside rfl] at hdue
          cases hdue
      | true =>
          rw [hbuckets]
          exact TimerNode.rings_del_timeout hrs hdue
  · have hp : p.softTimerDel e = p := if_neg fun hon => hrun (of_decide_eq_true (hrunning.symm.trans hon))
    have hsame : t.softTimerDel e = t := by
      refine SoftTimer.ext rfl rfl rfl ?_ ?_
      · exact funext fun b => List.erase_of_not_mem fun hmem => hrun (.inl ⟨b, hmem⟩)
      · exact List.erase_of_not_mem fun hmem => hrun (.inr hmem)
    rwa [hp, hsame]

/-! ## A tick -/

/-- The node of a bucket from which on its elements are these. -/
def nodeAt (b : Fin numBuckets) : List ε → TimerNode ε
  | [] => .bucket b
  | e :: _ => .next e

omit [DecidableEq ε] in
theorem next_bucket {l : Links (TimerNode ε)} {rs : List (List (TimerNode ε))} {b : Fin numBuckets}
    (ws : List ε) (hrs : l.Rings (TimerNode.bucketRing b ws :: rs)) : l.next (.bucket b) = nodeAt b ws := by
  cases ws with
  | nil => exact hrs.next_alone
  | cons e ws => exact hrs.next_head

omit [DecidableEq ε] in
theorem next_element {l : Links (TimerNode ε)} {rs : List (List (TimerNode ε))} {b : Fin numBuckets}
    (us : List ε) (e : ε) (ws : List ε) (hrs : l.Rings (TimerNode.bucketRing b (us ++ e :: ws) :: rs)) :
    l.next (.next e) = nodeAt b ws := by
  have hr := (Links.rings_cons.1 hrs).1
  cases ws with
  | nil =>
      have haround : TimerNode.bucket b :: (us ++ [e]).map .next ++ [.bucket b]
          = (.bucket b :: us.map .next) ++ .next e :: .bucket b :: [] := by simp
      exact (hr.linked haround).1
  | cons w ws =>
      have haround : TimerNode.bucket b :: (us ++ e :: w :: ws).map .next ++ [.bucket b]
          = (.bucket b :: us.map .next) ++ .next e :: .next w :: (ws.map .next ++ [.bucket b]) := by simp
      exact (hr.linked haround).1

/-- The loop moves what is due to the list of the tick and leaves the rest where it is. -/
theorem moveDue_eq {b : Fin numBuckets} (buckets : Fin numBuckets → List ε) (idle : List ε) {fuel : ℕ} :
    ∀ (ws kept due : List ε) (p : LinkedTimer ε),
      p.links.Rings (TimerNode.rings (Function.update buckets b (kept ++ ws)) (some due) idle) →
      ws.length < fuel →
      ∃ links, moveDue (.bucket b) fuel (nodeAt b ws) (p.links.next (nodeAt b ws)) p
          = some { p with links := links } ∧
        links.Rings (TimerNode.rings
          (Function.update buckets b (kept ++ ws.filter fun e => p.elemTick e ≠ p.tick))
          (some (due ++ ws.filter fun e => p.elemTick e = p.tick)) idle) := by
  intro ws
  induction ws generalizing fuel with
  | nil =>
      intro kept due p hrs hfuel
      obtain ⟨fuel, rfl⟩ := Nat.exists_eq_succ_of_ne_zero (Nat.ne_of_gt hfuel)
      exact ⟨p.links, if_pos rfl, by simpa using hrs⟩
  | cons e ws ih =>
      intro kept due p hrs hfuel
      obtain ⟨fuel, rfl⟩ := Nat.exists_eq_succ_of_ne_zero (Nat.ne_of_gt (Nat.zero_lt_of_lt hfuel))
      have hbucket := hrs.perm (TimerNode.rings_perm_update b _)
      have hnext : p.links.next (.next e) = nodeAt b ws := next_element kept e ws hbucket
      have hkept : e ∉ kept := fun hmem =>
        (List.nodup_cons.1 (List.nodup_middle.1 (Links.nodup_of_rings hbucket))).1
          (List.mem_append_left ws hmem)
      have hne : (TimerNode.next e) ≠ .bucket b := by simp
      simp only [nodeAt, moveDue, if_neg hne, hnext]
      by_cases hdue : p.elemTick e = p.tick
      · have hmoved := TimerNode.rings_move hrs (b := b) (e := e) (by simp)
        rw [Function.update_self, Function.update_idem, List.erase_append_right _ hkept,
          List.erase_cons_head] at hmoved
        obtain ⟨links, hrun, hrings⟩ := ih kept (due ++ [e])
          { p with links := (p.links.listDel .null (.next e)).listAddTail (.next e) .timeoutList } hmoved
          (Nat.lt_of_succ_lt_succ hfuel)
        refine ⟨links, ?_, ?_⟩
        · rw [if_pos hdue]
          exact hrun
        · rw [List.filter_cons_of_neg (by simpa using hdue), List.filter_cons_of_pos (by simpa using hdue),
            List.append_cons due]
          exact hrings
      · rw [List.append_cons kept] at hrs
        obtain ⟨links, hrun, hrings⟩ := ih (kept ++ [e]) due p hrs (Nat.lt_of_succ_lt_succ hfuel)
        refine ⟨links, ?_, ?_⟩
        · rw [if_neg hdue]
          exact hrun
        · rw [List.filter_cons_of_pos (by simpa using hdue), List.filter_cons_of_neg (by simpa using hdue),
            List.append_cons kept]
          exact hrings

omit [DecidableEq ε] in
theorem length_le_of_nodup {elems ws : List ε} (hall : ∀ e, e ∈ elems) (hws : ws.Nodup) :
    ws.length ≤ elems.length :=
  (List.subperm_of_subset hws fun e _ => hall e).length_le

theorem Shows.expire (h : Shows false p t) {fuel : ℕ} (hfuel : ∀ b, (t.buckets b).length < fuel) :
    ∃ p', p.expire fuel = some p' ∧ Shows true p' t.expire := by
  obtain ⟨idle, hrs, hall⟩ := h.rings
  have hfresh : TimerNode.timeoutList ∉ (TimerNode.rings t.buckets none idle).flatten := by
    simp [TimerNode.rings, TimerNode.bucketRing]
  have hperm : (TimerNode.rings t.buckets (some []) idle).Perm
      ([.timeoutList] :: TimerNode.rings t.buckets none idle) := TimerNode.rings_perm_timeout
  have hready := (Links.rings_initListHead hrs hfresh).perm hperm.symm
  generalize hb : SoftTimer.bucketOf (t.tick + 1) = b
  have hfirst : (p.links.initListHead .timeoutList).next (.bucket b) = nodeAt b (t.buckets b) :=
    next_bucket _ (hready.perm (TimerNode.rings_perm_bucket b))
  obtain ⟨links, hrun, hrings⟩ := moveDue_eq (b := b) t.buckets idle (t.buckets b) [] []
    { p with links := p.links.initListHead .timeoutList, tick := p.tick + 1 }
    (by rwa [List.nil_append, Function.update_eq_self]) (hfuel b)
  refine ⟨{ p with links := links, tick := p.tick + 1 }, ?_, h.tickRate, congrArg (· + 1) h.tick, h.elemTick,
    ⟨idle, ?_, fun e => ?_⟩, fun hout => ?_⟩
  · rw [← hrun, LinkedTimer.expire]
    simp only [h.tick, hb, hfirst]
  · simp only [h.elemTick, h.tick, List.nil_append] at hrings
    simp only [SoftTimer.expire, hb, h.outside rfl, List.nil_append]
    exact hrings
  · exact (hall e).imp_left (SoftTimer.running_expire t e).2
  · exact absurd hout (by simp)

theorem Shows.listEmpty (h : Shows true p t) : p.links.listEmpty .timeoutList = true ↔ t.timeoutList = [] := by
  obtain ⟨idle, hrs, -⟩ := h.rings
  rw [Links.listEmpty_eq (hrs.perm TimerNode.rings_perm_timeout), List.map_eq_nil_iff]

omit [DecidableEq ε] in
theorem Shows.next_timeoutList (h : Shows true p t) {rest : List ε} (htop : t.timeoutList = e :: rest) :
    p.links.next .timeoutList = .next e := by
  obtain ⟨idle, hrs, -⟩ := h.rings
  have hring := hrs.perm TimerNode.rings_perm_timeout
  rw [htop] at hring
  exact hring.next_head

/-- The first of the list of the tick is taken off it. -/
theorem Shows.pop (h : Shows true p t) {rest : List ε} (htop : t.timeoutList = e :: rest) :
    Shows true { p with links := p.links.listDelInit (.next e) } t.popTimeout := by
  obtain ⟨idle, hrs, hall⟩ := h.rings
  refine ⟨h.tickRate, h.tick, h.elemTick, ⟨e :: idle, ?_, fun x => ?_⟩, fun hout => absurd hout (by simp)⟩
  · have hleft := TimerNode.rings_del_timeout (e := e) hrs (by simp [htop])
    rw [htop, List.erase_cons_head] at hleft
    show Links.Rings _ (TimerNode.rings t.buckets (some t.timeoutList.tail) (e :: idle))
    rwa [htop, List.tail_cons]
  · rw [SoftTimer.running_popTimeout htop, List.mem_cons]
    by_cases hx : x = e
    · exact .inr (.inl hx)
    · exact (hall x).imp (⟨·, hx⟩) .inr

omit [DecidableEq ε] in
/-- After the callbacks the list of the tick is gone. -/
theorem Shows.finish (h : Shows true p t) (hempty : t.timeoutList = []) : Shows false p t := by
  obtain ⟨idle, hrs, hall⟩ := h.rings
  have hgone := (hrs.perm TimerNode.rings_perm_timeout).tail
  exact ⟨h.tickRate, h.tick, h.elemTick, ⟨idle, hgone, hall⟩, fun _ => hempty⟩

/-! ## Callbacks -/

section Drive

variable {σ τ : Type}

/-- A state with a wheel in memory does what one with the wheel as lists does, as far as `R` tells them apart. -/
structure Follows (timer : σ → LinkedTimer ε) (setTimer : σ → LinkedTimer ε → σ) (cb : ε → σ → σ)
    (timer' : τ → SoftTimer ε) (setTimer' : τ → SoftTimer ε → τ) (cb' : ε → τ → τ) (R : σ → τ → Prop) : Prop where
  get : ∀ s p, timer (setTimer s p) = p
  get' : ∀ t p, timer' (setTimer' t p) = p
  set : ∀ {s t} p q, R s t → R (setTimer s p) (setTimer' t q)
  callback : ∀ e {s t}, (timer s).Shows true (timer' t) → R s t →
    (timer (cb e s)).Shows true (timer' (cb' e t)) ∧ R (cb e s) (cb' e t)
  shorter : ∀ e t, (timer' (cb' e t)).timeoutList.length ≤ (timer' t).timeoutList.length

variable {timer : σ → LinkedTimer ε} {setTimer : σ → LinkedTimer ε → σ} {cb : ε → σ → σ} {timer' : τ → SoftTimer ε}
  {setTimer' : τ → SoftTimer ε → τ} {cb' : ε → τ → τ} {R : σ → τ → Prop} {s : σ} {u : τ}

theorem fireTimeouts_of_empty (h : (timer s).links.listEmpty .timeoutList = true) (fuel : ℕ) :
    fireTimeouts timer setTimer cb fuel s = some s := by
  cases fuel with
  | zero => exact if_pos h
  | succ fuel => exact if_pos h

/-- The loop over the list of the tick, which no callback makes longer. -/
theorem Follows.fireTimeouts (hf : Follows timer setTimer cb timer' setTimer' cb' R) {n : ℕ}
    (h : (timer s).Shows true (timer' u)) (hR : R s u) (hlen : (timer' u).timeoutList.length ≤ n) {fuel : ℕ}
    (hfuel : n ≤ fuel) :
    ∃ s', LinkedTimer.fireTimeouts timer setTimer cb fuel s = some s' ∧
      (timer s').Shows false (timer' (SoftTimer.fireTimeouts timer' setTimer' cb' n u)) ∧
      R s' (SoftTimer.fireTimeouts timer' setTimer' cb' n u) := by
  induction n generalizing fuel s u with
  | zero =>
      have hnil := List.eq_nil_of_length_eq_zero (Nat.le_zero.1 hlen)
      exact ⟨s, fireTimeouts_of_empty (h.listEmpty.2 hnil) fuel, h.finish hnil, hR⟩
  | succ n ih =>
      obtain ⟨fuel, rfl⟩ := Nat.exists_eq_succ_of_ne_zero (Nat.ne_of_gt (Nat.lt_of_lt_of_le n.succ_pos hfuel))
      cases htop : (timer' u).timeoutList with
      | nil =>
          simp only [SoftTimer.fireTimeouts, htop]
          exact ⟨s, fireTimeouts_of_empty (h.listEmpty.2 htop) _, h.finish htop, hR⟩
      | cons e rest =>
          have hfull : ¬ (timer s).links.listEmpty .timeoutList = true := fun hempty => by
            rw [h.listEmpty, htop] at hempty
            cases hempty
          have hpopped : (timer (setTimer s { timer s with links := (timer s).links.listDelInit (.next e) })).Shows
              true (timer' (setTimer' u (timer' u).popTimeout)) := by
            rw [hf.get, hf.get']
            exact h.pop htop
          have hlength : (timer' (setTimer' u (timer' u).popTimeout)).timeoutList.length ≤ n := by
            rw [hf.get', SoftTimer.timeoutList_popTimeout, List.length_tail]
            exact Nat.sub_le_of_le_add hlen
          obtain ⟨hcalled, hRcalled⟩ := hf.callback e hpopped (hf.set _ _ hR)
          obtain ⟨s', hrun, hshows, hRend⟩ := ih hcalled hRcalled ((hf.shorter e _).trans hlength)
            (Nat.le_of_succ_le_succ hfuel)
          refine ⟨s', ?_, ?_⟩
          · rw [LinkedTimer.fireTimeouts, if_neg hfull, h.next_timeoutList htop]
            exact hrun
          · simp only [SoftTimer.fireTimeouts, htop]
            exact ⟨hshows, hRend⟩

/-- The simulation rule for a drive of the wheel. -/
theorem Follows.softTimerDrive (hf : Follows timer setTimer cb timer' setTimer' cb' R) {elems : List ε}
    (hall : ∀ e, e ∈ elems) {fuel : ℕ} (hfuel : elems.length < fuel) (h : (timer s).Shows false (timer' u))
    (hR : R s u) :
    ∃ s', LinkedTimer.softTimerDrive timer setTimer cb fuel s = some s' ∧
      (timer s').Shows false (timer' (SoftTimer.softTimerDrive timer' setTimer' cb' u)) ∧
      R s' (SoftTimer.softTimerDrive timer' setTimer' cb' u) := by
  obtain ⟨p, hexpire, hexpired⟩ := h.expire fun b =>
    Nat.lt_of_le_of_lt (length_le_of_nodup hall ((timer' u).bucketsNodup b)) hfuel
  have hlength := length_le_of_nodup hall (timer' (setTimer' u (timer' u).expire)).timeoutNodup
  rw [← hf.get s p, ← hf.get' u (timer' u).expire] at hexpired
  obtain ⟨s', hrun, hend⟩ := hf.fireTimeouts hexpired (hf.set _ _ hR) (Nat.le_refl _)
    (hlength.trans (Nat.le_of_lt hfuel))
  refine ⟨s', ?_, hend⟩
  rw [LinkedTimer.softTimerDrive, hexpire]
  exact hrun

end Drive

/-! ## At the start -/

omit [DecidableEq ε] in
theorem emptied_placed (p : LinkedTimer ε) (b : Fin numBuckets) (e : ε) (h : e ∈ ([] : List ε)) :
    (p.elemTick e).toNat % numBuckets = b :=
  absurd h List.not_mem_nil

theorem emptied_bucketsNodup (ε : Type) (_ : Fin numBuckets) : ([] : List ε).Nodup := List.nodup_nil

theorem emptied_disjoint (ε : Type) (_ : Fin numBuckets) (e : ε) (h : e ∈ ([] : List ε)) : e ∉ ([] : List ε) :=
  absurd h List.not_mem_nil

/-- A wheel without elements, with what else is in the memory of `p`. -/
def emptied (p : LinkedTimer ε) : SoftTimer ε :=
  ⟨p.tickRate, p.tick, p.elemTick, fun _ => [], [], p.emptied_placed, emptied_bucketsNodup ε, List.nodup_nil,
    emptied_disjoint ε⟩

theorem foldl_softTimerInitElem (elems : List ε) (p : LinkedTimer ε) :
    elems.foldl softTimerInitElem p = { p with links := (elems.map .next).foldl Links.initListHead p.links } := by
  induction elems generalizing p with
  | nil => rfl
  | cons e elems ih => exact ih _

/-- Whatever was in memory, the wheel and its elements are well linked once they are set up. -/
theorem shows_start (p : LinkedTimer ε) (r : Int) {elems : List ε} (hnodup : elems.Nodup) (hall : ∀ e, e ∈ elems) :
    Shows false (elems.foldl softTimerInitElem (p.softTimerInit r)) (p.emptied.softTimerInit r) := by
  have hheads : (p.softTimerInit r).links
      = ((List.finRange numBuckets).map .bucket).foldl Links.initListHead p.links := by
    rw [List.foldl_map]
    rfl
  have hbuckets : (p.softTimerInit r).links.Rings
      (((List.finRange numBuckets).map TimerNode.bucket).map (fun n => [n]) ++ []) := by
    rw [hheads]
    exact Links.rings_initListHeads _ Links.rings_nil ((List.nodup_finRange _).map fun _ _ => TimerNode.bucket.inj)
      (by simp)
  have hapart : (elems.map TimerNode.next).Disjoint
      (((List.finRange numBuckets).map TimerNode.bucket).map (fun n => [n]) ++ []).flatten := by
    simp [List.disjoint_left]
  have helems := Links.rings_initListHeads _ hbuckets (hnodup.map fun _ _ => TimerNode.next.inj) hapart
  rw [foldl_softTimerInitElem]
  refine ⟨rfl, rfl, rfl, ⟨elems, helems.perm ?_, fun e => .inr (hall e)⟩, fun _ => rfl⟩
  rw [List.append_nil, List.map_map, List.map_map]
  exact List.perm_append_comm

end LinkedTimer

/-! ## Runs -/

namespace LinkedDriven

open SoftTimer (Cmd Driven onView)
open SoftTimer.Driven (Op)

variable {ε α : Type} [DecidableEq ε] (script : ε → TimerView ε → α → List (Cmd ε) × α) {inTick : Bool}
  {s : LinkedDriven ε α} {t : Driven ε α}

structure Shows (inTick : Bool) (s : LinkedDriven ε α) (t : Driven ε α) : Prop where
  timer : s.timer.Shows inTick t.timer
  mem : s.mem = t.mem

theorem Shows.exec (h : Shows inTick s t) (c : Cmd ε) : Shows inTick (s.exec c) (t.exec c) := by
  cases c with
  | add e d =>
      have htimer : (t.exec (.add e d)).timer = t.timer.softTimerAdd e d := by
        simp only [Driven.exec]
        split <;> rfl
      have hmem : (t.exec (.add e d)).mem = t.mem := by
        simp only [Driven.exec]
        split <;> rfl
      exact ⟨htimer ▸ h.timer.add e d, h.mem.trans hmem.symm⟩
  | del e =>
      have htimer : (t.exec (.del e)).timer = t.timer.softTimerDel e := by
        simp only [Driven.exec]
        split <;> rfl
      have hmem : (t.exec (.del e)).mem = t.mem := by
        simp only [Driven.exec]
        split <;> rfl
      exact ⟨htimer ▸ h.timer.del e, h.mem.trans hmem.symm⟩

theorem Shows.execs (h : Shows inTick s t) (cs : List (Cmd ε)) :
    Shows inTick (cs.foldl LinkedDriven.exec s) (Runs.run Driven.exec t cs) := by
  induction cs generalizing s t with
  | nil => exact h
  | cons c cs ih => exact ih (h.exec c)

theorem Shows.callback (h : Shows inTick s t) (e : ε) :
    Shows inTick (callback script e s) (Driven.callback (onView script) e t) := by
  have hscript : script e s.timer.view s.mem = onView script e t.timer t.mem := by
    rw [h.timer.view, h.mem]
    rfl
  have hready : Shows inTick { s with mem := (onView script e t.timer t.mem).2 }
      (Driven.note { t with mem := (onView script e t.timer t.mem).2 } (.ring e)) := ⟨h.timer, rfl⟩
  simp only [LinkedDriven.callback, Driven.callback, hscript]
  exact hready.execs _

theorem follows_callback :
    LinkedTimer.Follows LinkedDriven.timer (fun s t => { s with timer := t }) (callback script) Driven.timer
      Driven.setTimer (Driven.callback (onView script)) fun (s : LinkedDriven ε α) t => s.mem = t.mem where
  get _ _ := rfl
  get' _ _ := rfl
  set _ _ hmem := hmem
  callback e _ _ h hmem :=
    have hshows := Shows.callback script ⟨h, hmem⟩ e
    ⟨hshows.timer, hshows.mem⟩
  shorter := Driven.timeoutList_callback_length (onView script)

theorem Shows.step {fuel : ℕ} {elems : List ε} (hall : ∀ e, e ∈ elems) (hfuel : elems.length < fuel)
    (h : Shows false s t) (op : Op ε) :
    ∃ s', LinkedDriven.step script fuel s op = some s' ∧ Shows false s' (t.step (onView script) op) := by
  cases op with
  | cmd c => exact ⟨_, rfl, h.exec c⟩
  | drive =>
      have hstart : s.timer.Shows false { t with now := t.now + 1 }.timer := h.timer
      obtain ⟨s', hrun, htimer, hmem⟩ := (follows_callback script).softTimerDrive hall hfuel hstart h.mem
      exact ⟨s', hrun, htimer, hmem⟩

/-- Whatever was in memory, and whatever the program and the callbacks add and delete: every call returns, the
    callbacks see and do what they do with the lists of `SoftTimer`, and at the end the buckets in memory are these
    lists. The two pointers that `is_soft_timer_running` looks at tell whether the element is to fire. -/
theorem linked_runs {r : Int} (hr : 1 ≤ r) (p : LinkedTimer ε) {elems : List ε} (hnodup : elems.Nodup)
    (hall : ∀ e, e ∈ elems) {fuel : ℕ} (hfuel : elems.length < fuel)
    (script : ε → TimerView ε → α → List (Cmd ε) × α) (mem : α) (ops : List (Op ε)) :
    ∃ s, ops.foldlM (step script fuel) (start p r elems mem) = some s ∧
      let t := Runs.run (Driven.step (onView script)) (Driven.start p.emptied r mem) ops
      s.mem = t.mem ∧ s.timer.view = t.timer.view ∧
        (∀ b, s.timer.links.listForEachEntry (.bucket b) fuel (s.timer.links.next (.bucket b)) =
          some ((t.timer.buckets b).map .next)) ∧
        ∀ e, s.timer.isSoftTimerRunning e = true ↔ (Alarms.pending t.log e).isSome := by
  have hstart : Shows false (start p r elems mem) (Driven.start p.emptied r mem) :=
    ⟨LinkedTimer.shows_start p r hnodup hall, rfl⟩
  have hstep : ∀ (s : LinkedDriven ε α) t op, Shows false s t →
      ∃ s', step script fuel s op = some s' ∧ Shows false s' (t.step (onView script) op) :=
    fun s t op h => h.step script hall hfuel op
  obtain ⟨s, hrun, htimer, hmem⟩ := Runs.foldlM_refines hstep hstart ops
  obtain ⟨htracked, -⟩ := Driven.settled_run hr p.emptied (onView script) mem ops
  refine ⟨s, hrun, hmem, htimer.view, fun b => ?_, fun e => ?_⟩
  · obtain ⟨idle, hrings, -⟩ := htimer.rings
    refine Links.listForEachEntry_eq (hrings.perm (TimerNode.rings_perm_bucket b)) ?_
    rw [List.length_map]
    exact Nat.lt_of_le_of_lt (LinkedTimer.length_le_of_nodup hall (SoftTimer.bucketsNodup _ b)) hfuel
  · rw [htimer.isSoftTimerRunning, SoftTimer.isSoftTimerRunning, decide_eq_true_eq, htracked.due,
      Option.isSome_map, Option.isSome_iff_ne_none, ne_eq, SoftTimer.remaining_eq_none, not_not]

/-- A memory in which nothing is linked yet. -/
def unlinked : LinkedTimer Bool := ⟨⟨fun _ => .null, fun _ => .null⟩, 0, 0, fun _ => 0⟩

theorem milsec_160 : (1 : Int) ≤ 160 ∧ (160 : Int) < 2 ^ 31 := by decide

/-- Two elements due at the same tick: the first, when it fires, deletes the second, which is on the list of the
    tick, and adds itself again. -/
def overtaking (second : Bool) (timer : TimerView Bool) (fired : List (Bool × Bool)) :
    List (Cmd Bool) × List (Bool × Bool) :=
  (if second then [] else [.del true, .add false ⟨160, milsec_160⟩], fired ++ [(second, timer.running true)])

theorem linked_runs_overtaking :
    ∃ s, [Op.cmd (.add false ⟨100, by decide⟩), .cmd (.add true ⟨1, by decide⟩), .drive, .drive, .drive].foldlM
      (step overtaking 3) (start unlinked 100 [false, true] []) = some s ∧
      s.mem = [(false, true), (false, false)] := by
  obtain ⟨s, hrun, hmem, -⟩ := linked_runs (show (1 : Int) ≤ 100 by decide) unlinked
    (show [false, true].Nodup by decide) (by decide) (show 2 < 3 by decide) overtaking []
    [.cmd (.add false ⟨100, by decide⟩), .cmd (.add true ⟨1, by decide⟩), .drive, .drive, .drive]
  exact ⟨s, hrun, hmem.trans (by decide +kernel)⟩

end LinkedDriven
