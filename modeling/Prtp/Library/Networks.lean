import Prtp.Library.Runs
import Mathlib.Data.List.Basic
import Mathlib.Logic.Function.Basic

set_option autoImplicit false

/-! # Networks of one machine

Several parties run the same machine, each in a state of its own, and post messages to each other. What
has been posted is never taken back: a delivery picks any of it, so a message may get lost, arrive twice,
or be overtaken by later ones. Two rules carry results about one machine over to such a network:

* `party_run`: each party goes through a run of the machine, whatever the others do;
* `Rules.run`: if what is posted is always *genuine* and hearing what is genuine keeps a party in order,
  then in every run every party is in order and every posted message is genuine. Both notions may refer
  to a history of the whole network, and have to survive its growing. -/

/-- A machine that posts messages: `hear` is the operation an arriving message is at the receiver, where
    `β` is what the network adds on the way. -/
structure Machine (σ κ μ β : Type) where
  step : σ → κ → σ
  posts : σ → κ → List μ
  hear : μ → β → κ

/-- The states of the parties, and everything that has ever been posted, with who posted it. -/
structure Network (ι σ μ : Type) where
  party : ι → σ
  posted : List (ι × μ)

namespace Network

variable {ι σ κ μ β γ : Type}

/-- A party does something of its own, or one of the messages posted so far reaches it. -/
inductive Move (ι κ β : Type)
  | act (i : ι) (op : κ)
  | deliver (i : ι) (k : ℕ) (b : β)

/-- The operation a move comes to, and the party that performs it. -/
def call (m : Machine σ κ μ β) (net : Network ι σ μ) : Move ι κ β → Option (ι × κ)
  | .act i op => some (i, op)
  | .deliver i k b => net.posted[k]?.map fun d => (i, m.hear d.2 b)

variable [DecidableEq ι]

/-- One operation of one party. -/
def perform (m : Machine σ κ μ β) (net : Network ι σ μ) (i : ι) (op : κ) : Network ι σ μ where
  party := Function.update net.party i (m.step (net.party i) op)
  posted := net.posted ++ (m.posts (net.party i) op).map (Prod.mk i)

/-- One move: nothing happens if the message it delivers has not been posted. -/
def step (m : Machine σ κ μ β) (net : Network ι σ μ) (move : Move ι κ β) : Network ι σ μ :=
  match net.call m move with
  | none => net
  | some c => net.perform m c.1 c.2

/-- What a move adds to a history of operations. -/
def note (m : Machine σ κ μ β) (noteOp : γ → ι → σ → κ → γ) (g : γ) (net : Network ι σ μ)
    (move : Move ι κ β) : γ :=
  match net.call m move with
  | none => g
  | some c => noteOp g c.1 (net.party c.1) c.2

/-! ## One party's run -/

/-- The operations party `i` performs in the course of some moves. -/
def calls (m : Machine σ κ μ β) (i : ι) : Network ι σ μ → List (Move ι κ β) → List κ
  | _, [] => []
  | net, move :: moves =>
      match net.call m move with
      | none => calls m i net moves
      | some c =>
          if c.1 = i then c.2 :: calls m i (net.perform m c.1 c.2) moves
          else calls m i (net.perform m c.1 c.2) moves

theorem party_perform_self (m : Machine σ κ μ β) (net : Network ι σ μ) (i : ι) (op : κ) :
    (net.perform m i op).party i = m.step (net.party i) op :=
  Function.update_self ..

theorem party_perform_of_ne (m : Machine σ κ μ β) (net : Network ι σ μ) {i j : ι} (h : i ≠ j)
    (op : κ) : (net.perform m i op).party j = net.party j :=
  Function.update_of_ne h.symm ..

/-- A party's state after a run is the state its machine reaches by the operations it performed. -/
theorem party_run (m : Machine σ κ μ β) (i : ι) (net : Network ι σ μ) (moves : List (Move ι κ β)) :
    (Runs.run (step m) net moves).party i = Runs.run m.step (net.party i) (calls m i net moves) := by
  induction moves generalizing net with
  | nil => rfl
  | cons move moves ih =>
      rw [Runs.run_cons, ih, calls, step]
      cases hcall : net.call m move with
      | none => rfl
      | some c =>
          obtain ⟨j, op⟩ := c
          by_cases hj : j = i
          · subst hj
            simp only [if_true, Runs.run_cons, party_perform_self]
          · simp only [hj, if_false, party_perform_of_ne m net hj]

/-- A party's run is guarded if every operation it performs meets the guard. -/
theorem guarded_calls {m : Machine σ κ μ β} {G : ι → σ → κ → Prop} {net : Network ι σ μ}
    {moves : List (Move ι κ β)}
    (h : Runs.Guarded (step m)
      (fun net move => ∀ i op, net.call m move = some (i, op) → G i (net.party i) op) net moves)
    (i : ι) : Runs.Guarded m.step (G i) (net.party i) (calls m i net moves) := by
  induction moves generalizing net with
  | nil => trivial
  | cons move moves ih =>
      obtain ⟨hmove, hrest⟩ := h
      have htail := ih hrest
      rw [step] at htail
      rw [calls]
      cases hcall : net.call m move with
      | none =>
          rw [hcall] at htail
          exact htail
      | some c =>
          obtain ⟨j, op⟩ := c
          rw [hcall] at htail
          by_cases hj : j = i
          · subst hj
            simp only [party_perform_self] at htail
            simp only [if_true]
            exact ⟨hmove j op hcall, htail⟩
          · simp only [party_perform_of_ne m net hj] at htail
            simp only [hj, if_false]
            exact htail

/-! ## Genuine messages -/

/-- Every party is in order and every message that has been posted is genuine. -/
structure Kept (Local : γ → ι → σ → Prop) (Genuine : γ → ι → μ → Prop) (g : γ)
    (net : Network ι σ μ) : Prop where
  parties : ∀ i, Local g i (net.party i)
  posted : ∀ d ∈ net.posted, Genuine g d.1 d.2

/-- What the parties do of their own accord meets `Own`, and what reaches them arrives as `Arrives`
    says. -/
def Moves (Own : ι → σ → κ → Prop) (Arrives : ι → σ → ι → μ → β → Prop) (net : Network ι σ μ) :
    Move ι κ β → Prop
  | .act i op => Own i (net.party i) op
  | .deliver i k b => ∀ d ∈ net.posted[k]?, Arrives i (net.party i) d.1 d.2 b

instance {Own : ι → σ → κ → Prop} {Arrives : ι → σ → ι → μ → β → Prop}
    [∀ i s op, Decidable (Own i s op)] [∀ i s j d b, Decidable (Arrives i s j d b)]
    (net : Network ι σ μ) : (move : Move ι κ β) → Decidable (Moves Own Arrives net move)
  | .act i op => inferInstanceAs (Decidable (Own i (net.party i) op))
  | .deliver _ _ _ => inferInstanceAs (Decidable (∀ d ∈ _, _))

/-- What one operation has to keep: of the party that performs it, and of what it posts. -/
structure Rules (m : Machine σ κ μ β) (noteOp : γ → ι → σ → κ → γ) (Own : ι → σ → κ → Prop)
    (Arrives : ι → σ → ι → μ → β → Prop) (Local : γ → ι → σ → Prop) (Genuine : γ → ι → μ → Prop) :
    Prop where
  localLasts : ∀ {g i s op j t}, Local g j t → Local (noteOp g i s op) j t
  genuineLasts : ∀ {g i s op j d}, Genuine g j d → Genuine (noteOp g i s op) j d
  act : ∀ {g i s op}, Local g i s → Own i s op → Local (noteOp g i s op) i (m.step s op)
  hear : ∀ {g i s j d b}, Local g i s → Genuine g j d → Arrives i s j d b →
    Local (noteOp g i s (m.hear d b)) i (m.step s (m.hear d b))
  actPosts : ∀ {g i s op}, Local g i s → Own i s op →
    ∀ d ∈ m.posts s op, Genuine (noteOp g i s op) i d
  hearPosts : ∀ {g i s j d b}, Local g i s → Genuine g j d → Arrives i s j d b →
    ∀ d' ∈ m.posts s (m.hear d b), Genuine (noteOp g i s (m.hear d b)) i d'

namespace Rules

variable {m : Machine σ κ μ β} {noteOp : γ → ι → σ → κ → γ} {Own : ι → σ → κ → Prop}
  {Arrives : ι → σ → ι → μ → β → Prop} {Local : γ → ι → σ → Prop} {Genuine : γ → ι → μ → Prop}

theorem perform (hr : Rules m noteOp Own Arrives Local Genuine) {g : γ} {net : Network ι σ μ}
    (h : Kept Local Genuine g net) {i : ι} {op : κ}
    (hlocal : Local (noteOp g i (net.party i) op) i (m.step (net.party i) op))
    (hposts : ∀ d ∈ m.posts (net.party i) op, Genuine (noteOp g i (net.party i) op) i d) :
    Kept Local Genuine (noteOp g i (net.party i) op) (net.perform m i op) := by
  refine ⟨fun j => ?_, fun d hd => ?_⟩
  · by_cases hj : i = j
    · subst hj
      rw [party_perform_self]
      exact hlocal
    · rw [party_perform_of_ne m net hj]
      exact hr.localLasts (h.parties j)
  · rcases List.mem_append.1 hd with hold | hnew
    · exact hr.genuineLasts (h.posted d hold)
    · obtain ⟨d', hd', rfl⟩ := List.mem_map.1 hnew
      exact hposts d' hd'

/-- One move keeps everything. -/
theorem step (hr : Rules m noteOp Own Arrives Local Genuine) {g : γ} {net : Network ι σ μ}
    (h : Kept Local Genuine g net) {move : Move ι κ β} (hmove : Moves Own Arrives net move) :
    Kept Local Genuine (net.note m noteOp g move) (net.step m move) := by
  cases move with
  | act i op => exact hr.perform h (hr.act (h.parties i) hmove) (hr.actPosts (h.parties i) hmove)
  | deliver i k b =>
      rw [note, Network.step, call]
      cases hd : net.posted[k]? with
      | none => exact h
      | some d =>
          have hgenuine := h.posted d (List.mem_of_getElem? hd)
          have harrives := hmove d hd
          exact hr.perform h (hr.hear (h.parties i) hgenuine harrives)
            (hr.hearPosts (h.parties i) hgenuine harrives)

/-- A run of such moves keeps everything. -/
theorem run (hr : Rules m noteOp Own Arrives Local Genuine) {g : γ} {net : Network ι σ μ}
    {moves : List (Move ι κ β)}
    (hrun : Runs.Guarded (Network.step m) (Moves Own Arrives) net moves)
    (h : Kept Local Genuine g net) :
    Kept Local Genuine (Runs.history (Network.step m) (Network.note m noteOp) g net moves)
      (Runs.run (Network.step m) net moves) := by
  have hstep : ∀ g net move, Kept Local Genuine g net → Moves Own Arrives net move →
      Kept Local Genuine (Network.note m noteOp g net move) (Network.step m net move) :=
    fun _ _ _ hkept hmove => hr.step hkept hmove
  exact hrun.history hstep h

/-- In such a run every party's own run meets any guard that what is in order and genuine does. -/
theorem guarded (hr : Rules m noteOp Own Arrives Local Genuine) {G : ι → σ → κ → Prop}
    (hact : ∀ {g i s op}, Local g i s → Own i s op → G i s op)
    (hhear : ∀ {g i s j d b}, Local g i s → Genuine g j d → Arrives i s j d b → G i s (m.hear d b))
    {g : γ} {net : Network ι σ μ} {moves : List (Move ι κ β)}
    (hrun : Runs.Guarded (Network.step m) (Moves Own Arrives) net moves)
    (h : Kept Local Genuine g net) (i : ι) :
    Runs.Guarded m.step (G i) (net.party i) (calls m i net moves) := by
  refine guarded_calls ?_ i
  refine hrun.of_invariant (P := fun net => ∃ g, Kept Local Genuine g net) ?_ ⟨g, h⟩
  rintro net move ⟨g, hkept⟩ hmove
  refine ⟨fun i op hcall => ?_, _, hr.step hkept hmove⟩
  cases move with
  | act j op' =>
      obtain ⟨rfl, rfl⟩ := Prod.mk.inj (Option.some.inj hcall)
      exact hact (hkept.parties _) hmove
  | deliver j k b =>
      rw [call] at hcall
      cases hd : net.posted[k]? with
      | none =>
          rw [hd] at hcall
          exact absurd hcall (by simp)
      | some d =>
          rw [hd] at hcall
          obtain ⟨rfl, rfl⟩ := Prod.mk.inj (Option.some.inj hcall)
          exact hhear (hkept.parties _) (hkept.posted d (List.mem_of_getElem? hd)) (hmove d hd)

end Rules

end Network
