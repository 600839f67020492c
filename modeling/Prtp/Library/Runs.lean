import Mathlib.Logic.Relation

set_option autoImplicit false

/-! # Runs of a deterministic machine

A machine is a step function `step : σ → ι → σ`; a run feeds it a list of operations. A *guarded*
run is one whose every operation meets a condition `guard` in the state it starts from. The two
rules that whole-run results rest on are stated once here:

* `Guarded.invariant`: what holds at the start and is kept by every guarded step holds at the end
  (and hence in every state on the way, since every prefix of a guarded run is a guarded run);
* `Guarded.simulation`: a relation between two states kept by every guarded pair of steps relates
  the ends of two runs over the same operations. -/

namespace Runs

variable {σ ι : Type}

/-- The state a machine reaches from `s` by a list of operations. -/
def run (step : σ → ι → σ) (s : σ) (ops : List ι) : σ := ops.foldl step s

@[simp] theorem run_nil (step : σ → ι → σ) (s : σ) : run step s [] = s := rfl

@[simp] theorem run_cons (step : σ → ι → σ) (s : σ) (op : ι) (ops : List ι) :
    run step s (op :: ops) = run step (step s op) ops := rfl

theorem run_append (step : σ → ι → σ) (s : σ) (ops ops' : List ι) :
    run step s (ops ++ ops') = run step (run step s ops) ops' := by
  simp [run]

/-- Every operation of the run meets `guard` in the state it starts from. -/
def Guarded (step : σ → ι → σ) (guard : σ → ι → Prop) : σ → List ι → Prop
  | _, [] => True
  | s, op :: ops => guard s op ∧ Guarded step guard (step s op) ops

/-- Whether a run is guarded can be found out by running it. -/
instance decidableGuarded {step : σ → ι → σ} {guard : σ → ι → Prop}
    [∀ s op, Decidable (guard s op)] :
    (s : σ) → (ops : List ι) → Decidable (Guarded step guard s ops)
  | _, [] => isTrue trivial
  | s, op :: ops =>
      have : Decidable (Guarded step guard (step s op) ops) := decidableGuarded (step s op) ops
      inferInstanceAs (Decidable (_ ∧ _))

/-- The invariant rule: one guarded step keeps `P`, so a guarded run does. -/
theorem Guarded.invariant {step : σ → ι → σ} {guard : σ → ι → Prop} {P : σ → Prop}
    (hstep : ∀ s op, P s → guard s op → P (step s op)) {s : σ} {ops : List ι}
    (hrun : Guarded step guard s ops) (hinit : P s) : P (run step s ops) := by
  induction ops generalizing s with
  | nil => exact hinit
  | cons op ops ih =>
      obtain ⟨hop, hrest⟩ := hrun
      exact ih hrest (hstep s op hinit hop)

/-- A run is guarded if both its parts are. -/
theorem guarded_append {step : σ → ι → σ} {guard : σ → ι → Prop} (s : σ) (ops ops' : List ι) :
    Guarded step guard s (ops ++ ops') ↔
      Guarded step guard s ops ∧ Guarded step guard (run step s ops) ops' := by
  induction ops generalizing s with
  | nil => exact (and_iff_right trivial).symm
  | cons op ops ih => exact (and_congr_right fun _ => ih (step s op)).trans and_assoc.symm

/-- A run under a stronger guard is a run under a weaker one. -/
theorem Guarded.mono {step : σ → ι → σ} {guard guard' : σ → ι → Prop}
    (himp : ∀ s op, guard s op → guard' s op) {s : σ} {ops : List ι}
    (hrun : Guarded step guard s ops) : Guarded step guard' s ops := by
  induction ops generalizing s with
  | nil => trivial
  | cons op ops ih =>
      obtain ⟨hop, hrest⟩ := hrun
      exact ⟨himp s op hop, ih hrest⟩

/-- A guard on the operations alone holds of each of them. -/
theorem Guarded.forall_mem {step : σ → ι → σ} {Q : ι → Prop} {s : σ} {ops : List ι}
    (hrun : Guarded step (fun _ op => Q op) s ops) : ∀ op ∈ ops, Q op := by
  induction ops generalizing s with
  | nil => simp
  | cons op ops ih =>
      obtain ⟨hop, hrest⟩ := hrun
      exact List.forall_mem_cons.2 ⟨hop, ih hrest⟩

/-- A guard that an invariant of the guarded steps makes another guard follow from. -/
theorem Guarded.of_invariant {step : σ → ι → σ} {guard guard' : σ → ι → Prop} {P : σ → Prop}
    (hstep : ∀ s op, P s → guard s op → guard' s op ∧ P (step s op)) {s : σ} {ops : List ι}
    (hrun : Guarded step guard s ops) (hinit : P s) : Guarded step guard' s ops := by
  induction ops generalizing s with
  | nil => trivial
  | cons op ops ih =>
      obtain ⟨hop, hrest⟩ := hrun
      obtain ⟨hguard, hnext⟩ := hstep s op hinit hop
      exact ⟨hguard, ih hrest hnext⟩

/-- The invariant rule for a machine whose steps all keep `P`. -/
theorem run_invariant {step : σ → ι → σ} {P : σ → Prop} (hstep : ∀ s op, P s → P (step s op))
    {s : σ} (hinit : P s) (ops : List ι) : P (run step s ops) := by
  induction ops generalizing s with
  | nil => exact hinit
  | cons op ops ih => exact ih (hstep s op hinit)

/-- A guard that always holds makes every run a guarded run. -/
theorem guarded_of_forall {step : σ → ι → σ} {guard : σ → ι → Prop} (h : ∀ s op, guard s op)
    (s : σ) (ops : List ι) : Guarded step guard s ops := by
  induction ops generalizing s with
  | nil => trivial
  | cons op ops ih => exact ⟨h s op, ih _⟩

/-! ## History variables -/

/-- The history variable `g` after a run, where `note` is what is noted of each operation in the
    state it starts from. -/
def history {γ : Type} (step : σ → ι → σ) (note : γ → σ → ι → γ) : γ → σ → List ι → γ
  | g, _, [] => g
  | g, s, op :: ops => history step note (note g s op) (step s op) ops

/-- The invariant rule for a machine with a history variable. -/
theorem Guarded.history {γ : Type} {step : σ → ι → σ} {note : γ → σ → ι → γ}
    {guard : σ → ι → Prop} {P : γ → σ → Prop}
    (hstep : ∀ g s op, P g s → guard s op → P (note g s op) (step s op)) {g : γ} {s : σ}
    {ops : List ι} (hrun : Guarded step guard s ops) (hinit : P g s) :
    P (history step note g s ops) (run step s ops) := by
  induction ops generalizing g s with
  | nil => exact hinit
  | cons op ops ih =>
      obtain ⟨hop, hrest⟩ := hrun
      exact ih hrest (hstep g s op hinit hop)

/-- The invariant rule for a machine with a history variable whose steps all keep `P`. -/
theorem history_invariant {γ : Type} {step : σ → ι → σ} {note : γ → σ → ι → γ} {P : γ → σ → Prop}
    (hstep : ∀ g s op, P g s → P (note g s op) (step s op)) {g : γ} {s : σ} (hinit : P g s)
    (ops : List ι) : P (history step note g s ops) (run step s ops) := by
  induction ops generalizing g s with
  | nil => exact hinit
  | cons op ops ih => exact ih (hstep g s op hinit)

/-! ## Two runs side by side -/

/-- Two copies of a machine, fed the same operations. -/
def both (step : σ → ι → σ) (p : σ × σ) (op : ι) : σ × σ := (step p.1 op, step p.2 op)

/-- The simulation rule: a relation kept by every pair of guarded steps relates the ends of a guarded
    pair of runs. -/
theorem Guarded.simulation {step : σ → ι → σ} {guard : σ × σ → ι → Prop} {R : σ → σ → Prop}
    (hstep : ∀ s t op, R s t → guard (s, t) op → R (step s op) (step t op)) {s t : σ}
    {ops : List ι} (hrun : Guarded (both step) guard (s, t) ops) (hinit : R s t) :
    R (run step s ops) (run step t ops) := by
  induction ops generalizing s t with
  | nil => exact hinit
  | cons op ops ih =>
      obtain ⟨hop, hrest⟩ := hrun
      exact ih hrest (hstep s t op hinit hop)

/-! ## Machines that may fail

A machine closer to the code, whose steps may have no result, against one that says what they are for. -/

/-- The refinement rule: where every step has a result, and one that a relation with the other machine is kept by,
    every run has. -/
theorem foldlM_refines {τ : Type} {step : σ → ι → Option σ} {step' : τ → ι → τ} {R : σ → τ → Prop}
    (hstep : ∀ s t op, R s t → ∃ s', step s op = some s' ∧ R s' (step' t op)) {s : σ} {t : τ} (hinit : R s t)
    (ops : List ι) : ∃ s', ops.foldlM step s = some s' ∧ R s' (run step' t ops) := by
  induction ops generalizing s t with
  | nil => exact ⟨s, rfl, hinit⟩
  | cons op ops ih =>
      obtain ⟨s₁, hop, h₁⟩ := hstep s t op hinit
      obtain ⟨s', hrest, h'⟩ := ih h₁
      exact ⟨s', by rw [List.foldlM_cons, hop]; exact hrest, h'⟩

/-- The invariant rule for a machine that may fail. -/
theorem foldlM_invariant {step : σ → ι → Option σ} {P : σ → Prop}
    (hstep : ∀ s op s', P s → step s op = some s' → P s') {s s' : σ} {ops : List ι} (hinit : P s)
    (hrun : ops.foldlM step s = some s') : P s' := by
  induction ops generalizing s with
  | nil => exact Option.some.inj hrun ▸ hinit
  | cons op ops ih =>
      rw [List.foldlM_cons] at hrun
      obtain ⟨s₁, hop, hrest⟩ := Option.bind_eq_some_iff.1 hrun
      exact ih (hstep _ _ _ hinit hop) hrest

/-- A computation fails only if `ok` does not hold, and what it comes to otherwise has the property. -/
def Yields (ok : Prop) (P : σ → Prop) : Option σ → Prop
  | some s => P s
  | none => ¬ ok

section Yields

variable {ok : Prop} {P : σ → Prop} {o : Option σ}

theorem Yields.mono {ok' : Prop} (h : Yields ok P o) (hok : ok' → ok) : Yields ok' P o := by
  cases o with
  | some s => exact h
  | none => exact fun h' => h (hok h')

theorem Yields.imp {Q : σ → Prop} (h : Yields ok P o) (hPQ : ∀ s, P s → Q s) : Yields ok Q o := by
  cases o with
  | some s => exact hPQ s h
  | none => exact h

theorem Yields.bind {τ : Type} {f : σ → Option τ} {Q : τ → Prop} (h : Yields ok P o)
    (hf : ∀ s, P s → Yields ok Q (f s)) : Yields ok Q (o.bind f) := by
  cases o with
  | some s => exact hf s h
  | none => exact h

/-- The rule for a run of steps that may fail. -/
theorem foldlM_yields {step : σ → ι → Option σ} (hstep : ∀ s op, P s → Yields ok P (step s op)) {s : σ}
    (hinit : P s) (ops : List ι) : Yields ok P (ops.foldlM step s) := by
  induction ops generalizing s with
  | nil => exact hinit
  | cons op ops ih =>
      rw [List.foldlM_cons]
      exact (hstep s op hinit).bind fun s' h => ih h

end Yields

/-- A machine together with what its steps have answered. -/
def answering {β : Type} (step : σ → ι → β × σ) (s : List β × σ) (op : ι) : List β × σ :=
  let r := step s.2 op
  (s.1 ++ [r.1], r.2)

/-- The same of a machine that may fail. -/
def answeringM {β : Type} (step : σ → ι → Option (β × σ)) (s : List β × σ) (op : ι) : Option (List β × σ) :=
  (step s.2 op).map fun r => (s.1 ++ [r.1], r.2)

/-- The refinement rule for machines that answer: the answers are the same. -/
theorem answeringM_refines {τ β : Type} {step : σ → ι → Option (β × σ)} {step' : τ → ι → β × τ} {R : σ → τ → Prop}
    (hstep : ∀ s t op, R s t → ∃ s', step s op = some ((step' t op).1, s') ∧ R s' (step' t op).2) {s : σ} {t : τ}
    (hinit : R s t) (ops : List ι) :
    ∃ s', ops.foldlM (answeringM step) ([], s) = some ((run (answering step') ([], t) ops).1, s') ∧
      R s' (run (answering step') ([], t) ops).2 := by
  have hboth : ∀ (p : List β × σ) (q : List β × τ) op, p.1 = q.1 ∧ R p.2 q.2 →
      ∃ p', answeringM step p op = some p' ∧ p'.1 = (answering step' q op).1 ∧
        R p'.2 (answering step' q op).2 := by
    rintro ⟨answers, s⟩ ⟨_, t⟩ op ⟨rfl, h⟩
    obtain ⟨s', hop, h'⟩ := hstep s t op h
    refine ⟨(answers ++ [(step' t op).1], s'), ?_, rfl, h'⟩
    rw [answeringM, hop]
    rfl
  obtain ⟨⟨answers, s'⟩, hrun, hanswers, h'⟩ := foldlM_refines hboth (s := ([], s)) (t := ([], t)) ⟨rfl, hinit⟩ ops
  exact ⟨s', by rw [hrun, ← hanswers], h'⟩

end Runs
