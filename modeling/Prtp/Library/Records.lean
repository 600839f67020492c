import Mathlib.Data.List.Basic

set_option autoImplicit false

/-! # Records that announce their size

A stretch of memory is cut into records, each of which starts where the one before it ends. `size` says
how long the record at an offset claims to be. Two loops over such records are the usual ones: a check that
walks from record to record until it passes the end, and a loop that handles each record in turn. -/

namespace Records

variable {σ : Type} (size : ℕ → ℕ)

/-- The records that start at `offs` lie end to end, from `r` to `stop`. -/
def Tiles (stop : ℕ) : ℕ → List ℕ → Prop
  | r, [] => r = stop
  | r, x :: xs => x = r ∧ Tiles stop (r + size r) xs

/-- Go from record to record, and stop at the first one that is not `ok` or does not start before
    `stop`; `n` rounds at most. -/
def walk (ok : ℕ → Bool) (stop : ℕ) : ℕ → ℕ → ℕ
  | 0, r => r
  | n + 1, r =>
      if r + size r < stop then
        if ok (r + size r) then walk ok stop n (r + size r) else r + size r
      else r + size r

/-- Handle each record that starts before `stop`, `n` rounds at most. -/
def loop (f : σ → ℕ → σ) (stop : ℕ) : ℕ → ℕ → σ → σ
  | 0, _, s => s
  | n + 1, r, s => if stop ≤ r then s else loop f stop n (r + size r) (f s r)

variable {size} {stop : ℕ}

theorem Tiles.le {r : ℕ} {offs : List ℕ} (h : Tiles size stop r offs) : r ≤ stop := by
  induction offs generalizing r with
  | nil => exact Nat.le_of_eq h
  | cons x offs ih => exact Nat.le_trans (Nat.le_add_right _ _) (ih h.2)

/-- A record lies between the start and the end. -/
theorem Tiles.bounds {r : ℕ} {offs : List ℕ} (h : Tiles size stop r offs) :
    ∀ x ∈ offs, r ≤ x ∧ x + size x ≤ stop := by
  induction offs generalizing r with
  | nil => simp
  | cons y offs ih =>
      obtain ⟨rfl, hrest⟩ := h
      intro x hx
      rcases List.mem_cons.1 hx with rfl | hx
      · exact ⟨Nat.le_refl _, hrest.le⟩
      · obtain ⟨hlo, hhi⟩ := ih hrest x hx
        exact ⟨Nat.le_trans (Nat.le_add_right _ _) hlo, hhi⟩

section Positive

variable {d : ℕ} (hsize : ∀ r, d ≤ size r)

include hsize

/-- The walk comes out at the end exactly when the records lie end to end and are all `ok`. -/
theorem walk_eq_stop_iff {ok : ℕ → Bool} {n r : ℕ} (hn : stop ≤ r + d * n) (hr : r < stop) :
    walk size ok stop n r = stop ↔
      ∃ offs, Tiles size stop r (r :: offs) ∧ ∀ x ∈ offs, ok x = true := by
  induction n generalizing r with
  | zero => omega
  | succ n ih =>
      have hpos := hsize r
      rw [Nat.mul_succ] at hn
      simp only [walk]
      split
      · rename_i hinside
        split
        · rename_i hok
          rw [ih (by omega) hinside]
          constructor
          · rintro ⟨offs, htiles, hall⟩
            exact ⟨(r + size r) :: offs, ⟨rfl, htiles⟩, List.forall_mem_cons.2 ⟨hok, hall⟩⟩
          · rintro ⟨offs, ⟨-, htiles⟩, hall⟩
            cases offs with
            | nil => exact absurd htiles (Nat.ne_of_lt hinside)
            | cons x offs =>
                obtain ⟨rfl, hrest⟩ := htiles
                exact ⟨offs, ⟨rfl, hrest⟩, (List.forall_mem_cons.1 hall).2⟩
        · rename_i hbad
          refine ⟨fun heq => absurd heq (Nat.ne_of_lt hinside), ?_⟩
          rintro ⟨offs, ⟨-, htiles⟩, hall⟩
          cases offs with
          | nil => exact absurd htiles (Nat.ne_of_lt hinside)
          | cons x offs =>
              obtain ⟨rfl, -⟩ := htiles
              exact absurd (hall _ (List.mem_cons_self ..)) hbad
      · rename_i houtside
        constructor
        · exact fun heq => ⟨[], ⟨rfl, heq⟩, by simp⟩
        · rintro ⟨offs, ⟨-, htiles⟩, -⟩
          have hle := htiles.le
          omega

/-- Rounds enough to reach the end are as good as any number of them. -/
theorem walk_rounds {ok : ℕ → Bool} {n n' r : ℕ} (hn : stop ≤ r + d * n)
    (hn' : stop ≤ r + d * n') (hr : r < stop) :
    walk size ok stop n r = walk size ok stop n' r := by
  induction n generalizing n' r with
  | zero => omega
  | succ n ih =>
      cases n' with
      | zero => omega
      | succ n' =>
          have hpos := hsize r
          rw [Nat.mul_succ] at hn hn'
          simp only [walk]
          split
          · rename_i hinside
            split
            · exact ih (by omega) (by omega) hinside
            · rfl
          · rfl

variable (hd : 0 < d)

include hd

/-- Nothing starts at the end. -/
theorem Tiles.lt {r x : ℕ} {offs : List ℕ} (h : Tiles size stop r (x :: offs)) : r < stop := by
  have hle := h.2.le
  have hpos := hsize r
  omega

theorem Tiles.pairwise {r : ℕ} {offs : List ℕ} (h : Tiles size stop r offs) :
    offs.Pairwise (· < ·) := by
  induction offs generalizing r with
  | nil => exact List.Pairwise.nil
  | cons x offs ih =>
      obtain ⟨rfl, hrest⟩ := h
      refine List.Pairwise.cons (fun y hy => ?_) (ih hrest)
      have hlo := (hrest.bounds y hy).1
      have hpos := hsize x
      omega

/-- There is one way to cut the stretch into records. -/
theorem Tiles.unique {r : ℕ} {offs offs' : List ℕ} (h : Tiles size stop r offs)
    (h' : Tiles size stop r offs') : offs = offs' := by
  induction offs generalizing r offs' with
  | nil =>
      cases offs' with
      | nil => rfl
      | cons y offs' => exact absurd (h'.lt hsize hd) (by rw [show r = stop from h]; simp)
  | cons x offs ih =>
      cases offs' with
      | nil => exact absurd (h.lt hsize hd) (by rw [show r = stop from h']; simp)
      | cons y offs' =>
          obtain ⟨rfl, hrest⟩ := h
          obtain ⟨rfl, hrest'⟩ := h'
          rw [ih hrest hrest']

/-- The loop handles the records one after the other. -/
theorem loop_eq_foldl (f : σ → ℕ → σ) {offs : List ℕ} {n r : ℕ} (h : Tiles size stop r offs)
    (hn : stop ≤ r + d * n) (s : σ) : loop size f stop n r s = offs.foldl f s := by
  induction offs generalizing n r s with
  | nil =>
      cases n with
      | zero => rfl
      | succ n => exact if_pos (Nat.le_of_eq (show r = stop from h).symm)
  | cons x offs ih =>
      have hlt := h.lt hsize hd
      obtain ⟨rfl, hrest⟩ := h
      cases n with
      | zero => omega
      | succ n =>
          have hpos := hsize x
          rw [Nat.mul_succ] at hn
          rw [loop, if_neg (by omega)]
          exact ih hrest (by omega) (f s x)

end Positive

end Records
