import Prtp.GenericList
import Prtp.Library.Pool

set_option autoImplicit false

/-! # Pools in memory

The entries of a table and the heads of its two lists, `free` and `used`, are nodes of one memory. What is done
to them in the tables of the program is done to a `Pool` here: the first free entry goes to the end of the used
list, any entry goes to the end of the free one, and the used list is walked. -/

/-- What has a `struct list_head` in a table. -/
inductive PoolNode (ι : Type) where
  | free
  | used
  | le (i : ι)
  deriving DecidableEq

namespace Links

variable {ι : Type}

/-- `list_first_entry`, and `list_entry` of the next node: without a value if that is no entry. -/
def listFirstEntry (l : Links (PoolNode ι)) (head : PoolNode ι) : Option ι :=
  match l.next head with
  | .le i => some i
  | _ => none

/-- `list_for_each_entry` over the used list, with a body that returns at the first entry that `f` is true of: the
    entry, or that there is none. Without a value when the fuel runs out or the list has something else on it. -/
def findUsed (f : ι → Bool) (l : Links (PoolNode ι)) : ℕ → PoolNode ι → Option (Option ι)
  | 0, _ => none
  | _ + 1, .used => some none
  | fuel + 1, .le i => if f i then some (some i) else l.findUsed f fuel (l.next (.le i))
  | _ + 1, .free => none

/-! ## What the memory shows -/

/-- The two lists in memory are those of the pool. -/
def Shows (l : Links (PoolNode ι)) (p : Pool ι) : Prop :=
  l.Rings [.free :: p.free.map .le, .used :: p.used.map .le]

variable {l : Links (PoolNode ι)} {p p' : Pool ι} {i : ι}

theorem Shows.first (h : l.Shows p) {rest : List ι} (hfree : p.free = i :: rest) :
    l.listFirstEntry .free = some i := by
  unfold Shows at h
  rw [hfree] at h
  rw [listFirstEntry, h.next_head]

theorem Shows.first_used (h : l.Shows p) {rest : List ι} (hused : p.used = i :: rest) :
    l.listFirstEntry .used = some i := by
  have hswapped := Rings.swap h
  rw [hused] at hswapped
  rw [listFirstEntry, hswapped.next_head]

/-- The search finds what `Pool.findUsed` finds. -/
theorem Shows.findUsed (h : l.Shows p) (f : ι → Bool) {fuel : ℕ} (hfuel : p.used.length < fuel) :
    l.findUsed f fuel (l.next .used) = some (p.findUsed f) := by
  obtain ⟨hr, -, -, -⟩ := rings_cons.1 (Rings.swap h)
  -- from any node on, it looks at the entries behind it
  have hsearch : ∀ (js : List ι) (ns : List (PoolNode ι)) (n : PoolNode ι) (fuel : ℕ),
      .used :: p.used.map .le = ns ++ n :: js.map .le → js.length < fuel →
      l.findUsed f fuel (l.next n) = some (js.find? f) := by
    intro js
    induction js with
    | nil =>
        intro ns n fuel hsplit hfuel
        obtain ⟨fuel, rfl⟩ := Nat.exists_eq_succ_of_ne_zero (Nat.ne_of_gt hfuel)
        have haround : PoolNode.used :: p.used.map .le ++ [.used] = ns ++ n :: .used :: [] := by
          simp [hsplit]
        rw [(hr.linked haround).1]
        rfl
    | cons j js ih =>
        intro ns n fuel hsplit hfuel
        obtain ⟨fuel, rfl⟩ := Nat.exists_eq_succ_of_ne_zero (Nat.ne_of_gt (Nat.zero_lt_of_lt hfuel))
        have haround : PoolNode.used :: p.used.map .le ++ [.used]
            = ns ++ n :: .le j :: (js.map .le ++ [.used]) := by simp [hsplit]
        have hrest := ih (ns ++ [n]) (.le j) fuel (by simp [hsplit]) (Nat.lt_of_succ_lt_succ hfuel)
        rw [(hr.linked haround).1, Links.findUsed, List.find?_cons]
        cases hj : f j with
        | true => rfl
        | false => exact hrest
  exact hsearch p.used [] .used fuel rfl hfuel

/-! ## Moving entries -/

variable [DecidableEq ι]

theorem Shows.listEmpty (h : l.Shows p) : l.listEmpty .free = true ↔ p.free = [] := by
  rw [listEmpty_eq h, List.map_eq_nil_iff]

theorem Shows.listEmpty_used (h : l.Shows p) : l.listEmpty .used = true ↔ p.used = [] := by
  rw [listEmpty_eq (Rings.swap h), List.map_eq_nil_iff]

/-- The first free entry goes to the end of the used list. -/
theorem Shows.take (h : l.Shows p) (htake : p.take = some (i, p')) :
    ((l.listDelInit (.le i)).listAddTail (.le i) .used).Shows p' := by
  obtain ⟨hfree, hused⟩ := Pool.take_eq_some htake
  unfold Shows at h ⊢
  have hleft := rings_leave h (show i ∈ p.free by simp [hfree])
  rw [hfree, List.erase_cons_head] at hleft
  have hentered := rings_enter (hleft.perm ((List.Perm.swap ..).cons _))
  rw [← hused] at hentered
  exact hentered.swap

/-- An entry goes to the end of the free list, wherever it was. -/
theorem Shows.release (h : l.Shows p) (i : ι) :
    ((l.listDelInit (.le i)).listAddTail (.le i) .free).Shows (p.release i) := by
  unfold Shows at h ⊢
  by_cases hi : i ∈ p.used
  · have hfree : i ∉ p.free := (p.mem_used_iff i).1 hi
    have hleft := rings_leave (Rings.swap h) hi
    have hentered := rings_enter (hleft.perm ((List.Perm.swap ..).cons _))
    show Rings _ [PoolNode.free :: (p.free.erase i ++ [i]).map .le, PoolNode.used :: (p.used.erase i).map .le]
    rwa [List.erase_of_not_mem hfree]
  · have hleft := rings_leave h ((p.mem_free_iff i).2 hi)
    have hentered := rings_enter hleft
    show Rings _ [PoolNode.free :: (p.free.erase i ++ [i]).map .le, PoolNode.used :: (p.used.erase i).map .le]
    rwa [List.erase_of_not_mem hi]

/-! ## Setting up -/

/-- `add` puts an entry that is on neither list at the end of the free one. -/
def Adds (add : Links (PoolNode ι) → ι → Links (PoolNode ι)) : Prop :=
  ∀ (l : Links (PoolNode ι)) (is : List ι) (i : ι), l.Rings [.free :: is.map .le, [.used]] → i ∉ is →
    (add l i).Rings [.free :: (is ++ [i]).map .le, [.used]]

theorem adds_listAddTail : Adds fun (l : Links (PoolNode ι)) i => l.listAddTail (.le i) .free := by
  intro l is i hrs hi
  have hadded := rings_listAddTail (n := PoolNode.le i) hrs (by simpa using hi) (by simp)
  rwa [← List.map_singleton, List.cons_append, ← List.map_append] at hadded

theorem adds_initListHead :
    Adds fun (l : Links (PoolNode ι)) i => (l.initListHead (.le i)).listAddTail (.le i) .free := by
  intro l is i hrs hi
  exact rings_enter (rings_initListHead hrs (by simpa using hi))

/-- Whatever was in memory, every entry is free once the two lists are set up. -/
theorem shows_full {add : Links (PoolNode ι) → ι → Links (PoolNode ι)} (hadd : Adds add) (l : Links (PoolNode ι))
    {is : List ι} (hnodup : is.Nodup) (hcomplete : ∀ i, i ∈ is) :
    (is.foldl add ((l.initListHead .free).initListHead .used)).Shows (.full is hnodup hcomplete) := by
  -- the entries added so far are on the free list
  have hfill : ∀ (js done : List ι) (l : Links (PoolNode ι)), l.Rings [.free :: done.map .le, [.used]] →
      (done ++ js).Nodup → (js.foldl add l).Rings [.free :: (done ++ js).map .le, [.used]] := by
    intro js
    induction js with
    | nil =>
        intro done l hrs _
        rwa [List.append_nil]
    | cons j js ih =>
        intro done l hrs hnodup
        rw [List.append_cons] at hnodup ⊢
        have hj : j ∉ done := fun hmem =>
          List.disjoint_of_nodup_append (List.nodup_append.1 hnodup).1 hmem (List.mem_singleton_self j)
        exact ih (done ++ [j]) (add l j) (hadd l done j hrs hj) hnodup
  have hheads : ((l.initListHead .free).initListHead .used).Rings [[PoolNode.free], [.used]] :=
    (rings_initListHead (rings_initListHead rings_nil (by simp)) (by simp)).swap
  exact hfill is [] _ hheads hnodup

end Links
