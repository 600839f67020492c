import Prtp.Library.Rings

set_option autoImplicit false

/-! # The linked list of `generic_list.h`

A node is two pointers, embedded in the structure it belongs to. The functions below are the ones
the program uses, with the assignments of the source in their order; a list is a ring through its
head, and what each function does to the rings of the memory is the theorem beside it. -/

variable {ν : Type} [DecidableEq ν]

namespace Links

/-- `a->next = b`. -/
def setNext (l : Links ν) (a b : ν) : Links ν :=
  { l with next := Function.update l.next a b }

/-- `a->prev = b`. -/
def setPrev (l : Links ν) (a b : ν) : Links ν :=
  { l with prev := Function.update l.prev a b }

/-- `INIT_LIST_HEAD`. -/
def initListHead (l : Links ν) (list : ν) : Links ν :=
  (l.setNext list list).setPrev list list

/-- `__list_add`. -/
def _listAdd (l : Links ν) (new prev next : ν) : Links ν :=
  (((l.setPrev next new).setNext new next).setPrev new prev).setNext prev new

def listAddTail (l : Links ν) (new head : ν) : Links ν :=
  l._listAdd new (l.prev head) head

/-- `__list_del`. -/
def _listDel (l : Links ν) (prev next : ν) : Links ν :=
  (l.setPrev next prev).setNext prev next

/-- `__list_del_entry`. -/
def _listDelEntry (l : Links ν) (entry : ν) : Links ν :=
  l._listDel (l.prev entry) (l.next entry)

def listDelInit (l : Links ν) (entry : ν) : Links ν :=
  (l._listDelEntry entry).initListHead entry

/-- `list_del`, where `null` is the null pointer. -/
def listDel (null : ν) (l : Links ν) (entry : ν) : Links ν :=
  ((l._listDelEntry entry).setNext entry null).setPrev entry null

def listEmpty (l : Links ν) (head : ν) : Bool :=
  l.next head = head

def listIsLast (l : Links ν) (entry head : ν) : Bool :=
  l.next entry = head

/-- `list_for_each_entry` from `pos` on: the entries, where the body leaves the list alone. -/
def listForEachEntry (l : Links ν) (head : ν) : ℕ → ν → Option (List ν)
  | 0, _ => none
  | fuel + 1, pos =>
      if pos = head then some []
      else (l.listForEachEntry head fuel (l.next pos)).map (pos :: ·)

/-- `__list_splice`. -/
def _listSplice (l : Links ν) (list prev next : ν) : Links ν :=
  let first := l.next list
  let last := l.prev list
  (((l.setPrev first prev).setNext prev first).setNext last next).setPrev next last

def listSpliceInit (l : Links ν) (list head : ν) : Links ν :=
  if l.listEmpty list then l
  else (l._listSplice list head (l.next head)).initListHead list

variable {l : Links ν} {h n : ν} {xs ys : List ν} {rs : List (List ν)}

/-! ## What the functions do to the rings -/

theorem rings_initListHead (hrs : l.Rings rs) (hn : n ∉ rs.flatten) :
    (l.initListHead n).Rings ([n] :: rs) :=
  hrs.single hn

/-- Nodes that are on no ring are all made rings of their own. -/
theorem rings_initListHeads (ns : List ν) (hrs : l.Rings rs) (hnodup : ns.Nodup) (hns : ns.Disjoint rs.flatten) :
    (ns.foldl initListHead l).Rings (ns.map (fun n => [n]) ++ rs) := by
  induction ns generalizing l rs with
  | nil => exact hrs
  | cons n ns ih =>
      obtain ⟨hn, hns'⟩ := List.disjoint_cons_left.1 hns
      obtain ⟨hnew, hnodup⟩ := List.nodup_cons.1 hnodup
      have hrest := ih (rings_initListHead hrs hn) hnodup (by simpa using ⟨hnew, hns'⟩)
      exact hrest.perm List.perm_middle

theorem rings_listAddTail (hrs : l.Rings ((h :: xs) :: rs)) (hn : n ∉ h :: xs)
    (hrest : n ∉ rs.flatten) : (l.listAddTail n h).Rings ((h :: xs ++ [n]) :: rs) :=
  hrs.insert hn hrest

/-- The entry leaves its list and is alone on a ring of its own. -/
theorem rings_listDelInit (hrs : l.Rings ((h :: xs ++ n :: ys) :: rs)) :
    (l.listDelInit n).Rings ([n] :: (h :: xs ++ ys) :: rs) := by
  have hremoved : (l._listDelEntry n).Rings ((h :: xs ++ ys) :: rs) := hrs.remove
  obtain ⟨-, hnodup, hdisj, -⟩ := rings_cons.1 hrs
  refine rings_initListHead hremoved ?_
  rw [List.flatten_cons, List.mem_append, not_or]
  exact ⟨(List.nodup_middle.1 hnodup |> List.nodup_cons.1).1, hdisj (by simp)⟩

/-- The entry leaves its list, and its pointers are null. -/
theorem rings_listDel (null : ν) (hrs : l.Rings ((h :: xs ++ n :: ys) :: rs)) :
    (l.listDel null n).Rings ((h :: xs ++ ys) :: rs) := by
  have hremoved : (l._listDelEntry n).Rings ((h :: xs ++ ys) :: rs) := hrs.remove
  obtain ⟨-, hnodup, hdisj, -⟩ := rings_cons.1 hrs
  refine hremoved.congr fun a ha => ?_
  have hne : a ≠ n := by
    rintro rfl
    rw [List.flatten_cons, List.mem_append] at ha
    exact ha.elim (List.nodup_middle.1 hnodup |> List.nodup_cons.1).1 (hdisj (by simp))
  exact ⟨Function.update_of_ne hne .., Function.update_of_ne hne ..⟩

theorem listEmpty_eq (hrs : l.Rings ((h :: xs) :: rs)) : l.listEmpty h = true ↔ xs = [] := by
  obtain ⟨-, hnodup, -, -⟩ := rings_cons.1 hrs
  cases xs with
  | nil => simp [listEmpty, hrs.next_alone]
  | cons x xs =>
      have hne : x ≠ h := fun he => (List.nodup_cons.1 hnodup).1 (by simp [he])
      simp [listEmpty, hrs.next_head, hne]

theorem listIsLast_eq (hrs : l.Rings ((h :: xs ++ n :: ys) :: rs)) :
    l.listIsLast n h = true ↔ ys = [] := by
  obtain ⟨hr, hnodup, -, -⟩ := rings_cons.1 hrs
  obtain ⟨q, qs, hqs, -⟩ := exists_first ys h
  have haround : h :: (xs ++ n :: ys) ++ [h] = (h :: xs) ++ n :: q :: qs := by simp [hqs]
  rw [listIsLast, (Ring.linked hr haround).1, decide_eq_true_eq]
  cases ys with
  | nil =>
      simp only [List.nil_append, List.cons.injEq] at hqs
      simp [hqs.1]
  | cons y ys =>
      simp only [List.cons_append, List.cons.injEq] at hqs
      have hy : y ≠ h := by
        rintro rfl
        simp at hnodup
      simp [← hqs.1, hy]

/-- The loop goes over the entries of the list, in their order, and ends. -/
theorem listForEachEntry_eq (hrs : l.Rings ((h :: xs) :: rs)) {fuel : ℕ} (hfuel : xs.length < fuel) :
    l.listForEachEntry h fuel (l.next h) = some xs := by
  obtain ⟨hr, hnodup, -, -⟩ := rings_cons.1 hrs
  have hh := (List.nodup_cons.1 hnodup).1
  -- from any node on, it goes over what comes behind it
  have hwalk : ∀ (qs ps : List ν) (p : ν) (fuel : ℕ), h :: xs = ps ++ p :: qs → qs.length < fuel →
      l.listForEachEntry h fuel (l.next p) = some qs := by
    intro qs
    induction qs with
    | nil =>
        intro ps p fuel hsplit hfuel
        obtain ⟨fuel, rfl⟩ := Nat.exists_eq_succ_of_ne_zero (Nat.ne_of_gt hfuel)
        have haround : h :: xs ++ [h] = ps ++ p :: h :: [] := by simp [hsplit]
        rw [(hr.linked haround).1]
        exact if_pos rfl
    | cons q qs ih =>
        intro ps p fuel hsplit hfuel
        obtain ⟨fuel, rfl⟩ := Nat.exists_eq_succ_of_ne_zero (Nat.ne_of_gt (Nat.zero_lt_of_lt hfuel))
        have haround : h :: xs ++ [h] = ps ++ p :: q :: (qs ++ [h]) := by simp [hsplit]
        have hq : q ≠ h := by
          rintro rfl
          cases ps <;> simp_all
        have hrest := ih (ps ++ [p]) q fuel (by simp [hsplit]) (Nat.lt_of_succ_lt_succ hfuel)
        rw [(hr.linked haround).1, listForEachEntry, if_neg hq, hrest]
        rfl
  exact hwalk xs [] h fuel rfl hfuel

/-- The nodes of a list move to the front of another, and the list is left empty. -/
theorem rings_listSpliceInit {g : ν} (hrs : l.Rings ((h :: xs) :: (g :: ys) :: rs)) :
    (l.listSpliceInit h g).Rings ([h] :: (g :: xs ++ ys) :: rs) := by
  unfold listSpliceInit
  split
  · next hempty =>
      obtain rfl := (listEmpty_eq hrs).1 hempty
      exact hrs
  · next hempty =>
      have hxs : xs ≠ [] := fun he => hempty ((listEmpty_eq hrs).2 he)
      have hspliced : (l._listSplice h g (l.next g)).Rings ((g :: xs ++ ys) :: rs) :=
        hrs.splice hxs
      obtain ⟨-, hnodup, hdisj, -⟩ := rings_cons.1 hrs
      refine rings_initListHead hspliced fun hmem => ?_
      simp only [List.flatten_cons, List.cons_append, List.mem_cons, List.mem_append] at hmem
      have hxs' := (List.nodup_cons.1 hnodup).1
      have hrest : h ∉ ((g :: ys) :: rs).flatten := hdisj (by simp)
      simp only [List.flatten_cons, List.cons_append, List.mem_cons, List.mem_append] at hrest
      tauto

/-! ## Lists of structures

The same for lists of structures with a node each: `le` is the node of a structure. -/

section Entries

variable {ε : Type} {le : ε → ν} {ws : List ε} {w : ε}

omit [DecidableEq ν] in
theorem nodup_of_rings (hrs : l.Rings ((h :: ws.map le) :: rs)) : ws.Nodup :=
  List.Nodup.of_map le (List.nodup_cons.1 (rings_cons.1 hrs).2.1).2

/-- A structure whose node is on a ring of its own goes to the end of a list. -/
theorem rings_enter (hrs : l.Rings ([le w] :: (h :: ws.map le) :: rs)) :
    (l.listAddTail (le w) h).Rings ((h :: (ws ++ [w]).map le) :: rs) := by
  obtain ⟨-, -, hdisj, hrest⟩ := rings_cons.1 hrs
  have hfresh : le w ∉ ((h :: ws.map le) :: rs).flatten := hdisj (List.mem_singleton_self (le w))
  rw [List.flatten_cons, List.mem_append, not_or] at hfresh
  rw [List.map_append, List.map_singleton, ← List.cons_append]
  exact rings_listAddTail hrest hfresh.1 hfresh.2

variable [DecidableEq ε]

omit [DecidableEq ν] in
theorem ring_split (hrs : l.Rings ((h :: ws.map le) :: rs)) (hw : w ∈ ws) :
    ∃ xs ys : List ν, h :: ws.map le = h :: xs ++ le w :: ys ∧ (ws.erase w).map le = xs ++ ys := by
  obtain ⟨us, vs, rfl⟩ := List.append_of_mem hw
  have hus : w ∉ us := fun hmem =>
    (List.nodup_cons.1 (List.nodup_middle.1 (nodup_of_rings hrs))).1 (List.mem_append_left vs hmem)
  refine ⟨us.map le, vs.map le, by simp, ?_⟩
  rw [List.erase_append_right _ hus, List.erase_cons_head, List.map_append]

/-- A structure leaves its list, and its node is on a ring of its own. -/
theorem rings_leave (hrs : l.Rings ((h :: ws.map le) :: rs)) (hw : w ∈ ws) :
    (l.listDelInit (le w)).Rings ([le w] :: (h :: (ws.erase w).map le) :: rs) := by
  obtain ⟨xs, ys, hsplit, herase⟩ := ring_split hrs hw
  rw [hsplit] at hrs
  rw [herase]
  exact rings_listDelInit hrs

/-- A structure goes from one list to the end of another. -/
theorem rings_pass {g : ν} {vs : List ε} (null : ν) (hrs : l.Rings ((h :: ws.map le) :: (g :: vs.map le) :: rs))
    (hw : w ∈ ws) :
    ((l.listDel null (le w)).listAddTail (le w) g).Rings
      ((h :: (ws.erase w).map le) :: (g :: (vs ++ [w]).map le) :: rs) := by
  obtain ⟨xs, ys, hsplit, herase⟩ := ring_split hrs hw
  rw [hsplit] at hrs
  rw [herase, List.map_append, List.map_singleton, ← List.cons_append]
  have hdropped := (rings_listDel null hrs).swap
  obtain ⟨-, hnodup, hdisj, -⟩ := rings_cons.1 hrs
  have hfresh : le w ∉ ((g :: vs.map le) :: rs).flatten := hdisj (by simp)
  rw [List.flatten_cons, List.mem_append, not_or] at hfresh
  refine (rings_listAddTail hdropped hfresh.1 ?_).swap
  rw [List.flatten_cons, List.mem_append, not_or]
  exact ⟨(List.nodup_cons.1 (List.nodup_middle.1 hnodup)).1, hfresh.2⟩

end Entries

end Links
