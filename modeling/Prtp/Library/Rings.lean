import Mathlib.Data.List.Chain
import Mathlib.Data.List.Nodup
import Mathlib.Logic.Function.Basic
import Mathlib.Tactic.Common

set_option autoImplicit false

/-! # Rings of doubly linked nodes

A memory of nodes with two links each, and the lists that are read off it. The only way to change
the memory is `link p q`: `p` gets `q` for its next node and `q` gets `p` for its previous one.
`Rings l rs` says that every list of `rs` is a closed ring of the memory, each node linked with the
one after it and the last with the first, and that no node is on two of the rings or twice on one.

Each operation is one lemma about the first ring; the others are carried along in `rs`, and
`Rings.perm` brings any ring to the front. -/

open List (IsChain)

variable {ν : Type}

/-- The two links of every node. -/
structure Links (ν : Type) where
  next : ν → ν
  prev : ν → ν

namespace Links

variable {l : Links ν} {zs ps qs : List ν} {p q : ν} {r : List ν} {rs : List (List ν)} {h n : ν}
  {xs ys : List ν}

/-- `b` is the node after `a`, and `a` the node before `b`. -/
def Linked (l : Links ν) (a b : ν) : Prop :=
  l.next a = b ∧ l.prev b = a

/-- A list of nodes, each linked with the one after it and the last with the first. -/
def Ring (l : Links ν) : List ν → Prop
  | [] => True
  | h :: xs => IsChain l.Linked (h :: xs ++ [h])

/-- Rings that have no node in common, and none twice. -/
structure Rings (l : Links ν) (rs : List (List ν)) : Prop where
  closed : ∀ r ∈ rs, l.Ring r
  nodup : rs.flatten.Nodup

theorem ring_cons : l.Ring (h :: xs) ↔ IsChain l.Linked (h :: xs ++ [h]) := Iff.rfl

theorem rings_nil : l.Rings [] := ⟨by simp, by simp⟩

theorem rings_cons : l.Rings (r :: rs) ↔
    l.Ring r ∧ r.Nodup ∧ r.Disjoint rs.flatten ∧ l.Rings rs := by
  constructor
  · rintro ⟨hclosed, hnodup⟩
    rw [List.flatten_cons, List.nodup_append'] at hnodup
    exact ⟨hclosed r (by simp), hnodup.1, hnodup.2.2,
      fun r' hr' => hclosed r' (List.mem_cons_of_mem r hr'), hnodup.2.1⟩
  · rintro ⟨hr, hnodup, hdisj, hrs⟩
    refine ⟨List.forall_mem_cons.2 ⟨hr, hrs.closed⟩, ?_⟩
    rw [List.flatten_cons, List.nodup_append']
    exact ⟨hnodup, hrs.nodup, hdisj⟩

theorem Rings.tail (hrs : l.Rings (r :: rs)) : l.Rings rs := (rings_cons.1 hrs).2.2.2

/-- The order of the rings does not matter. -/
theorem Rings.perm {rs' : List (List ν)} (hrs : l.Rings rs) (hperm : rs.Perm rs') :
    l.Rings rs' :=
  ⟨fun r hr => hrs.closed r (hperm.mem_iff.2 hr), (hperm.flatten).nodup_iff.1 hrs.nodup⟩

theorem Rings.swap {r' : List ν} (hrs : l.Rings (r :: r' :: rs)) : l.Rings (r' :: r :: rs) :=
  hrs.perm (List.Perm.swap r' r rs)

theorem Rings.next_head {x : ν} (hrs : l.Rings ((h :: x :: xs) :: rs)) : l.next h = x :=
  (List.isChain_cons_cons.1 (ring_cons.1 (rings_cons.1 hrs).1)).1.1

theorem Rings.next_alone (hrs : l.Rings ([h] :: rs)) : l.next h = h :=
  (List.isChain_pair.1 (ring_cons.1 (rings_cons.1 hrs).1)).1

/-- Around a ring, no node is left twice. -/
theorem ring_dropLast_nodup (hnodup : (h :: xs).Nodup) : (h :: xs ++ [h]).dropLast.Nodup := by
  rwa [List.dropLast_concat]

/-- Around a ring, no node is entered twice. -/
theorem ring_tail_nodup (hnodup : (h :: xs).Nodup) : (h :: xs ++ [h]).tail.Nodup := by
  have hperm : (xs ++ [h]).Perm (h :: xs) := List.perm_append_singleton h xs
  exact hperm.nodup_iff.2 hnodup

theorem exists_last (h : ν) (xs : List ν) : ∃ ps p, h :: xs = ps ++ [p] :=
  ⟨_, _, (List.dropLast_append_getLast (List.cons_ne_nil h xs)).symm⟩

theorem exists_first (ys : List ν) (h : ν) : ∃ q qs, ys ++ [h] = q :: qs ∧ q ∈ h :: ys := by
  cases ys with
  | nil => exact ⟨h, [], rfl, by simp⟩
  | cons y ys => exact ⟨y, ys ++ [h], rfl, by simp⟩

/-- Around a ring, each node is linked with the one that comes after it. -/
theorem Ring.linked {a b : ν} (hr : l.Ring (h :: xs)) (haround : h :: xs ++ [h] = ps ++ a :: b :: qs) :
    l.Linked a b := by
  rw [ring_cons, haround, List.isChain_append_cons_cons] at hr
  exact hr.2.1

/-- A node that is alone on its ring is linked with itself. -/
theorem Rings.linked_alone (hrs : l.Rings ([h] :: rs)) : l.Linked h h :=
  List.isChain_pair.1 (ring_cons.1 (rings_cons.1 hrs).1)

/-- A node that is not alone on its ring is not linked with itself. -/
theorem Rings.next_ne (hrs : l.Rings ((h :: xs) :: rs)) (hn : n ∈ xs) : l.next n ≠ n := by
  obtain ⟨hr, hnodup, -, -⟩ := rings_cons.1 hrs
  obtain ⟨ps, qs, rfl⟩ := List.append_of_mem hn
  obtain ⟨q, qs', hqs, hqmem⟩ := exists_first qs h
  have haround : h :: (ps ++ n :: qs) ++ [h] = (h :: ps) ++ n :: q :: qs' := by
    simp [hqs]
  rw [(hr.linked haround).1]
  intro he
  subst he
  rw [← List.cons_append, List.nodup_middle, List.nodup_cons] at hnodup
  exact hnodup.1 (by simp only [List.mem_append, List.mem_cons] at hqmem ⊢; tauto)

/-- Rings are kept as long as the links of their nodes are. -/
theorem Rings.congr {l' : Links ν} (hrs : l.Rings rs)
    (h : ∀ a ∈ rs.flatten, l'.next a = l.next a ∧ l'.prev a = l.prev a) : l'.Rings rs := by
  refine ⟨fun r hr => ?_, hrs.nodup⟩
  cases r with
  | nil => trivial
  | cons g xs =>
      have hkept : ∀ a ∈ g :: xs ++ [g], l'.next a = l.next a ∧ l'.prev a = l.prev a := by
        intro a ha
        refine h a (List.mem_flatten.2 ⟨_, hr, ?_⟩)
        rw [List.mem_append, List.mem_singleton] at ha
        exact ha.elim id fun hag => hag ▸ List.mem_cons_self ..
      rw [ring_cons]
      refine List.IsChain.imp_of_mem_imp (fun a b ha hb hab => ?_) (ring_cons.1 (hrs.closed _ hr))
      exact ⟨(hkept a ha).1.trans hab.1, (hkept b hb).2.trans hab.2⟩

/-! ## Joining two nodes -/

variable [DecidableEq ν]

/-- Join two nodes: `q` after `p`, `p` before `q`. -/
def link (l : Links ν) (p q : ν) : Links ν where
  next := Function.update l.next p q
  prev := Function.update l.prev q p

theorem linked_link (l : Links ν) (p q : ν) : (l.link p q).Linked p q := by
  simp [Linked, link]

/-- Joining two nodes leaves a link with other ends alone. -/
theorem Linked.link {a b : ν} (hab : l.Linked a b) (ha : a ≠ p) (hb : b ≠ q) :
    (l.link p q).Linked a b := by
  constructor
  · rw [← hab.1]
    exact Function.update_of_ne ha _ _
  · rw [← hab.2]
    exact Function.update_of_ne hb _ _

/-- A chain that no link leaves from `p` and no link enters at `q` is kept when the two are joined. -/
theorem chain_link (hzs : IsChain l.Linked zs) (hp : p ∉ zs.dropLast) (hq : q ∉ zs.tail) :
    IsChain (l.link p q).Linked zs := by
  rw [List.isChain_iff_forall_rel_of_append_cons_cons] at hzs ⊢
  rintro a b xs ys rfl
  have ha : a ∈ (xs ++ a :: b :: ys).dropLast := by
    rw [List.dropLast_append_of_ne_nil (by simp)]
    simp
  have hb : b ∈ (xs ++ a :: b :: ys).tail := by
    rw [List.tail_append]
    split <;> simp
  refine (hzs rfl).link ?_ ?_
  · rintro rfl
    exact hp ha
  · rintro rfl
    exact hq hb

/-- Joining the end of one chain to the start of another makes one chain of them. -/
theorem chain_join (hps : IsChain l.Linked (ps ++ [p])) (hqs : IsChain l.Linked (q :: qs))
    (hleave : (ps ++ p :: q :: qs).dropLast.Nodup) (henter : (ps ++ p :: q :: qs).tail.Nodup) :
    IsChain (l.link p q).Linked (ps ++ p :: q :: qs) := by
  rw [List.dropLast_append_of_ne_nil (by simp), List.dropLast_cons_of_ne_nil (by simp),
    List.nodup_append] at hleave
  rw [List.isChain_append_cons_cons]
  refine ⟨chain_link hps ?_ ?_, l.linked_link p q, chain_link hqs ?_ ?_⟩
  · rw [List.dropLast_concat]
    exact fun h => hleave.2.2 p h p (by simp) rfl
  · cases ps with
    | nil => simp
    | cons a ps =>
        simp only [List.cons_append, List.tail_cons, List.nodup_append] at henter
        simp only [List.cons_append, List.tail_cons, List.mem_append, List.mem_singleton, not_or]
        refine ⟨fun h => henter.2.2 q h q (by simp) rfl, fun h => ?_⟩
        subst h
        simp at henter
  · exact (List.nodup_cons.1 hleave.2.1).1
  · have hsuffix : (q :: qs).Nodup := by
      refine henter.sublist ?_
      cases ps <;> simp
    exact (List.nodup_cons.1 hsuffix).1

/-- Two chains whose joining leads around from `h` to `h`, and meets no node twice, become a ring. -/
theorem ring_join (hnodup : (h :: xs).Nodup) (haround : h :: xs ++ [h] = ps ++ p :: q :: qs)
    (hps : IsChain l.Linked (ps ++ [p])) (hqs : IsChain l.Linked (q :: qs)) :
    (l.link p q).Ring (h :: xs) := by
  have hleave := ring_dropLast_nodup hnodup
  have henter := ring_tail_nodup hnodup
  rw [haround] at hleave henter
  rw [ring_cons, haround]
  exact chain_join hps hqs hleave henter

/-- Rings that hold neither end of a new link are kept. -/
theorem Rings.link (hrs : l.Rings rs) (hp : p ∉ rs.flatten) (hq : q ∉ rs.flatten) :
    (l.link p q).Rings rs := by
  refine ⟨fun r hr => ?_, hrs.nodup⟩
  have hpr : p ∉ r := fun hmem => hp (List.mem_flatten.2 ⟨r, hr, hmem⟩)
  have hqr : q ∉ r := fun hmem => hq (List.mem_flatten.2 ⟨r, hr, hmem⟩)
  cases r with
  | nil => trivial
  | cons h xs =>
      have hchain := ring_cons.1 (hrs.closed _ hr)
      rw [List.mem_cons, not_or] at hqr
      refine chain_link hchain ?_ ?_
      · rwa [List.dropLast_concat]
      · simpa [not_or] using ⟨hqr.2, hqr.1⟩

/-! ## The operations -/

/-- A node that is on no ring becomes one of its own. -/
theorem Rings.single (hrs : l.Rings rs) (hn : n ∉ rs.flatten) :
    (l.link n n).Rings ([n] :: rs) := by
  refine rings_cons.2 ⟨?_, List.nodup_singleton n, by simpa using hn, hrs.link hn hn⟩
  exact List.isChain_pair.2 (l.linked_link n n)

/-- A node that is on no ring is put behind the last one of the first ring. -/
theorem Rings.insert (hrs : l.Rings ((h :: xs) :: rs)) (hn : n ∉ h :: xs) (hrest : n ∉ rs.flatten) :
    ((l.link n h).link (l.prev h) n).Rings ((h :: xs ++ [n]) :: rs) := by
  obtain ⟨hr, hnodup, hdisj, hkept⟩ := rings_cons.1 hrs
  obtain ⟨ps, p, hps⟩ := exists_last h xs
  have hh : h ∉ rs.flatten := hdisj (by simp)
  have hp : p ∉ rs.flatten := hdisj (by simp [hps])
  have hnodup' : (h :: (xs ++ [n])).Nodup := by
    rw [← List.cons_append, List.nodup_append']
    exact ⟨hnodup, List.nodup_singleton n, List.disjoint_singleton.2 hn⟩
  have haround : h :: (xs ++ [n]) ++ [h] = ps ++ p :: n :: [h] := by
    rw [← List.cons_append, hps]
    simp
  have hchain := ring_cons.1 hr
  rw [hps, List.append_assoc] at hchain
  obtain ⟨hfirst, hlast, -⟩ := List.isChain_append_cons_cons.1 hchain
  have hprev : l.prev h = p := hlast.2
  rw [hprev]
  refine rings_cons.2 ⟨?_, hnodup', ?_, (hkept.link hrest hh).link hp hrest⟩
  · refine ring_join hnodup' haround (chain_link hfirst ?_ ?_)
      (List.isChain_pair.2 (l.linked_link n h))
    · rw [List.dropLast_concat]
      exact fun hmem => hn (hps ▸ List.mem_append_left _ hmem)
    · rw [← hps]
      exact (List.nodup_cons.1 hnodup).1
  · rw [List.disjoint_append_left]
    exact ⟨hdisj, List.singleton_disjoint.2 hrest⟩

/-- A node is taken from the first ring. -/
theorem Rings.remove (hrs : l.Rings ((h :: xs ++ n :: ys) :: rs)) :
    (l.link (l.prev n) (l.next n)).Rings ((h :: xs ++ ys) :: rs) := by
  obtain ⟨hr, hnodup, hdisj, hkept⟩ := rings_cons.1 hrs
  obtain ⟨ps, p, hps⟩ := exists_last h xs
  obtain ⟨q, qs, hqs, hqmem⟩ := exists_first ys h
  have hp : p ∈ h :: xs ++ n :: ys := by simp [hps]
  have hq : q ∈ h :: xs ++ n :: ys := by
    simp only [List.mem_append, List.mem_cons] at hqmem ⊢
    tauto
  have haround : h :: (xs ++ n :: ys) ++ [h] = ps ++ p :: n :: q :: qs := by
    rw [← List.cons_append, hps]
    simp [hqs]
  have haround' : h :: (xs ++ ys) ++ [h] = ps ++ p :: q :: qs := by
    rw [← List.cons_append, hps]
    simp [hqs]
  have hnodup' : (h :: (xs ++ ys)).Nodup := by
    refine hnodup.sublist ?_
    rw [← List.cons_append]
    exact (List.Sublist.refl _).append (List.sublist_cons_self n ys)
  have hchain : IsChain l.Linked (h :: (xs ++ n :: ys) ++ [h]) := hr
  rw [haround, List.isChain_append_cons_cons] at hchain
  obtain ⟨hfirst, hbefore, hsecond⟩ := hchain
  obtain ⟨hafter, hsecond⟩ := List.isChain_cons_cons.1 hsecond
  rw [hbefore.2, hafter.1]
  refine rings_cons.2 ⟨?_, hnodup', ?_, hkept.link (hdisj hp) (hdisj hq)⟩
  · exact ring_join hnodup' haround' hfirst hsecond
  · exact fun a ha => hdisj (by simp only [List.mem_append, List.mem_cons] at ha ⊢; tauto)

/-- All nodes of the first ring but its head `h` are put between the head `g` of the second ring and
    the node behind it. -/
theorem Rings.splice {g : ν} (hrs : l.Rings ((h :: xs) :: (g :: ys) :: rs)) (hxs : xs ≠ []) :
    ((l.link g (l.next h)).link (l.prev h) (l.next g)).Rings ((g :: xs ++ ys) :: rs) := by
  obtain ⟨hr, hnodup, hdisj, hrs'⟩ := rings_cons.1 hrs
  obtain ⟨hrg, hnodupg, hdisjg, hkept⟩ := rings_cons.1 hrs'
  rw [List.flatten_cons, List.disjoint_append_right] at hdisj
  obtain ⟨f, xs', rfl⟩ := List.exists_cons_of_ne_nil hxs
  obtain ⟨ps, p, hps⟩ := exists_last f xs'
  obtain ⟨q, qs, hqs, hqmem⟩ := exists_first ys g
  have hpmem : p ∈ f :: xs' := by simp [hps]
  have hjoin : (f :: xs').Disjoint (g :: ys) := fun a ha => hdisj.1 (List.mem_cons_of_mem h ha)
  have hf : ∀ a ∈ f :: xs', a ∉ rs.flatten := fun a ha => hdisj.2 (List.mem_cons_of_mem h ha)
  -- the two rings, opened at their heads
  have hopen : IsChain l.Linked (h :: ps ++ p :: [h]) := by
    have hchain : IsChain l.Linked (h :: f :: xs' ++ [h]) := hr
    simpa [hps] using hchain
  have hopeng : IsChain l.Linked (g :: q :: qs) := by
    have hchain : IsChain l.Linked (g :: (ys ++ [g])) := hrg
    rwa [hqs] at hchain
  obtain ⟨hbody, hlast, -⟩ := List.isChain_append_cons_cons.1 hopen
  rw [List.cons_append, ← hps] at hbody
  obtain ⟨hfirst, hbody⟩ := List.isChain_cons_cons.1 hbody
  obtain ⟨hfirstg, hbodyg⟩ := List.isChain_cons_cons.1 hopeng
  have hnodup' : (g :: (f :: xs' ++ ys)).Nodup := by
    have hboth : ((f :: xs') ++ g :: ys).Nodup :=
      List.nodup_append'.2 ⟨(List.nodup_cons.1 hnodup).2, hnodupg, hjoin⟩
    exact List.perm_middle.nodup_iff.1 hboth
  have haround : g :: (f :: xs' ++ ys) ++ [g] = (g :: ps) ++ p :: q :: qs := by
    rw [hps, ← hqs]
    simp
  rw [hfirst.1, hlast.2, hfirstg.1]
  refine rings_cons.2 ⟨?_, hnodup', ?_,
    (hkept.link (hdisjg (by simp)) (hf f (by simp))).link (hf p hpmem) (hdisjg hqmem)⟩
  · refine ring_join hnodup' haround ?_ ?_
    · have hkeep : (g :: f :: xs').Nodup :=
        hnodup'.sublist ((List.sublist_append_left _ ys).cons_cons g)
      have hjoined : IsChain (l.link g f).Linked ([] ++ g :: f :: xs') :=
        chain_join (List.isChain_singleton g) hbody (hkeep.sublist (List.dropLast_sublist _))
          (List.nodup_cons.1 hkeep).2
      rwa [List.cons_append, ← hps]
    · rw [← hqs] at hbodyg ⊢
      refine chain_link hbodyg ?_ ?_
      · rw [List.dropLast_concat]
        exact (List.nodup_cons.1 hnodupg).1
      · intro hmem
        have hmem' := (List.perm_append_singleton g ys).mem_iff.1 (List.mem_of_mem_tail hmem)
        exact hjoin (by simp) hmem'
  · intro a ha
    rw [List.mem_append, List.mem_cons, or_assoc] at ha
    rcases ha with rfl | ha | ha
    · exact hdisjg (by simp)
    · exact hf a ha
    · exact hdisjg (List.mem_cons_of_mem g ha)

end Links
