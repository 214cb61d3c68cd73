import Mathlib.Data.List.GetD
import Mathlib.Data.List.Pairwise
import Outline.Proofs.Tree.Positions
import Outline.Proofs.Tree.Reduction

/-!
# Siblings in the order of the source

The tree over the positions carries over to every list of labels.  In it the children of an entry
always come in the order of the list, but those of the root are sorted by depth, so they do so
only when no entry without a parent is deeper than a later one.

* `Tree.assemble_eq_map`: an assembled tree is the tree over the positions, relabelled.
* `Tree.exists_unique_nesting`: what is assembled, exactly.
* `Tree.siblingsBy_assemble_iff`: when the children of every node come in the order of the list.
-/

namespace Outline

universe u v

open Assembly

/-! ### Labels and depths by position -/

namespace Assembly

def depthAt (ds : List Int) (i : Nat) : Int := ds.getD i 0

/-- The entries without a parent never get less deep. -/
def TopsAscend (ds : List Int) : Prop :=
  ∀ j < ds.length, ∀ i < j, IsTop (depthAt ds) i → IsTop (depthAt ds) j →
    depthAt ds i ≤ depthAt ds j

instance (ds : List Int) : Decidable (TopsAscend ds) :=
  inferInstanceAs (Decidable (∀ j < ds.length, ∀ i < j, _ → _ → _))

end Assembly

namespace Tree

variable {α : Type u} {β : Type v}

def labelAt (root : α) (labels : List α) : Option Nat → α
  | none => root
  | some i => labels.getD i root

def nesting (ds : List Int) : Tree (Option Nat) := assemble none (numbered (depthAt ds) 0 ds.length)

theorem nests_nesting (ds : List Int) : Nests (depthAt ds) ds.length (nesting ds) :=
  nests_assemble _ _

theorem map_numbered (root : α) (entries : List (α × Int)) :
    (numbered (depthAt (entries.map Prod.snd)) 0 (entries.map Prod.snd).length).map
      (Prod.map (labelAt root (entries.map Prod.fst)) id) = entries := by
  refine List.ext_getElem (by simp [numbered]) fun i hi hi' => ?_
  simp [numbered, depthAt, labelAt, hi']

/-- **An assembled tree is the tree over the positions, relabelled.** -/
theorem assemble_eq_map (root : α) (entries : List (α × Int)) :
    assemble root entries =
      (nesting (entries.map Prod.snd)).map (labelAt root (entries.map Prod.fst)) := by
  rw [nesting, assemble_map, map_numbered]
  rfl

/-- **What is assembled, exactly.**  The depths leave one tree over the positions in which each
position stands once, below its parent in the order of the list, and those without a parent below
the root, by depth first and by position second.  Relabelled, it is the assembled tree, and it is
what the reduction makes. -/
theorem exists_unique_nesting (root : α) (entries : List (α × Int)) :
    ∃ t : Tree (Option Nat),
      (∀ t', Nests (depthAt (entries.map Prod.snd)) entries.length t' ↔ t' = t) ∧
      assemble root entries = t.map (labelAt root (entries.map Prod.fst)) ∧
      reduce ⟨node root [], entries.map fun e => (node e.1 [], e.2)⟩ = assemble root entries := by
  have hnests := nests_nesting (entries.map Prod.snd)
  rw [List.length_map] at hnests
  refine ⟨nesting (entries.map Prod.snd), fun t' => ⟨fun h => h.unique hnests, ?_⟩,
    assemble_eq_map root entries, reduce_eq_assemble root entries⟩
  rintro rfl
  exact hnests

/-! ### Siblings -/

/-- The children of every node come in an order of their labels. -/
def SiblingsBy (r : α → α → Prop) (t : Tree α) : Prop :=
  ∀ s ∈ t.subtrees, (s.children.map label).Pairwise r

theorem siblingsBy_map {r : β → β → Prop} {f : α → β} {t : Tree α} :
    SiblingsBy r (t.map f) ↔ SiblingsBy (fun a b => r (f a) (f b)) t := by
  have hchildren : ∀ s : Tree α, (s.map f).children.map label = (s.children.map label).map f := by
    intro s
    rw [children_map, List.map_map, List.map_map]
    exact List.map_congr_left fun c _ => label_map f c
  constructor
  · intro h s hs
    have := h (s.map f) (by rw [subtrees_map]; exact List.mem_map_of_mem hs)
    rw [hchildren, List.pairwise_map] at this
    exact this
  · intro h s hs
    rw [subtrees_map] at hs
    obtain ⟨s, hs', rfl⟩ := List.mem_map.mp hs
    rw [hchildren, List.pairwise_map]
    exact h s hs'

def Earlier (a b : Option Nat) : Prop := ∃ i j, a = some i ∧ b = some j ∧ i < j

theorem pairwise_earlier_map {l : List Nat} :
    (l.map some).Pairwise Earlier ↔ l.Pairwise (· < ·) := by
  rw [List.pairwise_map]
  constructor
  · refine fun h => h.imp ?_
    rintro i j ⟨i', j', hi, hj, hij⟩
    rwa [Option.some.inj hi, Option.some.inj hj]
  · exact fun h => h.imp fun {i j} hij => ⟨i, j, rfl, rfl, hij⟩

theorem top_pairwise_iff {depth : Nat → Int} {n : Nat} {order : List Nat}
    (hperm : order.Perm ((List.range n).filter fun i => IsTop depth i))
    (hbefore : order.Pairwise (Before depth)) :
    order.Pairwise (· < ·) ↔
      ∀ j < n, ∀ i < j, IsTop depth i → IsTop depth j → depth i ≤ depth j := by
  have hmem : ∀ i, i ∈ order ↔ i < n ∧ IsTop depth i := by
    intro i
    rw [hperm.mem_iff, List.mem_filter, List.mem_range, decide_eq_true_eq]
  constructor
  · intro hlt j hj i hij hti htj
    -- said of both orders of a pair, so that it holds of any two members
    let R := fun a b : Nat => (a < b → depth a ≤ depth b) ∧ (b < a → depth b ≤ depth a)
    have hR : order.Pairwise R := by
      refine (hlt.and hbefore).imp ?_
      rintro a b ⟨hab, hbef⟩
      refine ⟨fun _ => ?_, fun hba => absurd hba (by omega)⟩
      rcases hbef with h | h <;> omega
    have hsymm : Std.Symm R := ⟨fun a b h => ⟨h.2, h.1⟩⟩
    have hi : i ∈ order := (hmem i).mpr ⟨by omega, hti⟩
    exact (hR.forall hi ((hmem j).mpr ⟨hj, htj⟩) (by omega)).1 hij
  · intro h
    refine hbefore.imp_of_mem fun {a b} ha hb hab => ?_
    rcases hab with hd | ⟨-, hab⟩
    · rcases Nat.lt_trichotomy a b with hlt | rfl | hgt
      · exact hlt
      · omega
      · have := h a ((hmem a).mp ha).1 b hgt ((hmem b).mp hb).2 ((hmem a).mp ha).2
        omega
    · exact hab

/-- **Positions come in their order everywhere exactly when those below the root do.** -/
theorem siblingsBy_earlier_iff (ds : List Int) :
    SiblingsBy Earlier (nesting ds) ↔ TopsAscend ds := by
  have hnests := nests_nesting ds
  obtain ⟨order, horder, hperm, hbefore⟩ := hnests.top
  have htop : ((nesting ds).children.map label).Pairwise Earlier ↔ TopsAscend ds := by
    rw [horder, pairwise_earlier_map, top_pairwise_iff hperm hbefore]
    rfl
  rw [← htop]
  constructor
  · exact fun h => h _ (self_mem_subtrees _)
  · intro h s hs
    cases hlabel : s.label with
    | none =>
      rw [hnests.eq_root hs hlabel]
      exact h
    | some j =>
      rw [hnests.children_eq s hs j hlabel, pairwise_earlier_map]
      exact List.Pairwise.filter _ List.pairwise_lt_range

theorem Nests.exists_lt {depth : Nat → Int} {n : Nat} {t s : Tree (Option Nat)}
    (h : Nests depth n t) (hs : s ∈ t.subtrees) {a : Option Nat} (ha : a ∈ s.children.map label) :
    ∃ i, a = some i ∧ i < n := by
  cases hlabel : s.label with
  | none =>
    obtain ⟨order, horder, hperm, -⟩ := h.top
    rw [h.eq_root hs hlabel, horder] at ha
    obtain ⟨i, hi, rfl⟩ := List.mem_map.mp ha
    exact ⟨i, rfl, List.mem_range.mp (List.mem_of_mem_filter (hperm.mem_iff.mp hi))⟩
  | some j =>
    rw [h.children_eq s hs j hlabel] at ha
    obtain ⟨i, hi, rfl⟩ := List.mem_map.mp ha
    exact ⟨i, rfl, List.mem_range.mp (List.mem_of_mem_filter hi)⟩

/-- **When the children of every node come in the order of the list**, told by an order of the
labels: exactly when the entries without a parent never get less deep. -/
theorem siblingsBy_assemble_iff {r : α → α → Prop} (hasymm : ∀ a b, r a b → ¬r b a) (root : α)
    {entries : List (α × Int)} (h : (entries.map Prod.fst).Pairwise r) :
    SiblingsBy r (assemble root entries) ↔ TopsAscend (entries.map Prod.snd) := by
  have hr : ∀ {i j : Nat}, i < entries.length → j < entries.length →
      (r (labelAt root (entries.map Prod.fst) (some i))
        (labelAt root (entries.map Prod.fst) (some j)) ↔ i < j) := by
    intro i j hi hj
    rw [← List.length_map (f := Prod.fst)] at hi hj
    simp only [labelAt, List.getD_eq_getElem _ _ hi, List.getD_eq_getElem _ _ hj]
    rw [List.pairwise_iff_getElem] at h
    refine ⟨fun hij => ?_, h i j hi hj⟩
    rcases Nat.lt_trichotomy i j with hlt | rfl | hgt
    · exact hlt
    · exact absurd hij (hasymm _ _ hij)
    · exact absurd hij (hasymm _ _ (h j i hj hi hgt))
  rw [assemble_eq_map, siblingsBy_map, ← siblingsBy_earlier_iff]
  have hnests := nests_nesting (entries.map Prod.snd)
  rw [List.length_map] at hnests
  refine forall₂_congr fun s hs => ⟨fun hp => ?_, fun hp => ?_⟩
  · refine hp.imp_of_mem fun {a b} ha hb hab => ?_
    obtain ⟨i, rfl, hi⟩ := hnests.exists_lt hs ha
    obtain ⟨j, rfl, hj⟩ := hnests.exists_lt hs hb
    exact ⟨i, j, rfl, rfl, (hr hi hj).mp hab⟩
  · refine hp.imp_of_mem fun {a b} ha hb hab => ?_
    obtain ⟨i, rfl, hi⟩ := hnests.exists_lt hs ha
    obtain ⟨j, rfl, hj⟩ := hnests.exists_lt hs hb
    obtain ⟨i', j', hi', hj', hij⟩ := hab
    obtain rfl := Option.some.inj hi'
    obtain rfl := Option.some.inj hj'
    exact (hr hi hj).mpr hij

end Tree

end Outline
