import Mathlib.Data.List.Nodup
import Mathlib.Data.List.Perm.Basic
import Outline.Proofs.Tree.Subtrees

/-!
# Trees over positions

Labels may repeat, so what a list of depths makes up is told on the **positions** of its entries:
the tree over the positions, with the root apart, relabels to the tree over any labels.

* `Assembly.IsParent`: the last entry before another one that is exactly one level up.
* `Tree.Nests`: each position once, below its parent in the order of the list, and the positions
  without a parent below the root, by depth first and by position second.
* `Tree.Nests.unique`: the depths leave one such tree.
* `Tree.nests_assemble`: it is the one that is assembled.
-/

namespace Outline

universe u

/-! ### Parents -/

namespace Assembly

variable {depth : Nat → Int} {i j k m : Nat}

/-- **The parent of an entry**: the last entry before it that is exactly one level up. -/
def IsParent (depth : Nat → Int) (j i : Nat) : Prop :=
  j < i ∧ depth j = depth i - 1 ∧ ∀ k < i, j < k → depth k ≠ depth i - 1

instance : Decidable (IsParent depth j i) :=
  inferInstanceAs (Decidable (_ ∧ _ ∧ _))

/-- An entry that has no parent. -/
def IsTop (depth : Nat → Int) (i : Nat) : Prop := ∀ j < i, ¬IsParent depth j i

instance : Decidable (IsTop depth i) :=
  inferInstanceAs (Decidable (∀ j < i, ¬IsParent depth j i))

theorem exists_isParent (hj : j < i) (hd : depth j = depth i - 1) : ∃ j', IsParent depth j' i := by
  induction hn : i - j using Nat.strongRecOn generalizing j with
  | ind n ih =>
    by_cases h : ∃ k < i, j < k ∧ depth k = depth i - 1
    · obtain ⟨k, hk, hjk, hdk⟩ := h
      exact ih (i - k) (by omega) hk hdk rfl
    · exact ⟨j, hj, hd, fun k hk hjk hdk => h ⟨k, hk, hjk, hdk⟩⟩

/-- **An entry has no parent exactly when no entry before it is one level up.** -/
theorem isTop_iff : IsTop depth i ↔ ∀ j < i, depth j ≠ depth i - 1 := by
  constructor
  · intro h j hj hd
    obtain ⟨j', hj'⟩ := exists_isParent hj hd
    exact h j' hj'.1 hj'
  · intro h j hj hp
    exact h j hj hp.2.1

def IsTopFrom (depth : Nat → Int) (k i : Nat) : Prop := ∀ j < i, k ≤ j → depth j ≠ depth i - 1

instance : Decidable (IsTopFrom depth k i) :=
  inferInstanceAs (Decidable (∀ j < i, k ≤ j → depth j ≠ depth i - 1))

theorem isTopFrom_zero : IsTopFrom depth 0 i ↔ IsTop depth i := by
  rw [isTop_iff]
  exact ⟨fun h j hj => h j hj (Nat.zero_le j), fun h j hj _ => h j hj⟩

theorem isTopFrom_self (k : Nat) : IsTopFrom depth k k := fun _ hj hk => absurd hj (by omega)

theorem isTopFrom_iff_succ (h : k < i) :
    IsTopFrom depth k i ↔ IsTopFrom depth (k + 1) i ∧ depth i ≠ depth k + 1 := by
  constructor
  · intro ht
    refine ⟨fun j hj hk => ht j hj (by omega), fun hd => ht k h (Nat.le_refl k) (by omega)⟩
  · rintro ⟨ht, hd⟩ j hj hk
    rcases Nat.eq_or_lt_of_le hk with rfl | hlt
    · omega
    · exact ht j hj hlt

theorem isParent_iff_isTopFrom (h : k < i) :
    IsParent depth k i ↔ IsTopFrom depth (k + 1) i ∧ depth i = depth k + 1 := by
  constructor
  · rintro ⟨-, hd, hk⟩
    exact ⟨fun j hj hkj => hk j hj hkj, by omega⟩
  · rintro ⟨ht, hd⟩
    exact ⟨h, by omega, fun j hj hkj => ht j hj hkj⟩

def numbered (depth : Nat → Int) (k m : Nat) : List (Option Nat × Int) :=
  (List.range' k m).map fun i => (some i, depth i)

end Assembly

namespace Tree

open Assembly

variable {depth : Nat → Int} {k m n : Nat}

/-! ### Gathering positions -/

private def head (t : Tree (Option Nat) × Int) : Option Nat × Int := (t.1.label, t.2)

theorem gather_numbered_succ (depth : Nat → Int) (k m : Nat) :
    gather (numbered depth k (m + 1)) =
      (node (some k) (((gather (numbered depth (k + 1) m)).filter
        fun t => t.2 = depth k + 1).map Prod.fst), depth k)
        :: (gather (numbered depth (k + 1) m)).filter fun t => t.2 ≠ depth k + 1 := by
  rw [numbered, List.range'_succ, List.map_cons, gather, ← numbered]

/-- **The gathered trees stand at the entries that have no parent among those gathered.** -/
theorem map_head_gather (depth : Nat → Int) (k m : Nat) :
    (gather (numbered depth k m)).map head =
      ((List.range' k m).filter fun i => IsTopFrom depth k i).map fun i => (some i, depth i) := by
  induction m generalizing k with
  | zero => rfl
  | succ m ih =>
    have hfilter : ((gather (numbered depth (k + 1) m)).filter
        fun t => t.2 ≠ depth k + 1).map head =
          ((List.range' (k + 1) m).filter fun i => IsTopFrom depth k i).map
            fun i => (some i, depth i) := by
      have hhead : (gather (numbered depth (k + 1) m)).filter (fun t => t.2 ≠ depth k + 1) =
          (gather (numbered depth (k + 1) m)).filter
            ((fun p : Option Nat × Int => decide (p.2 ≠ depth k + 1)) ∘ head) := rfl
      rw [hhead, ← List.filter_map, ih, List.filter_map, List.filter_filter]
      congr 1
      refine List.filter_congr fun i hi => ?_
      have hk : k < i := by rw [List.mem_range'_1] at hi; omega
      rw [Bool.eq_iff_iff, Bool.and_eq_true, Function.comp_apply, decide_eq_true_eq,
        decide_eq_true_eq, decide_eq_true_eq, isTopFrom_iff_succ hk, and_comm]
    rw [gather_numbered_succ, List.map_cons, hfilter, List.range'_succ, List.filter_cons_of_pos,
      List.map_cons]
    · rfl
    · exact decide_eq_true (isTopFrom_self k)

theorem map_label_gathered (depth : Nat → Int) (k m : Nat) :
    (((gather (numbered depth (k + 1) m)).filter fun t => t.2 = depth k + 1).map Prod.fst).map
        label = ((List.range' (k + 1) m).filter fun i => IsParent depth k i).map some := by
  have hhead : ((gather (numbered depth (k + 1) m)).filter fun t => t.2 = depth k + 1).map
      (label ∘ Prod.fst) = (((gather (numbered depth (k + 1) m)).map head).filter
        fun p => p.2 = depth k + 1).map Prod.fst := by
    rw [List.filter_map, List.map_map]
    rfl
  rw [List.map_map, hhead, map_head_gather, List.filter_map, List.map_map, List.filter_filter]
  congr 1
  refine List.filter_congr fun i hi => ?_
  have hk : k < i := by rw [List.mem_range'_1] at hi; omega
  rw [Bool.eq_iff_iff, Bool.and_eq_true, Function.comp_apply, decide_eq_true_eq,
    decide_eq_true_eq, decide_eq_true_eq, isParent_iff_isTopFrom hk, and_comm]

/-- **Below a position stand the entries whose parent it is, in order.** -/
theorem gather_children (depth : Nat → Int) (k m : Nat) {t : Tree (Option Nat) × Int}
    (ht : t ∈ gather (numbered depth k m)) {s : Tree (Option Nat)} (hs : s ∈ t.1.subtrees) :
    ∃ j, k ≤ j ∧ s.label = some j ∧
      s.children.map label = ((List.range' k m).filter fun i => IsParent depth j i).map some := by
  induction m generalizing k t with
  | zero => exact absurd ht List.not_mem_nil
  | succ m ih =>
    -- a subtree of a tree that was there before keeps its children, which stand behind `k`
    have hold : ∀ t' ∈ gather (numbered depth (k + 1) m), s ∈ t'.1.subtrees →
        ∃ j, k ≤ j ∧ s.label = some j ∧ s.children.map label =
          ((List.range' k (m + 1)).filter fun i => IsParent depth j i).map some := by
      intro t' ht' hs'
      obtain ⟨j, hj, hlabel, hchildren⟩ := ih (k + 1) ht' hs'
      refine ⟨j, by omega, hlabel, ?_⟩
      rw [hchildren, List.range'_succ, List.filter_cons_of_neg]
      simpa using fun h : IsParent depth j k => absurd h.1 (by omega)
    rw [gather_numbered_succ] at ht
    rcases List.mem_cons.mp ht with rfl | ht
    · rw [subtrees_node] at hs
      rcases List.mem_cons.mp hs with rfl | hs
      · refine ⟨k, Nat.le_refl k, rfl, ?_⟩
        rw [children_node, map_label_gathered, List.range'_succ, List.filter_cons_of_neg]
        simpa using fun h : IsParent depth k k => absurd h.1 (by omega)
      · obtain ⟨c, hc, hs⟩ := List.mem_flatMap.mp hs
        obtain ⟨t', ht', rfl⟩ := List.mem_map.mp hc
        exact hold t' (List.mem_of_mem_filter ht') hs
    · exact hold t (List.mem_of_mem_filter ht) hs

/-! ### The tree over the positions -/

/-- The order of the entries below the root: the less deep one first, and of two at one depth the
earlier one. -/
def Before (depth : Nat → Int) (i j : Nat) : Prop := depth i < depth j ∨ depth i = depth j ∧ i < j

/-- **The tree over the first `n` positions.**  Each position stands in it once, below its parent
and in the order of the list; those without a parent stand below the root, which is no position. -/
structure Nests (depth : Nat → Int) (n : Nat) (t : Tree (Option Nat)) : Prop where
  label_eq : t.label = none
  walk_perm : t.walk.Perm (none :: (List.range n).map some)
  children_eq : ∀ s ∈ t.subtrees, ∀ j, s.label = some j →
    s.children.map label = ((List.range n).filter fun i => IsParent depth j i).map some
  top : ∃ order : List Nat, t.children.map label = order.map some ∧
    order.Perm ((List.range n).filter fun i => IsTop depth i) ∧ order.Pairwise (Before depth)

theorem gather_pairwise (depth : Nat → Int) (k m : Nat) :
    (gather (numbered depth k m)).Pairwise
      fun s t => ∃ i j, s.1.label = some i ∧ t.1.label = some j ∧ i < j := by
  have h : ((gather (numbered depth k m)).map head).Pairwise
      fun p q => ∃ i j, p.1 = some i ∧ q.1 = some j ∧ i < j := by
    rw [map_head_gather, List.pairwise_map]
    exact (List.Pairwise.filter _ List.pairwise_lt_range').imp fun {i j} hij =>
      ⟨i, j, rfl, rfl, hij⟩
  rw [List.pairwise_map] at h
  exact h

theorem exists_top_order (depth : Nat → Int) (n : Nat) :
    ∃ order : List Nat,
      (sortByDepth (gather (numbered depth 0 n))).map head =
        order.map (fun i => (some i, depth i)) ∧
      order.Perm ((List.range n).filter fun i => IsTop depth i) ∧
      order.Pairwise (Before depth) := by
  have hperm := (sortByDepth_perm (gather (numbered depth 0 n))).map head
  rw [map_head_gather] at hperm
  have hcomp : Relation.Comp (fun l l' => l = l'.map fun i => (some i, depth i)) List.Perm
      ((sortByDepth (gather (numbered depth 0 n))).map head)
      ((List.range' 0 n).filter fun i => IsTopFrom depth 0 i) := by
    rw [List.eq_map_comp_perm]
    exact hperm
  obtain ⟨order, horder, hp⟩ := hcomp
  refine ⟨order, horder, ?_, ?_⟩
  · rw [List.range_eq_range']
    simpa only [isTopFrom_zero] using hp
  · have hsorted := sortByDepth_pairwise
      (r := fun a b => ∃ i j, a = some i ∧ b = some j ∧ i < j) (gather_pairwise depth 0 n)
    have hheads : ((sortByDepth (gather (numbered depth 0 n))).map head).Pairwise
        fun p q => p.2 < q.2 ∨ p.2 = q.2 ∧ ∃ i j, p.1 = some i ∧ q.1 = some j ∧ i < j :=
      List.pairwise_map.mpr hsorted
    rw [horder, List.pairwise_map] at hheads
    refine hheads.imp fun {i j} h => h.imp id ?_
    rintro ⟨hd, i', j', hi, hj, hij⟩
    obtain rfl := Option.some.inj hi
    obtain rfl := Option.some.inj hj
    exact ⟨hd, hij⟩

/-- **Positions are assembled into the tree over the positions.** -/
theorem nests_assemble (depth : Nat → Int) (n : Nat) :
    Nests depth n (assemble none (numbered depth 0 n)) := by
  obtain ⟨order, horder, hperm, hpairwise⟩ := exists_top_order depth n
  refine ⟨rfl, ?_, ?_, order, ?_, hperm, hpairwise⟩
  · have hwalk := assemble_walk_perm none (numbered depth 0 n)
    rw [numbered, List.map_map] at hwalk
    rw [List.range_eq_range']
    exact hwalk
  · intro s hs j hj
    rw [assemble, subtrees_node] at hs
    rcases List.mem_cons.mp hs with rfl | hs
    · exact absurd hj (Option.some_ne_none j).symm
    · obtain ⟨c, hc, hs⟩ := List.mem_flatMap.mp hs
      obtain ⟨t, ht, rfl⟩ := List.mem_map.mp hc
      obtain ⟨j', -, hj', hchildren⟩ :=
        gather_children depth 0 n ((sortByDepth_perm _).mem_iff.mp ht) hs
      obtain rfl : j' = j := Option.some.inj (hj'.symm.trans hj)
      rw [hchildren, List.range_eq_range']
  · have := congrArg (List.map Prod.fst) horder
    rw [List.map_map, List.map_map] at this
    rw [assemble, children_node, List.map_map]
    exact this

/-! ### There is one tree over the positions -/

/-- The order of the positions below the root leaves no choice. -/
theorem eq_of_perm_of_before {l l' : List Nat} (h : l.Perm l') (hl : l.Pairwise (Before depth))
    (hl' : l'.Pairwise (Before depth)) : l = l' := by
  refine List.Perm.eq_of_pairwise (fun a b _ _ hab hba => ?_) hl hl' h
  rcases hab with hab | ⟨hd, hab⟩ <;> rcases hba with hba | ⟨hd', hba⟩ <;> omega

namespace Nests

variable {t t' s s' : Tree (Option Nat)}

theorem eq_root (h : Nests depth n t) (hs : s ∈ t.subtrees) (hl : s.label = none) : s = t := by
  have hnodup : (t.subtrees.map label).Nodup := by
    rw [map_label_subtrees, h.walk_perm.nodup_iff, List.nodup_cons]
    refine ⟨by simp, List.nodup_range.map fun _ _ he => Option.some.inj he⟩
  exact List.inj_on_of_nodup_map hnodup hs (self_mem_subtrees t) (hl.trans h.label_eq.symm)

theorem map_label_children_eq (h : Nests depth n t) (h' : Nests depth n t')
    (hs : s ∈ t.subtrees) (hs' : s' ∈ t'.subtrees) (hl : s.label = s'.label) :
    s.children.map label = s'.children.map label := by
  cases hlabel : s.label with
  | some j => rw [h.children_eq s hs j hlabel, h'.children_eq s' hs' j (hl ▸ hlabel)]
  | none =>
    obtain ⟨order, horder, hperm, hpairwise⟩ := h.top
    obtain ⟨order', horder', hperm', hpairwise'⟩ := h'.top
    rw [h.eq_root hs hlabel, h'.eq_root hs' (hl ▸ hlabel), horder, horder',
      eq_of_perm_of_before (hperm.trans hperm'.symm) hpairwise hpairwise']

theorem eq_of_label_eq (h : Nests depth n t) (h' : Nests depth n t') :
    s ∈ t.subtrees → s' ∈ t'.subtrees → s.label = s'.label → s = s' := by
  induction s using induct generalizing s' with
  | step a ts ih =>
    intro hs hs' hl
    cases s' with
    | node b ts' =>
      obtain rfl : a = b := hl
      have hlabels : ts.map label = ts'.map label := h.map_label_children_eq h' hs hs' rfl
      refine congrArg (node a) (List.ext_getElem (by simpa using congrArg List.length hlabels) ?_)
      intro i hi hi'
      have hti := List.getElem_mem hi
      have hti' := List.getElem_mem hi'
      refine ih _ hti (subtrees_trans hs ?_) (subtrees_trans hs' ?_) ?_
      · exact mem_subtrees_of_child (t := node a ts) hti (self_mem_subtrees _)
      · exact mem_subtrees_of_child (t := node a ts') hti' (self_mem_subtrees _)
      · have hget : (ts.map label)[i]? = (ts'.map label)[i]? := by rw [hlabels]
        rw [List.getElem?_map, List.getElem?_map, List.getElem?_eq_getElem hi,
          List.getElem?_eq_getElem hi'] at hget
        exact Option.some.inj hget

/-- **The depths leave one tree over the positions.** -/
theorem unique (h : Nests depth n t) (h' : Nests depth n t') : t = t' :=
  h.eq_of_label_eq h' (self_mem_subtrees t) (self_mem_subtrees t')
    (h.label_eq.trans h'.label_eq.symm)

end Nests

end Tree

end Outline
