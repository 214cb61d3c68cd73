import Mathlib.Data.List.Basic
import Outline.Tree.Assembly

/-!
# Subtrees and relabelling

The **subtrees** of a tree are listed depth first, so their labels are its `walk`.  Every
function that builds trees here is blind to the labels, and therefore commutes with `map`.

* `Tree.induct`: induction over a tree with all trees below the root at hand.
* `Tree.assemble_map`: relabelling the entries relabels the tree that they make up.
* `Tree.sortByDepth_perm`, `Tree.sortByDepth_pairwise`: sorting by depth keeps the trees, and
  orders them by depth first and by place second.
* `Tree.assemble_walk_perm`: every entry is assembled once.
-/

namespace Outline.Tree

universe u v w

variable {α : Type u} {β : Type v} {γ : Type w}

/-- Induction over a tree: what holds of a node whenever it holds of all trees below it holds of
every tree. -/
theorem induct {motive : Tree α → Prop}
    (step : ∀ a ts, (∀ t ∈ ts, motive t) → motive (node a ts)) : ∀ t, motive t
  | node a ts => step a ts fun t _ => induct step t

/-! ### Subtrees -/

mutual

/-- The subtrees depth first, each before those below it. -/
def subtrees : Tree α → List (Tree α)
  | node a ts => node a ts :: subtreesAll ts

def subtreesAll : List (Tree α) → List (Tree α)
  | [] => []
  | t :: ts => subtrees t ++ subtreesAll ts

end

theorem subtreesAll_eq_flatMap (ts : List (Tree α)) : subtreesAll ts = ts.flatMap subtrees := by
  induction ts with
  | nil => rfl
  | cons t ts ih => rw [subtreesAll, ih, List.flatMap_cons]

theorem subtrees_node (a : α) (ts : List (Tree α)) :
    (node a ts).subtrees = node a ts :: ts.flatMap subtrees := by
  rw [subtrees, subtreesAll_eq_flatMap]

theorem walk_node (a : α) (ts : List (Tree α)) : (node a ts).walk = a :: ts.flatMap walk := by
  rw [walk, walkAll_eq_flatMap]

theorem map_node (f : α → β) (a : α) (ts : List (Tree α)) :
    (node a ts).map f = node (f a) (ts.map (map f)) := by
  rw [map, mapAll_eq_map]

@[simp] theorem label_map (f : α → β) (t : Tree α) : (t.map f).label = f t.label := by
  cases t; rw [map_node]; rfl

@[simp] theorem children_map (f : α → β) (t : Tree α) :
    (t.map f).children = t.children.map (map f) := by
  cases t; rw [map_node]; rfl

theorem map_map (g : β → γ) (f : α → β) (t : Tree α) : (t.map f).map g = t.map (g ∘ f) := by
  induction t using induct with
  | step a ts ih =>
    rw [map_node, map_node, map_node, List.map_map]
    exact congrArg (node _) (List.map_congr_left fun t ht => ih t ht)

theorem self_mem_subtrees (t : Tree α) : t ∈ t.subtrees := by
  cases t; rw [subtrees_node]; exact List.mem_cons_self

theorem mem_subtrees_of_child {t c s : Tree α} (hc : c ∈ t.children) (hs : s ∈ c.subtrees) :
    s ∈ t.subtrees := by
  cases t with
  | node a ts =>
    rw [subtrees_node]
    exact List.mem_cons_of_mem _ (List.mem_flatMap.mpr ⟨c, hc, hs⟩)

theorem subtrees_trans {t s r : Tree α} (hs : s ∈ t.subtrees) (hr : r ∈ s.subtrees) :
    r ∈ t.subtrees := by
  induction t using induct with
  | step a ts ih =>
    rw [subtrees_node] at hs
    rcases List.mem_cons.mp hs with rfl | hs
    · exact hr
    · obtain ⟨c, hc, hs⟩ := List.mem_flatMap.mp hs
      exact mem_subtrees_of_child (t := node a ts) hc (ih c hc hs)

/-- **The walk lists the labels of the subtrees.** -/
theorem map_label_subtrees (t : Tree α) : t.subtrees.map label = t.walk := by
  induction t using induct with
  | step a ts ih =>
    rw [subtrees_node, walk_node, List.map_cons, label_node, List.map_flatMap]
    exact congrArg (a :: ·) (List.flatMap_congr fun t ht => ih t ht)

theorem map_label_sublist (ts : List (Tree α)) : (ts.map label).Sublist (walkAll ts) := by
  induction ts with
  | nil => exact List.Sublist.slnil
  | cons t ts ih =>
    cases t with
    | node a us => exact (ih.trans (List.sublist_append_right (walkAll us) _)).cons_cons a

theorem subtrees_map (f : α → β) (t : Tree α) : (t.map f).subtrees = t.subtrees.map (map f) := by
  induction t using induct with
  | step a ts ih =>
    rw [subtrees_node, map_node, subtrees_node, List.map_cons, map_node, List.flatMap_map,
      List.map_flatMap]
    exact congrArg (_ :: ·) (List.flatMap_congr fun t ht => ih t ht)

theorem walk_map (f : α → β) (t : Tree α) : (t.map f).walk = t.walk.map f := by
  rw [← map_label_subtrees, ← map_label_subtrees, subtrees_map, List.map_map, List.map_map]
  exact List.map_congr_left fun s _ => label_map f s

theorem walkAll_map (f : α → β) (ts : List (Tree α)) :
    walkAll (ts.map (map f)) = (walkAll ts).map f := by
  rw [walkAll_eq_flatMap, walkAll_eq_flatMap, List.flatMap_map, List.map_flatMap]
  exact List.flatMap_congr fun t _ => walk_map f t

/-! ### Relabelling what is built -/

/-- **Gathering is blind to the labels.** -/
theorem gather_map (f : α → β) (entries : List (α × Int)) :
    gather (entries.map (Prod.map f id)) = (gather entries).map (Prod.map (map f) id) := by
  induction entries with
  | nil => rfl
  | cons e rest ih =>
    obtain ⟨a, d⟩ := e
    rw [List.map_cons, Prod.map_apply, gather, gather, ih, List.map_cons, Prod.map_apply, map_node]
    simp only [List.filter_map, List.map_map, Function.comp_def, id_eq, Prod.map_fst,
      Prod.map_snd]

theorem insertByDepth_map (f : α → β) (t : Tree α × Int) (ts : List (Tree α × Int)) :
    insertByDepth (Prod.map (map f) id t) (ts.map (Prod.map (map f) id)) =
      (insertByDepth t ts).map (Prod.map (map f) id) := by
  induction ts with
  | nil => rfl
  | cons s rest ih =>
    rw [List.map_cons, insertByDepth, insertByDepth]
    by_cases h : s.2 < t.2
    · rw [if_pos (show (Prod.map (map f) id s).2 < (Prod.map (map f) id t).2 from h), if_pos h, ih,
        List.map_cons]
    · rw [if_neg (show ¬(Prod.map (map f) id s).2 < (Prod.map (map f) id t).2 from h), if_neg h,
        List.map_cons, List.map_cons]

theorem sortByDepth_map (f : α → β) (ts : List (Tree α × Int)) :
    sortByDepth (ts.map (Prod.map (map f) id)) = (sortByDepth ts).map (Prod.map (map f) id) := by
  induction ts with
  | nil => rfl
  | cons t rest ih =>
    show insertByDepth _ (sortByDepth _) = (insertByDepth t (sortByDepth rest)).map _
    rw [ih, insertByDepth_map]

/-- **Assembling is blind to the labels.** -/
theorem assemble_map (f : α → β) (root : α) (entries : List (α × Int)) :
    (assemble root entries).map f = assemble (f root) (entries.map (Prod.map f id)) := by
  rw [assemble, assemble, gather_map, sortByDepth_map, map_node, List.map_map, List.map_map]
  rfl

/-! ### Sorting by depth -/

theorem insertByDepth_perm (t : Tree α × Int) (ts : List (Tree α × Int)) :
    (insertByDepth t ts).Perm (t :: ts) := by
  induction ts with
  | nil => exact List.Perm.refl _
  | cons s rest ih =>
    rw [insertByDepth]
    split
    · exact (ih.cons s).trans (List.Perm.swap t s rest)
    · exact List.Perm.refl _

theorem sortByDepth_perm (ts : List (Tree α × Int)) : (sortByDepth ts).Perm ts := by
  induction ts with
  | nil => exact List.Perm.refl _
  | cons t rest ih => exact (insertByDepth_perm t _).trans (ih.cons t)

theorem insertByDepth_of_le {t : Tree α × Int} {ts : List (Tree α × Int)}
    (h : ∀ s ∈ ts, t.2 ≤ s.2) : insertByDepth t ts = t :: ts := by
  cases ts with
  | nil => rfl
  | cons s rest => rw [insertByDepth, if_neg (Int.not_lt.mpr (h s List.mem_cons_self))]

theorem sortByDepth_of_pairwise {ts : List (Tree α × Int)}
    (h : ts.Pairwise fun s t => s.2 ≤ t.2) : sortByDepth ts = ts := by
  induction ts with
  | nil => rfl
  | cons t rest ih =>
    obtain ⟨ht, hrest⟩ := List.pairwise_cons.mp h
    show insertByDepth t (sortByDepth rest) = t :: rest
    rw [ih hrest, insertByDepth_of_le ht]

/-- The order of the trees below a root: by depth first, and by a given order second. -/
def ByDepth (r : α → α → Prop) (s t : Tree α × Int) : Prop :=
  s.2 < t.2 ∨ s.2 = t.2 ∧ r s.1.label t.1.label

theorem insertByDepth_pairwise {r : α → α → Prop} {t : Tree α × Int} {ts : List (Tree α × Int)}
    (ht : ∀ s ∈ ts, r t.1.label s.1.label) (h : ts.Pairwise (ByDepth r)) :
    (insertByDepth t ts).Pairwise (ByDepth r) := by
  induction ts with
  | nil => exact List.pairwise_singleton _ _
  | cons s rest ih =>
    obtain ⟨hs, hrest⟩ := List.pairwise_cons.mp h
    rw [insertByDepth]
    split
    next hlt =>
      refine List.pairwise_cons.mpr
        ⟨fun x hx => ?_, ih (fun x hx => ht x (List.mem_cons_of_mem _ hx)) hrest⟩
      rcases List.mem_cons.mp ((insertByDepth_perm t rest).mem_iff.mp hx) with rfl | hx
      · exact Or.inl hlt
      · exact hs x hx
    next hle =>
      refine List.pairwise_cons.mpr ⟨fun x hx => ?_, h⟩
      have hsx : s.2 ≤ x.2 := by
        rcases List.mem_cons.mp hx with rfl | hx
        · exact Int.le_refl _
        · rcases hs x hx with hd | hd <;> omega
      have htx : t.2 < x.2 ∨ t.2 = x.2 := by omega
      exact htx.imp id fun he => ⟨he, ht x hx⟩

/-- **Sorting by depth is stable.**  Trees whose labels come in some order are sorted by depth,
and those of one depth keep that order. -/
theorem sortByDepth_pairwise {r : α → α → Prop} {ts : List (Tree α × Int)}
    (h : ts.Pairwise fun s t => r s.1.label t.1.label) :
    (sortByDepth ts).Pairwise (ByDepth r) := by
  induction ts with
  | nil => exact List.Pairwise.nil
  | cons t rest ih =>
    obtain ⟨ht, hrest⟩ := List.pairwise_cons.mp h
    exact insertByDepth_pairwise
      (fun s hs => ht s ((sortByDepth_perm rest).mem_iff.mp hs)) (ih hrest)

/-! ### Labels of what is built -/

theorem gather_walk_perm (entries : List (α × Int)) :
    ((gather entries).flatMap fun t => t.1.walk).Perm (entries.map Prod.fst) := by
  induction entries with
  | nil => exact List.Perm.refl _
  | cons e rest ih =>
    obtain ⟨a, d⟩ := e
    have hsplit := List.filter_append_perm (fun t => decide (t.2 = d + 1)) (gather rest)
    have hwalk := (hsplit.flatMap_right fun t => t.1.walk).trans ih
    rw [List.flatMap_append] at hwalk
    rw [gather, List.flatMap_cons, walk_node, List.flatMap_map, List.map_cons, List.cons_append]
    refine List.Perm.cons _ ?_
    convert hwalk using 4
    simp

/-- **Every entry is assembled once.** -/
theorem assemble_walk_perm (root : α) (entries : List (α × Int)) :
    (assemble root entries).walk.Perm (root :: entries.map Prod.fst) := by
  have hwalk := ((sortByDepth_perm (gather entries)).flatMap_right fun t => t.1.walk).trans
    (gather_walk_perm entries)
  rw [assemble, walk_node, List.flatMap_map]
  exact hwalk.cons root

end Outline.Tree
