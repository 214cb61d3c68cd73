import Mathlib.Data.List.Perm.Basic
import Outline.Proofs.Template.Sections
import Outline.Proofs.Tree.Subtrees

/-!
# Trees from their levels

A forest is told by its labels depth first, each with its **level**: no entry is more than one
level below the one before it, so every entry finds its parent and nothing has to be sorted.

* `Tree.gather_levels`: a tree that is listed with its levels is gathered whole.
* `Tree.forest`: the forest of a list of labels with depths.
* `Tree.forest_levels`: a forest is made up of its levels again.
* `Tree.forest_perm`, `Tree.forest_map`: the labels of a forest, and relabelling it.
* `Tree.eq_of_forest_eq`: entries of the same depths that make up the same forest are the same.
-/

namespace Outline.Tree

/-! ### Levels -/

section

universe u v

variable {α : Type u} {β : Type v}

mutual

/-- The labels depth first, each with its level, when the root stands at the given one. -/
def levels (level : Nat) : Tree α → List (α × Nat)
  | node a ts => (a, level) :: levelsAll (level + 1) ts

def levelsAll (level : Nat) : List (Tree α) → List (α × Nat)
  | [] => []
  | t :: ts => levels level t ++ levelsAll level ts

end

def atDepth (p : α × Nat) : α × Int := (p.1, p.2)

theorem levels_node (level : Nat) (a : α) (ts : List (Tree α)) :
    (node a ts).levels level = (a, level) :: levelsAll (level + 1) ts := by
  rw [levels]

theorem levelsAll_eq_flatMap (level : Nat) (ts : List (Tree α)) :
    levelsAll level ts = ts.flatMap (levels level) := by
  induction ts with
  | nil => rfl
  | cons t ts ih => rw [levelsAll, ih, List.flatMap_cons]

theorem map_fst_levels (level : Nat) (t : Tree α) : (t.levels level).map Prod.fst = t.walk := by
  induction t using induct generalizing level with
  | step a ts ih =>
    rw [levels_node, walk_node, List.map_cons, levelsAll_eq_flatMap, List.map_flatMap]
    exact congrArg (a :: ·) (List.flatMap_congr fun t ht => ih t ht (level + 1))

theorem map_fst_levelsAll (level : Nat) (ts : List (Tree α)) :
    (levelsAll level ts).map Prod.fst = walkAll ts := by
  rw [levelsAll_eq_flatMap, List.map_flatMap, walkAll_eq_flatMap]
  exact List.flatMap_congr fun t _ => map_fst_levels level t

theorem levels_succ (level : Nat) (t : Tree α) :
    t.levels (level + 1) = (t.levels level).map (Prod.map id (· + 1)) := by
  induction t using induct generalizing level with
  | step a ts ih =>
    rw [levels_node, levels_node, List.map_cons, levelsAll_eq_flatMap, levelsAll_eq_flatMap,
      List.map_flatMap]
    exact congrArg (_ :: ·) (List.flatMap_congr fun t ht => ih t ht (level + 1))

theorem levelsAll_succ (level : Nat) (ts : List (Tree α)) :
    levelsAll (level + 1) ts = (levelsAll level ts).map (Prod.map id (· + 1)) := by
  rw [levelsAll_eq_flatMap, levelsAll_eq_flatMap, List.map_flatMap]
  exact List.flatMap_congr fun t _ => levels_succ level t

theorem le_of_mem_levels {level : Nat} {t : Tree α} {p : α × Nat} (hp : p ∈ t.levels level) :
    level ≤ p.2 := by
  induction t using induct generalizing level with
  | step a ts ih =>
    rw [levels_node, levelsAll_eq_flatMap] at hp
    rcases List.mem_cons.mp hp with rfl | hp
    · exact Nat.le_refl level
    · obtain ⟨t, ht, hp⟩ := List.mem_flatMap.mp hp
      have := ih t ht hp
      omega

theorem le_of_mem_levelsAll {level : Nat} {ts : List (Tree α)} {p : α × Nat}
    (hp : p ∈ levelsAll level ts) : level ≤ p.2 := by
  rw [levelsAll_eq_flatMap] at hp
  obtain ⟨t, -, hp⟩ := List.mem_flatMap.mp hp
  exact le_of_mem_levels hp

/-! ### Gathering levels -/

theorem gather_levelsAll_of {ts : List (Tree α)} {level : Nat} {rest : List (α × Int)}
    (hts : ∀ t ∈ ts, ∀ rest : List (α × Int), (∀ s ∈ gather rest, s.2 ≤ level) →
      gather ((t.levels level).map atDepth ++ rest) = (t, (level : Int)) :: gather rest)
    (hrest : ∀ s ∈ gather rest, s.2 ≤ level) :
    gather ((levelsAll level ts).map atDepth ++ rest) =
      ts.map (fun t => (t, (level : Int))) ++ gather rest := by
  induction ts with
  | nil => rfl
  | cons t ts ih =>
    rw [List.forall_mem_cons] at hts
    have ih := ih hts.2
    have hle : ∀ s ∈ gather ((levelsAll level ts).map atDepth ++ rest), s.2 ≤ level := by
      rw [ih]
      intro s hs
      rcases List.mem_append.mp hs with hs | hs
      · obtain ⟨t', -, rfl⟩ := List.mem_map.mp hs
        exact Int.le_refl _
      · exact hrest s hs
    rw [levelsAll, List.map_append, List.append_assoc, hts.1 _ hle, ih]
    rfl

/-- **A tree that is listed with its levels is gathered whole**, unless something behind it is
deeper than its root. -/
theorem gather_levels (t : Tree α) (level : Nat) (rest : List (α × Int))
    (hrest : ∀ s ∈ gather rest, s.2 ≤ level) :
    gather ((t.levels level).map atDepth ++ rest) = (t, (level : Int)) :: gather rest := by
  induction t using induct generalizing level rest with
  | step a ts ih =>
    have hnext : ∀ s ∈ gather rest, s.2 ≤ ((level + 1 : Nat) : Int) := by
      intro s hs
      have := hrest s hs
      omega
    have hts := gather_levelsAll_of (fun t ht rest => ih t ht (level + 1) rest) hnext
    have hchildren : (ts.map fun t => (t, ((level + 1 : Nat) : Int))).filter
        (fun s => s.2 = (level : Int) + 1) = ts.map fun t => (t, ((level + 1 : Nat) : Int)) := by
      refine List.filter_eq_self.mpr (List.forall_mem_map.mpr fun t _ => ?_)
      exact decide_eq_true (Int.natCast_succ level)
    have hothers : (gather rest).filter (fun s => s.2 = (level : Int) + 1) = [] := by
      refine List.filter_eq_nil_iff.mpr fun s hs => ?_
      have := hrest s hs
      simp only [decide_eq_true_eq]
      omega
    have hnone : (ts.map fun t => (t, ((level + 1 : Nat) : Int))).filter
        (fun s => s.2 ≠ (level : Int) + 1) = [] := by
      refine List.filter_eq_nil_iff.mpr (List.forall_mem_map.mpr fun t _ => ?_)
      simp
    have hkept : (gather rest).filter (fun s => s.2 ≠ (level : Int) + 1) = gather rest := by
      refine List.filter_eq_self.mpr fun s hs => ?_
      have := hrest s hs
      simp only [ne_eq, decide_not, Bool.not_eq_true', decide_eq_false_iff_not]
      omega
    rw [levels_node, List.map_cons, List.cons_append, atDepth, gather, hts, List.filter_append,
      List.filter_append, hchildren, hothers, hnone, hkept, List.append_nil, List.nil_append,
      List.map_map]
    congr
    exact List.map_id ts

/-- **A tree is assembled from the levels below its root.** -/
theorem assemble_levelsAll (a : α) (ts : List (Tree α)) :
    assemble a ((levelsAll 1 ts).map atDepth) = node a ts := by
  have hgather : gather ((levelsAll 1 ts).map atDepth ++ []) =
      ts.map (fun t => (t, ((1 : Nat) : Int))) ++ gather [] :=
    gather_levelsAll_of (fun t _ => gather_levels t 1) nofun
  rw [List.append_nil, gather, List.append_nil] at hgather
  have hsorted : (ts.map fun t => (t, ((1 : Nat) : Int))).Pairwise fun s t => s.2 ≤ t.2 :=
    List.pairwise_map.mpr (List.pairwise_of_forall fun _ _ => Int.le_refl _)
  rw [assemble, hgather, sortByDepth_of_pairwise hsorted, List.map_map]
  congr
  exact List.map_id ts

end

/-! ### Forests -/

variable {α β : Type}

/-- The forest of a list of labels with depths: a tree for each section. -/
def forest (entries : List (α × Int)) : List (Tree α) :=
  (Section.split Prod.snd entries).2.map fun s => assemble s.top.1 s.nested

theorem split_levels (ts : List (Tree α)) :
    Section.split Prod.snd ((levelsAll 0 ts).map atDepth) =
      ([], ts.map fun t => ⟨(t.label, 0), (levelsAll 1 t.children).map atDepth⟩) := by
  induction ts with
  | nil => rfl
  | cons t ts ih =>
    obtain ⟨a, us⟩ := t
    have hne : ∀ p ∈ (levelsAll 1 us).map atDepth, p.2 ≠ 0 := by
      refine List.forall_mem_map.mpr fun p hp => ?_
      have := le_of_mem_levelsAll hp
      simp only [atDepth]
      omega
    rw [levelsAll, List.map_append, levels_node, List.map_cons, List.cons_append, Section.split,
      Section.split_append_of_ne hne, ih, List.append_nil]
    rfl

/-- **A forest is made up of its levels again.** -/
theorem forest_levels (ts : List (Tree α)) : forest ((levelsAll 0 ts).map atDepth) = ts := by
  rw [forest, split_levels, List.map_map]
  refine (List.map_congr_left fun t _ => ?_).trans (List.map_id ts)
  obtain ⟨a, us⟩ := t
  exact assemble_levelsAll a us

/-- **Forests are blind to the labels.** -/
theorem forest_map (f : α → β) (entries : List (α × Int)) :
    (forest entries).map (map f) = forest (entries.map (Prod.map f id)) := by
  rw [forest, forest, Section.split_map (f := Prod.map f id) Prod.snd fun _ => rfl, List.map_map,
    List.map_map]
  exact List.map_congr_left fun s _ => assemble_map f _ _

/-- **The labels of a forest** are those of the entries, when none of them is loose. -/
theorem forest_perm {entries : List (α × Int)} (h : (Section.split Prod.snd entries).1 = []) :
    (walkAll (forest entries)).Perm (entries.map Prod.fst) := by
  have hcuts := (Section.cuts_split Prod.snd entries).eq_append
  rw [h, List.nil_append] at hcuts
  rw [walkAll_eq_flatMap, forest, List.flatMap_map]
  conv_rhs => rw [hcuts, List.map_flatMap]
  exact List.Perm.flatMap_left _ fun s _ => assemble_walk_perm _ _

theorem exists_pairs {as bs : List (α × Int)} (h : as.map Prod.snd = bs.map Prod.snd) :
    ∃ ps : List ((α × α) × Int),
      ps.map (Prod.map Prod.fst id) = as ∧ ps.map (Prod.map Prod.snd id) = bs := by
  induction as generalizing bs with
  | nil => exact ⟨[], rfl, (List.map_eq_nil_iff.mp h.symm).symm⟩
  | cons a as ih =>
    cases bs with
    | nil => exact absurd h (List.cons_ne_nil _ _)
    | cons b bs =>
      obtain ⟨hab, hrest⟩ := List.cons.inj h
      obtain ⟨ps, rfl, rfl⟩ := ih hrest
      exact ⟨((a.1, b.1), a.2) :: ps, rfl, by simp [hab]⟩

/-- **A forest tells its entries**, when their depths are known and none of them is loose. -/
theorem eq_of_forest_eq {as bs : List (α × Int)} (hdepths : as.map Prod.snd = bs.map Prod.snd)
    (hloose : (Section.split Prod.snd as).1 = []) (h : forest as = forest bs) : as = bs := by
  obtain ⟨ps, rfl, rfl⟩ := exists_pairs hdepths
  have hpairs : (Section.split Prod.snd ps).1 = [] := by
    rw [Section.split_map (f := Prod.map Prod.fst id) Prod.snd fun _ => rfl] at hloose
    exact List.map_eq_nil_iff.mp hloose
  have hperm := forest_perm hpairs
  rw [← forest_map, ← forest_map] at h
  have hwalk : (walkAll (forest ps)).map Prod.fst = (walkAll (forest ps)).map Prod.snd := by
    have hall := congrArg walkAll h
    simpa only [walkAll_eq_flatMap, List.flatMap_map, walk_map, ← List.map_flatMap] using hall
  refine List.map_congr_left fun p hp => ?_
  have hmem := hperm.mem_iff.mpr (List.mem_map_of_mem (f := Prod.fst) hp)
  have heq : p.1.1 = p.1.2 := List.map_inj_left.mp hwalk p.1 hmem
  exact Prod.ext heq rfl

end Outline.Tree
