import Mathlib.Data.List.Chain
import Mathlib.Data.List.Infix
import Outline.Proofs.Tree.Levels
import Outline.Proofs.Tree.Reduction

/-!
# Nesting with a stack

A list of depths can also be nested in one pass, which keeps a stack of the **open** nodes: those
on the way from the root to the entry before.  An entry at depth `d` leaves the first `d` of them
open, becomes the last child of the innermost one, and is open itself.

* `Tree.Growing.push`: one entry of the pass.
* `Tree.OnSpine`: a route that takes the last child each time; `Tree.levels_graft`: what is put
  there comes last in the order of the levels.
* `Tree.Growing.exists_foldlM_push`: what the pass makes of depths that never skip a level.
* `Tree.nest_eq_assemble`: it nests such depths as they are assembled.
-/

namespace Outline.Tree

universe u

variable {α : Type u}

/-! ### Routes -/

/-- The way from the root of a tree down to a node: the position of the child to go on with, level
by level. -/
abbrev Route := List Nat

def subtreeAt : Tree α → Route → Option (Tree α)
  | t, [] => some t
  | node _ ts, i :: r => ts[i]?.bind fun t => subtreeAt t r

def graft : Tree α → Route → Tree α → Tree α
  | node a ts, [], c => node a (ts ++ [c])
  | node a ts, i :: r, c => node a (ts.modify i fun t => graft t r c)

/-- The route takes the last child each time. -/
inductive OnSpine : Route → Tree α → Prop
  | root (t : Tree α) : OnSpine [] t
  | last {a : α} {ts : List (Tree α)} {t : Tree α} {r : Route} (h : OnSpine r t) :
      OnSpine (ts.length :: r) (node a (ts ++ [t]))

theorem graft_last (a : α) (ts : List (Tree α)) (t : Tree α) (r : Route) (c : Tree α) :
    (node a (ts ++ [t])).graft (ts.length :: r) c = node a (ts ++ [t.graft r c]) := by
  rw [graft, Pending.modify_append]

theorem subtreeAt_last (a : α) (ts : List (Tree α)) (t : Tree α) (r : Route) :
    (node a (ts ++ [t])).subtreeAt (ts.length :: r) = t.subtreeAt r := by
  rw [subtreeAt, List.getElem?_concat_length]
  rfl

theorem OnSpine.of_append {r r' : Route} {t : Tree α} (h : OnSpine (r ++ r') t) : OnSpine r t := by
  induction r generalizing t with
  | nil => exact .root t
  | cons i r ih =>
    cases h with
    | last h => exact .last (ih h)

/-- **What is put at the end of the spine is on the spine.** -/
theorem OnSpine.graft {r : Route} {t : Tree α} (h : OnSpine r t) (c : Tree α) :
    ∃ s, t.subtreeAt r = some s ∧ OnSpine (r ++ [s.children.length]) (t.graft r c) := by
  induction h with
  | root t =>
    obtain ⟨a, ts⟩ := t
    exact ⟨node a ts, rfl, .last (.root c)⟩
  | @last a ts t r _ ih =>
    obtain ⟨s, hs, hspine⟩ := ih
    refine ⟨s, (subtreeAt_last a ts t r).trans hs, ?_⟩
    rw [graft_last]
    exact .last hspine

/-- **What is put at the end of the spine comes last** in the order of the levels. -/
theorem levels_graft {r : Route} {t : Tree α} (h : OnSpine r t) (c : Tree α) (level : Nat) :
    (t.graft r c).levels level = t.levels level ++ c.levels (level + r.length + 1) := by
  induction h generalizing level with
  | root t =>
    obtain ⟨a, ts⟩ := t
    rw [graft, levels_node, levels_node, levelsAll_eq_flatMap, levelsAll_eq_flatMap,
      List.flatMap_append, List.flatMap_singleton]
    rfl
  | @last a ts t r _ ih =>
    have hlevel : level + 1 + r.length + 1 = level + (ts.length :: r).length + 1 := by
      rw [List.length_cons]
      omega
    rw [graft_last, levels_node, levels_node, levelsAll_eq_flatMap, levelsAll_eq_flatMap,
      List.flatMap_append, List.flatMap_append, List.flatMap_singleton, List.flatMap_singleton, ih,
      hlevel, List.cons_append, List.append_assoc]

/-! ### The pass -/

/-- A tree that entries are added to, and the stack of the routes to its open nodes, the root
first. -/
structure Growing (α : Type u) where
  tree : Tree α
  opened : List Route

namespace Growing

def start (root : α) : Growing α := ⟨node root [], [[]]⟩

/-- **One entry of the pass**: the stack is cut to the depth of the entry, which becomes the last
child of the node on top and is put on the stack.  It fails when no node is left open. -/
def push (g : Growing α) (e : α × Int) : Option (Growing α) :=
  let kept := g.opened.take e.2.toNat
  kept.getLast?.bind fun top =>
    (g.tree.subtreeAt top).map fun parent =>
      ⟨g.tree.graft top (node e.1 []), kept ++ [top ++ [parent.children.length]]⟩

structure Follows (g : Growing α) (r : Route) : Prop where
  onSpine : OnSpine r g.tree
  opened_eq : g.opened = r.inits

theorem follows_start (root : α) : (start root).Follows [] := ⟨.root _, rfl⟩

/-- **An entry below an open node** becomes the last of the levels, and the end of the route. -/
theorem exists_push {g : Growing α} {r : Route} (h : g.Follows r) (a : α) {d : Int}
    (hpos : 1 ≤ d) (hle : d ≤ (r.length : Int) + 1) :
    ∃ g' r', g.push (a, d) = some g' ∧ g'.Follows r' ∧ (r'.length : Int) = d ∧
      (g'.tree.levels 0).map atDepth = (g.tree.levels 0).map atDepth ++ [(a, d)] := by
  obtain ⟨n, rfl⟩ : ∃ n : Nat, d = (n : Int) + 1 := ⟨(d - 1).toNat, by omega⟩
  have hn : n ≤ r.length := by omega
  have hlen : (r.take n).length = n := List.length_take_of_le hn
  have hspine : OnSpine (r.take n) g.tree := by
    have := h.onSpine
    rw [← List.take_append_drop n r] at this
    exact this.of_append
  have hkept : g.opened.take ((n : Int) + 1).toNat = (r.take n).inits := by
    rw [h.opened_eq, List.take_inits]
    rfl
  have htop : (r.take n).inits.getLast? = some (r.take n) := by
    rw [List.getLast?_eq_getElem?, List.length_inits, List.getElem?_eq_getElem (by simp),
      List.getElem_inits, Nat.add_sub_cancel, List.take_length]
  obtain ⟨s, hs, hnext⟩ := hspine.graft (node a [])
  have hopened : (r.take n ++ [s.children.length]).inits =
      (r.take n).inits ++ [r.take n ++ [s.children.length]] := by
    rw [List.inits_append]
    rfl
  refine ⟨⟨g.tree.graft (r.take n) (node a []), (r.take n ++ [s.children.length]).inits⟩,
    r.take n ++ [s.children.length], ?_, ⟨hnext, rfl⟩, ?_, ?_⟩
  · rw [push]
    simp only [hkept, htop, Option.bind_some, hs, Option.map_some, hopened]
  · rw [List.length_append, hlen, List.length_singleton]
    omega
  · have hlevel : 0 + (r.take n).length + 1 = n + 1 := by omega
    rw [levels_graft hspine, List.map_append, hlevel]
    rfl

def Climbs (d d' : Int) : Prop := 1 ≤ d' ∧ d' ≤ d + 1

/-- **What the pass makes of entries that never skip a level**: they are the last of the levels,
in their order. -/
theorem exists_foldlM_push {g : Growing α} {r : Route} (h : g.Follows r)
    {entries : List (α × Int)}
    (hclimb : ((r.length : Int) :: entries.map Prod.snd).IsChain Climbs) :
    ∃ g', entries.foldlM push g = some g' ∧
      (g'.tree.levels 0).map atDepth = (g.tree.levels 0).map atDepth ++ entries := by
  induction entries generalizing g r with
  | nil => exact ⟨g, rfl, (List.append_nil _).symm⟩
  | cons e entries ih =>
    obtain ⟨a, d⟩ := e
    rw [List.map_cons, List.isChain_cons_cons] at hclimb
    obtain ⟨⟨hpos, hle⟩, hrest⟩ := hclimb
    obtain ⟨g₁, r₁, hpush, hfollows, hlen, hlevels⟩ := exists_push h a hpos hle
    obtain ⟨g₂, hrun, hlevels₂⟩ := ih hfollows (hlen ▸ hrest)
    refine ⟨g₂, ?_, ?_⟩
    · rw [List.foldlM_cons, hpush]
      exact hrun
    · rw [hlevels₂, hlevels, List.append_assoc, List.singleton_append]

end Growing

/-- The tree that the pass makes of a root and the entries below it. -/
def nest (root : α) (entries : List (α × Int)) : Option (Tree α) :=
  (entries.foldlM Growing.push (Growing.start root)).map Growing.tree

/-! ### The pass and the reduction -/

theorem eq_assemble_of_levels {t : Tree α} {root : α} {entries : List (α × Int)}
    (h : (t.levels 0).map atDepth = (root, 0) :: entries) : t = assemble root entries := by
  obtain ⟨a, ts⟩ := t
  rw [levels_node, List.map_cons, List.cons_eq_cons] at h
  obtain ⟨hroot, rfl⟩ := h
  obtain rfl : a = root := congrArg Prod.fst hroot
  exact (assemble_levelsAll a ts).symm

/-- **Nesting with a stack agrees with assembling**, and with the reduction, when the first entry
stands one level below the root and no entry skips a level.  Then each node stands as many levels
below the root as its depth says, and the nodes come depth first in the order of the list. -/
theorem nest_eq_assemble (root : α) {entries : List (α × Int)}
    (h : ((0 : Int) :: entries.map Prod.snd).IsChain Growing.Climbs) :
    nest root entries = some (assemble root entries) ∧
      reduce ⟨node root [], entries.map fun e => (node e.1 [], e.2)⟩ = assemble root entries ∧
      ((assemble root entries).levels 0).map atDepth = (root, 0) :: entries ∧
      (assemble root entries).walk = root :: entries.map Prod.fst := by
  obtain ⟨g, hrun, hlevels⟩ := Growing.exists_foldlM_push (Growing.follows_start root) h
  have htree : g.tree = assemble root entries := eq_assemble_of_levels hlevels
  rw [htree] at hlevels
  refine ⟨by rw [nest, hrun, ← htree]; rfl, reduce_eq_assemble root entries, hlevels, ?_⟩
  have hwalk := congrArg (List.map Prod.fst) hlevels
  rw [List.map_map] at hwalk
  rw [← map_fst_levels 0]
  exact hwalk

/-- Entries that go up several levels at once. -/
theorem nest_eq_assemble_of_return :
    ((0 : Int) :: [('a', (1 : Int)), ('b', 2), ('c', 3), ('d', 2), ('e', 1)].map Prod.snd).IsChain
        Growing.Climbs ∧
      nest 'r' [('a', 1), ('b', 2), ('c', 3), ('d', 2), ('e', 1)] = some (.node 'r'
        [.node 'a' [.node 'b' [.node 'c' []], .node 'd' []], .node 'e' []]) := by
  have hclimb : ((0 : Int) :: [('a', (1 : Int)), ('b', 2), ('c', 3), ('d', 2), ('e', 1)].map
      Prod.snd).IsChain Growing.Climbs := by
    simp [Growing.Climbs]
  exact ⟨hclimb, (nest_eq_assemble 'r' hclimb).1⟩

end Outline.Tree
