import Outline.Proofs.Dom.Building

/-!
# The numbers of a forest

Elements are numbered as they are made, which is depth first.  So the numbers of a forest make up a
forest of the same shape.

* `Building.handles`, `Building.handlesAll`: the numbers of a tree and of several.
* `Building.walk_handles`: depth first, they are the numbers from the first one on.
* `Building.stepsFrom_roots`: the numbers of the roots.
-/

namespace Outline.Dom.Building

mutual

/-- The numbers of the elements of a tree, whose root gets the number `n`. -/
def handles (n : Nat) : Tree Item → Tree Nat
  | .node _ ts => .node n (handlesAll (n + 1) ts)

def handlesAll (n : Nat) : List (Tree Item) → List (Tree Nat)
  | [] => []
  | t :: ts => handles n t :: handlesAll (n + count t) ts

end

@[simp] theorem label_handles (n : Nat) (t : Tree Item) : (handles n t).label = n := by
  cases t; rw [handles]; rfl

mutual

/-- **Depth first, elements are numbered in order.** -/
theorem walk_handles (n : Nat) : ∀ t : Tree Item, (handles n t).walk = List.range' n (count t)
  | .node i ts => by
    rw [handles, Tree.walk, walkAll_handlesAll (n + 1) ts, count, Nat.add_comm 1, List.range'_succ]

theorem walkAll_handlesAll (n : Nat) :
    ∀ ts : List (Tree Item), Tree.walkAll (handlesAll n ts) = List.range' n (countAll ts)
  | [] => rfl
  | t :: ts => by
    rw [handlesAll, Tree.walkAll, walk_handles n t, walkAll_handlesAll (n + count t) ts, countAll,
      ← List.range'_append_1]

end

/-- **The numbers of the roots.** -/
theorem stepsFrom_roots {ε : Type} (m : Means ε) (n : Nat) (ts : Forest) :
    (stepsFrom m n ts).2 = (handlesAll n ts).map Tree.label := by
  induction ts generalizing n with
  | nil => rfl
  | cons t ts ih => rw [stepsFrom_cons, handlesAll, List.map_cons, label_handles, ih]

end Outline.Dom.Building
