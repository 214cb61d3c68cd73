/-!
# Trees

A **tree** is a label with an ordered list of trees below it.

* `Tree.walk`: the labels depth first, each before those below it.
* `Tree.map`: the tree with its labels replaced.
-/

namespace Outline

universe u v

/-- A label and the trees below it, in order. -/
inductive Tree (α : Type u) where
  | node (label : α) (children : List (Tree α))
deriving Repr

namespace Tree

variable {α : Type u} {β : Type v}

def label : Tree α → α
  | node a _ => a

def children : Tree α → List (Tree α)
  | node _ ts => ts

@[simp] theorem label_node (a : α) (ts : List (Tree α)) : (node a ts).label = a := rfl

@[simp] theorem children_node (a : α) (ts : List (Tree α)) : (node a ts).children = ts := rfl

mutual

/-- The labels depth first, each before those below it. -/
def walk : Tree α → List α
  | node a ts => a :: walkAll ts

def walkAll : List (Tree α) → List α
  | [] => []
  | t :: ts => walk t ++ walkAll ts

end

mutual

def map (f : α → β) : Tree α → Tree β
  | node a ts => node (f a) (mapAll f ts)

def mapAll (f : α → β) : List (Tree α) → List (Tree β)
  | [] => []
  | t :: ts => map f t :: mapAll f ts

end

theorem walkAll_eq_flatMap (ts : List (Tree α)) : walkAll ts = ts.flatMap walk := by
  induction ts with
  | nil => rfl
  | cons t ts ih => simp [walkAll, ih]

theorem mapAll_eq_map (f : α → β) (ts : List (Tree α)) : mapAll f ts = ts.map (map f) := by
  induction ts with
  | nil => rfl
  | cons t ts ih => simp [mapAll, ih]

end Tree

end Outline
