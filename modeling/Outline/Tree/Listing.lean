import Outline.Tree
import Outline.Text.Basic

/-!
# Listing a forest

A forest is listed a node a line.  Before the label stand **guides**, one for each level: they
lead from a node down to its later siblings.  The lines are as long as they need to be: a console
that is too narrow for one of them would go on below it, and consoles are taken to be wide enough.

* `Tree.listing`: the lines of a forest.
-/

namespace Outline.Tree

universe u

variable {α : Type u}

def branch (isLast : Bool) : Text := if isLast then ['└', '─', '─', ' '] else ['├', '─', '─', ' ']

def beside (isLast : Bool) : Text := if isLast then [' ', ' ', ' ', ' '] else ['│', ' ', ' ', ' ']

mutual

/-- The lines of a tree behind the guides of the levels above it. -/
def lines (label : α → Text) (guides : Text) (isLast : Bool) : Tree α → List Text
  | node a ts =>
    (guides ++ branch isLast ++ label a) :: listingBehind label (guides ++ beside isLast) ts

def listingBehind (label : α → Text) (guides : Text) : List (Tree α) → List Text
  | [] => []
  | t :: ts => lines label guides ts.isEmpty t ++ listingBehind label guides ts

end

def listing (label : α → Text) (forest : List (Tree α)) : List Text :=
  listingBehind label [] forest

end Outline.Tree
