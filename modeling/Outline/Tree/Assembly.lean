import Outline.Tree
import Outline.Text.Basic

/-!
# Trees from depths

A list of labels with depths has no closing marks.  The **parent** of an entry is the last entry
before it that is exactly one level up; an entry without one hangs below the root.  The entries
below the root are ordered by depth first and by position second, all other children by position.

* `Assembly.deepest`, `Assembly.parent`: the last of the deepest entries, and the parent of an
  entry, by position.
* `Tree.assemble`: the tree that a root and a list of entries make up.
-/

namespace Outline

universe u

/-! ## Positions in a list of depths -/

namespace Assembly

inductive Fault where
  /-- There are no entries to choose from. -/
  | noEntries
  /-- There is no entry at the position. -/
  | outOfRange
deriving DecidableEq, Repr

def Fault.wording : Fault → Text
  | noEntries => "max() arg is an empty sequence".toList
  | outOfRange => "list index out of range".toList

/-- The greatest depth of a list, and the position of its last occurrence. -/
def greatest : List Int → Option (Int × Nat)
  | [] => none
  | d :: ds =>
    match greatest ds with
    | none => some (d, 0)
    | some (m, i) => if m < d then some (d, 0) else some (m, i + 1)

def deepest (depths : List Int) : Except Fault Nat :=
  match greatest depths with
  | none => .error .noEntries
  | some (_, i) => .ok i

/-- The last position at which a depth stands. -/
def lastAt (wanted : Int) : List Int → Option Nat
  | [] => none
  | d :: ds =>
    match lastAt wanted ds with
    | some i => some (i + 1)
    | none => if d = wanted then some 0 else none

/-- The position of the parent of an entry, if it has one.  An index below zero names an entry
from the end of the list; no position stands before such an index, so the entry has no parent. -/
def parent (depths : List Int) (index : Int) : Except Fault (Option Nat) :=
  let position := if index < 0 then index + depths.length else index
  if position < 0 then .error .outOfRange
  else
    match depths[position.toNat]? with
    | none => .error .outOfRange
    | some d => .ok (lastAt (d - 1) (depths.take index.toNat))

end Assembly

/-! ## Assembling -/

namespace Tree

variable {α : Type u}

/-- The trees that have no parent among the entries, with their depths, in the order of the
entries.  Each entry takes the waiting trees behind it that are one level deeper. -/
def gather : List (α × Int) → List (Tree α × Int)
  | [] => []
  | (a, d) :: rest =>
    let waiting := gather rest
    (node a ((waiting.filter fun t => t.2 = d + 1).map Prod.fst), d)
      :: waiting.filter fun t => t.2 ≠ d + 1

/-- Insertion before the first tree that is not less deep. -/
def insertByDepth (t : Tree α × Int) : List (Tree α × Int) → List (Tree α × Int)
  | [] => [t]
  | s :: rest => if s.2 < t.2 then s :: insertByDepth t rest else t :: s :: rest

/-- The trees by ascending depth; those of one depth keep their order. -/
def sortByDepth (ts : List (Tree α × Int)) : List (Tree α × Int) :=
  ts.foldr insertByDepth []

/-- The tree that a root and the entries below it make up. -/
def assemble (root : α) (entries : List (α × Int)) : Tree α :=
  node root ((sortByDepth (gather entries)).map Prod.fst)

end Tree

end Outline
