import Outline.Text.Basic

/-!
# Paths

A **path** names a file by the directories on the way to it, from the root or from the working
directory.  Empty parts and parts that are a single full stop mean nothing; two full stops lead
one directory up and are kept, since what they lead to depends on the files there are.

* `Path.ofText`, `Path.text`: a path from its text and back.
* `Path.parents`: the directories above a path, from the nearest to the root.
-/

namespace Outline

/-- A path; `root` is what it starts with, which is empty unless it starts at the root. -/
structure Path where
  root : Text
  parts : List Text
deriving DecidableEq, Repr, Inhabited

namespace Path

def up : Text := ['.', '.']

def here : Text := ['.']

/-- The separators that a path starts with.  Two of them are kept apart from one; more count as
one. -/
def rootOf (t : Text) : Text :=
  let n := (t.takeWhile (· == '/')).length
  if n = 0 then [] else if n = 2 then ['/', '/'] else ['/']

def ofText (t : Text) : Path :=
  ⟨rootOf t, (t.splitOn '/').filter fun part => part ≠ [] && part ≠ here⟩

/-- The text of a path; the working directory is a full stop. -/
def text (p : Path) : Text :=
  if p.root = [] ∧ p.parts = [] then here else p.root ++ ['/'].intercalate p.parts

def isAbsolute (p : Path) : Bool := p.root ≠ []

def child (p : Path) (name : Text) : Path := { p with parts := p.parts ++ [name] }

/-- The directory that a path is in; at its top a path is in itself. -/
def parent (p : Path) : Path := { p with parts := p.parts.dropLast }

/-- The paths of the first `n` parts, for each `n` from the given one down to zero. -/
def upwards (p : Path) : Nat → List Path
  | 0 => [{ p with parts := [] }]
  | n + 1 => { p with parts := p.parts.take (n + 1) } :: upwards p n

def selfAndParents (p : Path) : List Path := p.upwards p.parts.length

end Path

end Outline
