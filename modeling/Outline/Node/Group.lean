import Outline.Text.Basic

/-!
# Groups

Content and attributes are **groups**: what stands between an opening and a closing character.
Pairs nest, so the group ends where its own pair closes.  When it never does, the group is read
up to the last closing character, or to the end of the text when there is none.

* `Group.balanced`: the text up to the closing character of the open pair.
* `Group.read`: the group behind an opening character, and how it was closed.
-/

namespace Outline

/-- Where a group ends. -/
inductive Closing where
  /-- At the character that closes its pair. -/
  | matched
  /-- At the last closing character, though the pair is still open there. -/
  | last
  /-- At the end of the text. -/
  | missing
deriving DecidableEq, Repr

structure Group where
  inner : Text
  closing : Closing
deriving DecidableEq, Repr

namespace Group

/-- The text before and after the character that closes the open pair, when `depth` more pairs
are open inside it. -/
def balanced (opener closer : Char) : Nat → Text → Option (Text × Text)
  | _, [] => none
  | depth, c :: rest =>
    if c = opener then (balanced opener closer (depth + 1) rest).map fun p => (c :: p.1, p.2)
    else if c = closer then
      match depth with
      | 0 => some ([], rest)
      | depth + 1 => (balanced opener closer depth rest).map fun p => (c :: p.1, p.2)
    else (balanced opener closer depth rest).map fun p => (c :: p.1, p.2)

/-- The group that a text behind an opening character starts with, and what follows it. -/
def read (opener closer : Char) (t : Text) : Group × Text :=
  match balanced opener closer 0 t with
  | some (inner, rest) => (⟨inner, .matched⟩, rest)
  | none =>
    match t.cutLast closer with
    | some (inner, rest) => (⟨inner, .last⟩, rest)
    | none => (⟨t, .missing⟩, [])

end Group

end Outline
