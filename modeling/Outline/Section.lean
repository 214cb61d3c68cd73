/-!
# Sections

An outline falls into **sections**: an entry at depth zero starts one, and the deeper entries up
to the next such entry belong to it.  Entries before the first section are loose.

* `Section.split`: the loose entries and the sections of a list.
-/

namespace Outline

/-- An entry at depth zero, and the entries nested below it. -/
structure Section (α : Type) where
  top : α
  nested : List α
deriving DecidableEq, Repr

/-- The entries before the first one at depth zero, and the sections that follow. -/
def Section.split {α : Type} (depth : α → Int) : List α → List α × List (Section α)
  | [] => ([], [])
  | x :: xs =>
    let (loose, sections) := Section.split depth xs
    if depth x = 0 then ([], ⟨x, loose⟩ :: sections) else (x :: loose, sections)

end Outline
