import Outline.Text.Lines

/-!
# Lines of an outline

An outline has no closing marks: the **depth** of a line is the number of marker characters that
it starts with.  White space around a line and behind its markers means nothing, and lines that
are blank do not count, but they keep their numbers.

* `Line.scan`: the line that a raw line of text stands for.
* `Line.ofTemplate`: the lines of a whole template.
-/

namespace Outline

/-- A line of an outline: its trimmed text, its depth and its number in the template. -/
structure Line where
  text : Text
  depth : Int
  number : Int
deriving DecidableEq, Repr

namespace Line

/-- The number of marker characters that a text starts with.  A marker that is not a single
character is never met. -/
def leadingMarkers (marker t : Text) : Nat :=
  (t.takeWhile fun c => [c] == marker).length

def scan (marker : Text) (number : Int) (raw : Text) : Line :=
  let body := raw.trim
  let depth := leadingMarkers marker body
  ⟨Text.trim (body.drop depth), depth, number⟩

/-- The lines of a template that are not blank, numbered from one. -/
def ofTemplate (marker template : Text) : List Line :=
  ((template.lines.zipIdx 1).filter fun p => !p.1.isVoid).map fun p => scan marker p.2 p.1

end Line

end Outline
