import Outline.Yaml.Fault

/-!
# Reading position

The rest of a document, and where in the document it starts.  Behind the last character stands an
end mark that no document may hold.

* `Cursor.advance`: the position some characters further on.
* `admissible`: the characters that a document may hold.
* `readablePart`: the start of a text that can be read before another character is met.
-/

namespace Outline.Yaml

/-- The mark behind the last character. -/
def endMark : Char := Char.ofNat 0

def admissible (c : Char) : Bool :=
  c == '\t' || c == '\n' || c == '\r' || (' ' ≤ c && c ≤ '~') || c.toNat == 0x85
    || (0xA0 ≤ c.toNat && c.toNat ≤ 0xD7FF) || (0xE000 ≤ c.toNat && c.toNat ≤ 0xFFFD)
    || 0x10000 ≤ c.toNat

/-- The number of characters that are looked over at once. -/
def portion : Nat := 4096

/-- The start of a text that can be read.  The text is looked over by portions, the first two at
once, and nothing can be read of a portion with a character that no document may hold. -/
def readablePart (t : Text) : Text :=
  let good := (t.takeWhile admissible).length
  if good = t.length then t
  else if good < 2 * portion then []
  else t.take (good / portion * portion)

def isBreak (c : Char) : Bool :=
  c == '\n' || c.toNat == 0x85 || c.toNat == 0x2028 || c.toNat == 0x2029

def endsLine (c : Char) : Bool := c == endMark || isBreak c

def isSpaceOrEnd (c : Char) : Bool := c == ' ' || endsLine c

def isGapOrEnd (c : Char) : Bool := c == '\t' || isSpaceOrEnd c

structure Cursor where
  rest : Text
  index : Nat := 0
  line : Nat := 0
  column : Nat := 0

namespace Cursor

def peek (c : Cursor) (k : Nat := 0) : Char := c.rest.getD k endMark

/-- The next position.  A byte order mark has no width. -/
def next (c : Cursor) : Cursor :=
  match c.rest with
  | [] => c
  | ch :: rest =>
    if isBreak ch then ⟨rest, c.index + 1, c.line + 1, 0⟩
    else ⟨rest, c.index + 1, c.line, if ch.toNat = 0xFEFF then c.column else c.column + 1⟩

def advance (c : Cursor) : Nat → Cursor
  | 0 => c
  | n + 1 => c.next.advance n

def run (c : Cursor) (p : Char → Bool) : Text := c.rest.takeWhile p

def skip (c : Cursor) (p : Char → Bool) : Cursor := c.advance (c.run p).length

def skipSpaces (c : Cursor) : Cursor := c.skip (· == ' ')

def skipLine (c : Cursor) : Cursor := c.skip fun ch => !endsLine ch

/-- The break that comes next, as it counts in a scalar, and the position behind it. -/
def takeBreak (c : Cursor) : Text × Cursor :=
  let ch := c.peek
  if ch == '\n' || ch.toNat == 0x85 then (['\n'], c.next)
  else if isBreak ch then ([ch], c.next)
  else ([], c)

/-- The mark of a document boundary comes next: three times the character, and a gap. -/
def atBoundary (c : Cursor) (ch : Char) : Bool :=
  c.peek == ch && c.peek 1 == ch && c.peek 2 == ch && isGapOrEnd (c.peek 3)

def atAnyBoundary (c : Cursor) : Bool := c.atBoundary '-' || c.atBoundary '.'

end Cursor

end Outline.Yaml
