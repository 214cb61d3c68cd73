import Outline.Yaml.Cursor
import Outline.Text.Numeral

/-!
# Scalars as they are written

Scalars are written plain, between quotes, or as blocks of lines.  Breaks within a scalar are
folded: one break is read as a space, and of several the first is dropped.  Escapes of surrogates,
which no text can hold, are left out of account.

* `Scalar.plain`, `Scalar.quoted`, `Scalar.block`: the text of a scalar, and the position behind
  it.
-/

namespace Outline.Yaml.Scalar

/-! ## Plain scalars -/

/-- The breaks among the breaks and spaces that come next, and the position behind them; none when
they lead to a document boundary. -/
def plainBreaks : Nat → Cursor → Text → Option Text × Cursor
  | 0, c, breaks => (some breaks, c)
  | fuel + 1, c, breaks =>
    if c.peek == ' ' then plainBreaks fuel c.next breaks
    else if isBreak c.peek then
      let (br, c) := c.takeBreak
      if c.atAnyBoundary then (none, c) else plainBreaks fuel c (breaks ++ br)
    else (some breaks, c)

/-- What a break that is followed by others counts for. -/
def fold (first breaks : Text) : Text :=
  if first ≠ ['\n'] then first ++ breaks else if breaks = [] then [' '] else breaks

/-- The white space that comes next in a plain scalar, the position behind it, and whether it holds
a break.  White space that leads to a document boundary counts for nothing. -/
def plainSpaces (c : Cursor) : Text × Cursor × Bool :=
  let spaces := c.run (· == ' ')
  let c := c.skipSpaces
  if isBreak c.peek then
    let (first, c) := c.takeBreak
    if c.atAnyBoundary then ([], c, true)
    else
      match plainBreaks (c.rest.length + 1) c [] with
      | (none, c) => ([], c, true)
      | (some breaks, c) => (fold first breaks, c, true)
  else (spaces, c, false)

def endsRun (flow : Bool) (ch following : Char) : Bool :=
  isGapOrEnd ch
    || (ch == ':' && (isGapOrEnd following
        || (flow && [',', '[', ']', '{', '}'].contains following)))
    || (flow && [',', '?', '[', ']', '{', '}'].contains ch)

def runLength (flow : Bool) : Text → Nat
  | [] => 0
  | ch :: rest => if endsRun flow ch (rest.headD endMark) then 0 else runLength flow rest + 1

structure Plain where
  /-- What is read, the last character first. -/
  read : Text
  cursor : Cursor
  /-- A key may follow, since the scalar ends with a break. -/
  keyAllowed : Bool

def Plain.text (p : Plain) : Text := p.read.reverse

/-- The plain scalar read further, when `spaces` stand before the next run. -/
def plainRuns (flow : Bool) (indent : Int) : Nat → Text → Plain → Plain
  | 0, _, p => p
  | fuel + 1, spaces, p =>
    let n := runLength flow p.cursor.rest
    if p.cursor.peek == '#' || n == 0 then p
    else
      let read := (p.cursor.rest.take n).reverseAux (spaces.reverseAux p.read)
      let (spaces, c, broken) := plainSpaces (p.cursor.advance n)
      let p := ⟨read, c, broken⟩
      if spaces = [] || c.peek == '#' || (!flow && decide ((c.column : Int) < indent)) then p
      else plainRuns flow indent fuel spaces p

/-- The plain scalar that comes next; in blocks its lines are indented by `indent` at least. -/
def plain (flow : Bool) (indent : Int) (c : Cursor) : Plain :=
  plainRuns flow indent (c.rest.length + 1) [] ⟨[], c, false⟩

/-! ## Quoted scalars -/

def quotedBreaks : Nat → Cursor → Text → Except Fault (Text × Cursor)
  | 0, c, breaks => .ok (breaks, c)
  | fuel + 1, c, breaks =>
    if c.atAnyBoundary then .error .malformed
    else
      let c := c.skip fun ch => ch == ' ' || ch == '\t'
      if isBreak c.peek then
        let (br, c) := c.takeBreak
        quotedBreaks fuel c (breaks ++ br)
      else .ok (breaks, c)

/-- The white space that comes next in a quoted scalar. -/
def quotedSpaces (c : Cursor) : Except Fault (Text × Cursor) := do
  let blank := fun ch => ch == ' ' || ch == '\t'
  let spaces := c.run blank
  let c := c.skip blank
  if c.peek == endMark then .error .malformed
  else if isBreak c.peek then
    let (first, c) := c.takeBreak
    let (breaks, c) ← quotedBreaks (c.rest.length + 1) c []
    .ok (fold first breaks, c)
  else .ok (spaces, c)

def escapes : List (Char × Nat) :=
  [('0', 0), ('a', 7), ('b', 8), ('t', 9), ('\t', 9), ('n', 10), ('v', 11), ('f', 12), ('r', 13),
   ('e', 27), (' ', 32), ('"', 34), ('\\', 92), ('/', 47), ('N', 0x85), ('_', 0xA0),
   ('L', 0x2028), ('P', 0x2029)]

/-- The number of hexadecimal digits behind a letter that escapes a code point. -/
def escapeWidth (c : Char) : Option Nat :=
  if c = 'x' then some 2 else if c = 'u' then some 4 else if c = 'U' then some 8 else none

/-- The character with a number.  No text holds a surrogate, so a document that escapes one cannot
be told; its escape is read as the null character. -/
def character (n : Nat) : Except Fault Char :=
  if 0x7FFFFFFF < n then .error (.scalar .wideCharacter)
  else if 0x10FFFF < n then .error (.scalar .noCharacter)
  else .ok (Char.ofNat n)

/-- What stands for the escape behind a backslash, and the position behind it. -/
def escape (c : Cursor) : Except Fault (Text × Cursor) := do
  let ch := c.peek
  match escapes.lookup ch with
  | some n => .ok ([Char.ofNat n], c.next)
  | none =>
    match escapeWidth ch with
    | some width =>
      let digits := (c.next.rest.take width).takeWhile Text.isHexDigit
      if digits.length = width then
        let char ← character (Text.valueOf 16 digits)
        .ok ([char], c.next.advance width)
      else .error .malformed
    | none =>
      if isBreak ch then quotedBreaks (c.rest.length + 1) c.takeBreak.2 []
      else .error .malformed

/-- The text up to the closing quote, behind what is read already, its last character first, and the
position behind the quote. -/
def quotedFrom (double : Bool) : Nat → Text → Cursor → Except Fault (Text × Cursor)
  | 0, _, _ => .error .malformed
  | fuel + 1, read, c => do
    let ch := c.peek
    if ch == ' ' || ch == '\t' || endsLine ch then
      let (spaces, c) ← quotedSpaces c
      quotedFrom double fuel (spaces.reverseAux read) c
    else if double && ch == '\\' then
      let (escaped, c) ← escape c.next
      quotedFrom double fuel (escaped.reverseAux read) c
    else if !double && ch == '\'' && c.peek 1 == '\'' then
      quotedFrom double fuel ('\'' :: read) (c.advance 2)
    else if ch == (if double then '"' else '\'') then .ok (read.reverse, c.next)
    else quotedFrom double fuel (ch :: read) c.next

def quoted (double : Bool) (c : Cursor) : Except Fault (Text × Cursor) :=
  quotedFrom double (c.rest.length + 1) [] c.next

/-! ## Block scalars -/

/-- What becomes of the breaks at the end of a block. -/
inductive Chomping where
  | strip
  | clip
  | keep
deriving DecidableEq, Repr

def chomping (c : Char) : Option Chomping :=
  if c = '+' then some .keep else if c = '-' then some .strip else none

def increment (c : Char) : Option Nat :=
  if c.isDigit then some (c.toNat - 48) else none

def header (c : Cursor) : Except Fault (Chomping × Option Nat × Cursor) := do
  let (chomp, width, c) :=
    match chomping c.peek with
    | some chomp =>
      match increment (c.peek 1) with
      | some n => (chomp, some n, c.advance 2)
      | none => (chomp, none, c.next)
    | none =>
      match increment c.peek with
      | some n =>
        match chomping (c.peek 1) with
        | some chomp => (chomp, some n, c.advance 2)
        | none => (.clip, some n, c.next)
      | none => (.clip, none, c)
  if width = some 0 || !isSpaceOrEnd c.peek then .error .malformed
  else .ok (chomp, width, c)

def skipComment (c : Cursor) : Except Fault Cursor :=
  let c := c.skipSpaces
  let c := if c.peek == '#' then c.skipLine else c
  if endsLine c.peek then .ok c.takeBreak.2 else .error .malformed

/-- The breaks before the first line of a block that is not empty, the greatest column reached by
the spaces among them, and the position behind them. -/
def leadingBreaks : Nat → Cursor → Text → Nat → Text × Nat × Cursor
  | 0, c, breaks, width => (breaks, width, c)
  | fuel + 1, c, breaks, width =>
    if c.peek == ' ' then leadingBreaks fuel c.next breaks (max width c.next.column)
    else if isBreak c.peek then
      let (br, c) := c.takeBreak
      leadingBreaks fuel c (breaks ++ br) width
    else (breaks, width, c)

def skipIndent (indent : Nat) (c : Cursor) : Cursor :=
  c.advance ((c.run (· == ' ')).take (indent - c.column)).length

def blockBreaks (indent : Nat) : Nat → Cursor → Text → Text × Cursor
  | 0, c, breaks => (breaks, c)
  | fuel + 1, c, breaks =>
    let c := skipIndent indent c
    if isBreak c.peek then
      let (br, c) := c.takeBreak
      blockBreaks indent fuel c (breaks ++ br)
    else (breaks, c)

/-- A character that keeps the break before its line from being folded. -/
def keepsBreak (c : Char) : Bool := c == ' ' || c == '\t'

/-- The lines of a block, behind what is read already, its last character first, and the breaks
before them. -/
def blockLines (folded : Bool) (chomp : Chomping) (indent : Nat) :
    Nat → Text → Text → Cursor → Text × Cursor
  | 0, read, _, c => (read.reverse, c)
  | fuel + 1, read, breaks, c =>
    let leads := keepsBreak c.peek
    let line := c.run fun ch => !endsLine ch
    let read := line.reverseAux (breaks.reverseAux read)
    let (br, c) := c.skipLine.takeBreak
    let (breaks, c) := blockBreaks indent (c.rest.length + 1) c []
    if c.column = indent && c.peek != endMark then
      let joint :=
        if folded && br = ['\n'] && !leads && !keepsBreak c.peek then
          if breaks = [] then [' '] else []
        else br
      blockLines folded chomp indent fuel (joint.reverseAux read) breaks c
    else
      match chomp with
      | .strip => (read.reverse, c)
      | .clip => (read.reverse ++ br, c)
      | .keep => (read.reverse ++ br ++ breaks, c)

/-- The text of the block that comes next, within a block that is indented by `parent`, and the
position behind it. -/
def block (folded : Bool) (parent : Int) (c : Cursor) : Except Fault (Text × Cursor) := do
  let (chomp, width, c) ← header c.next
  let c ← skipComment c
  let least := max (parent + 1).toNat 1
  let (breaks, indent, c) :=
    match width with
    | none =>
      let (breaks, reached, c) := leadingBreaks (c.rest.length + 1) c [] 0
      (breaks, max least reached, c)
    | some n =>
      let indent := least + n - 1
      let (breaks, c) := blockBreaks indent (c.rest.length + 1) c []
      (breaks, indent, c)
  if c.column = indent && c.peek != endMark then
    .ok (blockLines folded chomp indent (c.rest.length + 1) [] breaks c)
  else .ok (if chomp = .keep then breaks else [], c)

end Outline.Yaml.Scalar
