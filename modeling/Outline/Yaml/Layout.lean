import Outline.Yaml.Scalar
import Outline.Yaml.Token

/-!
# The layout of a document

A document is read into tokens from left to right.  The **layout** is what the reading has to keep
in mind: the indentation of the open blocks, the number of open brackets, and for each of these
levels the place where a key may have started.  That a scalar was a key is known only when its
colon is met; the token for it is put in then, and with it the start of a block.  No more of the
text is read than it takes to settle what the next token is.

* `Layout.ofText`: the layout at the start of a text.
* `Layout.settle`, `Layout.next?`, `Layout.drop`: the next token settled, looked at, and taken.
-/

namespace Outline.Yaml

/-- A place where a key may have started. -/
structure KeyStart where
  /-- The number of tokens before the key. -/
  token : Nat
  /-- What starts here has to be a key. -/
  required : Bool
  index : Nat
  line : Nat
  column : Nat

/-- What is kept in mind while a document is read. -/
structure Layout where
  cursor : Cursor
  /-- The number of characters that can be read. -/
  size : Nat
  /-- The text ends behind them. -/
  whole : Bool := true
  /-- The number of tokens taken. -/
  taken : Nat := 0
  /-- The tokens read that are not taken yet. -/
  waiting : List Token := []
  /-- The column of the innermost block, or less than zero outside of blocks. -/
  indent : Int := -1
  /-- The columns of the blocks around it. -/
  outer : List Int := []
  /-- The places where keys may have started, by level of brackets, innermost first. -/
  starts : List (Option KeyStart) := [none]
  /-- A key may start here without an indicator. -/
  keyAllowed : Bool := true
  finished : Bool := false

namespace Layout

def inFlow (l : Layout) : Bool := 1 < l.starts.length

def emit (l : Layout) (t : Token) : Layout := { l with waiting := l.waiting ++ [t] }

/-- The layout with a token put in before those that follow the first `n`. -/
def insert (l : Layout) (n : Nat) (t : Token) : Layout :=
  let before := n - l.taken
  { l with waiting := l.waiting.take before ++ t :: l.waiting.drop before }

def moveTo (l : Layout) (c : Cursor) : Layout := { l with cursor := c }

/-! ## Indentation -/

/-- The layout after the blocks are closed that are indented more than a column. -/
def closeBlocks (column : Int) : List Int → Layout → Layout
  | [], l => l
  | i :: outer, l =>
    if column < l.indent then
      closeBlocks column outer { l.emit .blockEnd with indent := i, outer := outer }
    else l

/-- The layout after the blocks are closed that a column ends; brackets keep all blocks open. -/
def unwind (l : Layout) (column : Int) : Layout :=
  if l.inFlow then l else closeBlocks column l.outer l

def openBlock (l : Layout) (column : Nat) : Layout × Bool :=
  if l.indent < column then ({ l with indent := column, outer := l.indent :: l.outer }, true)
  else (l, false)

/-! ## Places where keys may start -/

/-- The places that are still in reach: a key and its colon stand on one line, not too far from
each other. -/
def dropStale (c : Cursor) : List (Option KeyStart) → Except Fault (List (Option KeyStart))
  | [] => .ok []
  | none :: rest => (dropStale c rest).map (none :: ·)
  | some k :: rest =>
    if k.line ≠ c.line ∨ 1024 < c.index - k.index then
      if k.required then .error .malformed else (dropStale c rest).map (none :: ·)
    else (dropStale c rest).map (some k :: ·)

def dropStart (l : Layout) : Except Fault Layout :=
  match l.starts with
  | some k :: rest =>
    if k.required then .error .malformed else .ok { l with starts := none :: rest }
  | _ => .ok l

/-- The layout after the present place is kept in mind, if a key may start there. -/
def saveStart (l : Layout) : Except Fault Layout := do
  if l.keyAllowed then
    let l ← l.dropStart
    let c := l.cursor
    let start : KeyStart :=
      ⟨l.taken + l.waiting.length, !l.inFlow && l.indent == c.column, c.index, c.line, c.column⟩
    .ok { l with starts := some start :: l.starts.tail }
  else .ok l

/-! ## White space -/

/-- The layout behind comments and breaks; a break outside of brackets allows a key. -/
def skipGaps : Nat → Layout → Layout
  | 0, l => l
  | fuel + 1, l =>
    let c := l.cursor.skipSpaces
    let c := if c.peek == '#' then c.skipLine else c
    if isBreak c.peek then
      skipGaps fuel { l with cursor := c.takeBreak.2, keyAllowed := l.keyAllowed || !l.inFlow }
    else l.moveTo c

def toToken (l : Layout) : Layout :=
  let c := l.cursor
  let c := if c.index = 0 && c.peek.toNat = 0xFEFF then c.next else c
  skipGaps (l.size + 1) (l.moveTo c)

/-! ## Directives, anchors and tags -/

def isNameChar (c : Char) : Bool := c.isAlphanum || c == '-' || c == '_'

def isTagChar (c : Char) : Bool :=
  isNameChar c || [';', '/', '?', ':', '@', '&', '=', '+', '$', ',', '.', '!', '~', '*', '\'', '(',
    ')', '[', ']', '%'].contains c

def takeName (c : Cursor) : Except Fault (Text × Cursor) :=
  let name := c.run isNameChar
  if name = [] then .error .malformed else .ok (name, c.advance name.length)

def takeNumber (c : Cursor) : Except Fault (Nat × Cursor) :=
  let digits := c.run Char.isDigit
  if digits = [] then .error .malformed
  else if Text.digitLimit < digits.length then .error (.scalar (.longInteger digits.length))
  else .ok (Text.valueOf 10 digits, c.advance digits.length)

def takeBytes : Nat → Cursor → List UInt8 → Except Fault (List UInt8 × Cursor)
  | 0, c, bytes => .ok (bytes, c)
  | fuel + 1, c, bytes =>
    if c.peek == '%' then
      if Text.isHexDigit (c.peek 1) && Text.isHexDigit (c.peek 2) then
        takeBytes fuel (c.advance 3)
          (bytes ++ [UInt8.ofNat (Text.valueOf 16 [c.peek 1, c.peek 2])])
      else .error .malformed
    else .ok (bytes, c)

/-- The rest of a tag, behind what is read already, its last character first, and the position
behind it. -/
def tagFrom : Nat → Text → Cursor → Except Fault (Text × Cursor)
  | 0, read, c => .ok (read.reverse, c)
  | fuel + 1, read, c => do
    if c.peek == '%' then
      let (bytes, c) ← takeBytes (c.rest.length + 1) c []
      match String.fromUTF8? ⟨bytes.toArray⟩ with
      | some s => tagFrom fuel (s.toList.reverseAux read) c
      | none => .error .malformed
    else if isTagChar c.peek then tagFrom fuel (c.peek :: read) c.next
    else .ok (read.reverse, c)

def takeTag (c : Cursor) : Except Fault (Text × Cursor) := do
  if isTagChar c.peek then tagFrom (c.rest.length + 1) [] c else .error .malformed

def takeHandle (c : Cursor) : Except Fault (Text × Cursor) :=
  if c.peek ≠ '!' then .error .malformed
  else
    let name := c.next.run isNameChar
    let behind := c.next.advance name.length
    if behind.peek == '!' then .ok ('!' :: name ++ ['!'], behind.next)
    else if name = [] && behind.peek == ' ' then .ok (['!'], behind)
    else .error .malformed

/-- A position at which a predicate holds of the next character. -/
def require (p : Char → Bool) (c : Cursor) : Except Fault Cursor :=
  if p c.peek then .ok c else .error .malformed

def takeDirective (c : Cursor) : Except Fault (Token × Cursor) := do
  let (name, c) ← takeName c.next
  let c ← require isSpaceOrEnd c
  let (token, c) ←
    if name = "YAML".toList then do
      let (major, c) ← takeNumber c.skipSpaces
      let c ← require (· == '.') c
      let (_, c) ← takeNumber c.next
      let c ← require isSpaceOrEnd c
      pure (Token.versionDirective major, c)
    else if name = "TAG".toList then do
      let (handle, c) ← takeHandle c.skipSpaces
      let c ← require (· == ' ') c
      let (start, c) ← takeTag c.skipSpaces
      let c ← require isSpaceOrEnd c
      pure (Token.tagDirective handle start, c)
    else pure (Token.otherDirective, c.skipLine)
  let c ← Scalar.skipComment c
  pure (token, c)

def takeAnchor (c : Cursor) : Except Fault (Text × Cursor) := do
  let (name, c) ← takeName c.next
  let c ← require
    (fun ch => isGapOrEnd ch || ['?', ':', ',', ']', '}', '%', '@', '`'].contains ch) c
  pure (name, c)

def takeTagProperty (c : Cursor) : Except Fault (Token × Cursor) := do
  let following := c.peek 1
  let (token, c) ←
    if following == '<' then do
      let (suffix, c) ← takeTag (c.advance 2)
      let c ← require (· == '>') c
      pure (Token.tag none suffix, c.next)
    else if isGapOrEnd following then pure (Token.tag none ['!'], c.next)
    else if (c.next.run fun ch => !isSpaceOrEnd ch).contains '!' then do
      let (handle, c) ← takeHandle c
      let (suffix, c) ← takeTag c
      pure (Token.tag (some handle) suffix, c)
    else do
      let (suffix, c) ← takeTag c.next
      pure (Token.tag (some ['!']) suffix, c)
  let c ← require isSpaceOrEnd c
  pure (token, c)

/-! ## Tokens -/

def leaveBlocks (l : Layout) : Except Fault Layout := do
  let l ← (l.unwind (-1)).dropStart
  pure { l with keyAllowed := false }

def finish (l : Layout) : Except Fault Layout := do
  let l ← l.leaveBlocks
  pure { l with finished := true }

def openFlow (l : Layout) (t : Token) : Except Fault Layout := do
  let l ← l.saveStart
  let l := { l with starts := none :: l.starts, keyAllowed := true }
  pure ((l.emit t).moveTo l.cursor.next)

def closeFlow (l : Layout) (t : Token) : Except Fault Layout := do
  if l.inFlow then
    let l ← l.dropStart
    let l := { l with starts := l.starts.tail, keyAllowed := false }
    pure ((l.emit t).moveTo l.cursor.next)
  else .error .malformed

def flowEntry (l : Layout) : Except Fault Layout := do
  let l ← l.dropStart
  pure (({ l with keyAllowed := true }.emit .flowEntry).moveTo l.cursor.next)

/-- The layout in a block that starts with an entry or a key at the present column; outside of
brackets such a start has to be allowed. -/
def startBlock (l : Layout) (t : Token) : Except Fault Layout :=
  if l.inFlow then .ok l
  else if !l.keyAllowed then .error .malformed
  else
    match l.openBlock l.cursor.column with
    | (l, true) => .ok (l.emit t)
    | (l, false) => .ok l

def blockEntry (l : Layout) : Except Fault Layout := do
  let l ← l.startBlock .blockSequenceStart
  let l ← { l with keyAllowed := true }.dropStart
  pure ((l.emit .blockEntry).moveTo l.cursor.next)

def keyIndicator (l : Layout) : Except Fault Layout := do
  let l ← l.startBlock .blockMappingStart
  let l ← { l with keyAllowed := !l.inFlow }.dropStart
  pure ((l.emit .key).moveTo l.cursor.next)

/-- The layout after the indicator of a value.  If a key may have started on its level, it did. -/
def valueIndicator (l : Layout) : Except Fault Layout := do
  match l.starts with
  | some k :: rest =>
    let l := { l.insert k.token .key with starts := none :: rest, keyAllowed := false }
    let l :=
      if l.inFlow then l
      else
        match l.openBlock k.column with
        | (l, true) => l.insert k.token .blockMappingStart
        | (l, false) => l
    pure ((l.emit .value).moveTo l.cursor.next)
  | _ =>
    let l ← l.startBlock .blockMappingStart
    let l ← { l with keyAllowed := !l.inFlow }.dropStart
    pure ((l.emit .value).moveTo l.cursor.next)

def keyStarter (l : Layout) (t : Token) (c : Cursor) : Except Fault Layout := do
  let l ← l.saveStart
  pure (({ l with keyAllowed := false }.emit t).moveTo c)

def blockScalar (l : Layout) (folded : Bool) : Except Fault Layout := do
  let l ← { l with keyAllowed := true }.dropStart
  let (text, c) ← Scalar.block folded l.indent l.cursor
  pure ((l.emit (.scalar text false)).moveTo c)

def plainScalar (l : Layout) : Except Fault Layout := do
  let l ← l.saveStart
  let p := Scalar.plain l.inFlow (l.indent + 1) l.cursor
  pure (({ l with keyAllowed := p.keyAllowed }.emit (.scalar p.text true)).moveTo p.cursor)

def quotedScalar (l : Layout) (double : Bool) : Except Fault Layout := do
  let l ← l.saveStart
  let (text, c) ← Scalar.quoted double l.cursor
  pure (({ l with keyAllowed := false }.emit (.scalar text false)).moveTo c)

def startsPlain (l : Layout) : Bool :=
  let ch := l.cursor.peek
  let indicators := ['-', '?', ':', ',', '[', ']', '{', '}', '#', '&', '*', '!', '|', '>', '\'',
    '"', '%', '@', '`']
  (!isGapOrEnd ch && !indicators.contains ch)
    || (!isGapOrEnd (l.cursor.peek 1) && (ch == '-' || (!l.inFlow && (ch == '?' || ch == ':'))))

def readToken (l : Layout) : Except Fault Layout := do
  let c := l.cursor
  let ch := c.peek
  let gapFollows := isGapOrEnd (c.peek 1)
  if ch == endMark then if l.whole then l.finish else .error .malformed
  else if ch == '%' && c.column == 0 then
    let l ← l.leaveBlocks
    let (token, c) ← takeDirective c
    pure ((l.emit token).moveTo c)
  else if c.column == 0 && c.atBoundary '-' then
    let l ← l.leaveBlocks
    pure ((l.emit .documentStart).moveTo (c.advance 3))
  else if c.column == 0 && c.atBoundary '.' then
    let l ← l.leaveBlocks
    pure ((l.emit .documentEnd).moveTo (c.advance 3))
  else if ch == '[' then l.openFlow .flowSequenceStart
  else if ch == '{' then l.openFlow .flowMappingStart
  else if ch == ']' then l.closeFlow .flowSequenceEnd
  else if ch == '}' then l.closeFlow .flowMappingEnd
  else if ch == ',' then l.flowEntry
  else if ch == '-' && gapFollows then l.blockEntry
  else if ch == '?' && (l.inFlow || gapFollows) then l.keyIndicator
  else if ch == ':' && (l.inFlow || gapFollows) then l.valueIndicator
  else if ch == '*' then
    let (name, c) ← takeAnchor c
    l.keyStarter (.alias name) c
  else if ch == '&' then
    let (name, c) ← takeAnchor c
    l.keyStarter (.anchor name) c
  else if ch == '!' then
    let (token, c) ← takeTagProperty c
    l.keyStarter token c
  else if ch == '|' && !l.inFlow then l.blockScalar false
  else if ch == '>' && !l.inFlow then l.blockScalar true
  else if ch == '\'' then l.quotedScalar false
  else if ch == '"' then l.quotedScalar true
  else if l.startsPlain then l.plainScalar
  else .error .malformed

def step (l : Layout) : Except Fault Layout := do
  let l := l.toToken
  let starts ← dropStale l.cursor l.starts
  let l := { l with starts := starts }
  (l.unwind l.cursor.column).readToken

/-! ## The next token -/

/-- The least number of a token that a key may have started before. -/
def firstStart : List (Option KeyStart) → Option Nat
  | [] => none
  | none :: rest => firstStart rest
  | some k :: rest => some (((firstStart rest).map (min k.token)).getD k.token)

/-- Whether more has to be read to settle what the next token is: there is none yet, or it may turn
out that a key starts before it.  Places out of reach are given up. -/
def unsettled (l : Layout) : Except Fault (Bool × Layout) :=
  if l.finished then .ok (false, l)
  else if l.waiting = [] then .ok (true, l)
  else do
    let starts ← dropStale l.cursor l.starts
    .ok (firstStart starts == some l.taken, { l with starts := starts })

/-- The layout after up to `fuel` steps that settle the next token. -/
def settleWithin : Nat → Layout → Except Fault Layout
  | 0, _ => .error .malformed
  | fuel + 1, l => do
    let (more, l) ← l.unsettled
    if more then settleWithin fuel (← l.step) else .ok l

/-- The layout after the next token is settled.  Each step reads a character at least, or the end
of the text. -/
def settle (l : Layout) : Except Fault Layout := do
  let (more, l) ← l.unsettled
  if more then settleWithin (l.size + 2) l else .ok l

def next? (l : Layout) : Option Token := l.waiting.head?

def drop (l : Layout) : Layout := { l with taken := l.taken + 1, waiting := l.waiting.tail }

def ofText (t : Text) : Layout :=
  let readable := readablePart t
  let size := readable.length
  { cursor := { rest := readable }, size := size, whole := size == t.length }

end Layout

end Outline.Yaml
