import Outline.Yaml.Layout
import Outline.Yaml.Node

/-!
# Reading nodes

The tokens of a text make up one **document**, whose nodes are read in the order in which they
start.  An alias is the node that its anchor is on; inside of a collection it may be the collection
itself.

* `Document.ofText`: the document that a text holds.
-/

namespace Outline.Yaml

/-- What is known while tokens are read into nodes. -/
structure Reading where
  layout : Layout
  /-- The nodes so far. -/
  graph : Graph := {}
  /-- Those with anchors. -/
  anchors : List (Text × NodeId) := []
  /-- The starts of tags that handles stand for. -/
  handles : List (Text × Text) := [(['!'], ['!']), (['!', '!'], Tag.standard)]

/-- A step of reading. -/
abbrev Read := StateT Reading (Except Fault)

namespace Read

def fail {α : Type} : Read α := fun _ => .error .malformed

def peek : Read (Option Token) := fun r => do
  let l ← r.layout.settle
  pure (l.next?, { r with layout := l })

def drop : Read Unit := modify fun r => { r with layout := r.layout.drop }

def sees (ts : List Token) : Read Bool := do
  match ← peek with
  | some t => pure (ts.contains t)
  | none => pure false

def accept (t : Token) : Read Bool := do
  if ← sees [t] then
    drop
    pure true
  else pure false

/-- The comma before an entry between brackets, which the first one does without. -/
def separator (isFirst : Bool) : Read Unit := do
  if isFirst then pure ()
  else if ← accept .flowEntry then pure ()
  else fail

def add (tag : Tag) (content : Content) : Read NodeId := fun r =>
  let (n, g) := r.graph.add tag content
  .ok (n, { r with graph := g })

def putAnchor (name : Option Text) (n : NodeId) : Read Unit :=
  match name with
  | none => pure ()
  | some a => modify fun r => { r with anchors := (a, n) :: r.anchors }

def checkAnchor : Option Text → Read Unit
  | none => pure ()
  | some a => do
    if ((← get).anchors.lookup a).isSome then fail else pure ()

def resolve (handle : Option Text) (suffix : Text) : Read Text := do
  match handle with
  | none => pure suffix
  | some h =>
    match (← get).handles.lookup h with
    | none => fail
    | some start => pure (start ++ suffix)

def properties : Read (Option Text × Option Text) := do
  match ← peek with
  | some (.anchor a) =>
    drop
    match ← peek with
    | some (.tag h s) =>
      drop
      pure (some a, some (← resolve h s))
    | _ => pure (some a, none)
  | some (.tag h s) =>
    drop
    match ← peek with
    | some (.anchor a) =>
      drop
      pure (some a, some (← resolve h s))
    | _ => pure (none, some (← resolve h s))
  | _ => pure (none, none)

def absent : Read NodeId := add .null (.scalar [])

/-- The tag of a scalar; the tag that is a mere exclamation mark counts as none. -/
def scalarTag (tag : Option Text) (plain : Bool) (text : Text) : Tag :=
  match tag with
  | none => if plain then Tag.ofForm text else .str
  | some t => if t = ['!'] then Tag.ofForm text else Tag.ofText t

def collectionTag (tag : Option Text) (default : Tag) : Tag :=
  match tag with
  | none => default
  | some t => if t = ['!'] then default else Tag.ofText t

def scalar (anchor tag : Option Text) (plain : Bool) (text : Text) : Read NodeId := do
  let n ← add (scalarTag tag plain text) (.scalar text)
  putAnchor anchor n
  pure n

/-- A collection with its anchor, which may be used already while the parts are read. -/
def collection (anchor tag : Option Text) (default : Tag) (parts : Read Content) : Read NodeId := do
  let n ← add (collectionTag tag default) (.scalar [])
  putAnchor anchor n
  let content ← parts
  modify fun r => { r with graph := r.graph.setContent n content }
  pure n

/-- Where a node stands, which decides the ways it may be written in. -/
inductive Place where
  | flow
  | block
  /-- In a mapping, where a sequence need not be indented. -/
  | entry
deriving DecidableEq, Repr

mutual

/-- The node that comes next. -/
def node : Nat → Place → Read NodeId
  | 0, _ => fail
  | fuel + 1, place => do
    match ← peek with
    | some (.alias name) =>
      drop
      match (← get).anchors.lookup name with
      | some n => pure n
      | none => fail
    | _ =>
      let (anchor, tag) ← properties
      let next ← peek
      checkAnchor anchor
      let sequence (items : Read (List NodeId)) : Read NodeId :=
        collection anchor tag .seq (items.map .sequence)
      let mapping (entries : Read (List Entry)) : Read NodeId :=
        collection anchor tag .map (entries.map .mapping)
      match next with
      | some (.scalar text plain) =>
        drop
        scalar anchor tag plain text
      | some .flowSequenceStart =>
        drop
        sequence (flowItems fuel true)
      | some .flowMappingStart =>
        drop
        mapping (flowEntries fuel true)
      | t =>
        if place = .entry && t = some .blockEntry then sequence (indentless fuel)
        else if place ≠ .flow && t = some .blockSequenceStart then
          drop
          sequence (blockItems fuel)
        else if place ≠ .flow && t = some .blockMappingStart then
          drop
          mapping (blockEntries fuel)
        else if anchor.isSome || tag.isSome then scalar anchor tag true []
        else fail

/-- The node that comes next, unless one of some tokens comes next and it is left out. -/
def nodeUnless : Nat → Place → List Token → Read NodeId
  | 0, _, _ => fail
  | fuel + 1, place, stops => do
    if ← sees stops then absent else node fuel place

def blockItems : Nat → Read (List NodeId)
  | 0 => fail
  | fuel + 1 => do
    if ← accept .blockEntry then
      let n ← nodeUnless fuel .block [.blockEntry, .blockEnd]
      pure (n :: (← blockItems fuel))
    else if ← accept .blockEnd then pure []
    else fail

/-- The items of a sequence that is not indented. -/
def indentless : Nat → Read (List NodeId)
  | 0 => fail
  | fuel + 1 => do
    if ← accept .blockEntry then
      let n ← nodeUnless fuel .block [.blockEntry, .key, .value, .blockEnd]
      pure (n :: (← indentless fuel))
    else pure []

def blockEntries : Nat → Read (List Entry)
  | 0 => fail
  | fuel + 1 => do
    if ← accept .key then
      let k ← nodeUnless fuel .entry [.key, .value, .blockEnd]
      let v ←
        if ← accept .value then nodeUnless fuel .entry [.key, .value, .blockEnd]
        else absent
      pure ((k, v) :: (← blockEntries fuel))
    else if ← accept .blockEnd then pure []
    else fail

def flowItems : Nat → Bool → Read (List NodeId)
  | 0, _ => fail
  | fuel + 1, isFirst => do
    if ← accept .flowSequenceEnd then pure []
    else
      separator isFirst
      if ← accept .flowSequenceEnd then pure []
      else if ← accept .key then
        let k ← nodeUnless fuel .flow [.value, .flowEntry, .flowSequenceEnd]
        let v ←
          if ← accept .value then nodeUnless fuel .flow [.flowEntry, .flowSequenceEnd]
          else absent
        let n ← add .map (.mapping [(k, v)])
        pure (n :: (← flowItems fuel false))
      else
        let n ← node fuel .flow
        pure (n :: (← flowItems fuel false))

def flowEntries : Nat → Bool → Read (List Entry)
  | 0, _ => fail
  | fuel + 1, isFirst => do
    if ← accept .flowMappingEnd then pure []
    else
      separator isFirst
      if ← accept .flowMappingEnd then pure []
      else if ← accept .key then
        let k ← nodeUnless fuel .flow [.value, .flowEntry, .flowMappingEnd]
        let v ←
          if ← accept .value then nodeUnless fuel .flow [.flowEntry, .flowMappingEnd]
          else absent
        pure ((k, v) :: (← flowEntries fuel false))
      else
        let k ← node fuel .flow
        let v ← absent
        pure ((k, v) :: (← flowEntries fuel false))

end

def documentEnds : Nat → Read Unit
  | 0 => pure ()
  | fuel + 1 => do
    if ← accept .documentEnd then documentEnds fuel else pure ()

def directives : Nat → Bool → List Text → Read Unit
  | 0, _, _ => fail
  | fuel + 1, versioned, declared => do
    match ← peek with
    | some (.versionDirective major) =>
      drop
      if versioned || major ≠ 1 then fail else directives fuel true declared
    | some (.tagDirective handle start) =>
      drop
      if declared.contains handle then fail
      else
        modify fun r => { r with handles := (handle, start) :: r.handles }
        directives fuel versioned (handle :: declared)
    | some .otherDirective =>
      drop
      directives fuel versioned declared
    | _ => pure ()

def marked (fuel : Nat) : Read NodeId := do
  directives fuel false []
  if ← accept .documentStart then
    match ← peek with
    | none | some .documentStart | some .documentEnd | some (.versionDirective _)
    | some (.tagDirective _ _) | some .otherDirective => absent
    | _ => node fuel .block
  else fail

/-- The end of the text, which has to follow the first document.  The directives of a second one
are read before it is refused. -/
def ending (fuel : Nat) : Read Unit := do
  documentEnds fuel
  match ← peek with
  | none => pure ()
  | some _ =>
    directives fuel false []
    let _ ← peek
    fail

/-- The node of the only document of a text, none when the text is empty. -/
def document (fuel : Nat) : Read (Option NodeId) := do
  match ← peek with
  | none => pure none
  | some t =>
    let n ←
      match t with
      | .documentStart | .versionDirective _ | .tagDirective _ _ | .otherDirective => marked fuel
      | _ => node fuel .block
    ending fuel
    pure (some n)

end Read

/-- A document as it is read: its nodes, and the one that holds all others. -/
structure Document where
  graph : Graph
  root : NodeId
deriving DecidableEq, Repr

/-- The document that a text holds, none when the text is empty.  A character makes up at most four
tokens, among them the starts and ends of blocks, and each of them is looked at three times. -/
def Document.ofText (t : Text) : Except Fault (Option Document) :=
  (Read.document (12 * (t.length + 1)) |>.run { layout := Layout.ofText t }).map fun p =>
    p.1.map fun n => ⟨p.2.graph, n⟩

end Outline.Yaml
