import Outline.Node.Group
import Outline.Text.Word
import Outline.Text.Digit
import Outline.Node
import Outline.Notice

/-!
# The frame of a line

A line has its parts in a fixed order, with white space allowed between them:

    tag (.class)* (#id)? ((content))? ([attributes])? (@events)*

The **frame** is the line cut into these parts.  It does not depend on the character that
separates attributes; only the attributes of the node do.

* `Frame.read`: the frame of a line, which every line has that starts with a tag.
* `Frame.node`, `Frame.issues`: the node that a frame describes under a separator, and what is
  dropped from it.
-/

namespace Outline

/-- A line cut into its parts. -/
structure Frame where
  tag : Text
  classNames : List Text
  id : Option Text
  content : Option Group
  attributes : Option Group
  eventNames : List Text
  trailing : Text
  tag_ne_nil : tag ≠ []
deriving Repr

namespace Frame

/-! ## Cutting a line -/

/-- The names in a run of classes, and what follows the run.  Names may be left out. -/
def takeClasses : Text → List Text × Text
  | '.' :: rest =>
    let inRun := fun c => Text.isName c || c == '.'
    (((rest.takeWhile inRun).splitOn '.').filter (· ≠ []), rest.dropWhile inRun)
  | t => ([], t)

def takeId : Text → Option Text × Text
  | '#' :: rest =>
    let name := rest.takeWhile Text.isName
    (if name = [] then none else some name, rest.dropWhile Text.isName)
  | t => (none, t)

def takeGroup (opener closer : Char) : Text → Option Group × Text
  | [] => (none, [])
  | c :: rest =>
    if c = opener then
      let (group, rest) := Group.read opener closer rest
      (some group, rest)
    else (none, c :: rest)

/-- The event names, which take the rest of the line, or all of the text when there are none. -/
def takeEvents : Text → List Text × Text
  | '@' :: rest =>
    (((rest.splitOnP fun c => c == '@' || c == ';').map Text.trim).filter (· ≠ []), [])
  | t => ([], t)

def read (line : Text) : Option Frame :=
  let line := line.trim
  let tag := line.takeWhile Text.isWord
  if h : tag = [] then none
  else
    let (classNames, rest) := takeClasses (Text.trimLeft (line.dropWhile Text.isWord))
    let (id, rest) := takeId rest.trimLeft
    let (content, rest) := takeGroup '(' ')' rest.trimLeft
    let (attributes, rest) := takeGroup '[' ']' rest.trimLeft
    let (eventNames, rest) := takeEvents rest.trimLeft
    some ⟨tag, classNames, id, content, attributes, eventNames, rest.trimLeft, h⟩

/-! ## Names -/

def validClass (name : Text) : Bool := !Text.startsWithDigit name

def validAttribute (name : Text) : Bool := name ≠ [] && !Text.startsWithDigit name

def validEvent (name : Text) : Bool := !Text.startsWithDigit name && !name.any Text.isBlank

/-! ## Attributes -/

/-- The attribute that a fragment of the attribute list describes. -/
def ofFragment (fragment : Text) : Attribute :=
  match fragment.cut '=' with
  | some (name, value) => ⟨name.trim, some value.trim⟩
  | none => ⟨fragment, none⟩

/-- All attributes between the brackets, valid or not. -/
def listed (sep : Text) (f : Frame) : List Attribute :=
  match f.attributes with
  | none => []
  | some group =>
    (((Text.pieces sep group.inner).map Text.trim).filter (· ≠ [])).map ofFragment

/-! ## What the frame describes -/

def node (sep : Text) (f : Frame) : Node where
  tag := f.tag
  classes := f.classNames.filter validClass
  id := f.id
  content := f.content.map Group.inner
  attributes := (f.listed sep).filter fun a => validAttribute a.name
  events := f.eventNames.filter validEvent
  tag_ne_nil := f.tag_ne_nil

def closingIssues (opener closer : Char) : Option Group → List Issue
  | none => []
  | some group =>
    match group.closing with
    | .matched => []
    | .last => [.closedAtLast opener closer]
    | .missing => [.unclosed opener]

def headIssues (f : Frame) : List Issue :=
  (f.classNames.filter fun name => !validClass name).map .invalidClass
    ++ closingIssues '(' ')' f.content ++ closingIssues '[' ']' f.attributes

def attributeIssues (sep : Text) (f : Frame) : List Issue :=
  ((f.listed sep).filter fun a => !validAttribute a.name).map fun a => .invalidAttribute a.name

def tailIssues (f : Frame) : List Issue :=
  (f.eventNames.filter fun name => !validEvent name).map .invalidEvent
    ++ if f.trailing = [] then [] else [.trailing f.trailing]

/-- All issues of the line, in the order of its parts. -/
def issues (sep : Text) (f : Frame) : List Issue :=
  f.headIssues ++ f.attributeIssues sep ++ f.tailIssues

end Frame

end Outline
