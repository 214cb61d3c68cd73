import Outline.Line
import Outline.Section
import Outline.Settings
import Outline.Node.Reader
import Outline.Tree.Assembly

/-!
# Templates

A **template** is a text that describes a forest, one node a line.  Every line that is not blank is
read, also one that belongs to no tree, and the first line without a tag refuses the template as a
whole.

* `Template.compile`: the forest of a template, with the notices on the way.
-/

namespace Outline

abbrev Forest := List (Tree Item)

namespace Template

/-- The first line of a template that describes no node. -/
structure Refusal where
  line : Int
  text : Text
deriving DecidableEq, Repr

def Refusal.wording (r : Refusal) : Text :=
  Notice.place (some r.line) ++ Node.Fault.missingTag.wording ++ ": ".toList ++ r.text.quoted

/-- A line and the node that it describes. -/
structure Entry where
  line : Line
  node : Node
deriving DecidableEq, Repr

def Entry.item (e : Entry) : Item := ⟨e.node, some e.line.number⟩

/-- The entries of the lines up to the first that describes no node, with the issues met. -/
def readLines (sep : Text) : List Line → List Notice × Except Refusal (List Entry)
  | [] => ([], .ok [])
  | l :: ls =>
    match Frame.read l.text with
    | none => ([], .error ⟨l.number, l.text⟩)
    | some frame =>
      let (notices, result) := readLines sep ls
      ((frame.issues sep).map (.issue (some l.number)) ++ notices,
        result.map (⟨l, frame.node sep⟩ :: ·))

/-- The notice that an entry belongs to no tree. -/
def orphaned (l : Line) : Notice := .issue (some l.number) (.orphan l.text)

def sectionTree (s : Section Entry) : Tree Item :=
  Tree.assemble s.top.item (s.nested.map fun e => (e.item, e.line.depth))

/-- The forest of the entries of a template, with the notices of those that belong to no tree. -/
def build (entries : List Entry) : List Notice × Forest :=
  let (loose, sections) := Section.split (fun e => e.line.depth) entries
  let forest := sections.map sectionTree
  (loose.map (fun e => orphaned e.line) ++ [.compiled forest.length], forest)

/-- The forest of a template, with the notices on the way. -/
def compile (s : Settings) (template : Text) : List Notice × Except Refusal Forest :=
  let (notices, result) :=
    readLines [s.separator.char] (Line.ofTemplate [s.marker.char] template)
  match result with
  | .error r => (notices, .error r)
  | .ok entries =>
    let (more, forest) := build entries
    (notices ++ more, .ok forest)

end Template

end Outline
