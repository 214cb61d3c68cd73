import Outline.Yaml.Tag

/-!
# Nodes of a document

A document is made of **nodes**: scalars, sequences and mappings, each with its tag.  An alias
stands for the very node that its anchor is on, so that a node may be a part of several others, and
even of itself.  Nodes are therefore kept in a **graph**, where each has a number, and collections
hold the numbers of their parts.

* `Graph.add`, `Graph.setContent`, `Graph.setTag`: a node put in, and changed.
* `Graph.content`, `Graph.tag`, `Graph.entries`: what is known of a node.
-/

namespace Outline.Yaml

/-- The number of a node in its document. -/
abbrev NodeId := Nat

abbrev Entry := NodeId × NodeId

inductive Content where
  | scalar (text : Text)
  | sequence (items : List NodeId)
  | mapping (entries : List Entry)
deriving DecidableEq, Repr

structure Node where
  tag : Tag
  content : Content
deriving DecidableEq, Repr

/-- The nodes of a document by their numbers. -/
structure Graph where
  nodes : Array Node := #[]
deriving DecidableEq, Repr

namespace Graph

def size (g : Graph) : Nat := g.nodes.size

def tag (g : Graph) (n : NodeId) : Tag := ((g.nodes[n]?).map Node.tag).getD .unknown

def content (g : Graph) (n : NodeId) : Content :=
  ((g.nodes[n]?).map Node.content).getD (.scalar [])

def entries (g : Graph) (n : NodeId) : List Entry :=
  match g.content n with
  | .mapping es => es
  | _ => []

def isMapping (g : Graph) (n : NodeId) : Bool :=
  match g.content n with
  | .mapping _ => true
  | _ => false

def add (g : Graph) (tag : Tag) (content : Content) : NodeId × Graph :=
  (g.nodes.size, ⟨g.nodes.push ⟨tag, content⟩⟩)

def change (g : Graph) (n : NodeId) (f : Node → Node) : Graph := ⟨g.nodes.modify n f⟩

def setContent (g : Graph) (n : NodeId) (content : Content) : Graph :=
  g.change n fun node => { node with content := content }

def setTag (g : Graph) (n : NodeId) (tag : Tag) : Graph :=
  g.change n fun node => { node with tag := tag }

end Graph

end Outline.Yaml
