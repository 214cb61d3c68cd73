import Outline.Text.Basic

/-!
# Nodes

A **node** is what one line of an outline describes: a tag with classes, an id, content,
attributes and the names of its events.

* `Node.source`: the line that describes a node, without markers.
* `Item`: a node and the number of the line it comes from.
-/

namespace Outline

/-- An attribute with its value, or without one when it only has to be present. -/
structure Attribute where
  name : Text
  value : Option Text
deriving DecidableEq, Repr

/-- The description of one element.  Every element has a tag. -/
structure Node where
  tag : Text
  classes : List Text
  id : Option Text
  content : Option Text
  attributes : List Attribute
  events : List Text
  tag_ne_nil : tag ≠ []
deriving DecidableEq, Repr

def Attribute.source (a : Attribute) : Text :=
  match a.value with
  | none => a.name
  | some v => a.name ++ '=' :: v

namespace Node

def classSource (classes : List Text) : Text := classes.flatMap ('.' :: ·)

/-- An id is written behind a number sign; an empty one is not written. -/
def idSource : Option Text → Text
  | none => []
  | some i => if i = [] then [] else '#' :: i

def contentSource : Option Text → Text
  | none => []
  | some c => '(' :: c ++ [')']

def attributeSource (sep : Text) (attributes : List Attribute) : Text :=
  if attributes = [] then []
  else '[' :: sep.intercalate (attributes.map Attribute.source) ++ [']']

def eventSource (events : List Text) : Text :=
  if events = [] then [] else '@' :: [';'].intercalate events

/-- The line that describes the node, in which attributes are separated by `sep`. -/
def source (sep : Text) (n : Node) : Text :=
  n.tag ++ classSource n.classes ++ idSource n.id ++ contentSource n.content
    ++ attributeSource sep n.attributes ++ eventSource n.events

end Node

/-- A node and the number of the line that describes it, if it comes from a numbered line. -/
structure Item where
  node : Node
  line : Option Int
deriving DecidableEq, Repr

end Outline
