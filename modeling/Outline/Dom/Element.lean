import Outline.Node
import Outline.Event.Registry

/-!
# Elements

A live element has the parts of a node, but as the host sees them: the attributes `id` and `class`
are no attributes of their own, they set the id and the classes.

* `Element.setAttribute`: an attribute set, under these rules.
* `Element.addClass`: a class added once.
-/

namespace Outline.Dom

/-- Elements are known by their position in the store that holds them. -/
abbrev Ref := Nat

inductive Child where
  | text (data : Text)
  | element (ref : Ref)
deriving DecidableEq, Repr

/-- A live element. -/
structure Element where
  tag : Text
  id : Option Text := none
  classes : List Text := []
  attributes : List Attribute := []
  children : List Child := []
  listeners : List Binding := []
  parent : Option Ref := none
deriving Repr, Inhabited

/-- The list with an item at its end, unless it holds the item already. -/
def insertNew {α : Type} [BEq α] (xs : List α) (x : α) : List α :=
  if xs.contains x then xs else xs ++ [x]

/-- The attributes with one of them set.  One that is set again keeps its place. -/
def putAttribute (name : Text) (value : Option Text) : List Attribute → List Attribute
  | [] => [⟨name, value⟩]
  | a :: rest =>
    if a.name = name then ⟨name, value⟩ :: rest else a :: putAttribute name value rest

/-- The text unless it is empty. -/
def nonempty : Option Text → Option Text
  | some [] => none
  | t => t

namespace Element

def addClass (e : Element) (name : Text) : Element :=
  { e with classes := insertNew e.classes name }

def setId (e : Element) (id : Option Text) : Element := { e with id := id }

def setClasses (e : Element) (value : Text) : Element :=
  { e with classes := value.words.foldl insertNew [] }

/-- An attribute set.  The attribute `id` sets the id, and `class` replaces the classes. -/
def setAttribute (e : Element) (name : Text) (value : Option Text) : Element :=
  if name = ['i', 'd'] then e.setId (nonempty value)
  else if name = ['c', 'l', 'a', 's', 's'] then e.setClasses (value.getD [])
  else { e with attributes := putAttribute name value e.attributes }

def addText (e : Element) (data : Text) : Element :=
  { e with children := e.children ++ [.text data] }

def addListener (e : Element) (b : Binding) : Element :=
  { e with listeners := e.listeners ++ [b] }

end Element

end Outline.Dom
