import Outline.Dom.Element
import Outline.Markup

/-!
# Stores of elements

A **store** holds all elements there are.  An element lists its children, and a child knows the
element that it was attached to last.

* `Store.append`: an element attached to another.
* `Store.markup`: what an element and all below it look like as markup.
* `Store.below`: an element and the elements below it, depth first.
-/

namespace Outline.Dom

/-- All elements there are, in the order of their making. -/
structure Store where
  elements : List Element := []
deriving Repr, Inhabited

namespace Store

def get (s : Store) (r : Ref) : Element := s.elements.getD r default

def next (s : Store) : Ref := s.elements.length

def create (s : Store) (tag : Text) : Store := ⟨s.elements ++ [{ tag := tag }]⟩

def update (s : Store) (r : Ref) (f : Element → Element) : Store := ⟨s.elements.modify r f⟩

/-- The store with one element attached behind the children of another.  It is not taken away
from an element that it was attached to before. -/
def append (s : Store) (parent child : Ref) : Store :=
  (s.update child fun e => { e with parent := some parent }).update parent fun e =>
    { e with children := e.children ++ [.element child] }

/-- The store with several elements attached to one, in order. -/
def mount (s : Store) (container : Ref) (roots : List Ref) : Store :=
  roots.foldl (fun s r => s.append container r) s

/-! ## Views -/

/-- The markup of a child; elements more than `depth` levels down are left out. -/
def childMarkup (s : Store) : Nat → Child → List Markup
  | _, .text data => [.text data]
  | 0, .element _ => []
  | depth + 1, .element r =>
    let e := s.get r
    [.element e.tag e.id e.classes e.attributes (e.children.flatMap (s.childMarkup depth))]

/-- The elements among a child and what is below it, depth first; those more than `depth` levels
down are left out. -/
def childRefs (s : Store) : Nat → Child → List Ref
  | _, .text _ => []
  | 0, .element _ => []
  | depth + 1, .element r => r :: (s.get r).children.flatMap (s.childRefs depth)

/-- A number of levels that no store without cycles exceeds. -/
def levels (s : Store) : Nat := s.elements.length

def contents (s : Store) (r : Ref) : List Markup :=
  (s.get r).children.flatMap (s.childMarkup s.levels)

def markup (s : Store) (r : Ref) : Markup :=
  let e := s.get r
  .element e.tag e.id e.classes e.attributes (s.contents r)

def below (s : Store) (r : Ref) : List Ref :=
  r :: (s.get r).children.flatMap (s.childRefs s.levels)

def findById (s : Store) (r : Ref) (id : Option Text) : Option Ref :=
  (s.below r).find? fun q => (s.get q).id == id

end Store

end Outline.Dom
