import Outline.Node
import Outline.Text.Lower
import Outline.Markup.Escape

/-!
# Markup

**Markup** is a tree of elements and texts, as it is written out in HTML.

* `Markup.html`: the markup written out.
* `Markup.textContent`: the texts alone.
-/

namespace Outline

/-- A text, or an element with its attributes and what it contains. -/
inductive Markup where
  | text (data : Text)
  | element (tag : Text) (id : Option Text) (classes : List Text) (attributes : List Attribute)
      (children : List Markup)
deriving Repr, Inhabited

namespace Markup

def voidTags : List String :=
  ["area", "base", "br", "col", "embed", "hr", "img", "input", "link", "meta", "source", "track",
   "wbr"]

/-- An empty element with the tag has no closing tag.  The case of letters does not matter. -/
def isVoidTag (tag : Text) : Bool := voidTags.contains (String.ofList (tag.flatMap Text.lower))

/-- A named entry of an opening tag with its value. -/
def written (name value : Text) : Text := name ++ '=' :: '"' :: escapeValue value ++ ['"']

/-- The entry for an id; an empty one is not written. -/
def idEntry : Option Text → List Text
  | none => []
  | some i => if i = [] then [] else [written ['i', 'd'] i]

def classEntry (classes : List Text) : List Text :=
  if classes = [] then [] else [written ['c', 'l', 'a', 's', 's'] ([' '].intercalate classes)]

def attributeEntry (a : Attribute) : Text :=
  match a.value with
  | none => a.name
  | some v => written a.name v

def openingTag (tag : Text) (id : Option Text) (classes : List Text)
    (attributes : List Attribute) : Text :=
  let entries := tag :: idEntry id ++ classEntry classes ++ attributes.map attributeEntry
  '<' :: [' '].intercalate entries ++ ['>']

def closingTag (tag : Text) : Text := '<' :: '/' :: tag ++ ['>']

mutual

def html : Markup → Text
  | text data => escapeText data
  | element tag id classes attributes children =>
    if isVoidTag tag && children.isEmpty then openingTag tag id classes attributes
    else openingTag tag id classes attributes ++ htmlAll children ++ closingTag tag

def htmlAll : List Markup → Text
  | [] => []
  | m :: ms => html m ++ htmlAll ms

end

mutual

def textContent : Markup → Text
  | text data => data
  | element _ _ _ _ children => textContentAll children

def textContentAll : List Markup → Text
  | [] => []
  | m :: ms => textContent m ++ textContentAll ms

end

def children : Markup → List Markup
  | text _ => []
  | element _ _ _ _ ms => ms

end Markup

end Outline
