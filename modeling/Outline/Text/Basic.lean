import Outline.Text.Blank

/-!
# Text

A **text** is the list of its characters, so that every function on it is a recursion on the list
and a count is a count of code points.

* `trim`: the text without its outer white space.
* `words`: the maximal runs of characters that are not blank.
* `pieces`: what lies between the occurrences of a separator.
* `cut`: the two sides of the first occurrence of a character.
-/

namespace Outline

/-- A text is the list of its characters. -/
abbrev Text := List Char

namespace Text

def trimLeft (t : Text) : Text := t.dropWhile isBlank

def trimRight (t : Text) : Text := (t.reverse.dropWhile isBlank).reverse

def trim (t : Text) : Text := trimRight (trimLeft t)

def isVoid (t : Text) : Bool := t.all isBlank

/-- The maximal runs of characters that are not blank. -/
def words (t : Text) : List Text := (t.splitOnP isBlank).filter (· ≠ [])

/-- The pieces between the occurrences of `sep`, which are found from the left without overlap.
`skip` characters of the last occurrence are still to be passed over. -/
def piecesFrom (sep : Text) : Nat → Text → List Text
  | _, [] => [[]]
  | skip + 1, _ :: rest => piecesFrom sep skip rest
  | 0, c :: rest =>
    if sep.isPrefixOf (c :: rest) then [] :: piecesFrom sep (sep.length - 1) rest
    else (piecesFrom sep 0 rest).modifyHead (c :: ·)

/-- The pieces between the occurrences of a separator that is not empty; a text without one is
its only piece. -/
def pieces (sep t : Text) : List Text := piecesFrom sep 0 t

/-- What stands before and after the first occurrence of a character. -/
def cut (c : Char) : Text → Option (Text × Text)
  | [] => none
  | d :: rest => if d = c then some ([], rest) else (cut c rest).map fun p => (d :: p.1, p.2)

/-- What stands before and after the last occurrence of a character. -/
def cutLast (c : Char) : Text → Option (Text × Text)
  | [] => none
  | d :: rest =>
    match cutLast c rest with
    | some (before, after) => some (d :: before, after)
    | none => if d = c then some ([], rest) else none

def ofNat (n : Nat) : Text := Nat.toDigits 10 n

def ofInt : Int → Text
  | .ofNat n => ofNat n
  | .negSucc n => '-' :: ofNat (n + 1)

end Text

end Outline
