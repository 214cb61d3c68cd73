import Outline.Text.Columns

/-!
# Text for a terminal

What is printed for people is cleaned first: escape sequences that would set colours are taken out
of messages, and labels are shown without control characters and with their tabs filled up by
spaces.

* `withoutSequences`: a message without escape sequences.
* `label`: a label as it is shown.
-/

namespace Outline.Text

/-! ## Escape sequences -/

def isParameter (c : Char) : Bool := c.isDigit || c == ';' || c == '?'

/-- The length of an escape sequence behind its first character: a bracket, parameters and a
letter. -/
def sequenceLength : Text → Option Nat
  | '[' :: rest =>
    let parameters := rest.takeWhile isParameter
    match rest.drop parameters.length with
    | c :: _ => if c.isAlpha then some (parameters.length + 2) else none
    | [] => none
  | _ => none

/-- The text without escape sequences, after `skip` characters of one. -/
def withoutSequencesFrom : Nat → Text → Text
  | _, [] => []
  | skip + 1, _ :: rest => withoutSequencesFrom skip rest
  | 0, c :: rest =>
    if c.toNat = 27 then
      match sequenceLength rest with
      | some n => withoutSequencesFrom n rest
      | none => c :: withoutSequencesFrom 0 rest
    else c :: withoutSequencesFrom 0 rest

def withoutSequences (t : Text) : Text := withoutSequencesFrom 0 t

/-! ## Labels -/

/-- A control character that moves the print head and is left out of labels. -/
def movesHead (c : Char) : Bool := [7, 8, 11, 12, 13].contains c.toNat

/-- A label as it is shown. -/
def label (t : Text) : Text := fillTabs (t.filter fun c => !movesHead c)

end Outline.Text
