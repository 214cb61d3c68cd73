import Outline.Reference.Names
import Outline.Text.Numeral

/-!
# Decoding character references

A **character reference** is an ampersand with the name or the number of a character.  They are
resolved as HTML5 resolves them: the semicolon may be missing, the longest known name that starts
an unknown one is resolved, numbers that no character has become the replacement character or
nothing, and what is no reference stays as it is.  Only decimal numbers with too many digits are
refused, with the text as a whole.

* `Reference.read`: what the text behind an ampersand stands for, and how much of it is used.
* `Reference.decode`: a text with all references resolved.
-/

namespace Outline.Reference

/-- A decimal number that has more digits than are read. -/
structure Overlong where
  digits : Nat
deriving DecidableEq, Repr

def Overlong.wording (o : Overlong) : Text := Text.digitsWording o.digits

/-! ## Numbers -/

/-- The characters that the numbers from 128 to 159 stand for. -/
def highControls : List Nat :=
  [0x20AC, 0x81, 0x201A, 0x192, 0x201E, 0x2026, 0x2020, 0x2021, 0x2C6, 0x2030, 0x160, 0x2039,
   0x152, 0x8D, 0x17D, 0x8F, 0x90, 0x2018, 0x2019, 0x201C, 0x201D, 0x2022, 0x2013, 0x2014, 0x2DC,
   0x2122, 0x161, 0x203A, 0x153, 0x9D, 0x17E, 0x178]

/-- The code point is a control character without a meaning in a document, or no character. -/
def isMeaningless (n : Nat) : Bool :=
  (1 ≤ n && n ≤ 8) || n == 11 || (14 ≤ n && n ≤ 31) || n == 127 || (0xFDD0 ≤ n && n ≤ 0xFDEF)
    || 0xFFFE ≤ n % 0x10000

def ofNumber (n : Nat) : Text :=
  if n = 0 then [Char.ofNat 0xFFFD]
  else if 0x80 ≤ n ∧ n ≤ 0x9F then ((highControls[n - 0x80]?).map Char.ofNat).toList
  else if (0xD800 ≤ n ∧ n ≤ 0xDFFF) ∨ 0x10FFFF < n then [Char.ofNat 0xFFFD]
  else if isMeaningless n then []
  else [Char.ofNat n]

def semicolon : Text → Nat
  | ';' :: _ => 1
  | _ => 0

/-- The hexadecimal number reference that a text behind a number sign starts with: the text it
stands for, and its length without the number sign. -/
def readHexNumber : Text → Option (Text × Nat)
  | [] => none
  | x :: rest =>
    let digits := rest.takeWhile Text.isHexDigit
    if (x = 'x' ∨ x = 'X') ∧ digits ≠ [] then
      some (ofNumber (Text.valueOf 16 digits),
        1 + digits.length + semicolon (rest.drop digits.length))
    else none

def readNumber (t : Text) : Except Overlong (Option (Text × Nat)) :=
  let digits := t.takeWhile Char.isDigit
  if digits = [] then .ok (readHexNumber t)
  else if Text.digitLimit < digits.length then .error ⟨digits.length⟩
  else
    .ok (some (ofNumber (Text.valueOf 10 digits),
      digits.length + semicolon (t.drop digits.length)))

/-! ## Names -/

def lookup (name : Text) : Option Text :=
  (names.find? fun e => e.1 == String.ofList name).map fun e => e.2.map Char.ofNat

def isNameChar (c : Char) : Bool :=
  !(['\t', '\n', Char.ofNat 12, ' ', '<', '&', '#', ';'].contains c)

/-- The longest known name with at least two and at most `n` characters that a text starts with,
resolved, and the rest of the text behind it. -/
def longestName (t : Text) : Nat → Option Text
  | 0 => none
  | n + 1 =>
    if n = 0 then none
    else
      match lookup (t.take (n + 1)) with
      | some r => some (r ++ t.drop (n + 1))
      | none => longestName t n

def ofName (name : Text) : Text :=
  match lookup name with
  | some r => r
  | none => (longestName name (name.length - 1)).getD ('&' :: name)

/-- The greatest number of characters of a name without its semicolon. -/
def nameLimit : Nat := 32

/-- The name that a text starts with, resolved, and its length. -/
def readName (t : Text) : Option (Text × Nat) :=
  let run := (t.takeWhile isNameChar).take nameLimit
  if run = [] then none
  else
    let name := t.take (run.length + semicolon (t.drop run.length))
    some (ofName name, name.length)

/-! ## References in a text -/

def read : Text → Except Overlong (Option (Text × Nat))
  | '#' :: rest => (readNumber rest).map fun found => found.map fun p => (p.1, p.2 + 1)
  | t => .ok (readName t)

/-- The text with its references resolved, after `skip` characters of a resolved one. -/
def decodeFrom : Nat → Text → Except Overlong Text
  | _, [] => .ok []
  | skip + 1, _ :: rest => decodeFrom skip rest
  | 0, c :: rest =>
    if c = '&' then
      match read rest with
      | .error o => .error o
      | .ok (some (t, used)) => (decodeFrom used rest).map (t ++ ·)
      | .ok none => (decodeFrom 0 rest).map (c :: ·)
    else (decodeFrom 0 rest).map (c :: ·)

/-- The text with its references resolved. -/
def decode (t : Text) : Except Overlong Text := decodeFrom 0 t

end Outline.Reference
