import Outline.Double
import Outline.Yaml.Fault
import Outline.Text.Numeral
import Outline.Text.Cased

/-!
# Numbers of a document

Whole numbers are written in base two, eight, ten, sixteen or sixty, others with a point, with an
exponent or in base sixty.  Underscores between digits mean nothing.

* `Number.readInt`, `Number.readDouble`: the number that a scalar of the type writes.
-/

namespace Outline.Yaml.Number

/-! ## Numerals -/

def splitSign : Text → Bool × Text
  | '-' :: rest => (true, rest)
  | '+' :: rest => (false, rest)
  | t => (false, t)

def digitIn (base : Nat) (c : Char) : Bool :=
  Text.isHexDigit c && decide (Text.hexValue c < base)

def baseLetter (base : Nat) : Option Char :=
  if base = 16 then some 'x' else if base = 8 then some 'o' else if base = 2 then some 'b' else none

def dropMark (base : Nat) : Text → Text
  | '0' :: c :: rest => if some c.toLower = baseLetter base then rest else '0' :: c :: rest
  | t => t

def wholeIn (base : Nat) (t : Text) : Except ScalarFault Int :=
  let (negative, t') := splitSign (Text.plainNumeral t)
  let t' := dropMark base t'
  let digits := t'.takeWhile (digitIn base)
  if digits = [] then .error (.notInteger base t)
  else if base = 10 ∧ Text.digitLimit < digits.length then .error (.longInteger digits.length)
  else if digits.length < t'.length then .error (.notInteger base t)
  else .ok (Double.signed negative (Text.valueOf base digits))

def notFinite : List (String × Double) :=
  [("inf", .infinite false), ("infinity", .infinite false), ("nan", .nan)]

def readExponent : Text → Option Int
  | [] => some 0
  | e :: rest =>
    if e.toLower = 'e' then
      let (negative, digits) := splitSign rest
      if digits = [] ∨ !digits.all Char.isDigit then none
      else some (Double.signed negative (Text.valueOf 10 digits))
    else none

def readUnsigned (negative : Bool) (t : Text) : Option Double :=
  match notFinite.lookup (String.ofList (t.map Char.toLower)) with
  | some x => some (if negative then x.neg else x)
  | none =>
    let whole := t.takeWhile Char.isDigit
    let (fraction, rest) : Text × Text :=
      match t.drop whole.length with
      | '.' :: rest => (rest.takeWhile Char.isDigit, rest.dropWhile Char.isDigit)
      | rest => ([], rest)
    if whole = [] ∧ fraction = [] then none
    else
      (readExponent rest).map fun e =>
        Double.ofDecimal negative (Text.valueOf 10 (whole ++ fraction)) (e - fraction.length)

def doubleOf (t : Text) : Except ScalarFault Double :=
  let (negative, t') := splitSign (Text.plainNumeral t)
  match readUnsigned negative t' with
  | some x => .ok x
  | none => .error (.notDecimal t)

/-! ## Scalars -/

def compact (t : Text) : Text := t.filter (· ≠ '_')

/-- The sign of a scalar, and the text behind it; an empty text has no sign to look at. -/
def takeSign : Text → Except ScalarFault (Bool × Text)
  | [] => .error .emptyNumber
  | t => .ok (splitSign t)

def withSign (negative : Bool) (n : Int) : Int := if negative then -n else n

def sixties (parts : List Int) : Int := parts.foldl (fun n p => n * 60 + p) 0

def readInt (t : Text) : Except ScalarFault Int := do
  let (negative, t) ← takeSign (compact t)
  let n ←
    match t with
    | [] => .error .emptyNumber
    | ['0'] => .ok 0
    | '0' :: 'b' :: rest => wholeIn 2 rest
    | '0' :: 'x' :: rest => wholeIn 16 rest
    | '0' :: _ => wholeIn 8 t
    | _ =>
      if t.contains ':' then ((t.splitOn ':').mapM (wholeIn 10)).map sixties else wholeIn 10 t
  pure (withSign negative n)

/-- The number that parts in base sixty make up, the last part first: each is multiplied by the
value of its place, and the products are added in this order. -/
def doubleSixties : List Double → Nat → Double → Except ScalarFault Double
  | [], _, x => .ok x
  | part :: rest, place, x =>
    match Double.ofInt place with
    | .finite y => doubleSixties rest (place * 60) (x.add (part.mul (.finite y)))
    | _ => .error .longSexagesimal

def readDouble (t : Text) : Except ScalarFault Double := do
  let (negative, t) ← takeSign (Text.lowerCase (compact t))
  let x ←
    if ['.', 'i', 'n', 'f'] = t then .ok (.infinite false)
    else if ['.', 'n', 'a', 'n'] = t then .ok .nan
    else if t.contains ':' then do
      let parts ← (t.splitOn ':').mapM doubleOf
      doubleSixties parts.reverse 1 (.finite .zero)
    else doubleOf t
  pure (if negative then x.neg else x)

end Outline.Yaml.Number
