import Outline.Text.Lines
import Outline.Yaml.Moment

/-!
# Tags

A **tag** is the type of a node.  A plain scalar without one gets it from its form: what looks like
a number, a date, a truth value or null is one, and all else is text.

* `Tag.ofText`: the tag that is written in full.
* `Tag.ofForm`: the tag that the form of a scalar tells.
-/

namespace Outline.Yaml

inductive Tag where
  | null
  | bool
  | int
  | float
  | timestamp
  | binary
  | str
  | seq
  | map
  | set
  | omap
  | pairs
  /-- The key whose value is merged into the mapping. -/
  | merge
  /-- The key whose value stands for the mapping where a scalar is wanted. -/
  | value
  /-- A type without a meaning here. -/
  | unknown
deriving DecidableEq, Repr

namespace Tag

def standard : Text := "tag:yaml.org,2002:".toList

def named : List (String × Tag) :=
  [("null", null), ("bool", bool), ("int", int), ("float", float), ("timestamp", timestamp),
   ("binary", binary), ("str", str), ("seq", seq), ("map", map), ("set", set), ("omap", omap),
   ("pairs", pairs), ("merge", merge), ("value", value)]

def ofText (t : Text) : Tag :=
  if standard.isPrefixOf t then
    (named.lookup (String.ofList (t.drop standard.length))).getD unknown
  else unknown

/-! ## Forms of plain scalars -/

def unsigned : Text → Text
  | '+' :: rest => rest
  | '-' :: rest => rest
  | t => t

def isRun (p : Char → Bool) (t : Text) : Bool := t ≠ [] && t.all p

def isSpaced (c : Char) : Bool := c.isDigit || c == '_'

/-- The first character is of one class and the others of a second. -/
def isHeaded (p q : Char → Bool) : Text → Bool
  | [] => false
  | c :: rest => p c && rest.all q

def isSixtieth : Text → Bool
  | [d] => d.isDigit
  | [t, d] => '0' ≤ t && t ≤ '5' && d.isDigit
  | _ => false

/-- Parts between colons: one that starts a number, and at least one from 0 to 59. -/
def isSexagesimal (first : Text → Bool) (t : Text) : Bool :=
  match t.splitOn ':' with
  | part :: rest => first part && rest ≠ [] && rest.all isSixtieth
  | [] => false

def isPositive (c : Char) : Bool := '1' ≤ c && c ≤ '9'

/-- The form of a whole number: binary, octal, decimal, hexadecimal or in base sixty. -/
def isInt (t : Text) : Bool :=
  let t := unsigned t
  match t with
  | '0' :: 'b' :: rest => isRun (fun c => c == '0' || c == '1' || c == '_') rest
  | '0' :: 'x' :: rest => isRun (fun c => Text.isHexDigit c || c == '_') rest
  | ['0'] => true
  | '0' :: rest => rest.all fun c => ('0' ≤ c && c ≤ '7') || c == '_'
  | _ => isHeaded isPositive isSpaced t || isSexagesimal (isHeaded isPositive isSpaced) t

def isExponent : Text → Bool
  | [] => true
  | e :: s :: rest => (e == 'e' || e == 'E') && (s == '+' || s == '-') && isRun Char.isDigit rest
  | _ => false

def isPointed (t : Text) : Bool :=
  match unsigned t, t with
  | '.' :: _, '.' :: d :: rest => d.isDigit && isExponent (rest.dropWhile isSpaced)
  | u, _ =>
    match u.cut '.' with
    | some (whole, rest) =>
      isHeaded Char.isDigit isSpaced whole && isExponent (rest.dropWhile isSpaced)
    | none => false

def isPointedSexagesimal (t : Text) : Bool :=
  match (unsigned t).cut '.' with
  | some (whole, rest) =>
    isSexagesimal (isHeaded Char.isDigit isSpaced) whole && rest.all isSpaced
  | none => false

def isNotFinite (t : Text) : Bool :=
  [".inf", ".Inf", ".INF"].contains (String.ofList (unsigned t))
    || [".nan", ".NaN", ".NAN"].contains (String.ofList t)

/-- The form of a decimal number. -/
def isFloat (t : Text) : Bool := isPointed t || isPointedSexagesimal t || isNotFinite t

def truthWords : List (String × Bool) :=
  [("yes", true), ("Yes", true), ("YES", true), ("no", false), ("No", false), ("NO", false),
   ("true", true), ("True", true), ("TRUE", true), ("false", false), ("False", false),
   ("FALSE", false), ("on", true), ("On", true), ("ON", true), ("off", false), ("Off", false),
   ("OFF", false)]

def nullWords : List String := ["", "~", "null", "Null", "NULL"]

def ofWord (t : Text) : Tag :=
  let word := String.ofList t
  if (truthWords.lookup word).isSome then bool
  else if isFloat t then float
  else if isInt t then int
  else if word == "<<" then merge
  else if nullWords.contains word then null
  else if (Moment.read t).any Moment.isPlain then timestamp
  else if word == "=" then value
  else if ["!", "&", "*"].contains word then unknown
  else str

/-- The tag that the form of a scalar tells.  A line feed at its end does not count, unless there is
nothing else. -/
def ofForm (t : Text) : Tag := if t = ['\n'] then str else ofWord (Text.dropLastFeed t)

end Tag

end Outline.Yaml
