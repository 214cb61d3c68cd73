import Outline.Text.Basic
import Outline.Double

/-!
# Data

The values that configurations and events are made of.  They come from outside, so nothing is
known about their kind in advance.

* `Data.truth`: whether a value counts as set.
* `Data.same`: equality, for which numbers of all kinds are one kind and the order of the entries
  of a mapping does not matter.
* `Data.get`: the entry of a mapping under a name.
-/

namespace Outline

/-- A date or a point in time.  Days are numbered from the first of the year one, and times are
counted in microseconds from there. -/
inductive Instant where
  | date (day : Nat)
  /-- A time of day somewhere; its distance from universal time is not known. -/
  | wall (time : Nat)
  | universal (time : Int)
deriving DecidableEq, Repr

inductive Data where
  | null
  | bool (b : Bool)
  | int (n : Int)
  | double (x : Double)
  | text (t : Text)
  | bytes (bs : List UInt8)
  | moment (instant : Instant)
  | list (items : List Data)
  | set (items : List Data)
  | dict (entries : List (Data × Data))
deriving Repr, Inhabited

namespace Data

/-- A value counts as set unless it is null, false, zero or empty. -/
def truth : Data → Bool
  | null => false
  | bool b => b
  | int n => n ≠ 0
  | double x => x ≠ .finite .zero
  | text t => t ≠ []
  | bytes bs => bs ≠ []
  | moment _ => true
  | list items => !items.isEmpty
  | set items => !items.isEmpty
  | dict entries => !entries.isEmpty

/-- The number that a value stands for: truth values are the numbers zero and one. -/
def number : Data → Option Double
  | bool b => some (.finite (Dyadic.ofInt (if b then 1 else 0)))
  | int n => some (.finite (Dyadic.ofInt n))
  | double x => some x
  | _ => none

mutual

def same : Data → Data → Bool
  | null, b => match b with | null => true | _ => false
  | text s, b => match b with | text t => s == t | _ => false
  | bytes s, b => match b with | bytes t => s == t | _ => false
  | moment s, b => match b with | moment t => s == t | _ => false
  | list xs, b => match b with | list ys => sameAll xs ys | _ => false
  | set xs, b => match b with | set ys => within xs ys && ys.all (among xs) | _ => false
  | dict xs, b =>
    match b with
    | dict ys => entriesWithin xs ys && ys.all (entryAmong xs)
    | _ => false
  | bool a, b => number (bool a) == number b
  | int a, b => number (int a) == number b
  | double a, b => number (double a) == number b
termination_by structural a => a

def sameAll : List Data → List Data → Bool
  | [], [] => true
  | x :: xs, y :: ys => same x y && sameAll xs ys
  | _, _ => false
termination_by structural a => a

/-- Each of the values is among the others. -/
def within : List Data → List Data → Bool
  | [], _ => true
  | x :: xs, ys => ys.any (same x) && within xs ys
termination_by structural a => a

def among : List Data → Data → Bool
  | [], _ => false
  | x :: xs, y => same x y || among xs y
termination_by structural a => a

def entriesWithin : List (Data × Data) → List (Data × Data) → Bool
  | [], _ => true
  | e :: xs, ys => ys.any (sameEntry e) && entriesWithin xs ys
termination_by structural a => a

def entryAmong : List (Data × Data) → Data × Data → Bool
  | [], _ => false
  | x :: xs, e => sameEntry x e || entryAmong xs e
termination_by structural a => a

def sameEntry : Data × Data → Data × Data → Bool
  | (k, v), e => same k e.1 && same v e.2
termination_by structural a => a

end

/-- The value under a name in a list of entries; of several the last. -/
def get (name : Text) : List (Data × Data) → Option Data
  | [] => none
  | (k, v) :: rest =>
    match get name rest with
    | some w => some w
    | none =>
      match k with
      | text t => if t = name then some v else none
      | _ => none

end Data

end Outline
