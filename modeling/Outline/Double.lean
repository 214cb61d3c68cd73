/-!
# Double-precision numbers

A **double** is a number with at most 53 binary digits, an infinity, or no number at all.  Its
arithmetic is exact up to one rounding: a result goes to the nearest double, and halfway between
two of them to the one whose last digit is even.  Zeros of both signs are one zero here.

* `Double.ofRatio`, `Double.ofDecimal`: the double nearest to a fraction, or to a decimal number.
* `Double.add`, `Double.mul`: the double nearest to a sum, or to a product.
* `Double.toInt?`: the whole number that a double is.
-/

namespace Outline

inductive Double where
  | finite (x : Dyadic)
  | infinite (negative : Bool)
  | nan
deriving DecidableEq

namespace Double

/-- A finite double is shown as the fraction that it is. -/
instance : Repr Double where
  reprPrec x prec :=
    match x with
    | finite x => reprPrec x.toRat prec
    | infinite negative => if negative then "-∞" else "∞"
    | nan => "nan"

/-- The whole number nearest to a fraction; of two equally near ones the even one. -/
def nearest (num den : Nat) : Nat :=
  let q := num / den
  let r := num % den
  if 2 * r < den then q else if den < 2 * r then q + 1 else if q % 2 = 0 then q else q + 1

/-- The greatest `k` such that `2 ^ k` is at most a positive fraction. -/
def binaryOrder (num den : Nat) : Int :=
  let k : Int := (num.log2 : Int) - (den.log2 : Int)
  if den <<< k.toNat ≤ num <<< (-k).toNat then k else k - 1

/-- The exponent of the last digit that a double next to a positive fraction has. -/
def lastPlace (num den : Nat) : Int := max (binaryOrder num den - 52) (-1074)

def signed (negative : Bool) (n : Nat) : Int := if negative then -(n : Int) else n

/-- The double nearest to a fraction, which is infinite from `2 ^ 1024` on. -/
def ofRatio (negative : Bool) (num den : Nat) : Double :=
  if num = 0 then finite .zero
  else
    let e := lastPlace num den
    let digits := nearest (num <<< (-e).toNat) (den <<< e.toNat)
    if 1024 ≤ (digits.log2 : Int) + e then infinite negative
    else finite (Dyadic.ofIntWithPrec (signed negative digits) (-e))

def ofInt (n : Int) : Double := ofRatio (decide (n < 0)) n.natAbs 1

def tenTo (n : Nat) : Nat := Nat.pow 10 n

/-- The double nearest to `digits · 10 ^ exponent`.  Exponents far out of range are settled without
the power of ten. -/
def ofDecimal (negative : Bool) (digits : Nat) (exponent : Int) : Double :=
  if digits = 0 then finite .zero
  else if 400 < exponent then infinite negative
  else if exponent < -(400 + digits.log2 : Int) then finite .zero
  else ofRatio negative (digits * tenTo exponent.toNat) (tenTo (-exponent).toNat)

def ofDyadic : Dyadic → Double
  | .zero => finite .zero
  | .ofOdd n k _ => ofRatio (decide (n < 0)) (n.natAbs <<< (-k).toNat) (1 <<< k.toNat)

def isNegative : Double → Bool
  | finite .zero => false
  | finite (.ofOdd n _ _) => n < 0
  | infinite negative => negative
  | nan => false

def neg : Double → Double
  | finite x => finite (Dyadic.neg x)
  | infinite negative => infinite (!negative)
  | nan => nan

/-- The double nearest to a sum.  Infinities of both signs have none. -/
def add : Double → Double → Double
  | finite x, finite y => ofDyadic (Dyadic.add x y)
  | finite _, y => y
  | x, finite _ => x
  | infinite a, infinite b => if a = b then infinite a else nan
  | _, _ => nan

/-- The double nearest to a product.  An infinity and zero have none. -/
def mul : Double → Double → Double
  | finite x, finite y => ofDyadic (Dyadic.mul x y)
  | nan, _ => nan
  | _, nan => nan
  | x, y =>
    if x = finite .zero ∨ y = finite .zero then nan
    else infinite (x.isNegative != y.isNegative)

def toInt? : Double → Option Int
  | finite .zero => some 0
  | finite (.ofOdd n k _) => if k ≤ 0 then some (n <<< (-k).toNat) else none
  | _ => none

end Double

end Outline
