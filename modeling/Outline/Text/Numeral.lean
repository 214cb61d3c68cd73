import Outline.Text.Basic

/-!
# Numerals

The numbers that digits write.  A numeral may be written with the decimal digits of any script and
stand between blanks; its **plain form** has the ASCII digits instead and no outer blanks.

* `valueOf`: the number that digits write in a base up to sixteen.
* `plainNumeral`: the plain form of a numeral.
-/

namespace Outline.Text

def isHexDigit (c : Char) : Bool :=
  c.isDigit || ('a' ≤ c && c ≤ 'f') || ('A' ≤ c && c ≤ 'F')

def hexValue (c : Char) : Nat :=
  if c.isDigit then c.toNat - 48
  else if 'a' ≤ c && c ≤ 'f' then c.toNat - 87
  else c.toNat - 55

def valueOf (base : Nat) (digits : Text) : Nat :=
  digits.foldl (fun n c => n * base + hexValue c) 0

/-- The greatest number of decimal digits that a whole number is read from. -/
def digitLimit : Nat := 4300

def digitsWording (digits : Nat) : Text :=
  "Exceeds the limit (".toList ++ ofNat digitLimit
    ++ " digits) for integer string conversion: value has ".toList ++ ofNat digits
    ++ " digits; use sys.set_int_max_str_digits() to increase the limit".toList

/-! ## Digits of other scripts -/

/-- The code points of decimal digits: runs of ten, from zero to nine. -/
def decimalRanges : Ranges :=
  [(48, 57), (1632, 1641), (1776, 1785), (1984, 1993), (2406, 2415), (2534, 2543), (2662, 2671),
   (2790, 2799), (2918, 2927), (3046, 3055), (3174, 3183), (3302, 3311), (3430, 3439),
   (3558, 3567), (3664, 3673), (3792, 3801), (3872, 3881), (4160, 4169), (4240, 4249),
   (6112, 6121), (6160, 6169), (6470, 6479), (6608, 6617), (6784, 6793), (6800, 6809),
   (6992, 7001), (7088, 7097), (7232, 7241), (7248, 7257), (42528, 42537), (43216, 43225),
   (43264, 43273), (43472, 43481), (43504, 43513), (43600, 43609), (44016, 44025),
   (65296, 65305), (66720, 66729), (68912, 68921), (69734, 69743), (69872, 69881),
   (69942, 69951), (70096, 70105), (70384, 70393), (70736, 70745), (70864, 70873),
   (71248, 71257), (71360, 71369), (71472, 71481), (71904, 71913), (72016, 72025),
   (72784, 72793), (73040, 73049), (73120, 73129), (92768, 92777), (92864, 92873),
   (93008, 93017), (120782, 120831), (123200, 123209), (123632, 123641), (125264, 125273),
   (130032, 130041)]

def decimalValue (c : Char) : Option Nat :=
  (decimalRanges.find? fun r => r.1 ≤ c.toNat && c.toNat ≤ r.2).map fun r => (c.toNat - r.1) % 10

/-- The ASCII character that means the same in a numeral. -/
def plainChar (c : Char) : Char :=
  if c.toNat < 128 then c
  else if isBlank c then ' '
  else ((decimalValue c).map Nat.digitChar).getD c

/-- The blanks that may stand around a numeral in its ASCII form. -/
def isPlainBlank (c : Char) : Bool := c == ' ' || (9 ≤ c.toNat && c.toNat ≤ 13)

def plainNumeral (t : Text) : Text :=
  (((t.map plainChar).dropWhile isPlainBlank).reverse.dropWhile isPlainBlank).reverse

end Outline.Text
