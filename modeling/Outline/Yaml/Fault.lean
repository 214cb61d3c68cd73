import Outline.Text.Numeral
import Outline.Text.Quoted

/-!
# Faults of a document

A document is malformed when it breaks the grammar or a rule on its structure.  Apart from that, a
scalar may have the form of a number or a date without being one, which is a fault of its own.
-/

namespace Outline.Yaml

inductive MomentPart where
  | month
  | day
  | hour
  | minute
  | second
deriving DecidableEq, Repr

/-- Why a scalar has no value, though the document is well formed. -/
inductive ScalarFault where
  /-- An escape for a number beyond the last code point. -/
  | noCharacter
  /-- An escape for a number beyond 31 bits. -/
  | wideCharacter
  /-- A text that writes no whole number in a base. -/
  | notInteger (base : Nat) (literal : Text)
  /-- A whole number with more decimal digits than are read. -/
  | longInteger (digits : Nat)
  /-- A text that writes no decimal number. -/
  | notDecimal (literal : Text)
  /-- An empty text in place of a number. -/
  | emptyNumber
  /-- A number in base sixty with a place beyond the greatest double. -/
  | longSexagesimal
  /-- A word that means neither true nor false. -/
  | notTruthValue (word : Text)
  /-- A text that has not the form of a date. -/
  | notMoment
  /-- A mapping in place of the text of a date. -/
  | mappedMoment
  /-- A mapping in place of a scalar that stands for itself. -/
  | endlessMapping
  /-- The year zero. -/
  | noYear
  /-- A part of a date or time that is out of range. -/
  | outOfRange (part : MomentPart)
  /-- A distance from universal time of a day or more, in days and seconds. -/
  | wideOffset (days : Int) (seconds : Nat)
deriving DecidableEq, Repr

inductive Fault where
  | malformed
  | scalar (fault : ScalarFault)
deriving DecidableEq, Repr

def MomentPart.wording : MomentPart → Text
  | month => "month must be in 1..12".toList
  | day => "day is out of range for month".toList
  | hour => "hour must be in 0..23".toList
  | minute => "minute must be in 0..59".toList
  | second => "second must be in 0..59".toList

def durationWording (days : Int) (seconds : Nat) : Text :=
  "datetime.timedelta(days=".toList ++ Text.ofInt days
    ++ (if seconds = 0 then [] else ", seconds=".toList ++ Text.ofNat seconds) ++ [')']

/-- The greatest length at which a text that is no whole number is quoted. -/
def literalLimit : Nat := 200

def ScalarFault.wording : ScalarFault → Text
  | noCharacter => "chr() arg not in range(0x110000)".toList
  | wideCharacter => "Python int too large to convert to C int".toList
  | notInteger base literal =>
    "invalid literal for int() with base ".toList ++ Text.ofNat base ++ ": ".toList
      ++ literal.quoted.take literalLimit
  | longInteger digits => Text.digitsWording digits
  | notDecimal literal => "could not convert string to float: ".toList ++ literal.quoted
  | emptyNumber => "string index out of range".toList
  | longSexagesimal => "int too large to convert to float".toList
  | notTruthValue word => word.quoted
  | notMoment => "'NoneType' object has no attribute 'groupdict'".toList
  | mappedMoment => "expected string or bytes-like object, got 'list'".toList
  | endlessMapping => "maximum recursion depth exceeded".toList
  | noYear => "year 0 is out of range".toList
  | outOfRange part => part.wording
  | wideOffset days seconds =>
    ("offset must be a timedelta strictly between -timedelta(hours=24) and ".toList
      ++ "timedelta(hours=24), not ".toList ++ durationWording days seconds ++ ['.'])

end Outline.Yaml
