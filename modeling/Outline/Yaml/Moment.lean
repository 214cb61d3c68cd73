import Outline.Data
import Outline.Yaml.Fault
import Outline.Text.Numeral

/-!
# Dates and times

A **moment** is a date, which may be followed by a time of day and its distance from universal
time.  Its form is settled apart from its meaning: the thirteenth month has the form of one.

* `Moment.read`: the parts of a text with the form of a moment.
* `Moment.check`: the first part that is out of range.
* `Moment.instant`: what a moment stands for.
-/

namespace Outline.Yaml

abbrev Offset := Int

structure TimeOfDay where
  hour : Nat
  minute : Nat
  second : Nat
  microsecond : Nat
  offset : Option Offset
deriving DecidableEq, Repr

/-- A date, with a time of day if there is one. -/
structure Moment where
  year : Nat
  month : Nat
  day : Nat
  time : Option TimeOfDay
  /-- Month and day have two digits each. -/
  padded : Bool
deriving DecidableEq, Repr

namespace Moment

def takeDigits (least most : Nat) (t : Text) : Option (Nat × Text) :=
  let digits := (t.take most).takeWhile Char.isDigit
  if digits.length < least then none else some (Text.valueOf 10 digits, t.drop digits.length)

def takeChar (c : Char) : Text → Option Text
  | [] => none
  | d :: rest => if d = c then some rest else none

def isGap (c : Char) : Bool := c == ' ' || c == '\t'

def readOffset (t : Text) : Option (Option Offset) :=
  match t.dropWhile isGap with
  | [] => if t = [] then some none else none
  | ['Z'] => some (some 0)
  | s :: rest => do
    let sign : Int ← if s = '+' then some 1 else if s = '-' then some (-1) else none
    let (hours, rest) ← takeDigits 1 2 rest
    match rest with
    | [] => some (some (sign * (hours * 60 : Nat)))
    | ':' :: rest =>
      let (minutes, rest) ← takeDigits 2 2 rest
      if rest = [] then some (some (sign * (hours * 60 + minutes : Nat))) else none
    | _ => none

/-- The microseconds that a text starts with behind a point, and the rest behind their digits. -/
def takeFraction : Text → Nat × Text
  | '.' :: rest =>
    let digits := rest.takeWhile Char.isDigit
    (Text.valueOf 10 ((digits ++ List.replicate 6 '0').take 6), rest.dropWhile Char.isDigit)
  | rest => (0, rest)

def readTime (t : Text) : Option TimeOfDay := do
  let rest ←
    match t with
    | 'T' :: rest => some rest
    | 't' :: rest => some rest
    | c :: rest => if isGap c then some (rest.dropWhile isGap) else none
    | [] => none
  let (hour, rest) ← takeDigits 1 2 rest
  let (minute, rest) ← takeDigits 2 2 (← takeChar ':' rest)
  let (second, rest) ← takeDigits 2 2 (← takeChar ':' rest)
  let (microsecond, rest) := takeFraction rest
  let offset ← readOffset rest
  some ⟨hour, minute, second, microsecond, offset⟩

def read (t : Text) : Option Moment := do
  let (year, rest) ← takeDigits 4 4 t
  let rest ← takeChar '-' rest
  let (month, behindMonth) ← takeDigits 1 2 rest
  let start ← takeChar '-' behindMonth
  let (day, behindDay) ← takeDigits 1 2 start
  let padded := rest.length - behindMonth.length = 2 && start.length - behindDay.length = 2
  if behindDay = [] then some ⟨year, month, day, none, padded⟩
  else
    let time ← readTime behindDay
    some ⟨year, month, day, some time, padded⟩

/-- A plain scalar with the parts is a moment: a date alone has its month and day padded. -/
def isPlain (m : Moment) : Bool := m.time.isSome || m.padded

/-! ## Ranges -/

def isLeap (year : Nat) : Bool := year % 4 = 0 && (year % 100 ≠ 0 || year % 400 = 0)

def daysIn (year month : Nat) : Nat :=
  if month = 2 then if isLeap year then 29 else 28
  else if month = 4 ∨ month = 6 ∨ month = 9 ∨ month = 11 then 30
  else 31

def checkOffset (minutes : Offset) : Except ScalarFault Unit :=
  if -1440 < minutes ∧ minutes < 1440 then .ok ()
  else .error (.wideOffset (minutes.fdiv 1440) ((minutes.fmod 1440).toNat * 60))

def checkDate (m : Moment) : Except ScalarFault Unit :=
  if m.year = 0 then .error .noYear
  else if m.month < 1 ∨ 12 < m.month then .error (.outOfRange .month)
  else if m.day < 1 ∨ daysIn m.year m.month < m.day then .error (.outOfRange .day)
  else .ok ()

def checkTime (t : TimeOfDay) : Except ScalarFault Unit :=
  if 23 < t.hour then .error (.outOfRange .hour)
  else if 59 < t.minute then .error (.outOfRange .minute)
  else if 59 < t.second then .error (.outOfRange .second)
  else .ok ()

/-- All parts are in range; the offset is looked at first. -/
def check (m : Moment) : Except ScalarFault Unit := do
  match m.time.bind TimeOfDay.offset with
  | some offset => checkOffset offset
  | none => pure ()
  m.checkDate
  match m.time with
  | some t => checkTime t
  | none => pure ()

/-! ## Meaning -/

/-- The number of a day, when the first of the year one has the number one. -/
def dayNumber (m : Moment) : Nat :=
  let years := m.year - 1
  let before := (List.range' 1 (m.month - 1)).foldl (fun days month => days + daysIn m.year month) 0
  365 * years + years / 4 - years / 100 + years / 400 + before + m.day

def instant (m : Moment) : Instant :=
  match m.time with
  | none => .date m.dayNumber
  | some t =>
    let minutes := (m.dayNumber * 24 + t.hour) * 60 + t.minute
    let time := (minutes * 60 + t.second) * 1000000 + t.microsecond
    match t.offset with
    | none => .wall time
    | some offset => .universal (time - offset * 60000000)

end Moment

end Outline.Yaml
