import Outline.Text.Basic

/-!
# Base64

Bytes written in the 64 characters of base64.  Other characters are passed over; the padding that
completes a group of four ends the text.

* `ofBase64`: the bytes that a text encodes, if its last group is complete.
-/

namespace Outline.Text

def base64Value (c : Char) : Option Nat :=
  if 'A' ≤ c ∧ c ≤ 'Z' then some (c.toNat - 65)
  else if 'a' ≤ c ∧ c ≤ 'z' then some (c.toNat - 71)
  else if '0' ≤ c ∧ c ≤ '9' then some (c.toNat + 4)
  else if c = '+' then some 62
  else if c = '/' then some 63
  else none

/-- The bytes of a text behind `filled` characters of a group whose bits not yet used are `bits`,
and behind `pads` padding characters after them. -/
def base64From (filled bits pads : Nat) : Text → Option (List UInt8)
  | [] => if filled = 0 then some [] else none
  | c :: rest =>
    if c = '=' then
      if 2 ≤ filled ∧ 4 ≤ filled + pads + 1 then some []
      else base64From filled bits (if 2 ≤ filled then pads + 1 else pads) rest
    else
      match base64Value c with
      | none => base64From filled bits pads rest
      | some v =>
        match filled with
        | 0 => base64From 1 v 0 rest
        | 1 => (base64From 2 (v % 16) 0 rest).map (UInt8.ofNat (bits * 4 + v / 16) :: ·)
        | 2 => (base64From 3 (v % 4) 0 rest).map (UInt8.ofNat (bits * 16 + v / 4) :: ·)
        | _ => (base64From 0 0 0 rest).map (UInt8.ofNat (bits * 64 + v) :: ·)

/-- The bytes that a text encodes, if its last group is complete. -/
def ofBase64 (t : Text) : Option (List UInt8) := base64From 0 0 0 t

end Outline.Text
