import Mathlib.Algebra.Group.Nat.Defs
import Mathlib.Data.List.Induction
import Outline.Yaml.Scalar

/-!
# What reading a scalar can come to

Reading a document can fail in two ways: the document is malformed, or something in it has the form
of a value without being one.  The text of a scalar is read without faults of the second kind, apart
from an escape for a number beyond the last code point.

* `Ends`: what a computation comes to, closed under binding.
* `Stray`: the faults of the second kind that the text of a document has in itself.
* `Scalar.ends_quoted`, `Scalar.ends_block`: what reading a scalar comes to.
-/

namespace Outline.Yaml

variable {α β : Type} {Q : α → Prop} {R : β → Prop} {P : ScalarFault → Prop}

/-! ### Computations with faults -/

/-- The computation comes to a result of one kind or to a fault of a scalar of another kind, unless
the document is malformed. -/
inductive Ends (Q : α → Prop) (P : ScalarFault → Prop) : Except Fault α → Prop
  | ok {a : α} (h : Q a) : Ends Q P (.ok a)
  | malformed : Ends Q P (.error .malformed)
  | scalar {f : ScalarFault} (h : P f) : Ends Q P (.error (.scalar f))

namespace Ends

-- the instance is read off the goal: conditions on characters are costly to compare
theorem ite {p : Prop} {_ : Decidable p} {x y : Except Fault α} (hx : p → Ends Q P x)
    (hy : ¬p → Ends Q P y) : Ends Q P (if p then x else y) := by
  split
  · exact hx ‹_›
  · exact hy ‹_›

theorem bind {x : Except Fault α} {f : α → Except Fault β} (hx : Ends Q P x)
    (hf : ∀ a, Q a → Ends R P (f a)) : Ends R P (x >>= f) := by
  cases hx with
  | ok h => exact hf _ h
  | malformed => exact .malformed
  | scalar h => exact .scalar h

theorem map {x : Except Fault α} {f : α → β} (hx : Ends Q P x) (hf : ∀ a, Q a → R (f a)) :
    Ends R P (x.map f) := by
  cases hx with
  | ok h => exact .ok (hf _ h)
  | malformed => exact .malformed
  | scalar h => exact .scalar h

theorem mono {Q' : α → Prop} {P' : ScalarFault → Prop} {x : Except Fault α} (hx : Ends Q P x)
    (hQ : ∀ a, Q a → Q' a) (hP : ∀ f, P f → P' f) : Ends Q' P' x := by
  cases hx with
  | ok h => exact .ok (hQ _ h)
  | malformed => exact .malformed
  | scalar h => exact .scalar (hP _ h)

theorem foldlM {f : α → β → Except Fault α} {a : α} (xs : List β) (ha : Q a)
    (h : ∀ a x, Q a → Ends Q P (f a x)) : Ends Q P (xs.foldlM f a) := by
  induction xs generalizing a with
  | nil => exact .ok ha
  | cons x xs ih => exact .bind (h a x ha) fun _ h' => ih h'

theorem of_eq_scalar {x : Except Fault α} {f : ScalarFault} (hx : Ends Q P x)
    (h : x = .error (.scalar f)) : P f := by
  subst h
  cases hx with
  | scalar h => exact h

end Ends

/-! ### Positions in a text -/

def Cursor.Within (c : Cursor) (t : Text) : Prop := c.rest <:+ t

namespace Cursor

variable {c : Cursor} {t : Text}

theorem next_of_rest_eq {ch : Char} {rest : Text} (h : c.rest = ch :: rest) :
    c.next.rest = rest := by
  unfold next
  rw [h]
  dsimp only
  split <;> rfl

theorem rest_eq_of_peek_ne (h : c.peek ≠ endMark) : c.rest = c.peek :: c.next.rest := by
  cases hrest : c.rest with
  | nil =>
    unfold peek at h
    rw [hrest] at h
    exact absurd rfl h
  | cons ch rest =>
    rw [next_of_rest_eq hrest, peek, hrest]
    rfl

namespace Within

theorem next (h : c.Within t) : c.next.Within t := by
  cases hrest : c.rest with
  | nil =>
    unfold Cursor.next
    rw [hrest]
    exact h
  | cons ch rest =>
    rw [Within, next_of_rest_eq hrest]
    exact (List.suffix_cons ch rest).trans (hrest ▸ h)

theorem advance (h : c.Within t) (n : Nat) : (c.advance n).Within t := by
  induction n generalizing c with
  | zero => exact h
  | succ n ih => exact ih h.next

theorem skip (h : c.Within t) (p : Char → Bool) : (c.skip p).Within t := h.advance _

theorem skipSpaces (h : c.Within t) : c.skipSpaces.Within t := h.skip _

theorem skipLine (h : c.Within t) : c.skipLine.Within t := h.skip _

theorem takeBreak (h : c.Within t) : c.takeBreak.2.Within t := by
  unfold Cursor.takeBreak
  dsimp only
  split
  · exact h.next
  · split
    · exact h.next
    · exact h

theorem isInfix_of_isPrefix {s : Text} (h : c.Within t) (hs : s <+: c.rest) : s <:+: t :=
  hs.isInfix.trans h.isInfix

end Within

end Cursor

/-! ### Faults that a text has in itself -/

/-- The text holds the escape for a number with which there is no character, or a whole number in a
directive that is too long to be read. -/
inductive Stray (t : Text) : ScalarFault → Prop
  | noCharacter {digits : Text} (h : '\\' :: 'U' :: digits <:+: t) (hlength : digits.length = 8)
      (hhex : digits.all Text.isHexDigit = true) (hlast : 0x10FFFF < Text.valueOf 16 digits)
      (hwide : Text.valueOf 16 digits ≤ 0x7FFFFFFF) : Stray t .noCharacter
  | wideCharacter {digits : Text} (h : '\\' :: 'U' :: digits <:+: t) (hlength : digits.length = 8)
      (hhex : digits.all Text.isHexDigit = true) (hwide : 0x7FFFFFFF < Text.valueOf 16 digits) :
      Stray t .wideCharacter
  | longInteger {digits : Text} (h : digits <:+: t) (hdecimal : digits.all Char.isDigit = true)
      (hlong : Text.digitLimit < digits.length) : Stray t (.longInteger digits.length)

/-! ### Escapes -/

namespace Scalar

variable {c : Cursor} {t : Text}

theorem hexValue_lt {ch : Char} (h : Text.isHexDigit ch = true) : Text.hexValue ch < 16 := by
  simp only [Text.isHexDigit, Text.hexValue, Char.isDigit, Bool.or_eq_true, Bool.and_eq_true,
    decide_eq_true_eq, ge_iff_le, Char.le_def, UInt32.le_iff_toNat_le, Char.toNat, Char.reduceVal,
    UInt32.reduceToNat] at h ⊢
  split
  · omega
  · split <;> omega

theorem valueOf_lt {digits : Text} (h : digits.all Text.isHexDigit = true) :
    Text.valueOf 16 digits < 16 ^ digits.length := by
  induction digits using List.reverseRecOn with
  | nil => decide
  | append_singleton digits ch ih =>
    simp only [List.all_append, List.all_cons, List.all_nil, Bool.and_true,
      Bool.and_eq_true] at h
    have hrest := ih h.1
    have hdigit := hexValue_lt h.2
    unfold Text.valueOf at hrest ⊢
    rw [List.foldl_append, List.length_append, List.length_singleton, Nat.pow_succ]
    simp only [List.foldl_cons, List.foldl_nil]
    omega

theorem escapeWidth_of_lt {ch : Char} {width : Nat} {digits : Text}
    (hwidth : escapeWidth ch = some width) (hlength : digits.length = width)
    (hhex : digits.all Text.isHexDigit = true) (hlast : 0x10FFFF < Text.valueOf 16 digits) :
    ch = 'U' ∧ digits.length = 8 := by
  have hvalue := valueOf_lt hhex
  unfold escapeWidth at hwidth
  split at hwidth
  · obtain rfl := Option.some.inj hwidth
    rw [hlength] at hvalue
    omega
  · split at hwidth
    · obtain rfl := Option.some.inj hwidth
      rw [hlength] at hvalue
      omega
    · split at hwidth
      · exact ⟨‹ch = 'U'›, hlength.trans (Option.some.inj hwidth).symm⟩
      · cases hwidth

theorem ends_character {ch : Char} {digits : Text} {width : Nat}
    (h : '\\' :: ch :: digits <:+: t) (hwidth : escapeWidth ch = some width)
    (hlength : digits.length = width) (hhex : digits.all Text.isHexDigit = true) :
    Ends (fun _ => True) (Stray t) (character (Text.valueOf 16 digits)) := by
  refine .ite (fun hwide => .scalar ?_) fun hwide =>
    .ite (fun hlast => .scalar ?_) fun _ => .ok trivial
  · obtain ⟨rfl, height⟩ := escapeWidth_of_lt hwidth hlength hhex (by omega)
    exact .wideCharacter h height hhex hwide
  · obtain ⟨rfl, height⟩ := escapeWidth_of_lt hwidth hlength hhex hlast
    exact .noCharacter h height hhex hlast (by omega)

/-! ### Quoted scalars -/

theorem ends_quotedBreaks (hc : c.Within t) (fuel : Nat) (breaks : Text) :
    Ends (fun p => p.2.Within t) (Stray t) (quotedBreaks fuel c breaks) := by
  induction fuel generalizing c breaks with
  | zero => exact .ok hc
  | succ fuel ih =>
    unfold quotedBreaks
    exact .ite (fun _ => .malformed) fun _ =>
      .ite (fun _ => ih (hc.skip _).takeBreak _) fun _ => .ok (hc.skip _)

theorem ends_quotedSpaces (hc : c.Within t) :
    Ends (fun p => p.2.Within t) (Stray t) (quotedSpaces c) := by
  have hbehind := hc.skip fun ch => ch == ' ' || ch == '\t'
  unfold quotedSpaces
  refine .ite (fun _ => .malformed) fun _ => .ite (fun _ => ?_) fun _ => .ok hbehind
  exact .bind (ends_quotedBreaks hbehind.takeBreak _ _) fun _ hp => .ok hp

theorem ends_escape (hc : c.Within t) (hmark : '\\' :: c.rest <:+ t) :
    Ends (fun p => p.2.Within t) (Stray t) (escape c) := by
  unfold escape
  dsimp only
  split
  · exact .ok hc.next
  · split
    · rename_i width hwidth
      have hend : c.peek ≠ endMark := by
        intro h
        rw [h] at hwidth
        cases hwidth
      -- the digits stand behind the letter, and the letter behind the backslash
      have hdigits : (c.next.rest.take width).takeWhile Text.isHexDigit <+: c.next.rest :=
        (List.takeWhile_prefix _).trans (List.take_prefix _ _)
      rw [Cursor.rest_eq_of_peek_ne hend] at hmark
      have hinfix := (List.IsPrefix.isInfix ((List.prefix_cons_inj '\\').mpr
        ((List.prefix_cons_inj c.peek).mpr hdigits))).trans hmark.isInfix
      refine .ite (fun hlength => ?_) fun _ => .malformed
      exact .bind (ends_character hinfix hwidth hlength List.all_takeWhile) fun _ _ =>
        .ok (hc.next.advance _)
    · exact .ite (fun _ => ends_quotedBreaks hc.takeBreak _ _) fun _ => .malformed

theorem ends_quotedFrom (hc : c.Within t) (double : Bool) (fuel : Nat) (read : Text) :
    Ends (fun p => p.2.Within t) (Stray t) (quotedFrom double fuel read c) := by
  induction fuel generalizing c read with
  | zero => exact .malformed
  | succ fuel ih =>
    unfold quotedFrom
    refine .ite (fun _ => .bind (ends_quotedSpaces hc) fun _ hp => ih hp _) fun _ =>
      .ite (fun hmark => ?_) fun _ => .ite (fun _ => ih (hc.advance 2) _) fun _ =>
        .ite (fun _ => .ok hc.next) fun _ => ih hc.next _
    have hslash : c.peek = '\\' := eq_of_beq ((Bool.and_eq_true _ _).mp hmark).2
    have hrest := Cursor.rest_eq_of_peek_ne (c := c) (by rw [hslash]; decide)
    have hwhole : '\\' :: c.next.rest <:+ t := by
      rw [← hslash, ← hrest]
      exact hc
    exact .bind (ends_escape hc.next hwhole) fun _ hp => ih hp _

theorem ends_quoted (hc : c.Within t) (double : Bool) :
    Ends (fun p => p.2.Within t) (Stray t) (quoted double c) :=
  ends_quotedFrom hc.next double _ _

/-! ### Plain scalars -/

theorem within_plainBreaks (hc : c.Within t) (fuel : Nat) (breaks : Text) :
    (plainBreaks fuel c breaks).2.Within t := by
  induction fuel generalizing c breaks with
  | zero => exact hc
  | succ fuel ih =>
    unfold plainBreaks
    dsimp only
    split
    · exact ih hc.next _
    · split
      · split
        · exact hc.takeBreak
        · exact ih hc.takeBreak _
      · exact hc

theorem within_plainSpaces (hc : c.Within t) : (plainSpaces c).2.1.Within t := by
  unfold plainSpaces
  dsimp only
  split
  · split
    · exact hc.skipSpaces.takeBreak
    · have hbreaks := within_plainBreaks hc.skipSpaces.takeBreak
        (c.skipSpaces.takeBreak.2.rest.length + 1) []
      split
      all_goals
        rename_i heq
        rw [heq] at hbreaks
        exact hbreaks
  · exact hc.skipSpaces

theorem within_plainRuns (flow : Bool) (indent : Int) (fuel : Nat) (spaces : Text) {p : Plain}
    (hp : p.cursor.Within t) : (plainRuns flow indent fuel spaces p).cursor.Within t := by
  induction fuel generalizing spaces p with
  | zero => exact hp
  | succ fuel ih =>
    unfold plainRuns
    dsimp only
    split
    · exact hp
    · have hspaces := within_plainSpaces (hp.advance (runLength flow p.cursor.rest))
      split
      · exact hspaces
      · exact ih _ hspaces

theorem within_plain (hc : c.Within t) (flow : Bool) (indent : Int) :
    (plain flow indent c).cursor.Within t :=
  within_plainRuns flow indent _ _ hc

/-! ### Block scalars -/

theorem ends_header (hc : c.Within t) :
    Ends (fun p => p.2.2.Within t) (Stray t) (header c) := by
  unfold header
  refine .ite (fun _ => .malformed) fun _ => .ok ?_
  dsimp only
  split
  · split
    · exact hc.advance 2
    · exact hc.next
  · split
    · split
      · exact hc.advance 2
      · exact hc.next
    · exact hc

theorem ends_skipComment (hc : c.Within t) :
    Ends (fun c' => c'.Within t) (Stray t) (skipComment c) := by
  have hbehind : (if c.skipSpaces.peek == '#' then c.skipSpaces.skipLine
      else c.skipSpaces).Within t := by
    split
    · exact hc.skipSpaces.skipLine
    · exact hc.skipSpaces
  exact .ite (fun _ => .ok hbehind.takeBreak) fun _ => .malformed

theorem within_leadingBreaks (hc : c.Within t) (fuel : Nat) (breaks : Text) (width : Nat) :
    (leadingBreaks fuel c breaks width).2.2.Within t := by
  induction fuel generalizing c breaks width with
  | zero => exact hc
  | succ fuel ih =>
    unfold leadingBreaks
    dsimp only
    split
    · exact ih hc.next _ _
    · split
      · exact ih hc.takeBreak _ _
      · exact hc

theorem within_blockBreaks (hc : c.Within t) (indent fuel : Nat) (breaks : Text) :
    (blockBreaks indent fuel c breaks).2.Within t := by
  induction fuel generalizing c breaks with
  | zero => exact hc
  | succ fuel ih =>
    have hindent : (skipIndent indent c).Within t := hc.advance _
    unfold blockBreaks
    dsimp only
    split
    · exact ih hindent.takeBreak _
    · exact hindent

theorem within_blockLines (hc : c.Within t) (folded : Bool) (chomp : Chomping) (indent fuel : Nat)
    (read breaks : Text) : (blockLines folded chomp indent fuel read breaks c).2.Within t := by
  induction fuel generalizing c read breaks with
  | zero => exact hc
  | succ fuel ih =>
    unfold blockLines
    dsimp only
    have hbreaks := within_blockBreaks hc.skipLine.takeBreak indent
      (c.skipLine.takeBreak.2.rest.length + 1) []
    generalize blockBreaks indent (c.skipLine.takeBreak.2.rest.length + 1) c.skipLine.takeBreak.2
      [] = behind at hbreaks ⊢
    split
    · exact ih hbreaks _ _
    · cases chomp <;> exact hbreaks

theorem ends_block (hc : c.Within t) (folded : Bool) (parent : Int) :
    Ends (fun p => p.2.Within t) (Stray t) (block folded parent c) := by
  unfold block
  refine .bind (ends_header hc.next) ?_
  rintro ⟨chomp, width, c'⟩ hc'
  refine .bind (ends_skipComment hc') fun c'' hc'' => ?_
  -- the position behind the breaks is all that the rest depends on
  cases width with
  | none =>
    have hbreaks := within_leadingBreaks hc'' (c''.rest.length + 1) [] 0
    dsimp only
    generalize leadingBreaks (c''.rest.length + 1) c'' [] 0 = behind at hbreaks ⊢
    exact .ite (fun _ => .ok (within_blockLines hbreaks _ _ _ _ _ _)) fun _ => .ok hbreaks
  | some n =>
    have hbreaks := within_blockBreaks hc'' (max (parent + 1).toNat 1 + n - 1)
      (c''.rest.length + 1) []
    dsimp only
    generalize blockBreaks (max (parent + 1).toNat 1 + n - 1) (c''.rest.length + 1) c'' [] = behind
      at hbreaks ⊢
    exact .ite (fun _ => .ok (within_blockLines hbreaks _ _ _ _ _ _)) fun _ => .ok hbreaks

end Scalar

end Outline.Yaml
