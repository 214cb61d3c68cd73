import Outline.Proofs.Yaml.Scalar
import Outline.Yaml.Layout

/-!
# What reading a token can come to

A step of reading a document into tokens moves forward in the text.  It comes to a fault apart from
a malformed document only at an escape without a character and at a number in a directive that is
too long.

* `Layout.ends_readToken`: what reading a token comes to.
* `Layout.ends_settle`: what it comes to to settle what the next token is.
-/

namespace Outline.Yaml.Layout

variable {α : Type} {t : Text} {c : Cursor} {l : Layout}

/-- What the layout has left to read is the end of the text. -/
def Within (l : Layout) (t : Text) : Prop := l.cursor.Within t

/-! ### Indentation and keys -/

theorem within_closeBlocks (hl : l.Within t) (column : Int) (outer : List Int) :
    (closeBlocks column outer l).Within t := by
  induction outer generalizing l with
  | nil => exact hl
  | cons i outer ih =>
    unfold closeBlocks
    split
    · exact ih hl
    · exact hl

theorem within_unwind (hl : l.Within t) (column : Int) : (l.unwind column).Within t := by
  unfold unwind
  split
  · exact hl
  · exact within_closeBlocks hl _ _

theorem within_of_openBlock {column : Nat} {l' : Layout} {isNew : Bool} (hl : l.Within t)
    (h : l.openBlock column = (l', isNew)) : l'.Within t := by
  unfold openBlock at h
  split at h
  all_goals
    obtain rfl := (Prod.mk.inj h).1
    exact hl

theorem ends_dropStale (c : Cursor) (starts : List (Option KeyStart)) :
    Ends (fun _ => True) (Stray t) (dropStale c starts) := by
  induction starts with
  | nil => exact .ok trivial
  | cons start rest ih =>
    cases start with
    | none => exact .map ih fun _ _ => trivial
    | some k =>
      unfold dropStale
      exact .ite (fun _ => .ite (fun _ => .malformed) fun _ => .map ih fun _ _ => trivial)
        fun _ => .map ih fun _ _ => trivial

theorem ends_dropStart (hl : l.Within t) : Ends (·.Within t) (Stray t) l.dropStart := by
  unfold dropStart
  split
  · exact .ite (fun _ => .malformed) fun _ => .ok hl
  · exact .ok hl

theorem ends_saveStart (hl : l.Within t) : Ends (·.Within t) (Stray t) l.saveStart :=
  .ite (fun _ => .bind (ends_dropStart hl) fun _ h => .ok h) fun _ => .ok hl

/-! ### White space -/

theorem within_skipGaps (hl : l.Within t) (fuel : Nat) : (skipGaps fuel l).Within t := by
  induction fuel generalizing l with
  | zero => exact hl
  | succ fuel ih =>
    have hbehind : (if l.cursor.skipSpaces.peek == '#' then l.cursor.skipSpaces.skipLine
        else l.cursor.skipSpaces).Within t := by
      split
      · exact Cursor.Within.skipLine (Cursor.Within.skipSpaces hl)
      · exact Cursor.Within.skipSpaces hl
    unfold skipGaps
    dsimp only
    generalize (if l.cursor.skipSpaces.peek == '#' then l.cursor.skipSpaces.skipLine
      else l.cursor.skipSpaces) = behind at hbehind ⊢
    split
    · exact ih hbehind.takeBreak
    · exact hbehind

theorem within_toToken (hl : l.Within t) : l.toToken.Within t := by
  refine within_skipGaps ?_ _
  show Cursor.Within (if _ then _ else _) t
  split
  · exact Cursor.Within.next hl
  · exact hl

/-! ### Directives, anchors and tags -/

theorem ends_takeName (hc : c.Within t) :
    Ends (fun p => p.2.Within t) (Stray t) (takeName c) :=
  .ite (fun _ => .malformed) fun _ => .ok (hc.advance _)

theorem ends_takeNumber (hc : c.Within t) :
    Ends (fun p => p.2.Within t) (Stray t) (takeNumber c) := by
  have hdigits : c.run Char.isDigit <:+: t := hc.isInfix_of_isPrefix (List.takeWhile_prefix _)
  refine .ite (fun _ => .malformed) fun _ => ?_
  exact .ite (fun hlong => .scalar (.longInteger hdigits List.all_takeWhile hlong)) fun _ =>
    .ok (hc.advance _)

theorem ends_takeBytes (hc : c.Within t) (fuel : Nat) (bytes : List UInt8) :
    Ends (fun p => p.2.Within t) (Stray t) (takeBytes fuel c bytes) := by
  induction fuel generalizing c bytes with
  | zero => exact .ok hc
  | succ fuel ih =>
    unfold takeBytes
    exact .ite (fun _ => .ite (fun _ => ih (hc.advance 3) _) fun _ => .malformed) fun _ => .ok hc

theorem ends_tagFrom (hc : c.Within t) (fuel : Nat) (read : Text) :
    Ends (fun p => p.2.Within t) (Stray t) (tagFrom fuel read c) := by
  induction fuel generalizing c read with
  | zero => exact .ok hc
  | succ fuel ih =>
    unfold tagFrom
    refine .ite (fun _ => ?_) fun _ => .ite (fun _ => ih hc.next _) fun _ => .ok hc
    refine .bind (ends_takeBytes hc _ _) fun p hp => ?_
    dsimp only
    split
    · exact ih hp _
    · exact .malformed

theorem ends_takeTag (hc : c.Within t) : Ends (fun p => p.2.Within t) (Stray t) (takeTag c) :=
  .ite (fun _ => ends_tagFrom hc _ _) fun _ => .malformed

theorem ends_takeHandle (hc : c.Within t) :
    Ends (fun p => p.2.Within t) (Stray t) (takeHandle c) := by
  have hbehind := hc.next.advance (c.next.run isNameChar).length
  refine .ite (fun _ => .malformed) fun _ => ?_
  exact .ite (fun _ => .ok hbehind.next) fun _ =>
    .ite (fun _ => .ok hbehind) fun _ => .malformed

theorem ends_require (hc : c.Within t) (p : Char → Bool) :
    Ends (·.Within t) (Stray t) (require p c) :=
  .ite (fun _ => .ok hc) fun _ => .malformed

theorem ends_takeDirective (hc : c.Within t) :
    Ends (fun p => p.2.Within t) (Stray t) (takeDirective c) := by
  have hline : ∀ p : Token × Cursor, p.2.Within t → Ends (fun p => p.2.Within t) (Stray t)
      (Scalar.skipComment p.2 >>= fun c => pure (p.1, c)) := fun p hp =>
    .bind (Scalar.ends_skipComment hp) fun c hc => .ok hc
  unfold takeDirective
  refine .bind (ends_takeName hc.next) fun p hname => ?_
  refine .bind (ends_require hname _) fun c hc => ?_
  refine .ite (fun _ => ?_) fun _ => .ite (fun _ => ?_) fun _ => .bind (.ok hc.skipLine) hline
  · refine .bind (ends_takeNumber hc.skipSpaces) fun p hmajor => ?_
    refine .bind (ends_require hmajor _) fun c hc => ?_
    refine .bind (ends_takeNumber hc.next) fun p hminor => ?_
    exact .bind (ends_require hminor _) fun c hc => .bind (.ok hc) hline
  · refine .bind (ends_takeHandle hc.skipSpaces) fun p hhandle => ?_
    refine .bind (ends_require hhandle _) fun c hc => ?_
    refine .bind (ends_takeTag hc.skipSpaces) fun p hstart => ?_
    exact .bind (ends_require hstart _) fun c hc => .bind (.ok hc) hline

theorem ends_takeAnchor (hc : c.Within t) :
    Ends (fun p => p.2.Within t) (Stray t) (takeAnchor c) :=
  .bind (ends_takeName hc.next) fun _ hname => .bind (ends_require hname _) fun _ h => .ok h

theorem ends_takeTagProperty (hc : c.Within t) :
    Ends (fun p => p.2.Within t) (Stray t) (takeTagProperty c) := by
  have hgap : ∀ p : Token × Cursor, p.2.Within t → Ends (fun p => p.2.Within t) (Stray t)
      (require isSpaceOrEnd p.2 >>= fun c => pure (p.1, c)) := fun p hp =>
    .bind (ends_require hp _) fun c hc => .ok hc
  unfold takeTagProperty
  refine .ite (fun _ => ?_) fun _ => .ite (fun _ => .bind (.ok hc.next) hgap) fun _ =>
    .ite (fun _ => ?_) fun _ => ?_
  · exact .bind (ends_takeTag (hc.advance 2)) fun p hp =>
      .bind (ends_require hp _) fun c hc => .bind (.ok hc.next) hgap
  · exact .bind (ends_takeHandle hc) fun p hp =>
      .bind (ends_takeTag hp) fun q hq => .bind (.ok hq) hgap
  · exact .bind (ends_takeTag hc.next) fun p hp => .bind (.ok hp) hgap

/-! ### Tokens -/

theorem ends_leaveBlocks (hl : l.Within t) : Ends (·.Within t) (Stray t) l.leaveBlocks :=
  .bind (ends_dropStart (within_unwind hl _)) fun _ h => .ok h

theorem ends_finish (hl : l.Within t) : Ends (·.Within t) (Stray t) l.finish :=
  .bind (ends_leaveBlocks hl) fun _ h => .ok h

theorem ends_openFlow (hl : l.Within t) (token : Token) :
    Ends (·.Within t) (Stray t) (l.openFlow token) :=
  .bind (ends_saveStart hl) fun _ h => .ok (Cursor.Within.next h)

theorem ends_closeFlow (hl : l.Within t) (token : Token) :
    Ends (·.Within t) (Stray t) (l.closeFlow token) :=
  .ite (fun _ => .bind (ends_dropStart hl) fun _ h => .ok (Cursor.Within.next h)) fun _ =>
    .malformed

theorem ends_flowEntry (hl : l.Within t) : Ends (·.Within t) (Stray t) l.flowEntry :=
  .bind (ends_dropStart hl) fun _ h => .ok (Cursor.Within.next h)

theorem ends_startBlock (hl : l.Within t) (token : Token) :
    Ends (·.Within t) (Stray t) (l.startBlock token) := by
  refine .ite (fun _ => .ok hl) fun _ => .ite (fun _ => .malformed) fun _ => ?_
  split
  all_goals
    rename_i l' heq
    have hopen : l'.Within t := within_of_openBlock hl heq
    exact .ok hopen

theorem ends_blockEntry (hl : l.Within t) : Ends (·.Within t) (Stray t) l.blockEntry :=
  .bind (ends_startBlock hl _) fun _ h =>
    .bind (ends_dropStart h) fun _ h => .ok (Cursor.Within.next h)

theorem ends_keyIndicator (hl : l.Within t) : Ends (·.Within t) (Stray t) l.keyIndicator :=
  .bind (ends_startBlock hl _) fun _ h =>
    .bind (ends_dropStart h) fun _ h => .ok (Cursor.Within.next h)

theorem ends_valueIndicator (hl : l.Within t) :
    Ends (·.Within t) (Stray t) l.valueIndicator := by
  unfold valueIndicator
  split
  · rename_i k rest _
    dsimp only
    -- the key is put in front of what is read already, which does not move the cursor
    generalize hinserted : ({ l.insert k.token .key with starts := none :: rest,
                                                          keyAllowed := false } : Layout) = l'
    have hkey : l'.Within t := by
      rw [← hinserted]
      exact hl
    generalize hopened : (if l'.inFlow = true then l' else _) = opened
    have hblock : opened.Within t := by
      rw [← hopened]
      split
      · exact hkey
      · split
        all_goals
          rename_i l'' heq
          have hopen : l''.Within t := within_of_openBlock hkey heq
          exact hopen
    exact .ok hblock.next
  · exact .bind (ends_startBlock hl _) fun _ h =>
      .bind (ends_dropStart h) fun _ h => .ok (Cursor.Within.next h)

theorem ends_keyStarter (hl : l.Within t) (token : Token) (hc : c.Within t) :
    Ends (·.Within t) (Stray t) (l.keyStarter token c) :=
  .bind (ends_saveStart hl) fun _ _ => .ok hc

theorem ends_blockScalar (hl : l.Within t) (folded : Bool) :
    Ends (·.Within t) (Stray t) (l.blockScalar folded) :=
  .bind (ends_dropStart hl) fun _ h => .bind (Scalar.ends_block h _ _) fun _ hc => .ok hc

theorem ends_plainScalar (hl : l.Within t) : Ends (·.Within t) (Stray t) l.plainScalar :=
  .bind (ends_saveStart hl) fun _ h => .ok (Scalar.within_plain h _ _)

theorem ends_quotedScalar (hl : l.Within t) (double : Bool) :
    Ends (·.Within t) (Stray t) (l.quotedScalar double) :=
  .bind (ends_saveStart hl) fun _ h => .bind (Scalar.ends_quoted h _) fun _ hc => .ok hc

/-- **Reading a token** moves forward in the text, or comes to a fault that the text has in
itself. -/
theorem ends_readToken (hl : l.Within t) : Ends (·.Within t) (Stray t) l.readToken := by
  have hanchor := ends_takeAnchor hl
  unfold readToken
  -- the kinds of tokens in the order in which they are tried
  refine .ite (fun _ => .ite (fun _ => ends_finish hl) fun _ => .malformed) fun _ => ?_
  refine .ite (fun _ => .bind (ends_leaveBlocks hl) fun _ _ =>
    .bind (ends_takeDirective hl) fun _ hc => .ok hc) fun _ => ?_
  refine .ite (fun _ => .bind (ends_leaveBlocks hl) fun _ _ =>
    .ok (Cursor.Within.advance hl 3)) fun _ => ?_
  refine .ite (fun _ => .bind (ends_leaveBlocks hl) fun _ _ =>
    .ok (Cursor.Within.advance hl 3)) fun _ => ?_
  refine .ite (fun _ => ends_openFlow hl _) fun _ => .ite (fun _ => ends_openFlow hl _) fun _ => ?_
  refine .ite (fun _ => ends_closeFlow hl _) fun _ =>
    .ite (fun _ => ends_closeFlow hl _) fun _ => ?_
  refine .ite (fun _ => ends_flowEntry hl) fun _ => .ite (fun _ => ends_blockEntry hl) fun _ => ?_
  refine .ite (fun _ => ends_keyIndicator hl) fun _ =>
    .ite (fun _ => ends_valueIndicator hl) fun _ => ?_
  refine .ite (fun _ => .bind hanchor fun _ hc => ends_keyStarter hl _ hc) fun _ => ?_
  refine .ite (fun _ => .bind hanchor fun _ hc => ends_keyStarter hl _ hc) fun _ => ?_
  refine .ite (fun _ => .bind (ends_takeTagProperty hl) fun _ hc => ends_keyStarter hl _ hc)
    fun _ => ?_
  refine .ite (fun _ => ends_blockScalar hl _) fun _ =>
    .ite (fun _ => ends_blockScalar hl _) fun _ => ?_
  refine .ite (fun _ => ends_quotedScalar hl _) fun _ =>
    .ite (fun _ => ends_quotedScalar hl _) fun _ => ?_
  exact .ite (fun _ => ends_plainScalar hl) fun _ => .malformed

theorem ends_step (hl : l.Within t) : Ends (·.Within t) (Stray t) l.step := by
  have htoken := within_toToken hl
  unfold step
  dsimp only
  generalize l.toToken = l' at htoken ⊢
  refine .bind (ends_dropStale _ _) fun starts _ => ?_
  have hfresh : { l' with starts := starts }.Within t := htoken
  exact ends_readToken (within_unwind hfresh _)

/-! ### The next token -/

theorem ends_unsettled (hl : l.Within t) :
    Ends (fun p => p.2.Within t) (Stray t) l.unsettled :=
  .ite (fun _ => .ok hl) fun _ => .ite (fun _ => .ok hl) fun _ =>
    .bind (ends_dropStale _ _) fun _ _ => .ok hl

theorem ends_settleWithin (hl : l.Within t) (fuel : Nat) :
    Ends (·.Within t) (Stray t) (settleWithin fuel l) := by
  induction fuel generalizing l with
  | zero => exact .malformed
  | succ fuel ih =>
    exact .bind (ends_unsettled hl) fun _ hp =>
      .ite (fun _ => .bind (ends_step hp) fun _ h => ih h) fun _ => .ok hp

/-- **To settle the next token**, the text is read forward, or to a fault that it has in itself. -/
theorem ends_settle (hl : l.Within t) : Ends (·.Within t) (Stray t) l.settle :=
  .bind (ends_unsettled hl) fun _ hp => .ite (fun _ => ends_settleWithin hp _) fun _ => .ok hp

end Outline.Yaml.Layout
