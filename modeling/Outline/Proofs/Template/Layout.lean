import Mathlib.Logic.Relation
import Outline.Proofs.Template.Numbers
import Outline.Proofs.Template.Outcome
import Outline.Proofs.Text.Lines
import Outline.Proofs.Text.Trimming

/-!
# The layout of a template

White space around a line and behind its markers, lines that are blank, and the way in which a line
break is written are the **layout** of a template.  The lines that are not blank are the pieces
between line breaks that are not blank, so they are cut at every break, and what is left of such a
line is blind to the white space in those places.

* `Text.filled_append_break`: the lines that are not blank are cut at any line break.
* `Line.bare_behindMarkers`: white space behind the markers of a line means nothing.
* `Template.bareLines_relaid`: an edit of the layout keeps the texts and depths of the lines.
* `Template.compile_of_relaid`: templates that differ in layout compile to the same.
-/

namespace Outline

open Text

/-! ### Lines that are not blank -/

namespace Text

variable {c : Char} {b p q t u w : Text}

def filled (t : Text) : List Text := t.lines.filter fun l => !isVoid l

/-- An empty line is blank, so it is no matter whether there is one in front of no lines. -/
theorem filter_headD (ls : List Text) :
    ls.filter (fun l => !isVoid l) =
      [ls.headD []].filter (fun l => !isVoid l) ++ ls.tail.filter fun l => !isVoid l := by
  cases ls with
  | nil => rfl
  | cons l ls => exact List.filter_append [l] ls

/-- The lines of a text are the pieces between its line breaks, up to pieces that are empty: a
carriage return with a line feed makes one more, and so does a break at the end. -/
theorem lines_pieces (t : Text) :
    (lines t).headD [] = (t.splitOnP isBreak).headD [] ∧
      (lines t).tail.filter (fun l => !isVoid l) =
        (t.splitOnP isBreak).tail.filter fun l => !isVoid l := by
  induction t using lines.induct with
  | case1 => exact ⟨rfl, rfl⟩
  | case2 rest ih =>
    have hr : isBreak '\r' = true := by decide
    have hn : isBreak '\n' = true := by decide
    have hlines : lines ('\r' :: '\n' :: rest) = [] :: lines rest := rfl
    rw [hlines, List.splitOnP_cons_eq_if_modifyHead, if_pos hr,
      List.splitOnP_cons_eq_if_modifyHead, if_pos hn]
    refine ⟨rfl, ?_⟩
    show (lines rest).filter _ = (rest.splitOnP isBreak).filter _
    rw [filter_headD, ih.1, ih.2, ← filter_headD]
  | case3 c rest hcr hc ih =>
    rw [lines.eq_3 c rest hcr, if_pos hc, List.splitOnP_cons_eq_if_modifyHead, if_pos hc]
    refine ⟨rfl, ?_⟩
    show (lines rest).filter _ = (rest.splitOnP isBreak).filter _
    rw [filter_headD, ih.1, ih.2, ← filter_headD]
  | case4 c rest _ hc hlines ih | case5 c rest _ hc l ls hlines ih =>
    rw [lines_cons (Bool.eq_false_iff.mpr hc), List.splitOnP_cons_eq_if_modifyHead, if_neg hc]
    obtain ⟨k, ks, hk⟩ := List.exists_cons_of_ne_nil (List.splitOnP_ne_nil isBreak rest)
    rw [hlines, hk] at ih
    rw [hlines, hk]
    exact ⟨congrArg (c :: ·) ih.1, ih.2⟩

theorem filled_eq (t : Text) : filled t = (t.splitOnP isBreak).filter fun l => !isVoid l := by
  obtain ⟨hhead, htail⟩ := lines_pieces t
  rw [filled, filter_headD, hhead, htail, ← filter_headD]

/-- **The lines that are not blank are cut at any line break**, also between a carriage return and
a line feed: the empty line there is blank. -/
theorem filled_append_break (hc : isBreak c = true) (t u : Text) :
    filled (t ++ c :: u) = filled t ++ filled u := by
  rw [filled_eq, List.splitOnP_append_cons t u hc, List.filter_append, ← filled_eq, ← filled_eq]

theorem filled_of_unbroken (ht : Unbroken t) :
    filled t = [t].filter fun l => !isVoid l := by
  rw [filled_eq, List.splitOnP_eq_singleton ht]

/-! ### Places in a text -/

/-- A **line break** as it is written: one character, or a carriage return with a line feed. -/
def IsLineBreak (b : Text) : Prop := b = ['\r', '\n'] ∨ ∃ c, isBreak c = true ∧ b = [c]

def IsSpace (w : Text) : Prop := ∀ c ∈ w, isBlank c = true ∧ isBreak c = false

instance (w : Text) : Decidable (IsSpace w) :=
  List.decidableBAll (fun c => isBlank c = true ∧ isBreak c = false) w

theorem IsSpace.isVoid (hw : IsSpace w) : isVoid w = true :=
  List.all_eq_true.mpr fun c hc => (hw c hc).1

/-- `l` is a line of the text `p ++ l ++ q`: line breaks stand on both sides, or nothing. -/
structure IsLine (p l q : Text) : Prop where
  start : ∀ c ∈ p.getLast?, isBreak c = true
  unbroken : Unbroken l
  stop : ∀ c ∈ q.head?, isBreak c = true

theorem filled_append_of_start (hp : ∀ c ∈ p.getLast?, isBreak c = true) (u : Text) :
    filled (p ++ u) = filled p ++ filled u := by
  rcases List.eq_nil_or_concat p with rfl | ⟨p, c, rfl⟩
  · rfl
  · rw [List.concat_eq_append] at hp ⊢
    have hc : isBreak c = true := hp c List.getLast?_concat
    rw [List.append_assoc, List.singleton_append, filled_append_break hc,
      filled_append_break hc p []]
    simp [filled, lines]

theorem filled_append_of_stop (hq : ∀ c ∈ q.head?, isBreak c = true) (u : Text) :
    filled (u ++ q) = filled u ++ filled q := by
  cases q with
  | nil => simp [filled, lines]
  | cons c q =>
    have hc : isBreak c = true := hq c rfl
    have hfilled := filled_append_break hc [] q
    rw [filled_append_break hc, show filled (c :: q) = _ from hfilled]
    rfl

theorem filled_append_lineBreak (hb : IsLineBreak b) (t u : Text) :
    filled (t ++ b ++ u) = filled t ++ filled u := by
  rcases hb with rfl | ⟨c, hc, rfl⟩
  · have hr : isBreak '\r' = true := by decide
    have hn : isBreak '\n' = true := by decide
    have hfeed := filled_append_break hn [] u
    rw [List.append_assoc]
    exact (filled_append_break hr t ('\n' :: u)).trans (congrArg (filled t ++ ·) hfeed)
  · rw [List.append_assoc]
    exact filled_append_break hc t u

end Text

/-! ### A line without its number -/

namespace Line

variable {m : Mark} {l l' u v w : Text} {k : Nat}

/-- The text behind the markers of a raw line, and the number of its markers. -/
def bare (m : Mark) (raw : Text) : Text × Nat := (body m raw, markers m raw)

theorem bare_of_trim_eq (h : trim l = trim l') : bare m l = bare m l' := by
  simp only [bare, body, markers, h]

theorem head?_ne_of_isSpace (hw : IsSpace w) (hu : u.head? ≠ some m.char) :
    (w ++ u).head? ≠ some m.char := by
  cases w with
  | nil => exact hu
  | cons c w =>
    intro h
    have hc : c = m.char := Option.some.inj h
    have hblank := (hw c List.mem_cons_self).1
    rw [hc, m.visible] at hblank
    exact absurd hblank Bool.false_ne_true

theorem bare_replicate (hk : k ≠ 0) (hu : u.head? ≠ some m.char) :
    bare m (List.replicate k m.char ++ u) = (trim u, k) := by
  have hmark : ∀ c ∈ List.replicate k m.char, (c == m.char) = true := by
    intro c hc
    simpa using List.eq_of_mem_replicate hc
  have hvisible : ∀ c ∈ List.replicate k m.char, isBlank c = false := by
    intro c hc
    rw [List.eq_of_mem_replicate hc]
    exact m.visible
  have hstarts : StartsVisible (List.replicate k m.char ++ u) := by
    obtain ⟨j, rfl⟩ := Nat.exists_eq_succ_of_ne_zero hk
    rw [List.replicate_succ, List.cons_append]
    exact startsVisible_cons.mpr m.visible
  have htrim : trim (List.replicate k m.char ++ u) =
      List.replicate k m.char ++ trimRight u := by
    rw [trim, trimLeft_eq_self_iff.mpr hstarts,
      trimRight_append_of_endsVisible (tight_of_forall hvisible).2]
  -- what is left of the text is a part of it from the left, so it starts with no marker either
  have hhead : ∀ c ∈ (trimRight u).head?, (c == m.char) = false := by
    intro c hc
    obtain ⟨x, hx⟩ := trimRight_isPrefix u
    have hne : u.head? = some c := by
      rw [← hx, List.head?_append, Option.mem_def.mp hc]
      rfl
    rw [hne] at hu
    simpa using fun h => hu (congrArg some h)
  rw [bare, body, markers, htrim, takeWhile_append hmark hhead, dropWhile_append hmark hhead,
    List.length_replicate, trim_trimRight]

/-- **White space behind the markers of a line means nothing.** -/
theorem bare_behindMarkers (hv : IsSpace v) (hw : IsSpace w) (hu : u.head? ≠ some m.char)
    (k : Nat) :
    bare m (v ++ List.replicate k m.char ++ (w ++ u)) =
      bare m (v ++ List.replicate k m.char ++ u) := by
  rw [List.append_assoc, List.append_assoc, bare_of_trim_eq (trim_append_left hv.isVoid _),
    bare_of_trim_eq (trim_append_left hv.isVoid (List.replicate k m.char ++ u))]
  by_cases hk : k = 0
  · subst hk
    exact bare_of_trim_eq (trim_append_left hw.isVoid u)
  · rw [bare_replicate hk (head?_ne_of_isSpace hw hu), bare_replicate hk hu,
      trim_append_left hw.isVoid]

end Line

/-! ### Edits of the layout -/

namespace Template

/-- The line with white space put in front of it, behind it or behind its markers, or with a blank
line put above or below it. -/
inductive Respaced (m : Mark) : Text → Text → Prop
  | before {w : Text} (l : Text) (hw : IsSpace w) : Respaced m l (w ++ l)
  | behind {w : Text} (l : Text) (hw : IsSpace w) : Respaced m l (l ++ w)
  /-- The markers of a line may stand behind white space, and all of them count. -/
  | behindMarkers {v w u : Text} (k : Nat) (hv : IsSpace v) (hw : IsSpace w)
    (hu : u.head? ≠ some m.char) :
    Respaced m (v ++ List.replicate k m.char ++ u) (v ++ List.replicate k m.char ++ (w ++ u))
  | above {w b : Text} (l : Text) (hw : IsSpace w) (hb : IsLineBreak b) : Respaced m l (w ++ b ++ l)
  | below {w b : Text} (l : Text) (hw : IsSpace w) (hb : IsLineBreak b) : Respaced m l (l ++ b ++ w)

/-- The text with an **edit of its layout**: a line respaced, or a line break replaced. -/
inductive Relaid (m : Mark) : Text → Text → Prop
  | line {p l l' q : Text} (hl : IsLine p l q) (h : Respaced m l l') :
    Relaid m (p ++ l ++ q) (p ++ l' ++ q)
  | lineBreak (p q : Text) {b b' : Text} (hb : IsLineBreak b) (hb' : IsLineBreak b') :
    Relaid m (p ++ b ++ q) (p ++ b' ++ q)

variable {s : Settings} {m : Mark} {l l' t t' : Text}

def bareLines (m : Mark) (t : Text) : List (Text × Nat) := (filled t).map (Line.bare m)

theorem bareLines_of_unbroken (hl : Unbroken l) :
    bareLines m l = if trim l = [] then [] else [Line.bare m l] := by
  rw [bareLines, filled_of_unbroken hl, List.filter_cons]
  by_cases h : trim l = []
  · simp [h, trim_eq_nil_iff.mp h]
  · have hvoid := mt trim_eq_nil_iff.mpr h
    simp [h, hvoid]

theorem bareLines_respaced (hl : Unbroken l) (h : Respaced m l l') :
    bareLines m l' = bareLines m l := by
  have hspace : ∀ {w : Text}, IsSpace w → Unbroken w := fun hw c hc => (hw c hc).2
  have hnone : ∀ {w : Text}, IsSpace w → bareLines m w = [] := fun hw => by
    rw [bareLines_of_unbroken (hspace hw), if_pos (trim_eq_nil_iff.mpr hw.isVoid)]
  cases h with
  | before l hw =>
    have htrim := trim_append_left hw.isVoid l
    rw [bareLines_of_unbroken ((hspace hw).append hl), bareLines_of_unbroken hl, htrim,
      Line.bare_of_trim_eq htrim]
  | behind l hw =>
    have htrim := trim_append_right hw.isVoid l
    rw [bareLines_of_unbroken (hl.append (hspace hw)), bareLines_of_unbroken hl, htrim,
      Line.bare_of_trim_eq htrim]
  | @behindMarkers v w u k hv hw hu =>
    have hmarkers : Unbroken (List.replicate k m.char) := unbroken_of_visible fun c hc => by
      rw [List.eq_of_mem_replicate hc]
      exact m.visible
    have hu' : Unbroken u := hl.of_subset (List.subset_append_right _ _)
    have hl' : Unbroken (v ++ List.replicate k m.char ++ (w ++ u)) :=
      ((hspace hv).append hmarkers).append ((hspace hw).append hu')
    have hblank : trim (v ++ List.replicate k m.char ++ (w ++ u)) = [] ↔
        trim (v ++ List.replicate k m.char ++ u) = [] := by
      have hvoid := hw.isVoid
      simp only [isVoid] at hvoid
      simp only [trim_eq_nil_iff, isVoid, List.all_append, hvoid, Bool.true_and]
    simp only [bareLines_of_unbroken hl', bareLines_of_unbroken hl, hblank,
      Line.bare_behindMarkers hv hw hu]
  | above l hw hb =>
    rw [bareLines, filled_append_lineBreak hb, List.map_append]
    exact congrArg (· ++ _) (hnone hw)
  | below l hw hb =>
    rw [bareLines, filled_append_lineBreak hb, List.map_append]
    exact (congrArg (_ ++ ·) (hnone hw)).trans (List.append_nil _)

/-- **An edit of the layout keeps the texts and the depths of the lines.** -/
theorem bareLines_relaid (h : Relaid m t t') : bareLines m t' = bareLines m t := by
  cases h with
  | @line p l l' q hl hrespaced =>
    have hbare : ∀ x, bareLines m (p ++ x ++ q) =
        bareLines m p ++ bareLines m x ++ bareLines m q := by
      intro x
      rw [bareLines, filled_append_of_stop hl.stop, filled_append_of_start hl.start,
        List.map_append, List.map_append]
      rfl
    rw [hbare, hbare, bareLines_respaced hl.unbroken hrespaced]
  | lineBreak p q hb hb' =>
    rw [bareLines, bareLines, filled_append_lineBreak hb', filled_append_lineBreak hb]

/-! ### Compiling -/

theorem map_renumber_ofTemplate (m : Mark) (t : Text) :
    (Line.ofTemplate [m.char] t).map (Line.renumber fun _ => 0) =
      (bareLines m t).map fun p => ⟨p.1, p.2, 0⟩ := by
  have hfst : (Line.visible t).map Prod.fst = filled t := by
    have hzip : ((lines t).zipIdx 1).map Prod.fst = lines t := List.zipIdx_map_fst 1 (lines t)
    rw [Line.visible, filled]
    conv => rhs; rw [← hzip]
    rw [List.filter_map]
    rfl
  rw [Line.ofTemplate_eq, bareLines, ← hfst, List.map_map, List.map_map, List.map_map]
  rfl

theorem compile_eq_of_bareLines (h : bareLines s.marker t = bareLines s.marker t') :
    ((compile s t).2.mapError (Refusal.renumber fun _ => 0)).map
        (List.map (Tree.map (Item.renumber fun _ => 0))) =
      ((compile s t').2.mapError (Refusal.renumber fun _ => 0)).map
        (List.map (Tree.map (Item.renumber fun _ => 0))) := by
  rw [compile_renumber, compile_renumber, map_renumber_ofTemplate, map_renumber_ofTemplate, h]

theorem map_node_renumber (f : Int → Int) (ts : Forest) :
    (ts.map (Tree.map (Item.renumber f))).map (Tree.map Item.node) =
      ts.map (Tree.map Item.node) := by
  rw [List.map_map]
  exact List.map_congr_left fun t _ => Tree.map_map Item.node (Item.renumber f) t

/-- **Layout does not matter.**  A template whose layout is edited any number of times compiles to
a forest of the same nodes, or is refused for the same text, but perhaps with another number of the
line. -/
theorem compile_of_relaid (h : Relation.ReflTransGen (Relaid s.marker) t t') :
    (∃ f f', (compile s t).2 = .ok f ∧ (compile s t').2 = .ok f' ∧
      f.map (Tree.map Item.node) = f'.map (Tree.map Item.node)) ∨
    ∃ r line, (compile s t).2 = .error r ∧ (compile s t').2 = .error { r with line := line } := by
  have hbare : bareLines s.marker t = bareLines s.marker t' := by
    induction h with
    | refl => rfl
    | tail _ hstep ih => exact ih.trans (bareLines_relaid hstep).symm
  have hcompile := compile_eq_of_bareLines hbare
  cases ht : (compile s t).2 with
  | error r =>
    cases ht' : (compile s t').2 with
    | error r' =>
      rw [ht, ht'] at hcompile
      have htext := congrArg Refusal.text (Except.error.inj hcompile)
      refine .inr ⟨r, r'.line, rfl, ?_⟩
      obtain ⟨line, text⟩ := r'
      exact congrArg (fun x => Except.error (Refusal.mk line x)) htext.symm
    | ok f' =>
      rw [ht, ht'] at hcompile
      exact absurd hcompile nofun
  | ok f =>
    cases ht' : (compile s t').2 with
    | error r' =>
      rw [ht, ht'] at hcompile
      exact absurd hcompile nofun
    | ok f' =>
      rw [ht, ht'] at hcompile
      refine .inl ⟨f, f', rfl, rfl, ?_⟩
      have hforest := congrArg (List.map (Tree.map Item.node)) (Except.ok.inj hcompile)
      rwa [map_node_renumber, map_node_renumber] at hforest

/-- White space in front of a line and behind markers, a blank line, and another line break. -/
theorem compile_of_relaid_of_indented :
    let t : Text := ['a', '\n', '>', 'b', '(', 'c', ')']
    let t' : Text := ['\t', 'a', '\r', '\n', ' ', '\n', '>', ' ', 'b', '(', 'c', ')']
    Relation.ReflTransGen (Relaid Mark.greater) t t' ∧
      ∃ f f', (compile {} t).2 = .ok f ∧ (compile {} t').2 = .ok f' ∧
        f.map (Tree.map Item.node) = f'.map (Tree.map Item.node) := by
  intro t t'
  have htab : IsSpace ['\t'] := by decide
  have hspace : IsSpace [' '] := by decide
  have hfeed : IsLineBreak ['\n'] := .inr ⟨'\n', by decide, rfl⟩
  let b : Text := ['>', 'b', '(', 'c', ')']
  have hlast : ∀ p : Text, IsLine (p ++ ['\n']) b [] := by
    intro p
    refine ⟨fun c hc => ?_, by decide, nofun⟩
    obtain rfl := Option.some.inj (List.getLast?_concat.symm.trans hc)
    decide
  have hfirst : IsLine [] ['a'] ('\n' :: b) := by
    refine ⟨nofun, by decide, fun c hc => ?_⟩
    obtain rfl := Option.some.inj hc
    decide
  let t₁ : Text := '\t' :: 'a' :: '\n' :: b
  let t₂ : Text := '\t' :: 'a' :: '\r' :: '\n' :: b
  let t₃ : Text := '\t' :: 'a' :: '\r' :: '\n' :: ' ' :: '\n' :: b
  have hindent : Relaid Mark.greater t t₁ :=
    @Relaid.line _ [] ['a'] _ ('\n' :: b) hfirst (.before ['a'] htab)
  have hbreak : Relaid Mark.greater t₁ t₂ := .lineBreak ['\t', 'a'] b hfeed (.inl rfl)
  have hblank : Relaid Mark.greater t₂ t₃ :=
    @Relaid.line _ ['\t', 'a', '\r', '\n'] b _ [] (hlast ['\t', 'a', '\r'])
      (.above b hspace hfeed)
  have hmarker : Relaid Mark.greater t₃ t' :=
    @Relaid.line _ ['\t', 'a', '\r', '\n', ' ', '\n'] b ['>', ' ', 'b', '(', 'c', ')'] []
      (hlast ['\t', 'a', '\r', '\n', ' '])
      (@Respaced.behindMarkers .greater [] [' '] ['b', '(', 'c', ')'] 1 nofun hspace (by decide))
  have hrelaid : Relation.ReflTransGen (Relaid Mark.greater) t t' :=
    (((Relation.ReflTransGen.single hindent).tail hbreak).tail hblank).tail hmarker
  refine ⟨hrelaid, (compile_of_relaid (s := {}) hrelaid).resolve_right ?_⟩
  rintro ⟨r, -, hr, -⟩
  exact absurd hr nofun

end Template

end Outline
