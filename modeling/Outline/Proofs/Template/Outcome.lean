import Outline.Proofs.Node.Reading
import Outline.Proofs.Template.Entries

/-!
# The outcome of compiling

What a template comes to is told on its text: on the lines that are not blank, with their
positions, on the markers in front of each, and on the text behind them.

* `Line.ofTemplate_eq`: what the lines of a template are.
* `Template.build_notices_eq`: the notices of entries that belong to no tree, and of the size.
* `Template.compile_outcome`: when a template is refused and for which line, and the notices of a
  template that is and of one that is not.
-/

namespace Outline

open Text

/-! ### The lines of a text -/

namespace Line

/-- The lines of a text that are not blank, each with its position, counted from one. -/
def visible (template : Text) : List (Text × Nat) :=
  (template.lines.zipIdx 1).filter fun p => !p.1.isVoid

theorem visible_pairwise (template : Text) :
    (visible template).Pairwise fun p q => p.2 < q.2 :=
  List.Pairwise.filter _ (zipIdx_pairwise _ 1)

def markers (m : Mark) (raw : Text) : Nat := (raw.trim.takeWhile (· == m.char)).length

def body (m : Mark) (raw : Text) : Text := trim (raw.trim.dropWhile (· == m.char))

def ofRaw (m : Mark) (p : Text × Nat) : Line := ⟨body m p.1, markers m p.1, p.2⟩

theorem drop_length_takeWhile (p : Char → Bool) (t : Text) :
    t.drop (t.takeWhile p).length = t.dropWhile p := by
  induction t with
  | nil => rfl
  | cons c t ih => cases hc : p c <;> simp [hc, ih]

theorem scan_eq (m : Mark) (p : Text × Nat) : scan [m.char] p.2 p.1 = ofRaw m p := by
  have hmarker : (fun c => [c] == [m.char]) = (· == m.char) := by
    funext c
    simp
  rw [scan]
  simp only [leadingMarkers, hmarker, ofRaw, body, markers, drop_length_takeWhile]

/-- **The lines of a template**, told on its text. -/
theorem ofTemplate_eq (m : Mark) (template : Text) :
    ofTemplate [m.char] template = (visible template).map (ofRaw m) := by
  rw [ofTemplate]
  exact List.map_congr_left fun p _ => scan_eq m p

end Line

namespace Template

/-- What parsing the text of a line has to say. -/
def warnings (s : Settings) (p : Text × Nat) : List Notice :=
  (Node.read [s.separator.char] (Line.body s.marker p.1)).issues.map (.issue (some p.2))

theorem lineNotices_eq (sep : Char) (l : Line) :
    lineNotices [sep] l = (Node.read [sep] l.text).issues.map (.issue (some l.number)) := by
  rw [lineNotices]
  cases h : Frame.read l.text with
  | none =>
    rw [Node.read, h]
    rfl
  | some frame => rw [Node.read_singleton h]

/-! ### Notices of the entries -/

/-- **The entries that belong to no tree** are those before the first one at depth zero, and there
is a tree for each of these. -/
theorem build_notices_eq (es : List Entry) : (build es).1 =
    ((es.map Entry.line).takeWhile fun l => l.depth ≠ 0).map orphaned ++
      [.compiled ((es.map Entry.line).countP fun l => l.depth = 0)] := by
  have hcount : (build es).2.length = (es.map Entry.line).countP fun l => l.depth = 0 := by
    rw [build_forest, List.length_map, ← List.length_map (f := Section.top),
      Section.map_top_split, ← List.countP_eq_length_filter, List.countP_map]
    rfl
  rw [build_notices, hcount, Section.split_fst_eq, List.takeWhile_map, List.map_map]
  rfl

/-! ### The outcome -/

variable {s : Settings} {template : Text}

theorem flatMap_lineNotices (s : Settings) (ps : List (Text × Nat)) :
    (ps.map (Line.ofRaw s.marker)).flatMap (lineNotices [s.separator.char]) =
      ps.flatMap (warnings s) := by
  rw [List.flatMap_map]
  exact List.flatMap_congr fun p _ => lineNotices_eq _ _

theorem read_body_eq_none_iff (m : Mark) (raw : Text) :
    Frame.read (Line.body m raw) = none ↔ startsWithWord (Line.body m raw) = false := by
  rw [Frame.read_eq_none_iff, Line.body, trim_trim]

theorem compile_refused_iff {notices : List Notice} {r : Refusal} :
    compile s template = (notices, .error r) ↔
      ∃ before p after, Line.visible template = before ++ p :: after ∧
        (∀ q ∈ before, startsWithWord (Line.body s.marker q.1) = true) ∧
        startsWithWord (Line.body s.marker p.1) = false ∧
        r = ⟨p.2, Line.body s.marker p.1⟩ ∧ notices = before.flatMap (warnings s) := by
  have hword : ∀ raw, Frame.read (Line.body s.marker raw) ≠ none ↔
      startsWithWord (Line.body s.marker raw) = true := by
    intro raw
    rw [Ne, read_body_eq_none_iff, Bool.not_eq_false]
  rw [compile_eq_error_iff, readLines_eq_error_iff, Line.ofTemplate_eq]
  constructor
  · rintro ⟨_, _, _, hsplit, hbefore, hl, rfl, rfl⟩
    obtain ⟨before, rest, hvisible, rfl, hrest⟩ := List.map_eq_append_iff.mp hsplit
    obtain ⟨p, after, rfl, rfl, rfl⟩ := List.map_eq_cons_iff.mp hrest
    refine ⟨before, p, after, hvisible, fun q hq => ?_,
      (read_body_eq_none_iff s.marker p.1).mp hl, rfl,
      flatMap_lineNotices s before⟩
    exact (hword q.1).mp (List.forall_mem_map.mp hbefore q hq)
  · rintro ⟨before, p, after, hvisible, hbefore, hp, rfl, rfl⟩
    rw [hvisible, List.map_append, List.map_cons]
    refine ⟨_, _, _, rfl, List.forall_mem_map.mpr fun q hq => ?_,
      (read_body_eq_none_iff s.marker p.1).mpr hp,
      rfl, (flatMap_lineNotices s before).symm⟩
    exact (hword q.1).mpr (hbefore q hq)

theorem notices_of_compile {notices : List Notice} {forest : Forest}
    (h : compile s template = (notices, .ok forest)) :
    notices = (Line.visible template).flatMap (warnings s) ++
      (((Line.visible template).takeWhile fun p => Line.markers s.marker p.1 ≠ 0).map
        fun p => .issue (some p.2) (.orphan (Line.body s.marker p.1))) ++
      [.compiled ((Line.visible template).countP fun p => Line.markers s.marker p.1 = 0)] := by
  obtain ⟨issues, es, hread, rfl, -⟩ := compile_eq_ok_iff.mp h
  obtain ⟨hlines, -, rfl⟩ := readLines_eq_ok_iff.mp hread
  rw [build_notices_eq, hlines, Line.ofTemplate_eq, flatMap_lineNotices, List.takeWhile_map,
    List.map_map, List.countP_map, List.append_assoc]
  simp only [Function.comp_def, Line.ofRaw, Int.natCast_eq_zero, ne_eq]
  rfl

theorem startsWithWord_of_compile {notices : List Notice} {forest : Forest}
    (h : compile s template = (notices, .ok forest)) :
    ∀ p ∈ Line.visible template, startsWithWord (Line.body s.marker p.1) = true := by
  obtain ⟨issues, es, hread, -, -⟩ := compile_eq_ok_iff.mp h
  obtain ⟨hlines, hdescribes, -⟩ := readLines_eq_ok_iff.mp hread
  intro p hp
  rw [Line.ofTemplate_eq] at hlines
  have hmem := List.mem_map_of_mem (f := Line.ofRaw s.marker) hp
  rw [← hlines] at hmem
  obtain ⟨e, he, hline⟩ := List.mem_map.mp hmem
  obtain ⟨frame, hframe, -⟩ := hdescribes e he
  rw [hline] at hframe
  by_contra hword
  have hnone := (read_body_eq_none_iff s.marker p.1).mpr (Bool.eq_false_iff.mpr hword)
  exact absurd (hframe.symm.trans hnone) (Option.some_ne_none frame)

/-- **The outcome of compiling.**  A template is refused exactly when some line that is not blank
has no word character behind its markers, for the first such line, and after the notices of the
lines before it.  Otherwise it is compiled, with the notices of all lines first, those of the lines
that belong to no tree next, and that of the size last. -/
theorem compile_outcome (s : Settings) (template : Text) :
    ((∃ notices r, compile s template = (notices, .error r)) ↔
      ∃ p ∈ Line.visible template, startsWithWord (Line.body s.marker p.1) = false) ∧
    (∀ notices r, compile s template = (notices, .error r) ↔
      ∃ before p after, Line.visible template = before ++ p :: after ∧
        (∀ q ∈ before, startsWithWord (Line.body s.marker q.1) = true) ∧
        startsWithWord (Line.body s.marker p.1) = false ∧
        r = ⟨p.2, Line.body s.marker p.1⟩ ∧ notices = before.flatMap (warnings s)) ∧
    (∀ notices, (∃ forest, compile s template = (notices, .ok forest)) ↔
      (∀ p ∈ Line.visible template, startsWithWord (Line.body s.marker p.1) = true) ∧
        notices = (Line.visible template).flatMap (warnings s) ++
          (((Line.visible template).takeWhile fun p => Line.markers s.marker p.1 ≠ 0).map
            fun p => .issue (some p.2) (.orphan (Line.body s.marker p.1))) ++
          [.compiled
            ((Line.visible template).countP fun p => Line.markers s.marker p.1 = 0)]) := by
  rcases hcompile : compile s template with ⟨issues, r | forest⟩
  · -- refused: the line that it is refused for has no word character
    obtain ⟨before, p, after, hvisible, hbefore, hp, hr, hissues⟩ :=
      compile_refused_iff.mp hcompile
    have hmem : p ∈ Line.visible template := by simp [hvisible]
    refine ⟨⟨fun _ => ⟨p, hmem, hp⟩, fun _ => ⟨issues, r, rfl⟩⟩, fun notices r' => ?_, ?_⟩
    · rw [← hcompile, compile_refused_iff]
    · intro notices
      constructor
      · rintro ⟨forest, h⟩
        exact absurd (Prod.mk.inj h).2 nofun
      · rintro ⟨hword, -⟩
        exact absurd (hp.symm.trans (hword p hmem)) Bool.false_ne_true
  · have hword := startsWithWord_of_compile hcompile
    refine ⟨⟨?_, ?_⟩, fun notices r => ?_, fun notices => ⟨?_, ?_⟩⟩
    · rintro ⟨notices, r, h⟩
      exact absurd (Prod.mk.inj h).2 nofun
    · rintro ⟨p, hp, hfalse⟩
      exact absurd (hfalse.symm.trans (hword p hp)) Bool.false_ne_true
    · rw [← hcompile, compile_refused_iff]
    · rintro ⟨forest', h⟩
      obtain ⟨rfl, -⟩ := Prod.mk.inj h
      exact ⟨hword, notices_of_compile hcompile⟩
    · rintro ⟨-, rfl⟩
      exact ⟨forest, by rw [notices_of_compile hcompile]⟩

/-- A line of markers alone is refused, also when it belongs to no tree. -/
example : compile {} ">a\n>>\nb".toList = ([], .error ⟨2, []⟩) := rfl

end Template

end Outline
