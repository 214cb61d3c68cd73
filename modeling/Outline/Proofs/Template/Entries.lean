import Mathlib.Data.List.Basic
import Outline.Proofs.Template.Sections
import Outline.Template

/-!
# Entries of a template

Compiling takes two steps: every line is read into an entry, and the entries are cut into
sections, each of which makes up a tree.

* `Template.readLines_eq_ok_iff`, `Template.readLines_eq_error_iff`: what the entries of a list of
  lines are, and which line refuses the list.
* `Template.compile_eq_ok_iff`: compiling as its two steps.
* `Line.ofTemplate_pairwise`: the numbers of the lines increase.
-/

namespace Outline

/-! ### Lines -/

theorem zipIdx_pairwise {α : Type} (l : List α) (k : Nat) :
    (l.zipIdx k).Pairwise fun a b => a.2 < b.2 := by
  induction l generalizing k with
  | nil => exact List.Pairwise.nil
  | cons x xs ih =>
    rw [List.zipIdx_cons, List.pairwise_cons]
    refine ⟨fun p hp => ?_, ih (k + 1)⟩
    have := List.le_snd_of_mem_zipIdx hp
    omega

/-- **The lines of a template come with increasing numbers.** -/
theorem Line.ofTemplate_pairwise (marker template : Text) :
    (ofTemplate marker template).Pairwise fun l l' => l.number < l'.number := by
  rw [ofTemplate, List.pairwise_map]
  exact (List.Pairwise.filter _ (zipIdx_pairwise _ 1)).imp fun {a b} h => Int.ofNat_lt.mpr h

namespace Template

theorem map_eq_map_iff_zip {α β γ : Type} {f : α → γ} {g : β → γ} {as : List α} {bs : List β}
    (hlen : as.length = bs.length) :
    as.map f = bs.map g ↔ ∀ q ∈ as.zip bs, f q.1 = g q.2 := by
  induction as generalizing bs with
  | nil =>
    rw [List.length_eq_zero_iff.mp hlen.symm]
    exact ⟨fun _ => nofun, fun _ => rfl⟩
  | cons a as ih =>
    cases bs with
    | nil => exact absurd hlen (Nat.succ_ne_zero _)
    | cons b bs =>
      rw [List.map_cons, List.map_cons, List.cons_eq_cons, List.zip_cons_cons,
        List.forall_mem_cons, ih (Nat.succ.inj hlen)]

/-! ### Entries -/

def lineNotices (sep : Text) (l : Line) : List Notice :=
  match Frame.read l.text with
  | none => []
  | some frame => (frame.issues sep).map (.issue (some l.number))

theorem readLines_cons_of_none {sep : Text} {l : Line} (h : Frame.read l.text = none)
    (ls : List Line) : readLines sep (l :: ls) = ([], .error ⟨l.number, l.text⟩) := by
  rw [readLines, h]

theorem readLines_cons_of_some {sep : Text} {l : Line} {frame : Frame}
    (h : Frame.read l.text = some frame) (ls : List Line) :
    readLines sep (l :: ls) =
      (lineNotices sep l ++ (readLines sep ls).1,
        (readLines sep ls).2.map (⟨l, frame.node sep⟩ :: ·)) := by
  rw [readLines, lineNotices, h]

/-- The node of an entry is what its line describes. -/
def Entry.Describes (sep : Text) (e : Entry) : Prop :=
  ∃ frame, Frame.read e.line.text = some frame ∧ e.node = frame.node sep

/-- **Lines are read one by one**: each entry from its own line, with its own issues. -/
theorem readLines_eq_ok_iff {sep : Text} {ls : List Line} {notices : List Notice}
    {es : List Entry} :
    readLines sep ls = (notices, .ok es) ↔
      es.map Entry.line = ls ∧ (∀ e ∈ es, e.Describes sep) ∧
        notices = ls.flatMap (lineNotices sep) := by
  induction ls generalizing notices es with
  | nil =>
    rw [readLines, List.map_eq_nil_iff]
    constructor
    · intro h
      obtain ⟨hns, hes⟩ := Prod.mk.inj h
      obtain rfl := Except.ok.inj hes
      exact ⟨rfl, nofun, hns.symm⟩
    · rintro ⟨rfl, -, rfl⟩
      rfl
  | cons l ls ih =>
    cases hf : Frame.read l.text with
    | none =>
      rw [readLines_cons_of_none hf]
      refine ⟨fun h => absurd (Prod.mk.inj h).2 nofun, ?_⟩
      rintro ⟨hlines, hall, -⟩
      cases es with
      | nil => exact absurd hlines nofun
      | cons e es =>
        obtain ⟨frame, hframe, -⟩ := hall e List.mem_cons_self
        rw [(List.cons.inj hlines).1, hf] at hframe
        exact absurd hframe nofun
    | some frame =>
      rw [readLines_cons_of_some hf, List.flatMap_cons]
      rcases hrest : readLines sep ls with ⟨ns, result⟩
      constructor
      · intro h
        obtain ⟨rfl, hes⟩ := Prod.mk.inj h
        cases result with
        | error r => exact absurd hes nofun
        | ok rest =>
          obtain rfl := Except.ok.inj hes
          obtain ⟨rfl, hall, rfl⟩ := ih.mp hrest
          refine ⟨rfl, fun e he => ?_, rfl⟩
          rcases List.mem_cons.mp he with rfl | he
          · exact ⟨frame, hf, rfl⟩
          · exact hall e he
      · rintro ⟨hlines, hall, rfl⟩
        cases es with
        | nil => exact absurd hlines nofun
        | cons e es =>
          obtain ⟨hline, hlines⟩ := List.cons.inj hlines
          have hih := ih.mpr ⟨hlines, fun e' he' => hall e' (List.mem_cons_of_mem _ he'), rfl⟩
          rw [hrest] at hih
          obtain ⟨rfl, rfl⟩ := Prod.mk.inj hih
          obtain ⟨frame', hf', hnode⟩ := hall e List.mem_cons_self
          rw [hline, hf] at hf'
          obtain rfl := Option.some.inj hf'
          obtain ⟨line, node⟩ := e
          obtain rfl := hline
          obtain rfl := hnode
          rfl

/-- **The first line without a tag refuses the lines**, after the issues of those before it. -/
theorem readLines_eq_error_iff {sep : Text} {ls : List Line} {notices : List Notice}
    {r : Refusal} :
    readLines sep ls = (notices, .error r) ↔
      ∃ before l after, ls = before ++ l :: after ∧ (∀ k ∈ before, Frame.read k.text ≠ none) ∧
        Frame.read l.text = none ∧ r = ⟨l.number, l.text⟩ ∧
        notices = before.flatMap (lineNotices sep) := by
  induction ls generalizing notices with
  | nil =>
    refine ⟨fun h => absurd (Prod.mk.inj h).2 nofun, ?_⟩
    rintro ⟨before, l, after, h, -⟩
    exact absurd h (List.append_ne_nil_of_right_ne_nil before (List.cons_ne_nil l after)).symm
  | cons k ls ih =>
    cases hk : Frame.read k.text with
    | none =>
      rw [readLines_cons_of_none hk]
      constructor
      · intro h
        obtain ⟨rfl, hr⟩ := Prod.mk.inj h
        exact ⟨[], k, ls, rfl, nofun, hk, (Except.error.inj hr).symm, rfl⟩
      · rintro ⟨before, l, after, hls, hbefore, -, rfl, rfl⟩
        cases before with
        | nil =>
          obtain ⟨rfl, -⟩ := List.cons.inj hls
          rfl
        | cons b before =>
          obtain ⟨rfl, -⟩ := List.cons.inj hls
          exact absurd hk (hbefore k List.mem_cons_self)
    | some frame =>
      rw [readLines_cons_of_some hk]
      rcases hrest : readLines sep ls with ⟨ns, result⟩
      constructor
      · intro h
        obtain ⟨rfl, hr⟩ := Prod.mk.inj h
        cases result with
        | ok es => exact absurd hr nofun
        | error r' =>
          obtain rfl := Except.error.inj hr
          obtain ⟨before, l, after, rfl, hbefore, hl, hr', rfl⟩ := ih.mp hrest
          refine ⟨k :: before, l, after, rfl, ?_, hl, hr', List.flatMap_cons.symm⟩
          exact List.forall_mem_cons.mpr ⟨by rw [hk]; exact Option.some_ne_none frame, hbefore⟩
      · rintro ⟨before, l, after, hls, hbefore, hl, hr, rfl⟩
        cases before with
        | nil =>
          obtain ⟨rfl, -⟩ := List.cons.inj hls
          exact absurd (hk.symm.trans hl) (Option.some_ne_none frame)
        | cons b before =>
          obtain ⟨rfl, rfl⟩ := List.cons.inj hls
          have hih := ih.mpr
            ⟨before, l, after, rfl, (List.forall_mem_cons.mp hbefore).2, hl, hr, rfl⟩
          obtain ⟨rfl, rfl⟩ := Prod.mk.inj (hrest.symm.trans hih)
          rw [List.flatMap_cons]
          rfl

/-- **Compiling is reading the lines and building the forest of the entries.** -/
theorem compile_eq_ok_iff {s : Settings} {template : Text} {notices : List Notice}
    {forest : Forest} :
    compile s template = (notices, .ok forest) ↔
      ∃ issues es, readLines [s.separator.char] (Line.ofTemplate [s.marker.char] template) =
        (issues, .ok es) ∧ notices = issues ++ (build es).1 ∧ forest = (build es).2 := by
  rw [compile]
  rcases hread : readLines [s.separator.char] (Line.ofTemplate [s.marker.char] template) with
    ⟨issues, result⟩
  cases result with
  | error r =>
    refine ⟨fun h => absurd (Prod.mk.inj h).2 nofun, ?_⟩
    rintro ⟨issues', es, h, -⟩
    exact absurd (Prod.mk.inj h).2 nofun
  | ok es =>
    constructor
    · intro h
      obtain ⟨rfl, hforest⟩ := Prod.mk.inj h
      exact ⟨issues, es, rfl, rfl, (Except.ok.inj hforest).symm⟩
    · rintro ⟨issues', es', h, rfl, rfl⟩
      obtain ⟨rfl, hes⟩ := Prod.mk.inj h
      obtain rfl := Except.ok.inj hes
      rfl

theorem compile_eq_error_iff {s : Settings} {template : Text} {notices : List Notice}
    {r : Refusal} :
    compile s template = (notices, .error r) ↔
      readLines [s.separator.char] (Line.ofTemplate [s.marker.char] template) =
        (notices, .error r) := by
  rw [compile]
  rcases readLines [s.separator.char] (Line.ofTemplate [s.marker.char] template) with
    ⟨issues, result⟩
  cases result with
  | error r' =>
    simp only [Prod.mk.injEq, Except.error.injEq]
  | ok es =>
    exact ⟨fun h => absurd (Prod.mk.inj h).2 nofun, fun h => absurd (Prod.mk.inj h).2 nofun⟩

theorem build_forest (es : List Entry) :
    (build es).2 = (Section.split (fun e => e.line.depth) es).2.map sectionTree := rfl

theorem build_notices (es : List Entry) :
    (build es).1 = (Section.split (fun e => e.line.depth) es).1.map (fun e => orphaned e.line) ++
      [.compiled (build es).2.length] := rfl

end Template

end Outline
