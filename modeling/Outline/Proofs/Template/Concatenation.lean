import Outline.Proofs.Template.Numbers
import Outline.Proofs.Template.Trees
import Outline.Proofs.Text.Lines

/-!
# Templates put together

A template behind another one starts on a line of its own.  When its first line that is not blank
is at depth zero, it **starts at the top**: no line of it falls into a tree of the other, so the two
are compiled side by side, and only the numbers of its lines are **shifted** by the number of lines
before it.

* `Line.ofTemplate_append`: the lines of two templates put together.
* `Template.build_append`: the forest of two lists of entries.
* `Template.compile_append`: what the two templates compile to together.
-/

namespace Outline

open Text

/-! ### Shifted numbers -/

def Line.shift (k : Nat) (l : Line) : Line := { l with number := l.number + k }

def Item.shift (k : Nat) (i : Item) : Item := { i with line := i.line.map (· + (k : Int)) }

namespace Template

def Entry.shift (k : Nat) (e : Entry) : Entry := { e with line := e.line.shift k }

def Refusal.shift (k : Nat) (r : Refusal) : Refusal := { r with line := r.line + k }

end Template

/-! ### The lines of two templates -/

namespace Line

theorem scan_add (marker : Text) (raw : Text) (n k : Nat) :
    scan marker ((n + k : Nat) : Int) raw = (scan marker n raw).shift k := by
  simp [scan, shift]

theorem ofTemplate_concat_feed (marker t : Text) :
    ofTemplate marker (t ++ ['\n']) = ofTemplate marker t := by
  rcases lines_concat_feed t with h | h
  · simp only [ofTemplate, h]
  · simp [ofTemplate, h, List.zipIdx_append, isVoid]

/-- The number of lines that a template takes up when another one follows it. -/
def taken (t : Text) : Nat := (lines (t ++ ['\n'])).length

/-- **The lines of two templates put together.** -/
theorem ofTemplate_append (marker t u : Text) :
    ofTemplate marker (t ++ '\n' :: u) =
      ofTemplate marker t ++ (ofTemplate marker u).map (shift (taken t)) := by
  have hrest : (lines u).zipIdx (1 + taken t) =
      ((lines u).zipIdx 1).map (Prod.map id (· + taken t)) := by
    rw [List.map_snd_add_zipIdx_eq_zipIdx, Nat.add_comm]
  rw [← ofTemplate_concat_feed marker t, ofTemplate, lines_append_cons_feed, List.zipIdx_append,
    List.filter_append, List.map_append, ofTemplate, ofTemplate]
  congr 1
  rw [← taken, hrest, List.filter_map, List.map_map, List.map_map]
  exact List.map_congr_left fun p _ => scan_add marker p.1 p.2 (taken t)

end Line

namespace Template

/-! ### Reading -/

/-- **Lines are read from the first to the last**, up to the first one that is refused. -/
theorem readLines_append (sep : Text) (ls ls' : List Line) :
    (readLines sep (ls ++ ls')).2 =
      (readLines sep ls).2.bind fun es => (readLines sep ls').2.map (es ++ ·) := by
  induction ls with
  | nil =>
    rw [List.nil_append, readLines]
    cases (readLines sep ls').2 <;> rfl
  | cons l ls ih =>
    rw [List.cons_append]
    cases hl : Frame.read l.text with
    | none =>
      rw [readLines_cons_of_none hl, readLines_cons_of_none hl]
      rfl
    | some frame =>
      rw [readLines_cons_of_some hl, readLines_cons_of_some hl, ih]
      cases (readLines sep ls).2 with
      | error r => rfl
      | ok es => cases (readLines sep ls').2 <;> rfl

theorem readLines_shift (sep : Text) (k : Nat) (ls : List Line) :
    (readLines sep (ls.map (Line.shift k))).2 =
      ((readLines sep ls).2.mapError (Refusal.shift k)).map (List.map (Entry.shift k)) :=
  readLines_renumber (· + (k : Int)) sep ls

/-! ### Building -/

/-- **Entries that start at depth zero make up trees of their own**, whatever stands before
them. -/
theorem build_append {es' : List Entry} (h : ∀ e ∈ es'.head?, e.line.depth = 0)
    (es : List Entry) : (build (es ++ es')).2 = (build es).2 ++ (build es').2 := by
  rw [build_forest, Section.split_append h, List.map_append, build_forest, build_forest]

theorem build_shift (k : Nat) (es : List Entry) :
    (build (es.map (Entry.shift k))).2 = (build es).2.map (Tree.map (Item.shift k)) :=
  build_renumber (· + (k : Int)) es

/-! ### Compiling -/

/-- **The template starts at the top**: its first line that is not blank, if it has any, is at depth
zero. -/
def StartsAtTop (s : Settings) (t : Text) : Prop := ∀ p ∈ (Line.visible t).head?, depthOf s p = 0

instance (s : Settings) (t : Text) : Decidable (StartsAtTop s t) := inferInstanceAs
  (Decidable (∀ p ∈ (Line.visible t).head?, depthOf s p = 0))

theorem startsAtTop_iff {s : Settings} {t : Text} :
    StartsAtTop s t ↔ ∀ l ∈ (Line.ofTemplate [s.marker.char] t).head?, l.depth = 0 := by
  rw [StartsAtTop, Line.ofTemplate_eq, List.head?_map]
  cases (Line.visible t).head? with
  | none => exact ⟨fun _ => nofun, fun _ => nofun⟩
  | some p =>
    simp only [Option.map_some, Option.mem_some_iff, forall_eq']
    rfl

/-- **Two templates are compiled side by side** when the second starts at the top: the first that
is refused refuses both. -/
theorem compile_append {s : Settings} {u : Text} (h : StartsAtTop s u) (t : Text) :
    (compile s (t ++ '\n' :: u)).2 =
      (compile s t).2.bind fun f =>
        ((compile s u).2.mapError (Refusal.shift (Line.taken t))).map fun g =>
          f ++ g.map (Tree.map (Item.shift (Line.taken t))) := by
  rw [compile_result, compile_result, compile_result, Line.ofTemplate_append, readLines_append,
    readLines_shift]
  cases (readLines [s.separator.char] (Line.ofTemplate [s.marker.char] t)).2 with
  | error r => rfl
  | ok es =>
    rcases hread : readLines [s.separator.char] (Line.ofTemplate [s.marker.char] u) with
      ⟨issues, r | es'⟩
    · rfl
    · have hlines := (readLines_eq_ok_iff.mp hread).1
      rw [startsAtTop_iff, ← hlines, List.head?_map] at h
      have hshift : ∀ e ∈ (es'.map (Entry.shift (Line.taken t))).head?, e.line.depth = 0 := by
        intro e he
        rw [List.head?_map] at he
        obtain ⟨e', he', rfl⟩ := Option.map_eq_some_iff.mp he
        exact h e'.line (Option.mem_map_of_mem _ he')
      exact congrArg Except.ok ((build_append hshift es).trans (by rw [build_shift]))

end Template

end Outline
