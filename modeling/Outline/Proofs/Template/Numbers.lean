import Outline.Proofs.Template.Entries
import Outline.Proofs.Tree.Subtrees

/-!
# The numbers of lines

Compiling carries the numbers of lines along and never looks at them, so lines can be
**renumbered** before or after.

* `Template.readLines_renumber`, `Template.build_renumber`: the two steps of compiling.
* `Template.compile_renumber`: what a template compiles to with other numbers.
-/

namespace Outline

def Line.renumber (f : Int → Int) (l : Line) : Line := { l with number := f l.number }

def Item.renumber (f : Int → Int) (i : Item) : Item := { i with line := i.line.map f }

namespace Template

def Entry.renumber (f : Int → Int) (e : Entry) : Entry := { e with line := e.line.renumber f }

def Refusal.renumber (f : Int → Int) (r : Refusal) : Refusal := { r with line := f r.line }

theorem readLines_renumber (f : Int → Int) (sep : Text) (ls : List Line) :
    (readLines sep (ls.map (Line.renumber f))).2 =
      ((readLines sep ls).2.mapError (Refusal.renumber f)).map (List.map (Entry.renumber f)) := by
  induction ls with
  | nil => rfl
  | cons l ls ih =>
    rw [List.map_cons]
    cases hl : Frame.read l.text with
    | none =>
      have hrenumber : Frame.read (l.renumber f).text = none := hl
      rw [readLines_cons_of_none hl, readLines_cons_of_none hrenumber]
      rfl
    | some frame =>
      have hrenumber : Frame.read (l.renumber f).text = some frame := hl
      rw [readLines_cons_of_some hl, readLines_cons_of_some hrenumber, ih]
      cases (readLines sep ls).2 <;> rfl

theorem sectionTree_renumber (f : Int → Int) (sec : Section Entry) :
    sectionTree (sec.map (Entry.renumber f)) = (sectionTree sec).map (Item.renumber f) := by
  rw [sectionTree, sectionTree, Tree.assemble_map, Section.map, List.map_map, List.map_map]
  rfl

theorem build_renumber (f : Int → Int) (es : List Entry) :
    (build (es.map (Entry.renumber f))).2 = (build es).2.map (Tree.map (Item.renumber f)) := by
  let depth (e : Entry) : Int := e.line.depth
  have hsplit : Section.split depth (es.map (Entry.renumber f)) =
      ((Section.split depth es).1.map (Entry.renumber f),
        (Section.split depth es).2.map (Section.map (Entry.renumber f))) :=
    Section.split_map (f := Entry.renumber f) depth (fun _ => rfl) es
  rw [build_forest, hsplit, build_forest, List.map_map, List.map_map]
  exact List.map_congr_left fun sec _ => sectionTree_renumber f sec

theorem compile_result (s : Settings) (template : Text) :
    (compile s template).2 =
      (readLines [s.separator.char] (Line.ofTemplate [s.marker.char] template)).2.map
        fun es => (build es).2 := by
  rw [compile]
  rcases readLines [s.separator.char] (Line.ofTemplate [s.marker.char] template) with ⟨_, r | es⟩
    <;> rfl

/-- **Compiling is blind to the numbers of lines**, which only show in what it returns. -/
theorem compile_renumber (f : Int → Int) (s : Settings) (template : Text) :
    ((compile s template).2.mapError (Refusal.renumber f)).map
        (List.map (Tree.map (Item.renumber f))) =
      (readLines [s.separator.char]
        ((Line.ofTemplate [s.marker.char] template).map (Line.renumber f))).2.map
          fun es => (build es).2 := by
  rw [compile_result, readLines_renumber]
  cases (readLines [s.separator.char] (Line.ofTemplate [s.marker.char] template)).2 with
  | error r => rfl
  | ok es => exact congrArg Except.ok (build_renumber f es).symm

end Template

end Outline
