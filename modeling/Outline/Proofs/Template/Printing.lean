import Mathlib.Data.List.Basic
import Outline.Proofs.Node.RoundTrip
import Outline.Proofs.Template.Entries
import Outline.Proofs.Text.Lines
import Outline.Proofs.Tree.Levels

/-!
# Writing a forest as a template

A forest is **printed** with one line a node, depth first: as many markers as the level of the
node, and the line that describes the node.

* `Template.print`: the template that a forest is written as.
* `Template.ofTemplate_print`: its lines, when no node holds a line break.
* `Line.scan_replicate`: what a printed line is scanned as.
* `Node.unbroken_of_read`, `Node.length_tag_of_read`: what is known of a node that comes from such
  a line.
-/

namespace Outline

open Text

namespace Template

def row (s : Settings) (p : Node × Nat) : Text :=
  List.replicate p.2 s.marker.char ++ p.1.source [s.separator.char]

/-- The nodes of a forest depth first, each with its level and the number of its line. -/
def rows (ts : List (Tree Node)) : List ((Node × Nat) × Nat) := (Tree.levelsAll 0 ts).zipIdx 1

/-- The template that a forest is **printed** as. -/
def print (s : Settings) (ts : List (Tree Node)) : Text :=
  ['\n'].intercalate ((Tree.levelsAll 0 ts).map (row s))

end Template

/-! ### Line breaks -/

namespace Node

variable {s : Char} {n : Node}

/-- **A node that comes from a line holds no line break.** -/
theorem unbroken_of_read {line : Text} {f : Frame} (hread : Frame.read line = some f)
    (hline : Unbroken line) : Unbroken ((f.node [s]).source [s]) := by
  have hmarks : ['.', '#', '(', ')', '[', ']', '@', ';'].all (fun c => !isBreak c) = true := by
    decide
  intro c hc
  rcases mem_of_mem_source_node hread hc with hmem | hmark
  · exact hline c hmem
  · simpa using List.all_eq_true.mp hmarks c hmark

end Node

/-! ### Markers -/

namespace Line

variable {m : Char} {t u : Text}

theorem leadingMarkers_replicate (m : Char) (k : Nat) (t : Text) :
    leadingMarkers [m] (List.replicate k m ++ t) = k + leadingMarkers [m] t := by
  have hall : ∀ c ∈ List.replicate k m, ([c] == [m]) = true := by
    intro c hc
    rw [(List.mem_replicate.mp hc).2]
    exact beq_self_eq_true _
  rw [leadingMarkers, List.takeWhile_append_of_pos hall, List.length_append,
    List.length_replicate, leadingMarkers]

theorem leadingMarkers_of_head (h : t.head? ≠ some m) : leadingMarkers [m] t = 0 := by
  cases t with
  | nil => rfl
  | cons c t =>
    have hc : ([c] == [m]) = false := by simpa using h
    rw [leadingMarkers, List.takeWhile_cons_of_neg (by rw [hc]; exact Bool.false_ne_true)]
    rfl

theorem leadingMarkers_ne_zero (h : t.head? = some m) : leadingMarkers [m] t ≠ 0 := by
  cases t with
  | nil => exact absurd h nofun
  | cons c t =>
    have hc : c = m := Option.some.inj h
    simp [leadingMarkers, hc]

theorem leadingMarkers_append (ht : t ≠ []) (h : u.head? = some m → t.head? ≠ some m) :
    leadingMarkers [m] (t ++ u) = leadingMarkers [m] t := by
  by_cases hu : u.head? = some m
  · have hhead := h hu
    have happend : (t ++ u).head? ≠ some m := by rwa [List.head?_append_of_ne_nil _ ht]
    rw [leadingMarkers_of_head hhead, leadingMarkers_of_head happend]
  · have hnone : u.takeWhile (fun c => [c] == [m]) = [] := by
      have := leadingMarkers_of_head hu
      exact List.length_eq_zero_iff.mp this
    rw [leadingMarkers, List.takeWhile_append, hnone, List.append_nil, leadingMarkers]
    split
    · next hlen => exact hlen.symm
    · rfl

theorem leadingMarkers_le_length (marker t : Text) : leadingMarkers marker t ≤ t.length :=
  (List.takeWhile_prefix _).length_le

/-- **Markers in front of a tight text** are its depth, with the markers that it starts with
itself. -/
theorem scan_replicate (m : Mark) (number : Int) (k : Nat) (ht : Tight t) :
    scan [m.char] number (List.replicate k m.char ++ t) =
      ⟨trim (t.drop (leadingMarkers [m.char] t)),
        ((k + leadingMarkers [m.char] t : Nat) : Int), number⟩ := by
  have hmarkers : Tight (List.replicate k m.char) := by
    refine tight_of_forall fun c hc => ?_
    rw [(List.mem_replicate.mp hc).2]
    exact m.visible
  have htrim : trim (List.replicate k m.char ++ t) = List.replicate k m.char ++ t :=
    trim_eq_self_iff.mpr (hmarkers.append ht)
  have hdrop : (List.replicate k m.char ++ t).drop (k + leadingMarkers [m.char] t) =
      t.drop (leadingMarkers [m.char] t) := by
    rw [← List.drop_drop, List.drop_left' List.length_replicate]
  rw [scan]
  simp only [htrim, leadingMarkers_replicate, hdrop]

end Line

namespace Node

open Line

variable {s m : Char} {n : Node}

/-- **A tag loses the markers that it starts with** when its line is scanned, and nothing else. -/
theorem length_tag_of_read (h : n.Legal s) {f : Frame}
    (hread : Frame.read (trim ((n.source [s]).drop (leadingMarkers [m] (n.source [s])))) =
      some f) : f.tag.length + leadingMarkers [m] (n.source [s]) = n.tag.length := by
  obtain ⟨rest, hsource, hrest⟩ : ∃ rest, n.source [s] = n.tag ++ rest ∧
      ∀ c ∈ rest.head?, isBlank c = false ∧ isWord c = false := by
    refine ⟨_, source_eq, fun c hc => ?_⟩
    have hmark := marks_apart c (startsIn_classes n.classes n.id n.content c hc)
    exact ⟨hmark.1, hmark.2.1⟩
  have hcount : leadingMarkers [m] (n.source [s]) = leadingMarkers [m] n.tag := by
    rw [hsource]
    refine leadingMarkers_append n.tag_ne_nil fun hr ht => ?_
    have hword := h.tag m (List.mem_of_mem_head? ht)
    rw [(hrest m hr).2] at hword
    exact absurd hword Bool.false_ne_true
  have hle := leadingMarkers_le_length [m] n.tag
  rw [hcount, hsource, List.drop_append_of_le_length hle] at hread
  rw [hcount]
  generalize leadingMarkers [m] n.tag = j at hread hle
  have hword : ∀ c ∈ n.tag.drop j, isWord c = true := fun c hc => h.tag c (List.mem_of_mem_drop hc)
  have htight : Tight (n.tag.drop j ++ rest) := by
    refine ⟨.append (tight_of_forall fun c hc => isBlank_eq_false_of_isWord (hword c hc)).1
      fun c hc => (hrest c hc).1, ?_⟩
    have hend : EndsVisible (n.source [s]) := h.tight_source.2
    rw [hsource, ← List.take_append_drop j n.tag, List.append_assoc] at hend
    exact hend.of_append
  have htag := (Frame.read_eq_some_iff.mp hread).1
  rw [trim_trim, trim_eq_self_iff.mpr htight, takeWhile_append hword fun c hc => (hrest c hc).2]
    at htag
  rw [htag, List.length_drop]
  omega

end Node

/-! ### The lines of a printed forest -/

namespace Template

variable {s : Settings} {ts : List (Tree Node)}

theorem map_fst_rows (ts : List (Tree Node)) : (rows ts).map Prod.fst = Tree.levelsAll 0 ts :=
  List.zipIdx_map_fst 1 _

theorem map_node_rows (ts : List (Tree Node)) :
    (rows ts).map (fun q => q.1.1) = Tree.walkAll ts := by
  rw [← Tree.map_fst_levelsAll 0 ts, ← map_fst_rows, List.map_map]
  rfl

theorem mem_walkAll_of_mem_rows {q : (Node × Nat) × Nat} (hq : q ∈ rows ts) :
    q.1.1 ∈ Tree.walkAll ts := by
  rw [← map_node_rows]
  exact List.mem_map_of_mem (f := fun q : (Node × Nat) × Nat => q.1.1) hq

/-- **The lines of a printed forest** are those that its nodes are written on. -/
theorem ofTemplate_print (h : ∀ n ∈ Tree.walkAll ts, n.Legal s.separator.char ∧
      Unbroken (n.source [s.separator.char])) :
    Line.ofTemplate [s.marker.char] (print s ts) =
      (rows ts).map fun q => Line.scan [s.marker.char] q.2 (row s q.1) := by
  have hknown : ∀ p ∈ Tree.levelsAll 0 ts, p.1.Legal s.separator.char ∧
      Unbroken (p.1.source [s.separator.char]) := by
    intro p hp
    refine h p.1 ?_
    rw [← Tree.map_fst_levelsAll 0 ts]
    exact List.mem_map_of_mem hp
  have hvoid : ∀ p ∈ Tree.levelsAll 0 ts, isVoid (row s p) = false := by
    intro p hp
    obtain ⟨c, hc⟩ := List.exists_mem_of_ne_nil _ p.1.tag_ne_nil
    have hword := (hknown p hp).1.tag c hc
    refine List.all_eq_false.mpr ⟨c, ?_, by simp [isBlank_eq_false_of_isWord hword]⟩
    simp [row, Node.source_eq, hc]
  have hrows : ∀ r ∈ (Tree.levelsAll 0 ts).map (row s), Unbroken r ∧ r ≠ [] := by
    refine List.forall_mem_map.mpr fun p hp => ⟨?_, fun hnil => ?_⟩
    · refine .append (fun c hc => ?_) (hknown p hp).2
      rw [(List.mem_replicate.mp hc).2]
      exact isBreak_eq_false_of_visible s.marker.visible
    · have := hvoid p hp
      rw [hnil] at this
      exact absurd this (by decide)
  rw [Line.ofTemplate, print, lines_intercalate hrows, List.zipIdx_map, List.filter_map,
    List.map_map]
  have hall : ((Tree.levelsAll 0 ts).zipIdx 1).filter
      ((fun p => !isVoid p.1) ∘ Prod.map (row s) id) = (Tree.levelsAll 0 ts).zipIdx 1 := by
    refine List.filter_eq_self.mpr fun q hq => ?_
    simp [hvoid q.1 (List.fst_mem_of_mem_zipIdx hq)]
  rw [hall]
  rfl

end Template

end Outline
