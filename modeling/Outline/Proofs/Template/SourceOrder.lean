import Outline.Proofs.Template.Entries
import Outline.Proofs.Tree.SourceOrder

/-!
# Siblings in the order of the lines

Lines come with increasing numbers, so the order of siblings in a compiled forest is told by the
numbers of their lines.  A nested line that has no line one level up before it in its section
hangs below the root; when a less deep line of that kind follows it, that one is placed first.

* `Template.siblingsBy_sectionTree_iff`: the order of siblings in the tree of a section.
* `Template.siblings_in_source_order_iff`: siblings keep the order of the source exactly when no
  such pair of lines occurs.
-/

namespace Outline

universe u

open Assembly Outline.Tree

/-- The line of the first item comes before the line of the second. -/
def Item.Before (a b : Item) : Prop := ∃ i j, a.line = some i ∧ b.line = some j ∧ i < j

theorem Item.before_asymm (a b : Item) (h : a.Before b) : ¬b.Before a := by
  obtain ⟨i, j, hi, hj, hij⟩ := h
  rintro ⟨j', i', hj', hi', hji⟩
  rw [hi] at hi'
  rw [hj] at hj'
  obtain rfl := Option.some.inj hi'
  obtain rfl := Option.some.inj hj'
  omega

namespace Template

/-- **The order of siblings in the tree of a section**, whose entries come in the order of their
lines. -/
theorem siblingsBy_sectionTree_iff {s : Section Entry}
    (h : s.nested.Pairwise fun e e' => e.line.number < e'.line.number) :
    SiblingsBy Item.Before (sectionTree s) ↔
      TopsAscend (s.nested.map fun e => e.line.depth) := by
  have hitems : ((s.nested.map fun e => (e.item, e.line.depth)).map Prod.fst).Pairwise
      Item.Before := by
    rw [List.map_map, List.pairwise_map]
    exact h.imp fun {e e'} hlt => ⟨e.line.number, e'.line.number, rfl, rfl, hlt⟩
  rw [sectionTree, siblingsBy_assemble_iff Item.before_asymm _ hitems, List.map_map]
  rfl

/-- **Siblings keep the order of the source exactly when no entry without a parent is deeper than
a later one**: for every list of entries, told on their positions, and for every template, told on
the lines of each of its sections. -/
theorem siblings_in_source_order_iff {α : Type u} (root : α) (entries : List (α × Int))
    (s : Settings) (template : Text) :
    (assemble root entries =
        (nesting (entries.map Prod.snd)).map (labelAt root (entries.map Prod.fst)) ∧
      (SiblingsBy Earlier (nesting (entries.map Prod.snd)) ↔
        TopsAscend (entries.map Prod.snd))) ∧
    ∀ (notices : List Notice) (forest : Forest), compile s template = (notices, .ok forest) →
      ((∀ t ∈ forest, SiblingsBy Item.Before t) ↔
        ∀ sec ∈ (Section.split Line.depth (Line.ofTemplate [s.marker.char] template)).2,
          TopsAscend (sec.nested.map Line.depth)) := by
  refine ⟨⟨assemble_eq_map root entries, siblingsBy_earlier_iff _⟩, ?_⟩
  intro notices forest hcompile
  obtain ⟨issues, es, hread, -, rfl⟩ := compile_eq_ok_iff.mp hcompile
  obtain ⟨hlines, -, -⟩ := readLines_eq_ok_iff.mp hread
  have hnumbers : es.Pairwise fun e e' => e.line.number < e'.line.number := by
    have := Line.ofTemplate_pairwise [s.marker.char] template
    rw [← hlines, List.pairwise_map] at this
    exact this
  have hsections : (Section.split Line.depth (Line.ofTemplate [s.marker.char] template)).2 =
      (Section.split (fun e : Entry => e.line.depth) es).2.map (Section.map Entry.line) := by
    rw [← hlines, Section.split_map (fun e : Entry => e.line.depth) fun _ => rfl]
  have hsection : ∀ sec ∈ (Section.split (fun e : Entry => e.line.depth) es).2,
      (SiblingsBy Item.Before (sectionTree sec) ↔
        TopsAscend ((sec.map Entry.line).nested.map Line.depth)) := by
    intro sec hsec
    have hsub := hnumbers.sublist (Section.sublist_of_mem_split hsec)
    rw [siblingsBy_sectionTree_iff (List.pairwise_cons.mp hsub).2, Section.map, List.map_map]
    rfl
  rw [build_forest, hsections, List.forall_mem_map, List.forall_mem_map]
  exact forall₂_congr hsection

/-- A template that skips a level compiles, and its two nested lines change places. -/
theorem siblings_out_of_order_of_skipped_level :
    ∃ notices forest, compile {} "r\n>>a\n>b".toList = (notices, .ok forest) ∧
      ¬∀ t ∈ forest, SiblingsBy Item.Before t := by
  refine ⟨_, _, rfl, fun h => ?_⟩
  have hiff := siblings_in_source_order_iff 'r' [('a', 2), ('b', 1)] {} "r\n>>a\n>b".toList
  have hsections := (hiff.2 _ _ rfl).mp h
  revert hsections
  decide

/-- **Siblings do not always keep the order of the source**, though every depth is at least one. -/
theorem not_siblingsBy_earlier_two_one :
    (∀ d ∈ ([2, 1] : List Int), 1 ≤ d) ∧
      assemble 'r' [('a', 2), ('b', 1)] = node 'r' [node 'b' [], node 'a' []] ∧
      ¬SiblingsBy Earlier (nesting [2, 1]) := by
  refine ⟨by decide, rfl, fun h => ?_⟩
  have := (siblingsBy_earlier_iff [2, 1]).mp h
  revert this
  decide

end Template

end Outline
