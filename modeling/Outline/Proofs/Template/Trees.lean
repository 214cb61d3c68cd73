import Mathlib.Data.List.Forall2
import Outline.Proofs.Template.Outcome
import Outline.Proofs.Template.Printing
import Outline.Proofs.Tree.Subtrees

/-!
# The lines of each tree

A tree **represents** a section of the lines of a text when its root stands for the line at depth
zero, and its nodes stand for the lines of the section, one for each.

* `Line.item`: the item that a line of a text stands for.
* `Template.represents_sectionTree`: the tree of a section represents its lines.
* `Template.compile_represents`: the trees of a template represent the sections of its lines, one
  by one and in order, so no line is lost, doubled or moved.
-/

namespace Outline

open Text

/-- The item that a line of a text stands for: what is parsed behind its markers, with its
position. -/
def Line.item (s : Settings) (p : Text × Nat) : Option Item :=
  match (Node.read [s.separator.char] (body s.marker p.1)).result with
  | .ok n => some ⟨n, some p.2⟩
  | .error _ => none

theorem Line.read_of_item_eq {s : Settings} {p : Text × Nat} {i : Item}
    (h : Line.item s p = some i) :
    (Node.read [s.separator.char] (body s.marker p.1)).result = .ok i.node := by
  rw [item] at h
  split at h
  · next n hread =>
    rw [hread, ← Option.some.inj h]
  · exact absurd h nofun

theorem Line.line_of_item_eq {s : Settings} {p : Text × Nat} {i : Item}
    (h : Line.item s p = some i) : i.line = some (p.2 : Int) := by
  rw [item] at h
  split at h
  · rw [← Option.some.inj h]
  · exact absurd h nofun

namespace Template

variable {s : Settings}

/-- **The tree represents the section**, whose entries are lines of a text. -/
structure Represents (s : Settings) (t : Tree Item) (sec : Section (Text × Nat)) : Prop where
  label_eq : Line.item s sec.top = some t.label
  walk_perm : (t.walk.map some).Perm (sec.entries.map (Line.item s))

theorem item_eq_of_describes {e : Entry} {p : Text × Nat} (hline : e.line = Line.ofRaw s.marker p)
    (h : e.Describes [s.separator.char]) : Line.item s p = some e.item := by
  obtain ⟨frame, hread, hnode⟩ := h
  rw [hline] at hread
  have hresult := congrArg Node.Reading.result (Node.read_singleton (s := s.separator.char) hread)
  rw [Line.item]
  simp only [Line.ofRaw] at hresult
  rw [hresult, Entry.item, hline, hnode]
  rfl

theorem walk_sectionTree_perm (sec : Section Entry) :
    (sectionTree sec).walk.Perm (sec.entries.map Entry.item) := by
  have hwalk := Tree.assemble_walk_perm sec.top.item
    (sec.nested.map fun e => (e.item, e.line.depth))
  rw [List.map_map] at hwalk
  exact hwalk

/-- **The tree of a section represents its lines.** -/
theorem represents_sectionTree {sec : Section (Entry × (Text × Nat))}
    (h : ∀ q ∈ sec.entries, Line.item s q.2 = some q.1.item) :
    Represents s (sectionTree (sec.map Prod.fst)) (sec.map Prod.snd) := by
  have hitems : (sec.map Prod.snd).entries.map (Line.item s) =
      ((sec.map Prod.fst).entries.map Entry.item).map some := by
    rw [Section.entries_map, Section.entries_map, List.map_map, List.map_map, List.map_map]
    exact List.map_congr_left h
  refine ⟨h sec.top List.mem_cons_self, ?_⟩
  rw [hitems]
  exact (walk_sectionTree_perm _).map some

theorem walkAll_perm_of_represents {forest : Forest} {sections : List (Section (Text × Nat))}
    (h : List.Forall₂ (Represents s) forest sections) :
    ((Tree.walkAll forest).map some).Perm
      ((sections.flatMap Section.entries).map (Line.item s)) := by
  induction h with
  | nil => exact List.Perm.refl _
  | cons ht _ ih =>
    rw [Tree.walkAll, List.map_append, List.flatMap_cons, List.map_append]
    exact ht.walk_perm.append ih

def depthOf (s : Settings) (p : Text × Nat) : Int := Line.markers s.marker p.1

/-- **The trees of a template represent the sections of its lines.** -/
theorem represents_split {template : Text} {notices : List Notice} {forest : Forest}
    (h : compile s template = (notices, .ok forest)) :
    List.Forall₂ (Represents s) forest
      (Section.split (depthOf s) (Line.visible template)).2 := by
  obtain ⟨issues, es, hread, -, rfl⟩ := compile_eq_ok_iff.mp h
  obtain ⟨hlines, hdescribes, -⟩ := readLines_eq_ok_iff.mp hread
  rw [Line.ofTemplate_eq] at hlines
  have hlen : es.length = (Line.visible template).length := by
    simpa only [List.length_map] using congrArg List.length hlines
  -- the entries and the lines of the text are cut side by side
  let qs := es.zip (Line.visible template)
  have hline : ∀ q ∈ qs, q.1.line = Line.ofRaw s.marker q.2 :=
    (map_eq_map_iff_zip hlen).mp hlines
  have hitem : ∀ q ∈ qs, Line.item s q.2 = some q.1.item := fun q hq =>
    item_eq_of_describes (hline q hq) (hdescribes q.1 (List.of_mem_zip hq).1)
  have hfst : qs.map Prod.fst = es := List.map_fst_zip hlen.le
  have hsnd : qs.map Prod.snd = Line.visible template := List.map_snd_zip hlen.ge
  have hentries : (Section.split (fun e : Entry => e.line.depth) es).2 =
      (Section.split (fun q => depthOf s q.2) qs).2.map (Section.map Prod.fst) := by
    have hdepth : ∀ q ∈ qs, depthOf s q.2 = q.1.line.depth := by
      intro q hq
      rw [hline q hq]
      rfl
    rw [Section.split_congr hdepth, ← hfst]
    exact congrArg Prod.snd (Section.split_map _ (fun _ => rfl) qs)
  have hvisible : (Section.split (depthOf s) (Line.visible template)).2 =
      (Section.split (fun q => depthOf s q.2) qs).2.map (Section.map Prod.snd) := by
    rw [← hsnd]
    exact congrArg Prod.snd (Section.split_map _ (fun _ => rfl) qs)
  rw [build_forest, hentries, hvisible, List.map_map, List.forall₂_map_left_iff,
    List.forall₂_map_right_iff, List.forall₂_same]
  intro sec hsec
  exact represents_sectionTree fun q hq =>
    hitem q ((Section.sublist_of_mem_split hsec).subset hq)

/-- **Every node of a forest is read from a line of the template**, behind its markers. -/
theorem exists_line_of_mem_walkAll {template : Text} {notices : List Notice} {forest : Forest}
    (h : compile s template = (notices, .ok forest)) {i : Item} (hi : i ∈ Tree.walkAll forest) :
    ∃ p ∈ Line.visible template,
      (Node.read [s.separator.char] (Line.body s.marker p.1)).result = .ok i.node := by
  have hwalk := walkAll_perm_of_represents (represents_split h)
  obtain ⟨p, hp, hitem⟩ := List.mem_map.mp (hwalk.mem_iff.mp (List.mem_map_of_mem hi))
  obtain ⟨sec, hsec, hps⟩ := List.mem_flatMap.mp hp
  exact ⟨p, (Section.sublist_of_mem_split hsec).subset hps, Line.read_of_item_eq hitem⟩

theorem unbroken_of_mem_walkAll {template : Text} {notices : List Notice} {forest : Forest}
    (h : compile s template = (notices, .ok forest)) {i : Item} (hi : i ∈ Tree.walkAll forest) :
    Unbroken (i.node.source [s.separator.char]) := by
  obtain ⟨p, hp, hread⟩ := exists_line_of_mem_walkAll h hi
  obtain ⟨f, hframe, hnode⟩ := Node.read_result_eq_ok_iff.mp hread
  have hraw : p.1 ∈ template.lines := List.fst_mem_of_mem_zipIdx (List.mem_filter.mp hp).1
  have hbody : (Line.body s.marker p.1).Sublist p.1 :=
    (trim_sublist _).trans ((List.dropWhile_sublist _).trans (trim_sublist p.1))
  rw [← hnode]
  exact Node.unbroken_of_read hframe ((unbroken_of_mem_lines hraw).of_subset hbody.subset)

/-- **No line is lost, doubled or moved.**  The lines that are not blank cut into sections, one for
each line at depth zero, and the trees of a template represent them one by one and in order: the
nodes of a tree are the parses of the lines of its section, with their positions.  The lines that
no node comes from are those before the first line at depth zero. -/
theorem compile_represents {template : Text} {notices : List Notice} {forest : Forest}
    (h : compile s template = (notices, .ok forest)) :
    ∃ loose sections,
      Section.Cuts (depthOf s) (Line.visible template) loose sections ∧
      sections.map Section.top = ((Line.visible template).filter fun p => depthOf s p = 0) ∧
      loose = ((Line.visible template).takeWhile fun p => depthOf s p ≠ 0) ∧
      List.Forall₂ (Represents s) forest sections ∧
      ∀ p ∈ Line.visible template,
        (∃ i ∈ Tree.walkAll forest, i.line = some (p.2 : Int)) ↔ p ∉ loose := by
  have hcuts := Section.cuts_split (depthOf s) (Line.visible template)
  have hrepresents := represents_split h
  have hwalk := walkAll_perm_of_represents hrepresents
  have hnumbers := Line.visible_pairwise template
  rw [hcuts.eq_append, List.pairwise_append] at hnumbers
  refine ⟨_, _, hcuts, Section.map_top_split _ _, Section.split_fst_eq _ _, hrepresents, ?_⟩
  intro p hp
  constructor
  · rintro ⟨i, hi, hline⟩ hloose
    obtain ⟨q, hq, hitem⟩ := List.mem_map.mp (hwalk.mem_iff.mp (List.mem_map_of_mem hi))
    have hlt := hnumbers.2.2 p hloose q hq
    rw [Line.line_of_item_eq hitem] at hline
    have := Option.some.inj hline
    omega
  · intro hloose
    rw [hcuts.eq_append] at hp
    have hsection := (List.mem_append.mp hp).resolve_left hloose
    have hmem := List.mem_map_of_mem (f := Line.item s) hsection
    obtain ⟨i, hi, hitem⟩ := List.mem_map.mp (hwalk.mem_iff.mpr hmem)
    exact ⟨i, hi, Line.line_of_item_eq hitem.symm⟩

/-- A template with a loose line, a blank line and a nested line that skips a level. -/
theorem compile_represents_of_loose :
    ∃ forest sections,
      compile {} ">a\nb\n\n>>c".toList =
        ([.issue (some 1) (.orphan ['a']), .compiled 1], .ok forest) ∧
      List.Forall₂ (Represents {}) forest sections ∧ sections.map Section.top = [(['b'], 2)] := by
  let item (tag : Char) (line : Int) : Item :=
    ⟨⟨[tag], [], none, none, [], [], List.cons_ne_nil _ _⟩, some line⟩
  have hcompile : compile {} ">a\nb\n\n>>c".toList =
      ([.issue (some 1) (.orphan ['a']), .compiled 1],
        .ok [.node (item 'b' 2) [.node (item 'c' 4) []]]) := rfl
  obtain ⟨loose, sections, -, htops, -, hrepresents, -⟩ := compile_represents hcompile
  exact ⟨_, sections, hcompile, hrepresents, htops⟩

end Template

end Outline
