import Outline.Proofs.Template.Outcome
import Outline.Proofs.Tree.Alignment

/-!
# What the separator changes

The frame of a line does not depend on the separator: where its parts lie is settled before the
attributes are told apart.  So a template is first read into **framed** lines, refused or cut and
assembled, and the separator only enters when each frame is asked for its node.

* `Template.compile_eq_frameLines`, `Template.build_entries`: compiling with the separator put off
  to the end.
* `Frame.node_attributes_of_not_mem`: a group without the separators has the same attributes under
  both.
* `Template.compile_separated`: what a template compiles to under two separators.
-/

namespace Outline

open Text

/-! ### One line -/

def Issue.onAttribute : Issue → Bool
  | .invalidAttribute _ => true
  | _ => false

def Notice.onAttribute : Notice → Bool
  | .issue _ i => i.onAttribute
  | _ => false

namespace Frame

variable {f : Frame} {c d : Char}

theorem filter_closingIssues (opener closer : Char) (g : Option Group) :
    (closingIssues opener closer g).filter (fun i => !i.onAttribute) =
      closingIssues opener closer g := by
  rcases g with _ | ⟨inner, _ | _ | _⟩ <;> rfl

/-- **The issues before and behind the attribute names** do not depend on the separator. -/
theorem filter_issues (sep : Text) (f : Frame) :
    (f.issues sep).filter (fun i => !i.onAttribute) = f.headIssues ++ f.tailIssues := by
  have hhead : f.headIssues.filter (fun i => !i.onAttribute) = f.headIssues := by
    rw [headIssues, List.filter_append, List.filter_append, filter_closingIssues,
      filter_closingIssues]
    simp [Issue.onAttribute, List.filter_map, Function.comp_def]
  have htail : f.tailIssues.filter (fun i => !i.onAttribute) = f.tailIssues := by
    rw [tailIssues]
    split <;> simp [Issue.onAttribute, List.filter_map, Function.comp_def]
  have hnames : (f.attributeIssues sep).filter (fun i => !i.onAttribute) = [] := by
    simp [attributeIssues, Issue.onAttribute, List.filter_map, Function.comp_def]
  rw [issues, List.filter_append, List.filter_append, hhead, hnames, htail, List.append_nil]

theorem node_attributes_of_not_mem (h : ∀ g, f.attributes = some g → c ∉ g.inner ∧ d ∉ g.inner) :
    (f.node [c]).attributes = (f.node [d]).attributes := by
  have hlisted : f.listed [c] = f.listed [d] := by
    rw [listed, listed]
    cases hg : f.attributes with
    | none => rfl
    | some g =>
      obtain ⟨hc, hd⟩ := h g hg
      have hone : ∀ {x : Char}, x ∉ g.inner → pieces [x] g.inner = [g.inner] := by
        intro x hx
        rw [pieces_singleton, List.splitOn_eq_singleton hx]
      simp only [hone hc, hone hd]
  rw [node, node, hlisted]

end Frame

namespace Template

/-! ### Framed lines -/

/-- A line of a template with its frame. -/
structure Framed where
  line : Line
  frame : Frame

def Framed.entry (sep : Text) (x : Framed) : Entry := ⟨x.line, x.frame.node sep⟩

def Framed.item (sep : Text) (x : Framed) : Item := (x.entry sep).item

/-- The frames of lines up to the first line that has none. -/
def frameLines : List Line → Except Refusal (List Framed)
  | [] => .ok []
  | l :: ls =>
    match Frame.read l.text with
    | none => .error ⟨l.number, l.text⟩
    | some frame => (frameLines ls).map (⟨l, frame⟩ :: ·)

def framedForest (xs : List Framed) : List (Tree Framed) :=
  (Section.split (fun x => x.line.depth) xs).2.map fun sec =>
    Tree.assemble sec.top (sec.nested.map fun x => (x, x.line.depth))

variable {ls : List Line} {xs : List Framed}

/-- **Lines are read into frames first**, and under a separator each frame gives an entry. -/
theorem readLines_eq_frameLines (sep : Text) (ls : List Line) :
    (readLines sep ls).2 = (frameLines ls).map (List.map (Framed.entry sep)) := by
  induction ls with
  | nil => rfl
  | cons l ls ih =>
    rw [frameLines]
    cases hl : Frame.read l.text with
    | none =>
      rw [readLines_cons_of_none hl]
      rfl
    | some frame =>
      rw [readLines_cons_of_some hl, ih]
      cases frameLines ls <;> rfl

theorem mem_of_frameLines (h : frameLines ls = .ok xs) :
    ∀ x ∈ xs, x.line ∈ ls ∧ Frame.read x.line.text = some x.frame := by
  induction ls generalizing xs with
  | nil =>
    obtain rfl := Except.ok.inj h
    exact nofun
  | cons l ls ih =>
    rw [frameLines] at h
    cases hl : Frame.read l.text with
    | none =>
      rw [hl] at h
      exact absurd h nofun
    | some frame =>
      rw [hl] at h
      cases hls : frameLines ls with
      | error r =>
        rw [hls] at h
        exact absurd h nofun
      | ok ys =>
        rw [hls] at h
        obtain rfl := Except.ok.inj h
        intro x hx
        rcases List.mem_cons.mp hx with rfl | hx
        · exact ⟨List.mem_cons_self, hl⟩
        · obtain ⟨hmem, hframe⟩ := ih hls x hx
          exact ⟨List.mem_cons_of_mem l hmem, hframe⟩

/-! ### Notices -/

theorem filter_lineNotices {sep : Text} {l : Line} {frame : Frame}
    (h : Frame.read l.text = some frame) :
    (lineNotices sep l).filter (fun n => !n.onAttribute) =
      (frame.headIssues ++ frame.tailIssues).map (.issue (some l.number)) := by
  rw [lineNotices, h, ← Frame.filter_issues sep frame, List.filter_map]
  rfl

theorem filter_readLines (sep sep' : Text) (ls : List Line) :
    (readLines sep ls).1.filter (fun n => !n.onAttribute) =
      (readLines sep' ls).1.filter fun n => !n.onAttribute := by
  induction ls with
  | nil => rfl
  | cons l ls ih =>
    cases hl : Frame.read l.text with
    | none => rw [readLines_cons_of_none hl, readLines_cons_of_none hl]
    | some frame =>
      rw [readLines_cons_of_some hl, readLines_cons_of_some hl, List.filter_append,
        List.filter_append, filter_lineNotices hl, filter_lineNotices hl, ih]

/-! ### Building -/

/-- **The forest of framed lines is assembled once**, and under a separator each of its labels
gives an item. -/
theorem build_entries (sep : Text) (xs : List Framed) :
    build (xs.map (Framed.entry sep)) =
      (((xs.map Framed.line).takeWhile fun l => l.depth ≠ 0).map orphaned ++
        [.compiled ((xs.map Framed.line).countP fun l => l.depth = 0)],
        (framedForest xs).map (Tree.map (Framed.item sep))) := by
  have hlines : (xs.map (Framed.entry sep)).map Entry.line = xs.map Framed.line := by
    rw [List.map_map]
    rfl
  refine Prod.ext ?_ ?_
  · rw [build_notices_eq, hlines]
  · let depth (x : Framed) : Int := x.line.depth
    let depthOf (e : Entry) : Int := e.line.depth
    have hsplit : Section.split depthOf (xs.map (Framed.entry sep)) =
        ((Section.split depth xs).1.map (Framed.entry sep),
          (Section.split depth xs).2.map (Section.map (Framed.entry sep))) :=
      Section.split_map (f := Framed.entry sep) depth (fun _ => rfl) xs
    rw [build_forest, hsplit, framedForest, List.map_map, List.map_map]
    refine List.map_congr_left fun sec _ => ?_
    rw [Function.comp_apply, Function.comp_apply, Tree.assemble_map, sectionTree, Section.map,
      List.map_map, List.map_map]
    rfl

theorem mem_of_mem_framedForest {x : Framed} (hx : x ∈ Tree.walkAll (framedForest xs)) :
    x ∈ xs := by
  rw [Tree.walkAll_eq_flatMap, framedForest, List.flatMap_map] at hx
  obtain ⟨sec, hsec, hx⟩ := List.mem_flatMap.mp hx
  rw [(Tree.assemble_walk_perm _ _).mem_iff, List.map_map] at hx
  refine (Section.sublist_of_mem_split hsec).subset ?_
  have hid : sec.nested.map (Prod.fst ∘ fun x : Framed => (x, x.line.depth)) = sec.nested :=
    List.map_id sec.nested
  rwa [hid] at hx

/-- **Compiling, with the separator put off to the end.** -/
theorem compile_eq_frameLines (s : Settings) (template : Text) :
    compile s template =
      match frameLines (Line.ofTemplate [s.marker.char] template) with
      | .error r =>
        ((readLines [s.separator.char] (Line.ofTemplate [s.marker.char] template)).1, .error r)
      | .ok xs =>
        let (more, forest) := build (xs.map (Framed.entry [s.separator.char]))
        ((readLines [s.separator.char] (Line.ofTemplate [s.marker.char] template)).1 ++ more,
          .ok forest) := by
  have hread := readLines_eq_frameLines [s.separator.char]
    (Line.ofTemplate [s.marker.char] template)
  rw [compile]
  generalize readLines [s.separator.char] _ = reading at hread ⊢
  obtain ⟨issues, result⟩ := reading
  dsimp only at hread
  subst hread
  cases frameLines (Line.ofTemplate [s.marker.char] template) <;> rfl

/-! ### Compiling under two separators -/

/-- Two items are **kindred** when one line of a template gives the one under the first separator
and the other under the second, so that at most their attributes differ, and not even those if
neither separator stands in the group of attributes. -/
structure Kindred (m : Mark) (template : Text) (c d : Char) (i j : Item) : Prop where
  tag_eq : i.node.tag = j.node.tag
  classes_eq : i.node.classes = j.node.classes
  id_eq : i.node.id = j.node.id
  content_eq : i.node.content = j.node.content
  events_eq : i.node.events = j.node.events
  line_eq : i.line = j.line
  attributes_eq : ∃ p ∈ Line.visible template, i.line = some (p.2 : Int) ∧
    ∃ f, Frame.read (Line.body m p.1) = some f ∧
      ((∀ g, f.attributes = some g → c ∉ g.inner ∧ d ∉ g.inner) →
        i.node.attributes = j.node.attributes)

theorem kindred_item {m : Mark} {template : Text} {x : Framed} (c d : Char)
    (hline : x.line ∈ Line.ofTemplate [m.char] template)
    (hframe : Frame.read x.line.text = some x.frame) :
    Kindred m template c d (x.item [c]) (x.item [d]) := by
  rw [Line.ofTemplate_eq] at hline
  obtain ⟨p, hp, hx⟩ := List.mem_map.mp hline
  rw [← hx] at hframe
  refine ⟨rfl, rfl, rfl, rfl, rfl, rfl, p, hp, ?_, x.frame, hframe,
    Frame.node_attributes_of_not_mem⟩
  rw [Framed.item, Framed.entry, Entry.item, ← hx]
  rfl

/-- The separator influences attributes only.  Under two separators a template is refused for
the same line, or compiles to forests of one shape, in which the items at one place are kindred;
and the notices differ in invalid attribute names only. -/
theorem compile_separated (s : Settings) (c d : Mark) (template : Text) :
    let left := compile { s with separator := c } template
    let right := compile { s with separator := d } template
    left.1.filter (fun n => !n.onAttribute) = right.1.filter (fun n => !n.onAttribute) ∧
      ((∃ r, left.2 = .error r ∧ right.2 = .error r) ∨
        ∃ f g, left.2 = .ok f ∧ right.2 = .ok g ∧
          Tree.AlignedAll (fun _ i j _ => Kindred s.marker template c.char d.char i j) none f g) := by
  intro left right
  have hissues := filter_readLines [c.char] [d.char] (Line.ofTemplate [s.marker.char] template)
  cases hframes : frameLines (Line.ofTemplate [s.marker.char] template) with
  | error r =>
    simp only [left, right, compile_eq_frameLines, hframes]
    exact ⟨hissues, .inl ⟨r, rfl, rfl⟩⟩
  | ok xs =>
    simp only [left, right, compile_eq_frameLines, hframes, build_entries, List.filter_append,
      hissues]
    refine ⟨trivial, .inr ⟨_, _, rfl, rfl, ?_⟩⟩
    rw [← Tree.mapAll_eq_map, ← Tree.mapAll_eq_map]
    refine Tree.alignedAll_map _ fun x hx _ _ => ?_
    obtain ⟨hline, hframe⟩ := mem_of_frameLines hframes x (mem_of_mem_framedForest hx)
    exact kindred_item c.char d.char hline hframe

end Template

end Outline
