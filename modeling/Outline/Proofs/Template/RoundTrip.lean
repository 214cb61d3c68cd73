import Mathlib.Algebra.Order.BigOperators.Group.List
import Mathlib.Algebra.Order.Ring.Nat
import Outline.Proofs.Template.Printing

/-!
# Compiling what is printed

Printing a forest and compiling the template gives the forest back, and no notice but that of its
size, exactly when every node of the forest can be **printed**: it is well-formed, its tag does not
start with the marker, and its line holds no line break.

* `Template.compile_eq_quiet_iff`: when compiling gives no other notice.
* `Template.build_nodes`: the nodes of the forest that entries make up.
* `Template.compile_print_iff`: the forests that are compiled back.
-/

namespace Outline

open Text

/-- A node can be **printed** when it is well-formed, its tag is not taken for a marker and its
line is not broken. -/
structure Node.Printable (s : Settings) (n : Node) : Prop where
  wellFormed : n.WellFormed s.separator.char
  unmarked : n.tag.head? ≠ some s.marker.char
  unbroken : Unbroken (n.source [s.separator.char])

theorem Node.Printable.leadingMarkers_source {s : Settings} {n : Node} (h : n.Printable s) :
    Line.leadingMarkers [s.marker.char] (n.source [s.separator.char]) = 0 := by
  refine Line.leadingMarkers_of_head ?_
  rw [Node.head?_source]
  exact h.unmarked

namespace Template

variable {s : Settings} {ts : List (Tree Node)} {es : List Entry}

/-! ### The forest of the entries -/

def Entry.placed (e : Entry) : Node × Int := (e.node, e.line.depth)

theorem split_placed (es : List Entry) : Section.split Prod.snd (es.map Entry.placed) =
    ((Section.split (fun e : Entry => e.line.depth) es).1.map Entry.placed,
      (Section.split (fun e : Entry => e.line.depth) es).2.map (Section.map Entry.placed)) :=
  Section.split_map (f := Entry.placed) (fun e : Entry => e.line.depth) (fun _ => rfl) es

/-- **The nodes of the forest that entries make up** depend on their nodes and depths alone. -/
theorem build_nodes (es : List Entry) :
    (build es).2.map (Tree.map Item.node) = Tree.forest (es.map Entry.placed) := by
  rw [build_forest, Tree.forest, split_placed, List.map_map, List.map_map]
  refine List.map_congr_left fun sec _ => ?_
  show (sectionTree sec).map Item.node = Tree.assemble _ (sec.nested.map Entry.placed)
  rw [sectionTree, Tree.assemble_map, List.map_map]
  rfl

/-- **Compiling gives no notice but that of the size** when no line has an issue and no entry is
loose. -/
theorem compile_eq_quiet_iff {template : Text} {k : Nat} {forest : Forest} :
    compile s template = ([.compiled k], .ok forest) ↔
      ∃ es, readLines [s.separator.char] (Line.ofTemplate [s.marker.char] template) = ([], .ok es) ∧
        (Section.split Prod.snd (es.map Entry.placed)).1 = [] ∧ (build es).2 = forest ∧
        forest.length = k := by
  rw [compile_eq_ok_iff]
  constructor
  · rintro ⟨issues, es, hread, hnotices, rfl⟩
    rw [build_notices] at hnotices
    have hlen := congrArg List.length hnotices
    simp only [List.length_append, List.length_cons, List.length_nil, List.length_map] at hlen
    have hissues : issues = [] := List.length_eq_zero_iff.mp (by omega)
    have hloose : (Section.split (fun e : Entry => e.line.depth) es).1 = [] :=
      List.length_eq_zero_iff.mp (by omega)
    rw [hissues, hloose, List.map_nil, List.nil_append, List.nil_append] at hnotices
    have hk : (build es).2.length = k := (Notice.compiled.inj (List.cons.inj hnotices).1).symm
    rw [hissues] at hread
    exact ⟨es, hread, by rw [split_placed, hloose, List.map_nil], rfl, hk⟩
  · rintro ⟨es, hread, hloose, rfl, rfl⟩
    rw [split_placed] at hloose
    have hloose : (Section.split (fun e : Entry => e.line.depth) es).1 = [] :=
      List.map_eq_nil_iff.mp hloose
    exact ⟨[], es, hread, by rw [build_notices, hloose, List.map_nil, List.nil_append,
      List.nil_append], rfl⟩

/-! ### Printable forests are compiled back -/

def printedEntries (s : Settings) (ts : List (Tree Node)) : List Entry :=
  (rows ts).map fun q => ⟨⟨q.1.1.source [s.separator.char], q.1.2, q.2⟩, q.1.1⟩

theorem map_placed_printedEntries (s : Settings) (ts : List (Tree Node)) :
    (printedEntries s ts).map Entry.placed = (Tree.levelsAll 0 ts).map Tree.atDepth := by
  rw [← map_fst_rows, printedEntries, List.map_map, List.map_map]
  rfl

/-- **The lines of a printable forest are read as its nodes.** -/
theorem readLines_print (h : ∀ n ∈ Tree.walkAll ts, n.Printable s) :
    readLines [s.separator.char] (Line.ofTemplate [s.marker.char] (print s ts)) =
      ([], .ok (printedEntries s ts)) := by
  have hlegal : ∀ n ∈ Tree.walkAll ts, n.Legal s.separator.char ∧
      Unbroken (n.source [s.separator.char]) :=
    fun n hn => ⟨(h n hn).wellFormed.legal, (h n hn).unbroken⟩
  have hlines : Line.ofTemplate [s.marker.char] (print s ts) =
      (printedEntries s ts).map Entry.line := by
    rw [ofTemplate_print hlegal, printedEntries, List.map_map]
    refine List.map_congr_left fun q hq => ?_
    have hn := mem_walkAll_of_mem_rows hq
    have htight : Tight (q.1.1.source [s.separator.char]) :=
      (h _ hn).wellFormed.legal.tight_source
    rw [row, Line.scan_replicate _ _ _ htight, (h _ hn).leadingMarkers_source, List.drop_zero,
      trim_eq_self_iff.mpr htight]
    rfl
  have hquiet : ∀ e ∈ printedEntries s ts, ∃ frame, Frame.read e.line.text = some frame ∧
      frame.issues [s.separator.char] = [] ∧ frame.node [s.separator.char] = e.node := by
    refine List.forall_mem_map.mpr fun q hq => ?_
    have hn := mem_walkAll_of_mem_rows hq
    exact Node.read_eq_quiet_iff.mp (Node.read_source_quiet_iff.mpr (h _ hn).wellFormed)
  refine readLines_eq_ok_iff.mpr ⟨hlines.symm, fun e he => ?_, ?_⟩
  · obtain ⟨frame, hread, -, hnode⟩ := hquiet e he
    exact ⟨frame, hread, hnode.symm⟩
  · rw [hlines, List.flatMap_map]
    refine (List.flatMap_eq_nil_iff.mpr fun e he => ?_).symm
    obtain ⟨frame, hread, hissues, -⟩ := hquiet e he
    rw [lineNotices, hread]
    simp [hissues]

theorem compile_print (h : ∀ n ∈ Tree.walkAll ts, n.Printable s) :
    ∃ forest, compile s (print s ts) = ([.compiled ts.length], .ok forest) ∧
      forest.map (Tree.map Item.node) = ts := by
  have hnodes : (build (printedEntries s ts)).2.map (Tree.map Item.node) = ts := by
    rw [build_nodes, map_placed_printedEntries, Tree.forest_levels]
  refine ⟨_, compile_eq_quiet_iff.mpr ⟨_, readLines_print h, ?_, rfl, ?_⟩, hnodes⟩
  · rw [map_placed_printedEntries, Tree.split_levels]
  · rw [← congrArg List.length hnodes, List.length_map]

/-! ### Forests that are compiled back are printable -/

theorem unbroken_of_mem_ofTemplate {marker template : Text} {l : Line}
    (hl : l ∈ Line.ofTemplate marker template) : Unbroken l.text := by
  obtain ⟨⟨raw, number⟩, hraw, rfl⟩ := List.mem_map.mp hl
  have hmem : raw ∈ template.lines := List.fst_mem_of_mem_zipIdx (List.mem_filter.mp hraw).1
  refine (unbroken_of_mem_lines hmem).of_subset ?_
  have hbody : (raw.trim.drop (Line.leadingMarkers marker raw.trim)).Sublist raw :=
    (List.drop_sublist _ _).trans (trim_sublist raw)
  exact ((trim_sublist _).trans hbody).subset

/-- **The nodes of a forest that is compiled back** are such as come from lines. -/
theorem legal_of_forest_eq {template : Text} (hlines : es.map Entry.line =
      Line.ofTemplate [s.marker.char] template)
    (hdescribes : ∀ e ∈ es, e.Describes [s.separator.char])
    (hloose : (Section.split Prod.snd (es.map Entry.placed)).1 = [])
    (hforest : Tree.forest (es.map Entry.placed) = ts) :
    (Tree.walkAll ts).Perm (es.map Entry.node) ∧ ∀ n ∈ Tree.walkAll ts,
      n.Legal s.separator.char ∧ Unbroken (n.source [s.separator.char]) := by
  have hperm : (Tree.walkAll ts).Perm (es.map Entry.node) := by
    have hall := Tree.forest_perm hloose
    rw [hforest, List.map_map] at hall
    exact hall
  refine ⟨hperm, fun n hn => ?_⟩
  obtain ⟨e, he, rfl⟩ := List.mem_map.mp (hperm.mem_iff.mp hn)
  obtain ⟨frame, hread, hnode⟩ := hdescribes e he
  have hline : Unbroken e.line.text :=
    unbroken_of_mem_ofTemplate (hlines ▸ List.mem_map_of_mem he)
  rw [hnode]
  exact ⟨Frame.legal_node hread, Node.unbroken_of_read hread hline⟩

/-- **What the entries of a printed forest have been read from**: each from the line of its node,
less the markers that this starts with. -/
theorem entries_of_readLines_print
    (hread : readLines [s.separator.char] (Line.ofTemplate [s.marker.char] (print s ts)) =
      ([], .ok es))
    (hknown : ∀ n ∈ Tree.walkAll ts, n.Legal s.separator.char ∧
      Unbroken (n.source [s.separator.char])) :
    es.length = (rows ts).length ∧ ∀ q ∈ es.zip (rows ts), ∃ frame,
      Frame.read (trim ((q.2.1.1.source [s.separator.char]).drop
        (Line.leadingMarkers [s.marker.char] (q.2.1.1.source [s.separator.char])))) = some frame ∧
      frame.node [s.separator.char] = q.1.node ∧ frame.issues [s.separator.char] = [] ∧
      q.1.line.depth = ((q.2.1.2 +
        Line.leadingMarkers [s.marker.char] (q.2.1.1.source [s.separator.char]) : Nat) : Int) := by
  obtain ⟨hlines, hdescribes, hnotices⟩ := readLines_eq_ok_iff.mp hread
  have hprinted := hlines
  rw [ofTemplate_print hknown] at hprinted
  have hlen : es.length = (rows ts).length := by
    simpa only [List.length_map] using congrArg List.length hprinted
  refine ⟨hlen, fun q hq => ?_⟩
  obtain ⟨hmem, hrow⟩ := List.of_mem_zip hq
  have hline := (map_eq_map_iff_zip hlen).mp hprinted q hq
  have hn := hknown _ (mem_walkAll_of_mem_rows hrow)
  rw [row, Line.scan_replicate _ _ _ hn.1.tight_source] at hline
  obtain ⟨frame, hframe, hnode⟩ := hdescribes q.1 hmem
  have hquiet : lineNotices [s.separator.char] q.1.line = [] :=
    List.flatMap_eq_nil_iff.mp hnotices.symm _ (hlines ▸ List.mem_map_of_mem hmem)
  rw [lineNotices, hframe] at hquiet
  rw [hline] at hframe
  exact ⟨frame, hframe, hnode.symm, List.map_eq_nil_iff.mp hquiet, by rw [hline]⟩

/-- **No tag is taken for a marker in a forest that is compiled back**: the tags that are read
would be shorter in all than those that were written. -/
theorem leadingMarkers_eq_zero (hperm : (Tree.walkAll ts).Perm (es.map Entry.node))
    (hlen : es.length = (rows ts).length)
    (htag : ∀ q ∈ es.zip (rows ts), q.1.node.tag.length +
      Line.leadingMarkers [s.marker.char] (q.2.1.1.source [s.separator.char]) =
        q.2.1.1.tag.length) :
    ∀ q ∈ es.zip (rows ts),
      Line.leadingMarkers [s.marker.char] (q.2.1.1.source [s.separator.char]) = 0 := by
  have hread : ((es.zip (rows ts)).map fun q => q.1.node.tag.length) =
      (es.map Entry.node).map fun n => n.tag.length := by
    have hes : (es.zip (rows ts)).map Prod.fst = es := List.map_fst_zip hlen.le
    conv_rhs => rw [← hes]
    rw [List.map_map, List.map_map]
    rfl
  have hwritten : ((es.zip (rows ts)).map fun q => q.2.1.1.tag.length) =
      (Tree.walkAll ts).map fun n => n.tag.length := by
    have hrows : (es.zip (rows ts)).map Prod.snd = rows ts := List.map_snd_zip hlen.ge
    rw [← map_node_rows]
    conv_rhs => rw [← hrows]
    rw [List.map_map, List.map_map]
    rfl
  have hsum := (hperm.map fun n => n.tag.length).sum_eq
  rw [← hread, ← hwritten] at hsum
  intro q hq
  by_contra hne
  have hle : ∀ q ∈ es.zip (rows ts), q.1.node.tag.length ≤ q.2.1.1.tag.length := by
    intro q hq
    have := htag q hq
    omega
  have hlt : q.1.node.tag.length < q.2.1.1.tag.length := by
    have := htag q hq
    omega
  have hsum_lt := List.sum_lt_sum _ _ hle ⟨q, hq, hlt⟩
  omega

/-- **A forest that is compiled back is told by its levels**, so the entries are those of the
lines that were printed. -/
theorem node_eq_of_forest_eq (hlen : es.length = (rows ts).length)
    (hdepth : ∀ q ∈ es.zip (rows ts), q.1.line.depth = (q.2.1.2 : Int))
    (hloose : (Section.split Prod.snd (es.map Entry.placed)).1 = [])
    (hforest : Tree.forest (es.map Entry.placed) = ts) :
    ∀ q ∈ es.zip (rows ts), q.1.node = q.2.1.1 := by
  have hlevels : (rows ts).map (Tree.atDepth ∘ Prod.fst) =
      (Tree.levelsAll 0 ts).map Tree.atDepth := by
    rw [← map_fst_rows, List.map_map]
  have hplaced : es.map Entry.placed = (rows ts).map (Tree.atDepth ∘ Prod.fst) := by
    refine Tree.eq_of_forest_eq ?_ hloose ?_
    · rw [List.map_map, List.map_map]
      exact (map_eq_map_iff_zip hlen).mpr hdepth
    · rw [hforest, hlevels, Tree.forest_levels]
  intro q hq
  exact congrArg Prod.fst ((map_eq_map_iff_zip hlen).mp hplaced q hq)

theorem printable_of_compile_print {forest : Forest}
    (hcompile : compile s (print s ts) = ([.compiled ts.length], .ok forest))
    (hforest : forest.map (Tree.map Item.node) = ts) : ∀ n ∈ Tree.walkAll ts, n.Printable s := by
  obtain ⟨es, hread, hloose, rfl, -⟩ := compile_eq_quiet_iff.mp hcompile
  obtain ⟨hlines, hdescribes, -⟩ := readLines_eq_ok_iff.mp hread
  rw [build_nodes] at hforest
  obtain ⟨hperm, hknown⟩ := legal_of_forest_eq hlines hdescribes hloose hforest
  obtain ⟨hlen, hentry⟩ := entries_of_readLines_print hread hknown
  have hzero := leadingMarkers_eq_zero hperm hlen fun q hq => by
    obtain ⟨frame, hframe, hnode, -, -⟩ := hentry q hq
    have hn := hknown _ (mem_walkAll_of_mem_rows (List.of_mem_zip hq).2)
    rw [← hnode]
    exact Node.length_tag_of_read hn.1 hframe
  have hdepth : ∀ q ∈ es.zip (rows ts), q.1.line.depth = (q.2.1.2 : Int) := by
    intro q hq
    obtain ⟨-, -, -, -, hdepth⟩ := hentry q hq
    rwa [hzero q hq, Nat.add_zero] at hdepth
  have hsame := node_eq_of_forest_eq hlen hdepth hloose hforest
  intro n hn
  have hrows : (es.zip (rows ts)).map Prod.snd = rows ts := List.map_snd_zip hlen.ge
  rw [← map_node_rows, ← hrows, List.map_map] at hn
  obtain ⟨q, hq, rfl⟩ := List.mem_map.mp hn
  obtain ⟨frame, hframe, hnode, hissues, -⟩ := hentry q hq
  obtain ⟨hlegal, hunbroken⟩ := hknown _ (mem_walkAll_of_mem_rows (List.of_mem_zip hq).2)
  rw [hzero q hq, List.drop_zero, trim_eq_self_iff.mpr hlegal.tight_source] at hframe
  refine ⟨?_, fun hhead => ?_, hunbroken⟩
  · exact Node.read_source_quiet_iff.mp
      (Node.read_eq_quiet_iff.mpr ⟨frame, hframe, hissues, hnode.trans (hsame q hq)⟩)
  · refine Line.leadingMarkers_ne_zero ?_ (hzero q hq)
    rw [Node.head?_source]
    exact hhead

/-- **The forests that are compiled back from what they are printed as**: those all of whose nodes
can be printed. -/
theorem compile_print_iff (s : Settings) (ts : List (Tree Node)) :
    (∃ forest, compile s (print s ts) = ([.compiled ts.length], .ok forest) ∧
      forest.map (Tree.map Item.node) = ts) ↔ ∀ n ∈ Tree.walkAll ts, n.Printable s := by
  constructor
  · rintro ⟨forest, hcompile, hforest⟩
    exact printable_of_compile_print hcompile hforest
  · exact compile_print

/-- Brackets in content and parentheses in attributes are no obstacle. -/
example : (compile {} (print {}
    [.node ⟨['a'], [['b']], none, some ['x', '['], [], [], List.cons_ne_nil _ _⟩
      [.node ⟨['c'], [], some ['d'], none, [⟨['e'], some ['(']⟩], [['f']],
        List.cons_ne_nil _ _⟩ []]])).1 = [.compiled 1] := rfl

/-- **Well-formed nodes do not suffice**: content that holds a line break is spread over two lines,
and two nodes are read from them. -/
theorem not_compile_print_of_line_break : ∃ n : Node,
    n.WellFormed ';' ∧ n.tag.head? ≠ some '>' ∧
      ¬∃ forest, compile {} (print {} [.node n []]) = ([.compiled 1], .ok forest) ∧
        forest.map (Tree.map Item.node) = [.node n []] := by
  let n : Node := ⟨['a'], [], none, some ['x', '\n', 'y'], [], [], List.cons_ne_nil _ _⟩
  have hlegal : n.Legal ';' := by
    refine ⟨fun c hc => ?_, nofun, nofun, nofun, nofun⟩
    rw [List.mem_singleton.mp hc]
    decide
  have hcontent : ∀ c, n.content = some c → Group.IsBalanced '(' ')' c := by
    intro c hc
    obtain rfl := Option.some.inj hc
    exact ⟨by decide, by decide⟩
  refine ⟨n, ⟨hlegal, hcontent, by decide, by decide⟩, by decide, ?_⟩
  rintro ⟨forest, hcompile, hforest⟩
  have hmem : n ∈ Tree.walkAll [Tree.node n []] := List.mem_cons_self
  have hprintable := printable_of_compile_print hcompile hforest n hmem
  have hfeed := hprintable.unbroken '\n' (by decide)
  exact absurd hfeed (by decide)

end Template

end Outline
