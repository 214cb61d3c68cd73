import Outline.Command.Run
import Outline.Proofs.Node.Separator
import Outline.Proofs.Template.Trees
import Outline.Proofs.Text.Terminal
import Outline.Proofs.Tree.Listing

/-!
# Runs that list a forest

A run that lists a forest prints the path of the template and then a line for each node.  Labels are
shown as they are when they hold no control characters, and then the forest can be read back from
what is printed.  The nodes are written with semicolons between their attributes, whatever separates
them in the template, so under other settings what is shown of a node need not describe it.  The
console is taken to be as wide as the longest line, so that each line is printed as one.

* `Command.run_of_forest`: what a run that lists a forest ends with.
* `Command.listing_shows_forest`: the lines of the nodes, and what they tell.
* `Command.listing_read_back_iff`: the nodes that are read back from what is shown of them.
-/

namespace Outline.Command

variable {s : Setting} {j : Job} {args : List Text} {template : Text} {settings : Settings}
  {notices : List Notice} {forest : Forest}

def listed (s : Setting) (path : Path) (notices : List Notice) (forest : Forest) : Report :=
  { stdout := (listing path forest).flatMap line, notices := notices, files := s.files }

/-- **A run that lists a forest** ends with the listing and leaves the files as they are. -/
theorem run_of_forest (hargs : Invocation.ofArguments args = some (.job j))
    (hj : j.task = .tree) (htemplate : readTemplate s j.template = .ok template)
    (hsettings : readSettings s j.config = .ok settings)
    (hcompile : Template.compile settings template = (notices, .ok forest)) :
    run s args = .finished (threshold s j) (listed s j.template notices forest) := by
  have hforest : forestOf s settings template = .ok (forest, notices) := by
    rw [forestOf, hcompile]
  have hperform : perform s j = .ok (listed s j.template notices forest) := by
    rw [perform, hj, htemplate]
    simp only [bind, Except.bind, hsettings, hforest]
    rfl
  rw [run, hargs]
  simp only [hperform]

/-- **A listing shows the whole forest.**  Behind the line of the path there is one line for each
node, depth first, which is the order of the routes to the nodes.  It has a guide for each level of
the node, and then the line that describes the node.  The last guide bends exactly for a last
sibling, and one above runs on exactly when there is a sibling after the node on that level of the
route.  What the lines show is read back as the forest of the lines that describe the nodes. -/
theorem listing_shows_forest (hargs : Invocation.ofArguments args = some (.job j))
    (hj : j.task = .tree) (htemplate : readTemplate s j.template = .ok template)
    (hsettings : readSettings s j.config = .ok settings)
    (hcompile : Template.compile settings template = (notices, .ok forest))
    (hplain : ∀ i ∈ Tree.walkAll forest, ∀ c ∈ i.node.source [';'], Text.isControl c = false) :
    let nodes := Tree.placedAll 0 forest
    let rows := nodes.map fun q => (Tree.guides forest q.1).flatten ++ q.2.node.source [';']
    ∃ report, run s args = .finished (threshold s j) report ∧ report.status = 0 ∧
      report.files = s.files ∧
      report.stdout = line (Text.label j.template.text) ++ rows.flatMap line ∧
      (rows.flatMap line).splitOn '\n' = rows ++ [[]] ∧
      nodes.map Prod.snd = Tree.walkAll forest ∧
      nodes.map (fun q => (q.2, q.1.length)) = Tree.levelsAll 1 forest ∧
      nodes.Pairwise (fun p q => p.1 < q.1) ∧
      (∀ q, q ∈ nodes ↔ ∃ below, Tree.nodeAt forest q.1 = some (.node q.2 below)) ∧
      (∀ q ∈ nodes, (Tree.guides forest q.1).length = q.1.length ∧
        ∀ k < q.1.length, (Tree.guides forest q.1)[k]? =
          some (if k + 1 = q.1.length then Tree.branch (Tree.isLast forest q.1)
            else Tree.beside (Tree.isLast forest (q.1.take (k + 1))))) ∧
      (∀ r i, Tree.isLast forest (r ++ [i]) = true ↔
        ∀ k, i < k → Tree.nodeAt forest (r ++ [k]) = none) ∧
      Tree.ofListing (rows.flatMap line) =
        some (forest.map (Tree.map fun i => i.node.source [';'])) := by
  intro nodes rows
  have hshown : Tree.listing (fun i : Item => Text.label (i.node.source [';'])) forest = rows := by
    rw [Tree.listing_congr fun i hi => Text.label_eq_self (hplain i hi), Tree.listing_eq]
  have hfeed : ∀ i ∈ Tree.walkAll forest, '\n' ∉ i.node.source [';'] :=
    fun i hi hmem => absurd (hplain i hi _ hmem) (by decide)
  have hlist : Tree.listing (fun i : Item => i.node.source [';']) forest = rows :=
    Tree.listing_eq _ _
  refine ⟨listed s j.template notices forest,
    run_of_forest hargs hj htemplate hsettings hcompile, rfl, rfl, ?_, ?_,
    Tree.map_snd_placedAll 0 forest, ?_, Tree.pairwise_placedAll 0 forest,
    fun q => Tree.mem_placedAll_zero_iff, ?_, fun r i => Tree.isLast_concat_iff, ?_⟩
  · rw [listed, listing, List.flatMap_cons, hshown]
  · rw [← hlist]
    exact Tree.splitOn_listing hfeed
  · have hlevels := Tree.map_length_placedAll 0 0 forest
    simpa using hlevels
  · intro q hq
    exact ⟨Tree.length_guides (Tree.ne_nil_of_mem_placedAll hq) forest,
      fun k hk => Tree.getElem?_guides hk forest⟩
  · rw [← hlist]
    exact Tree.ofListing_listing hfeed

/-- A forest whose second root and inner nodes have siblings or none. -/
theorem listing_shows_forest_of_siblings :
    let s : Setting :=
      { files := ⟨[([['w']], .directory), ([['w'], ['t']], .file "a\n>b(x)\n>>c\n>d\ne".toList)]⟩
        cwd := [['w']] }
    ∃ report, run s ["tree".toList, ['t']] = .finished .warning report ∧
      report.stdout = "t\n├── a\n│   ├── b(x)\n│   │   └── c\n│   └── d\n└── e\n".toList ∧
      (Tree.ofListing (report.stdout.drop 2)).map (fun ts => ts.map Tree.walk) =
        some [["a".toList, "b(x)".toList, "c".toList, "d".toList], ["e".toList]] := by
  intro s
  let j : Job := ⟨.tree, ⟨[], [['t']]⟩, none, false⟩
  let template := "a\n>b(x)\n>>c\n>d\ne".toList
  let forest : Forest := (Template.compile {} template).2.toOption.getD []
  have hargs : Invocation.ofArguments ["tree".toList, ['t']] = some (.job j) := rfl
  have htemplate : readTemplate s j.template = .ok template := rfl
  have hsettings : readSettings s j.config = .ok {} := rfl
  have hcompile : Template.compile {} template = ([.compiled 2], .ok forest) := rfl
  have hall : ((Tree.walkAll forest).all fun i =>
      (i.node.source [';']).all fun c => !Text.isControl c) = true := by decide +kernel
  have hplain : ∀ i ∈ Tree.walkAll forest, ∀ c ∈ i.node.source [';'],
      Text.isControl c = false := by
    intro i hi c hc
    simpa using List.all_eq_true.mp (List.all_eq_true.mp hall i hi) c hc
  obtain ⟨report, hrun, -, -, hstdout, -, -, -, -, -, -, -, hread⟩ :=
    listing_shows_forest hargs rfl htemplate hsettings hcompile hplain
  have hbody : report.stdout.drop 2 = ((Tree.placedAll 0 forest).map fun q =>
      (Tree.guides forest q.1).flatten ++ q.2.node.source [';']).flatMap line := by
    rw [hstdout]
    exact List.drop_left' (by decide +kernel)
  refine ⟨report, hrun, ?_, ?_⟩
  · rw [hstdout]
    decide +kernel
  · rw [hbody, hread]
    decide +kernel

/-! ### Reading back what is shown of a node -/

/-- **The nodes that are read back from their labels.**  A label shows the line of a node under the
separator `d`, and is read under the separator `s`. -/
theorem read_label_iff {s d : Char} {n : Node} (hd : Text.isShown d = true) :
    (Node.read [s] (Text.label (n.source [d]))).result = .ok n ↔
      (Node.read [s] (n.source [s])).result = .ok n ∧
      (∀ c ∈ n.source [d], Text.isShown c = true) ∧ (s = d ∨ n.attributes.length ≤ 1) := by
  have hmarks : ['.', '#', '(', ')', '[', ']', '@', ';'].all Text.isShown = true := by decide
  constructor
  · intro h
    -- what is read of the label is shown there, so nothing is left out of the label
    have hshown : ∀ c ∈ n.source [d], Text.isShown c = true := by
      intro c hc
      obtain ⟨f, hread, rfl⟩ := Node.read_result_eq_ok_iff.mp h
      rcases Node.mem_source_of_mem_source hc s with rfl | hcs
      · exact hd
      · rcases Node.mem_of_mem_source_node hread hcs with hlabel | hmark
        · exact (Text.mem_label hlabel).1
        · exact List.all_eq_true.mp hmarks c hmark
    rw [Text.label_eq_self_iff.mpr hshown, Node.read_source_separated_iff] at h
    exact ⟨h.1, hshown, h.2⟩
  · rintro ⟨hown, hshown, hsame⟩
    rw [Text.label_eq_self_iff.mpr hshown]
    exact Node.read_source_separated_iff.mpr ⟨hown, hsame⟩

/-- **Which nodes are read back from a listing** on a console that no line is too long for.  Behind
the line of the path there is one line for each node, and it shows the line of the node behind its
guides.  Under the separator of the settings this is read back as the node exactly when the node is
read back from its own line, every character is shown, and the separator is the semicolon or the
node has no two attributes to separate. -/
theorem listing_read_back_iff (hargs : Invocation.ofArguments args = some (.job j))
    (hj : j.task = .tree) (htemplate : readTemplate s j.template = .ok template)
    (hsettings : readSettings s j.config = .ok settings)
    (hcompile : Template.compile settings template = (notices, .ok forest)) :
    let sep := [settings.separator.char]
    let nodes := Tree.placedAll 0 forest
    let shown (q : Tree.Route × Item) := Text.label (q.2.node.source [';'])
    let rows := nodes.map fun q => (Tree.guides forest q.1).flatten ++ shown q
    ∃ report, run s args = .finished (threshold s j) report ∧
      report.stdout = line (Text.label j.template.text) ++ rows.flatMap line ∧
      (rows.flatMap line).splitOn '\n' = rows ++ [[]] ∧
      nodes.map Prod.snd = Tree.walkAll forest ∧
      ∀ q ∈ nodes,
        Tree.readRow ((Tree.guides forest q.1).flatten ++ shown q) = some (q.1.length, shown q) ∧
        ((Node.read sep (shown q)).result = .ok q.2.node ↔
          (Node.read sep (q.2.node.source sep)).result = .ok q.2.node ∧
          (∀ c ∈ q.2.node.source [';'], Text.isShown c = true) ∧
          (settings.separator.char = ';' ∨ q.2.node.attributes.length ≤ 1)) := by
  intro sep nodes shown rows
  have hfeed : ∀ i ∈ Tree.walkAll forest, '\n' ∉ Text.label (i.node.source [';']) := by
    intro i hi hmem
    have hline := (Text.mem_label hmem).2.resolve_left (by decide)
    have hsource :=
      (Node.mem_source_of_mem_source hline settings.separator.char).resolve_left (by decide)
    exact absurd (Template.unbroken_of_mem_walkAll hcompile hi _ hsource) (by decide)
  have hlist : Tree.listing (fun i : Item => Text.label (i.node.source [';'])) forest = rows :=
    Tree.listing_eq _ _
  refine ⟨listed s j.template notices forest,
    run_of_forest hargs hj htemplate hsettings hcompile, ?_, ?_,
    Tree.map_snd_placedAll 0 forest, fun q hq => ⟨?_, ?_⟩⟩
  · rw [listed, listing, List.flatMap_cons, hlist]
  · rw [← hlist]
    exact Tree.splitOn_listing hfeed
  · exact Tree.readRow_guides (Tree.ne_nil_of_mem_placedAll hq) forest (shown q)
  · exact read_label_iff (by decide)

/-! ### Settings with a comma -/

theorem toOption_eq_some_iff {ε α : Type} {x : Except ε α} {a : α} :
    x.toOption = some a ↔ x = .ok a := by
  cases x <;> simp [Except.toOption]

/-- A node with two attributes, and one with a semicolon in a value. -/
def commaTemplate : Text := "p[a,b]\n>q[c=1;2]".toList

/-- A directory with the template and with settings in which a comma separates attributes. -/
def commaSetting : Setting :=
  { files := ⟨[([['w']], .directory), ([['w'], ['t']], .file commaTemplate),
      ([['w'], settingsName], .file "attribute_separator: ','".toList)]⟩
    cwd := [['w']] }

def commaSettings : Settings := { separator := ⟨',', by decide⟩ }

def commaNode : Node :=
  ⟨['p'], [], none, none, [⟨['a'], none⟩, ⟨['b'], none⟩], [], List.cons_ne_nil _ _⟩

def semicolonNode : Node :=
  ⟨['q'], [], none, none, [⟨['c'], some "1;2".toList⟩], [], List.cons_ne_nil _ _⟩

def commaForest : Forest := [.node ⟨commaNode, some 1⟩ [.node ⟨semicolonNode, some 2⟩ []]]

theorem readSettings_comma : readSettings commaSetting none = .ok commaSettings :=
  toOption_eq_some_iff.mp (by decide +kernel)

theorem compile_comma :
    Template.compile commaSettings commaTemplate = ([.compiled 1], .ok commaForest) := rfl

/-- The node with a semicolon in a value is read back, and the one with two attributes is not. -/
theorem listing_read_back_of_comma :
    ∃ report, run commaSetting ["tree".toList, ['t']] = .finished .warning report ∧
      report.stdout = "t\n└── p[a;b]\n    └── q[c=1;2]\n".toList ∧
      (Node.read [','] "q[c=1;2]".toList).result = .ok semicolonNode ∧
      ¬(Node.read [','] "p[a;b]".toList).result = .ok commaNode := by
  let j : Job := ⟨.tree, ⟨[], [['t']]⟩, none, false⟩
  have hargs : Invocation.ofArguments ["tree".toList, ['t']] = some (.job j) := rfl
  have htemplate : readTemplate commaSetting j.template = .ok commaTemplate := rfl
  obtain ⟨report, hrun, hstdout, -, -, hread⟩ :=
    listing_read_back_iff hargs rfl htemplate readSettings_comma compile_comma
  obtain ⟨-, hp⟩ := hread ([0], ⟨commaNode, some 1⟩) List.mem_cons_self
  obtain ⟨-, hq⟩ := hread ([0, 0], ⟨semicolonNode, some 2⟩)
    (List.mem_cons_of_mem _ List.mem_cons_self)
  have hshown : ∀ c ∈ semicolonNode.source [';'], Text.isShown c = true :=
    List.all_eq_true.mp (by decide +kernel)
  refine ⟨report, hrun, ?_, hq.mpr ⟨rfl, hshown, .inr (by decide)⟩, fun h => ?_⟩
  · rw [hstdout]
    decide +kernel
  · obtain ⟨-, -, hsame | hfew⟩ := hp.mp h
    · exact absurd hsame (by decide)
    · exact absurd hfew (by decide)

/-- **Not every node is read back from a listing.**  Two attributes that a comma separates are shown
with a semicolon between them, and under the settings of the run this describes one attribute. -/
theorem not_listing_read_back_of_comma :
    readSettings commaSetting none = .ok commaSettings ∧
      Template.compile commaSettings commaTemplate = ([.compiled 1], .ok commaForest) ∧
      (∃ report, run commaSetting ["tree".toList, ['t']] = .finished .warning report ∧
        report.stdout = "t\n└── p[a;b]\n    └── q[c=1;2]\n".toList) ∧
      (Node.read [','] (commaNode.source [','])).result = .ok commaNode ∧
      ¬(Node.read [','] "p[a;b]".toList).result = .ok commaNode := by
  let j : Job := ⟨.tree, ⟨[], [['t']]⟩, none, false⟩
  have hargs : Invocation.ofArguments ["tree".toList, ['t']] = some (.job j) := rfl
  have htemplate : readTemplate commaSetting j.template = .ok commaTemplate := rfl
  have hrun := run_of_forest hargs rfl htemplate readSettings_comma compile_comma
  refine ⟨readSettings_comma, compile_comma, ⟨_, hrun, by decide +kernel⟩, rfl, fun h => ?_⟩
  have hread : (Node.read [','] (commaNode.source [';'])).result = .ok commaNode := h
  rcases (Node.read_source_separated_iff.mp hread).2 with hsame | hfew
  · exact absurd hsame (by decide)
  · exact absurd hfew (by decide)

end Outline.Command
