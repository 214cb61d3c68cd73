import Outline.Proofs.Template.Outcome
import Outline.Proofs.Tree.Reduction

/-!
# Compiling pass by pass

Compiling reads the nodes of all lines, cuts the lines into sections, looks the nodes of a section
up by their numbers, and reduces them to a tree round by round.  Taken by itself every pass can
fail: the separator may be empty, a number may be unknown, and a round may search an empty list or
look behind its end.  Put together only a line without a tag stops them.

* `Pending.place`, `Tree.assembleInRounds`: the reduction with its faults.
* `Template.compileInPasses`: the passes with their faults, for any texts as marker and separator.
* `Template.compileInPasses_of_ne_nil`: with a separator they come to the entries and their forest.
* `Template.compileInPasses_eq`: under settings they come to what compiling comes to.
-/

namespace Outline

universe u

/-! ### Rounds -/

namespace Pending

variable {α : Type u}

/-- One round, or the fault of the search that fails in it. -/
def place (p : Pending α) : Except Assembly.Fault (Pending α) :=
  match Assembly.deepest (p.waiting.map Prod.snd) with
  | .error f => .error f
  | .ok i =>
    match Assembly.parent (p.waiting.map Prod.snd) i, p.waiting[i]? with
    | .error f, _ => .error f
    | .ok _, none => .error .outOfRange
    | .ok (some j), some t =>
      .ok ⟨p.tree, (p.waiting.modify j fun s => (s.1.adopt t.1, s.2)).eraseIdx i⟩
    | .ok none, some t => .ok ⟨p.tree.adopt t.1, p.waiting.eraseIdx i⟩

def placeAll : Nat → Pending α → Except Assembly.Fault (Pending α)
  | 0, p => .ok p
  | rounds + 1, p => p.place.bind (placeAll rounds)

theorem place_eq_ok_iff {p q : Pending α} : p.place = .ok q ↔ p.step = some q := by
  rw [place, step]
  cases Assembly.deepest (p.waiting.map Prod.snd) with
  | error f => simp
  | ok i =>
    cases hparent : Assembly.parent (p.waiting.map Prod.snd) i with
    | error f => cases ht : p.waiting[i]? <;> simp [hparent, ht]
    | ok j =>
      cases ht : p.waiting[i]? with
      | none => simp [hparent, ht]
      | some t => cases j <;> simp [hparent, ht]

/-- **No search fails** while a tree is waiting. -/
theorem exists_place {p : Pending α} (h : p.waiting ≠ []) : ∃ q, p.place = .ok q := by
  cases hstep : p.step with
  | none => exact absurd (step_eq_none_iff.mp hstep) h
  | some q => exact ⟨q, place_eq_ok_iff.mpr hstep⟩

/-- **As many rounds as trees are waiting** leave none of them, and no round of these fails. -/
theorem placeAll_length (p : Pending α) :
    placeAll p.waiting.length p = .ok ⟨Tree.reduce p, []⟩ := by
  induction hn : p.waiting.length generalizing p with
  | zero =>
    have hnil : p.waiting = [] := List.length_eq_zero_iff.mp hn
    have hreduce : Tree.reduce p = p.tree := by
      rw [Tree.reduce]
      split
      next => rfl
      next q hq => exact absurd ((step_eq_none_iff.mpr hnil).symm.trans hq) nofun
    rw [placeAll, hreduce, ← hnil]
  | succ n ih =>
    obtain ⟨q, hq⟩ := exists_place (p := p) (by rintro h; simp [h] at hn)
    have hstep := place_eq_ok_iff.mp hq
    have hlen := length_step hstep
    have hreduce : Tree.reduce p = Tree.reduce q := by
      rw [Tree.reduce]
      split
      next h => exact absurd (h.symm.trans hstep) nofun
      next q' h => rw [Option.some.inj (h.symm.trans hstep)]
    rw [placeAll, hq, hreduce]
    exact ih q (by omega)

end Pending

namespace Tree

variable {α : Type u}

/-- The tree of a root and the entries below it, made in rounds. -/
def assembleInRounds (root : α) (entries : List (α × Int)) : Except Assembly.Fault (Tree α) :=
  (Pending.placeAll entries.length
    ⟨node root [], entries.map fun e => (node e.1 [], e.2)⟩).map Pending.tree

theorem assembleInRounds_eq (root : α) (entries : List (α × Int)) :
    assembleInRounds root entries = .ok (assemble root entries) := by
  have hrounds := Pending.placeAll_length
    ⟨node root [], entries.map fun e => (node e.1 [], e.2)⟩
  rw [List.length_map] at hrounds
  rw [assembleInRounds, hrounds, ← reduce_eq_assemble]
  rfl

end Tree

namespace Template

/-! ### Passes -/

/-- Why compiling breaks off when marker and separator may be any texts. -/
inductive Breakdown where
  | refused (refusal : Refusal)
  /-- Attributes are to be told apart by nothing. -/
  | emptySeparator
  /-- No node is known for the number of a line. -/
  | unread (number : Int)
  /-- A tree that is waiting cannot be placed. -/
  | assembly (fault : Assembly.Fault)
deriving DecidableEq, Repr

def Breakdown.ofLine (l : Line) : Node.Fault → Breakdown
  | .missingTag => .refused ⟨l.number, l.text⟩
  | .emptySeparator => .emptySeparator

def readNodes (sep : Text) : List Line → List Notice × Except Breakdown (List (Int × Node))
  | [] => ([], .ok [])
  | l :: ls =>
    let reading := Node.read sep l.text
    let issues := reading.issues.map (.issue (some l.number))
    match reading.result with
    | .error f => (issues, .error (.ofLine l f))
    | .ok n =>
      let (notices, result) := readNodes sep ls
      (issues ++ notices, result.map ((l.number, n) :: ·))

def itemOf (known : List (Int × Node)) (l : Line) : Except Breakdown Item :=
  match known.lookup l.number with
  | none => .error (.unread l.number)
  | some n => .ok ⟨n, some l.number⟩

def treeOf (known : List (Int × Node)) (s : Section Line) : Except Breakdown (Tree Item) := do
  let root ← itemOf known s.top
  let entries ← s.nested.mapM fun l => (itemOf known l).map (·, l.depth)
  (Tree.assembleInRounds root entries).mapError .assembly

/-- The forest of a template, with the notices on the way, made in passes of which each may
fail. -/
def compileInPasses (marker sep template : Text) : List Notice × Except Breakdown Forest :=
  let lines := Line.ofTemplate marker template
  let (issues, nodes) := readNodes sep lines
  match nodes with
  | .error b => (issues, .error b)
  | .ok known =>
    let (loose, sections) := Section.split Line.depth lines
    let notices := issues ++ loose.map orphaned
    match sections.mapM (treeOf known) with
    | .error b => (notices, .error b)
    | .ok forest => (notices ++ [.compiled forest.length], .ok forest)

/-! ### The first pass -/

variable {sep : Text} {ls : List Line} {es : List Entry} {e : Entry}

def numbered (es : List Entry) : List (Int × Node) := es.map fun e => (e.line.number, e.node)

/-- **With a separator, only a line without a tag cannot be read.** -/
theorem readNodes_eq (hsep : sep ≠ []) (ls : List Line) :
    readNodes sep ls =
      ((readLines sep ls).1, ((readLines sep ls).2.mapError .refused).map numbered) := by
  induction ls with
  | nil => rfl
  | cons l ls ih =>
    cases hframe : Frame.read l.text with
    | none =>
      have hread : Node.read sep l.text = ⟨[], .error .missingTag⟩ := by rw [Node.read, hframe]
      rw [readNodes, hread, readLines_cons_of_none hframe]
      rfl
    | some frame =>
      have hread : Node.read sep l.text = ⟨frame.issues sep, .ok (frame.node sep)⟩ := by
        rw [Node.read, hframe]
        exact if_neg fun h => hsep h.1
      rw [readNodes, hread, readLines_cons_of_some hframe, lineNotices, hframe]
      simp only [ih]
      cases (readLines sep ls).2 <;> rfl

/-! ### The other passes -/

theorem lookup_numbered (h : es.Pairwise fun e e' => e.line.number < e'.line.number)
    (he : e ∈ es) : (numbered es).lookup e.line.number = some e.node := by
  induction es with
  | nil => exact absurd he List.not_mem_nil
  | cons x es ih =>
    obtain ⟨hx, hes⟩ := List.pairwise_cons.mp h
    rw [numbered, List.map_cons, List.lookup_cons]
    rcases List.mem_cons.mp he with rfl | he
    · simp
    · have hne : e.line.number ≠ x.line.number := by
        have := hx e he
        omega
      rw [beq_false_of_ne hne]
      exact ih hes he

theorem mapM_eq_ok {α β ε : Type} {f : α → Except ε β} {g : α → β} {l : List α}
    (h : ∀ x ∈ l, f x = .ok (g x)) : l.mapM f = .ok (l.map g) := by
  induction l with
  | nil => rfl
  | cons x l ih =>
    obtain ⟨hx, hl⟩ := List.forall_mem_cons.mp h
    rw [List.mapM_cons, hx, ih hl]
    rfl

theorem treeOf_map {known : List (Int × Node)} {s : Section Entry}
    (h : ∀ e ∈ s.entries, known.lookup e.line.number = some e.node) :
    treeOf known (s.map Entry.line) = .ok (sectionTree s) := by
  have hitem : ∀ e ∈ s.entries, itemOf known e.line = .ok e.item := by
    intro e he
    rw [itemOf, h e he]
    rfl
  have htop := hitem s.top List.mem_cons_self
  have hnested : (s.nested.map Entry.line).mapM
      (fun l => (itemOf known l).map (·, l.depth)) =
      .ok (s.nested.map fun e => (e.item, e.line.depth)) := by
    rw [List.mapM_map]
    exact mapM_eq_ok fun e he => by
      rw [Function.comp_apply, hitem e (List.mem_cons_of_mem _ he)]
      rfl
  rw [treeOf]
  simp only [Section.map, htop, hnested, bind, Except.bind, Tree.assembleInRounds_eq]
  rfl

/-- **With a separator only a line without a tag stops the passes**, whatever the marker is, and
otherwise they come to the forest of the entries. -/
theorem compileInPasses_of_ne_nil (hsep : sep ≠ []) (marker template : Text) :
    compileInPasses marker sep template =
      match readLines sep (Line.ofTemplate marker template) with
      | (issues, .error r) => (issues, .error (.refused r))
      | (issues, .ok es) => (issues ++ (build es).1, .ok (build es).2) := by
  have hnumbers := Line.ofTemplate_pairwise marker template
  rw [compileInPasses]
  simp only [readNodes_eq hsep]
  rcases hread : readLines sep (Line.ofTemplate marker template) with ⟨issues, r | es⟩
  · rfl
  · obtain ⟨hlines, -, -⟩ := readLines_eq_ok_iff.mp hread
    rw [← hlines, List.pairwise_map] at hnumbers
    have hsplit : Section.split Line.depth (es.map Entry.line) =
        ((Section.split (fun e => e.line.depth) es).1.map Entry.line,
          (Section.split (fun e => e.line.depth) es).2.map (Section.map Entry.line)) :=
      Section.split_map (fun e : Entry => e.line.depth) (fun _ => rfl) es
    -- each line of a section is among those whose nodes were read
    have htrees : ((Section.split (fun e : Entry => e.line.depth) es).2.map
        (Section.map Entry.line)).mapM (treeOf (numbered es)) = .ok (build es).2 := by
      rw [List.mapM_map, build_forest]
      refine mapM_eq_ok fun sec hsec => treeOf_map fun e he => ?_
      exact lookup_numbered hnumbers ((Section.sublist_of_mem_split hsec).subset he)
    simp only [← hlines, hsplit, Except.mapError, Except.map, htrees, build_notices,
      List.map_map, List.append_assoc]
    rfl

/-- **Under settings the passes come to what compiling comes to**, so a line without a tag is all
that stops them. -/
theorem compileInPasses_eq (s : Settings) (template : Text) :
    compileInPasses [s.marker.char] [s.separator.char] template =
      ((compile s template).1, (compile s template).2.mapError .refused) := by
  rw [compileInPasses_of_ne_nil (List.cons_ne_nil _ _), compile]
  rcases readLines [s.separator.char] (Line.ofTemplate [s.marker.char] template) with
    ⟨issues, r | es⟩ <;> rfl

/-- Without a separator there is another fault. -/
example : compileInPasses ['>'] [] "a[b]".toList = ([], .error .emptySeparator) := rfl

end Template

end Outline
