import Outline.Proofs.Node.Fragments

/-!
# What reading a line keeps

Reading a line leaves out white space, the marks of its parts that nothing hangs on, and empty
fragments.  What is left are the **significant** characters.  Each cut of a line passes all of them
on, in their order, to the part that it takes and to what follows it, so a frame holds those of the
whole line.  A node may hold fewer of them, but then something was dropped from the frame, and the
line has an issue.

* `Frame.source`: what a frame holds, written out.
* `Frame.significant_source`: a frame loses no significant character of its line.
* `Frame.significant_source_node`: nor does a node, when its frame has no issues.
* `Node.significant_source_of_quiet`: what a line without issues describes.
-/

namespace Outline

namespace Text

variable {s : Char}

/-- The characters that show where parts and fragments begin and end, but for the parentheses. -/
def marks : List Char := ['.', '#', '[', ']', '@', ';']

/-- The character carries a meaning of its own in a line whose attributes are separated by `s`: it
is neither white space nor a mark nor the separator. -/
def isSignificant (s c : Char) : Bool := !(isBlank c || marks.contains c || c == s)

def significant (s : Char) (t : Text) : Text := t.filter (isSignificant s)

theorem isSignificant_of_isBlank (c : Char) (h : isBlank c = true) : isSignificant s c = false := by
  simp [isSignificant, h]

theorem isSignificant_of_mem_marks {c : Char} (h : c ∈ marks) : isSignificant s c = false := by
  simp [isSignificant, h]

theorem isSignificant_self (s : Char) : isSignificant s s = false := by
  simp [isSignificant]

@[simp] theorem significant_nil : significant s [] = [] := rfl

@[simp] theorem significant_append (t u : Text) :
    significant s (t ++ u) = significant s t ++ significant s u :=
  List.filter_append t u

theorem significant_cons_of_mem {c : Char} (h : c ∈ marks) (t : Text) :
    significant s (c :: t) = significant s t :=
  List.filter_cons_of_neg (by simp [isSignificant_of_mem_marks h])

theorem significant_trim (t : Text) : significant s (trim t) = significant s t :=
  filter_trim isSignificant_of_isBlank t

theorem significant_trimLeft (t : Text) : significant s (trimLeft t) = significant s t := by
  rw [← significant_trim, trim_trimLeft, significant_trim]

theorem significant_intercalate {c : Char} (h : isSignificant s c = false) (l : List Text) :
    significant s ([c].intercalate l) = l.flatMap (significant s) :=
  filter_intercalate h l

end Text

open Text

/-! ### The parts of a node -/

namespace Node

variable {s : Char}

theorem significant_classSource (xs : List Text) :
    significant s (classSource xs) = xs.flatMap (significant s) := by
  induction xs with
  | nil => rfl
  | cons x xs ih =>
    show significant s ('.' :: x ++ classSource xs) = _
    rw [significant_append, significant_cons_of_mem (by decide), ih, List.flatMap_cons]

theorem significant_attributeSource (as : List Attribute) :
    significant s (attributeSource [s] as) = as.flatMap fun a => significant s a.source := by
  rw [attributeSource]
  by_cases has : as = []
  · rw [if_pos has, has]
    rfl
  · rw [if_neg has, List.cons_append, significant_cons_of_mem (by decide), significant_append,
      significant_intercalate (isSignificant_self s), significant_cons_of_mem (by decide),
      significant_nil, List.append_nil, List.flatMap_map]

theorem significant_eventSource (es : List Text) :
    significant s (eventSource es) = es.flatMap (significant s) := by
  rw [eventSource]
  by_cases hes : es = []
  · rw [if_pos hes, hes]
    rfl
  · rw [if_neg hes, significant_cons_of_mem (by decide),
      significant_intercalate (isSignificant_of_mem_marks (by decide))]

end Node

/-! ### The cuts of a line -/

namespace Frame

open Node

variable {s : Char} {f : Frame} {line : Text}

/-- What a group was read from: a closing character belongs to it only if it was found. -/
def groupSource (opener closer : Char) : Option Group → Text
  | none => []
  | some g =>
    opener :: g.inner ++
      match g.closing with
      | .matched | .last => [closer]
      | .missing => []

def source (f : Frame) : Text :=
  f.tag ++ classSource f.classNames ++ idSource f.id ++ groupSource '(' ')' f.content
    ++ groupSource '[' ']' f.attributes ++ eventSource f.eventNames ++ f.trailing

theorem flatMap_significant_filter (l : List Text) :
    (l.filter (· ≠ [])).flatMap (significant s) = l.flatMap (significant s) := by
  refine flatMap_filter_of_nil fun x _ hx => ?_
  rw [of_not_not (of_decide_eq_false hx)]
  rfl

theorem significant_takeClasses (s : Char) (t : Text) :
    significant s (classSource (takeClasses t).1) ++ significant s (takeClasses t).2 =
      significant s t := by
  rw [takeClasses.eq_def]
  split
  · next rest =>
    dsimp only
    have hpieces : ∀ u : Text, (u.splitOn '.').flatMap (significant s) = significant s u := by
      intro u
      have hdot : isSignificant s '.' = false := isSignificant_of_mem_marks (by decide)
      rw [← significant_intercalate hdot, List.intercalate_splitOn]
    rw [significant_classSource, flatMap_significant_filter, hpieces, ← significant_append,
      List.takeWhile_append_dropWhile, significant_cons_of_mem (by decide)]
  · rfl

theorem significant_takeId (s : Char) (t : Text) :
    significant s (idSource (takeId t).1) ++ significant s (takeId t).2 = significant s t := by
  rw [takeId.eq_def]
  split
  · next rest =>
    dsimp only
    have hname : significant s (idSource
        (if rest.takeWhile isName = [] then none else some (rest.takeWhile isName))) =
          significant s (rest.takeWhile isName) := by
      by_cases hnil : rest.takeWhile isName = []
      · rw [if_pos hnil, hnil]
        rfl
      · rw [if_neg hnil, idSource, if_neg hnil, significant_cons_of_mem (by decide)]
    rw [hname, ← significant_append, List.takeWhile_append_dropWhile,
      significant_cons_of_mem (by decide)]
  · rfl

/-- **A group is taken as it stands.** -/
theorem groupSource_takeGroup {opener closer : Char} (hne : opener ≠ closer) (t : Text) :
    groupSource opener closer (takeGroup opener closer t).1 ++ (takeGroup opener closer t).2 =
      t := by
  rcases takeGroup_cases opener closer t with ⟨hnone, -⟩ | ⟨u, rfl, hsome⟩
  · rw [hnone]
    rfl
  · rw [hsome]
    rcases Group.read_cases hne u with ⟨i, r, hread, hu, -⟩ | ⟨i, r, hread, hu, -⟩ | ⟨hread, -⟩
    · rw [hread, hu]
      simp [groupSource]
    · rw [hread, hu]
      simp [groupSource]
    · rw [hread]
      simp [groupSource]

theorem significant_takeEvents (s : Char) (t : Text) :
    significant s (eventSource (takeEvents t).1) ++ significant s (takeEvents t).2 =
      significant s t := by
  rw [takeEvents.eq_def]
  split
  · next rest =>
    have hmark : ∀ c, (c == '@' || c == ';') = true → isSignificant s c = false := by
      intro c hc
      rw [Bool.or_eq_true, beq_iff_eq, beq_iff_eq] at hc
      rcases hc with rfl | rfl
      · exact isSignificant_of_mem_marks (by decide)
      · exact isSignificant_of_mem_marks (by decide)
    dsimp only
    rw [significant_eventSource, flatMap_significant_filter, List.flatMap_map]
    simp only [significant_trim]
    rw [significant_nil, List.append_nil, significant_cons_of_mem (by decide)]
    exact flatMap_filter_splitOnP hmark rest
  · rfl

/-- **A frame loses no significant character of its line.** -/
theorem significant_source (h : read line = some f) (s : Char) :
    significant s f.source = significant s line.trim := by
  obtain ⟨htag, r₁, r₂, r₃, r₄, r₅, h₁, h₂, h₃, h₄, h₅, h₆⟩ := read_eq_some_iff.mp h
  have hline := List.takeWhile_append_dropWhile (p := isWord) (l := line.trim)
  have hclasses := significant_takeClasses s (trimLeft (line.trim.dropWhile isWord))
  have hid := significant_takeId s (trimLeft r₁)
  have hcontent := groupSource_takeGroup (by decide : '(' ≠ ')') (trimLeft r₂)
  have hattributes := groupSource_takeGroup (by decide : '[' ≠ ']') (trimLeft r₃)
  have hevents := significant_takeEvents s (trimLeft r₄)
  rw [h₁, significant_trimLeft] at hclasses
  rw [h₂, significant_trimLeft] at hid
  rw [h₃] at hcontent
  rw [h₄] at hattributes
  rw [h₅, significant_trimLeft] at hevents
  rw [← hline, ← htag, significant_append, ← hclasses, ← hid, ← significant_trimLeft r₂,
    ← hcontent, significant_append, ← significant_trimLeft r₃, ← hattributes, significant_append,
    ← hevents, ← significant_trimLeft r₅, ← h₆]
  simp only [source, significant_append, List.append_assoc]

/-! ### What is dropped -/

theorem significant_listed (s : Char) (f : Frame) :
    significant s (attributeSource [s] (f.listed [s])) =
      significant s (groupSource '[' ']' f.attributes) := by
  rw [significant_attributeSource, listed_eq, List.flatMap_map]
  cases hg : f.attributes with
  | none =>
    rw [fragments, hg]
    rfl
  | some g =>
    have hsource : ∀ u : Text, significant s (ofFragment u).source = significant s u :=
      filter_source_ofFragment isSignificant_of_isBlank
    have hbrackets : significant s (groupSource '[' ']' (some g)) = significant s g.inner := by
      rw [groupSource, List.cons_append, significant_cons_of_mem (by decide), significant_append]
      cases g.closing with
      | missing => exact List.append_nil _
      | matched | last => exact List.append_nil _
    simp only [hsource]
    rw [hbrackets]
    exact filter_fragments isSignificant_of_isBlank (isSignificant_self s) hg

/-- **A node loses no significant character of its frame** when the frame has no issues. -/
theorem significant_source_node (h : f.issues [s] = []) :
    significant s ((f.node [s]).source [s]) = significant s f.source := by
  obtain ⟨hclasses, hcontent, -, hattributes, hevents, htrailing⟩ := issues_eq_nil_iff.mp h
  have hgroup : contentSource (f.content.map Group.inner) = groupSource '(' ')' f.content := by
    cases hg : f.content with
    | none => rfl
    | some g =>
      rw [groupSource, hcontent g hg]
      rfl
  simp only [Node.source, node, source, significant_append, List.filter_eq_self.mpr hclasses,
    List.filter_eq_self.mpr hattributes, List.filter_eq_self.mpr hevents, hgroup,
    significant_listed, htrailing, List.append_nil]

end Frame

/-! ### Lines without issues -/

namespace Node

variable {s : Char} {line : Text} {n : Node}

/-- **Nothing is lost silently.**  A line is read without an issue.  Then the line that the node is
written on has the same characters as the line that was read, in the same order, when white space,
the marks `.`, `#`, `[`, `]`, `@` and `;` and the separator are taken out of both. -/
theorem significant_source_of_quiet (h : read [s] line = ⟨[], .ok n⟩) :
    significant s (n.source [s]) = significant s line.trim := by
  obtain ⟨f, hread, hissues, rfl⟩ := read_eq_quiet_iff.mp h
  rw [Frame.significant_source_node hissues, Frame.significant_source hread]

/-- Classes and fragments without names, an equals sign without a value, pairs in the content and
events behind several at signs. -/
theorem significant_source_of_gaps :
    let line : Text := " div .a..b. #x (u (v; w)) [k = v=1,, ,q=]@ on; @@go ".toList
    ∃ n, read [','] line = ⟨[], .ok n⟩ ∧
      n.source [','] = "div.a.b#x(u (v; w))[k=v=1,q=]@on;go".toList ∧
      significant ',' (n.source [',']) = significant ',' line.trim ∧
      significant ',' line.trim = "divabx(u(vw))k=v=1q=ongo".toList := by
  intro line
  let f : Frame := ⟨"div".toList, [['a'], ['b']], some ['x'], some ⟨"u (v; w)".toList, .matched⟩,
    some ⟨"k = v=1,, ,q=".toList, .matched⟩, ["on".toList, "go".toList], [], by decide⟩
  have hread : read [','] line = ⟨[], .ok (f.node [','])⟩ := rfl
  exact ⟨f.node [','], hread, rfl, significant_source_of_quiet hread, by decide +kernel⟩

end Node

end Outline
