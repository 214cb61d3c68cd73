import Outline.Proofs.Node.Reading

/-!
# Lines that describe a node

The parts of a node are written one behind the other, each with the mark that it starts with.  No
mark belongs to a name, so a name ends where the next part starts: the tag, the classes, the id and
the events of a legal node are always read back from its line.

* `Node.source_eq`, `Node.mem_source`: what a line is made of.
* `Node.Legal.tight_source`: a line neither starts nor ends with white space.
* `Frame.takeClasses_classSource`, `Frame.takeId_idSource`, `Frame.takeEvents_eventSource`: the
  parts that are read back as they are written.
* `Frame.read_source_eq_some_iff`: the frame of the line of a legal node.
* `Node.mem_of_mem_source_node`: reading makes no characters up.
-/

namespace Outline

open Text

/-! ### What a text starts with -/

/-- The text is empty or starts with one of the characters. -/
def StartsIn (cs : List Char) (t : Text) : Prop := ∀ c ∈ t.head?, c ∈ cs

namespace StartsIn

variable {cs cs' : List Char} {t u : Text}

theorem nil : StartsIn cs [] := nofun

theorem cons {c : Char} (h : c ∈ cs) : StartsIn cs (c :: t) := by
  intro d hd
  rw [← Option.some.inj hd]
  exact h

theorem mono (h : StartsIn cs t) (hsub : cs ⊆ cs') : StartsIn cs' t := fun c hc => hsub (h c hc)

theorem append (ht : StartsIn cs t) (hu : StartsIn cs u) : StartsIn cs (t ++ u) := by
  cases t with
  | nil => exact hu
  | cons c t => exact cons (ht c rfl)

end StartsIn

namespace Node

variable {s : Char} {n : Node}

/-! ### How the parts are written -/

def tail (s : Char) (n : Node) : Text := attributeSource [s] n.attributes ++ eventSource n.events

theorem source_eq : n.source [s] = n.tag ++ (classSource n.classes ++
    (idSource n.id ++ (contentSource n.content ++ n.tail s))) := by
  simp only [source, tail, List.append_assoc]

theorem attributeSource_eq (h : n.attributes ≠ []) :
    attributeSource [s] n.attributes = '[' :: (n.listing s ++ [']']) := by
  rw [attributeSource, if_neg h, listing, List.cons_append]

theorem startsIn_eventSource (es : List Text) : StartsIn ['@'] (eventSource es) := by
  rw [eventSource]
  split
  · exact .nil
  · exact .cons List.mem_cons_self

theorem startsIn_tail : StartsIn ['[', '@'] (n.tail s) := by
  refine .append ?_ ((startsIn_eventSource n.events).mono (by simp))
  rw [attributeSource]
  split
  · exact .nil
  · exact .cons List.mem_cons_self

theorem startsIn_contentSource (content : Option Text) :
    StartsIn ['('] (contentSource content) := by
  cases content with
  | none => exact .nil
  | some c => exact .cons List.mem_cons_self

theorem startsIn_idSource (id : Option Text) : StartsIn ['#'] (idSource id) := by
  cases id with
  | none => exact .nil
  | some i =>
    rw [idSource]
    split
    · exact .nil
    · exact .cons List.mem_cons_self

theorem startsIn_classSource (classes : List Text) : StartsIn ['.'] (classSource classes) := by
  cases classes with
  | nil => exact .nil
  | cons x xs => exact .cons List.mem_cons_self

theorem startsIn_content (content : Option Text) :
    StartsIn ['(', '[', '@'] (contentSource content ++ n.tail s) :=
  .append ((startsIn_contentSource content).mono (by simp)) (startsIn_tail.mono (by simp))

theorem startsIn_id (id content : Option Text) :
    StartsIn ['#', '(', '[', '@'] (idSource id ++ (contentSource content ++ n.tail s)) :=
  .append ((startsIn_idSource id).mono (by simp)) ((startsIn_content content).mono (by simp))

theorem startsIn_classes (classes : List Text) (id content : Option Text) :
    StartsIn ['.', '#', '(', '[', '@']
      (classSource classes ++ (idSource id ++ (contentSource content ++ n.tail s))) :=
  .append ((startsIn_classSource classes).mono (by simp)) ((startsIn_id id content).mono (by simp))

/-- The characters that the parts start with are visible, and belong to no name. -/
theorem marks_apart : ∀ c ∈ ['.', '#', '(', '[', '@'],
    isBlank c = false ∧ isWord c = false ∧ isName c = false := by
  have hall : ['.', '#', '(', '[', '@'].all
      (fun c => !isBlank c && !isWord c && !isName c) = true := by decide +kernel
  intro c hc
  have hapart := List.all_eq_true.mp hall c hc
  simpa [and_assoc] using hapart

theorem trimLeft_of_startsIn {t : Text} (h : StartsIn ['.', '#', '(', '[', '@'] t) :
    trimLeft t = t :=
  trimLeft_eq_self_iff.mpr fun c hc => (marks_apart c (h c hc)).1

theorem classSource_eq (x : Text) (xs : List Text) :
    classSource (x :: xs) = '.' :: ['.'].intercalate (x :: xs) := by
  induction xs generalizing x with
  | nil => simp [classSource]
  | cons y xs ih =>
    have htail : classSource (x :: y :: xs) = '.' :: x ++ classSource (y :: xs) := rfl
    rw [htail, ih, List.intercalate_cons_cons]
    simp

theorem head?_source : (n.source [s]).head? = n.tag.head? := by
  rw [source_eq, List.head?_append_of_ne_nil _ n.tag_ne_nil]

/-! ### How the parts end -/

theorem endsVisible_classSource {xs : List Text} (hxs : ∀ x ∈ xs, IsName x) :
    EndsVisible (classSource xs) := by
  induction xs with
  | nil => exact .nil
  | cons x xs ih =>
    obtain ⟨hx, hxs⟩ := List.forall_mem_cons.mp hxs
    have hclass : EndsVisible ('.' :: x) := .cons (by decide) hx.tight.2
    exact hclass.append (ih hxs)

theorem endsVisible_idSource {i : Option Text} (hi : ∀ x, i = some x → IsName x) :
    EndsVisible (idSource i) := by
  cases i with
  | none => exact .nil
  | some x =>
    rw [idSource, if_neg (hi x rfl).1]
    exact .cons (by decide) (hi x rfl).tight.2

theorem endsVisible_contentSource (content : Option Text) :
    EndsVisible (contentSource content) := by
  cases content with
  | none => exact .nil
  | some c => exact endsVisible_concat.mpr (by decide)

theorem endsVisible_attributeSource (sep : Text) (attributes : List Attribute) :
    EndsVisible (attributeSource sep attributes) := by
  rw [attributeSource]
  split
  · exact .nil
  · exact endsVisible_concat.mpr (by decide)

theorem endsVisible_eventSource {es : List Text} (hes : ∀ e ∈ es, IsEvent e) :
    EndsVisible (eventSource es) := by
  rw [eventSource]
  split
  · exact .nil
  · refine .cons (by decide) fun c hc => ?_
    rcases mem_intercalate (List.mem_of_getLast? hc) with hsep | ⟨e, he, hce⟩
    · rw [List.mem_singleton.mp hsep]
      decide
    · exact ((hes e he).2.2 c hce).1

/-- **The line of a legal node neither starts nor ends with white space**, whatever separates its
attributes there. -/
theorem Legal.tight_source {d : Char} (h : n.Legal s) : Tight (n.source [d]) := by
  have htag : Tight n.tag :=
    tight_of_forall fun c hc => isBlank_eq_false_of_isWord (h.tag c hc)
  refine ⟨fun c hc => htag.1 c (head?_source ▸ hc), ?_⟩
  rw [source_eq]
  exact htag.2.append <| (endsVisible_classSource fun x hx => (h.classes x hx).1).append <|
    (endsVisible_idSource h.id).append <| (endsVisible_contentSource n.content).append <|
    (endsVisible_attributeSource [d] n.attributes).append (endsVisible_eventSource h.events)

/-- **What a line is made of**: every character of it belongs to a part or marks one. -/
theorem mem_source {c : Char} (hc : c ∈ n.source [s]) :
    c ∈ n.tag ∨ (∃ x ∈ n.classes, c ∈ x) ∨ (∃ i, n.id = some i ∧ c ∈ i) ∨
      (∃ t, n.content = some t ∧ c ∈ t) ∨ (n.attributes ≠ [] ∧ c ∈ n.listing s) ∨
      (∃ e ∈ n.events, c ∈ e) ∨ c ∈ ['.', '#', '(', ')', '[', ']', '@', ';'] := by
  rw [source_eq, tail] at hc
  simp only [List.mem_append] at hc
  rcases hc with htag | hclass | hid | hcontent | hattribute | hevent
  · exact .inl htag
  · obtain ⟨x, hx, hcx⟩ := List.mem_flatMap.mp hclass
    rcases List.mem_cons.mp hcx with rfl | hcx
    · simp
    · exact .inr (.inl ⟨x, hx, hcx⟩)
  · cases hi : n.id with
    | none => rw [hi] at hid; exact absurd hid List.not_mem_nil
    | some i =>
      rw [hi, idSource] at hid
      split at hid
      · exact absurd hid List.not_mem_nil
      · rcases List.mem_cons.mp hid with rfl | hid
        · simp
        · exact .inr (.inr (.inl ⟨i, rfl, hid⟩))
  · cases ht : n.content with
    | none => rw [ht] at hcontent; exact absurd hcontent List.not_mem_nil
    | some t =>
      rw [ht] at hcontent
      simp only [contentSource, List.cons_append, List.mem_cons, List.mem_append,
        List.not_mem_nil, or_false] at hcontent
      rcases hcontent with rfl | hct | rfl
      · simp
      · exact .inr (.inr (.inr (.inl ⟨t, rfl, hct⟩)))
      · simp
  · by_cases hne : n.attributes = []
    · rw [attributeSource, if_pos hne] at hattribute
      exact absurd hattribute List.not_mem_nil
    · rw [attributeSource_eq hne] at hattribute
      simp only [List.mem_cons, List.mem_append, List.not_mem_nil, or_false] at hattribute
      rcases hattribute with rfl | hlisting | rfl
      · simp
      · exact .inr (.inr (.inr (.inr (.inl ⟨hne, hlisting⟩))))
      · simp
  · rw [eventSource] at hevent
    split at hevent
    · exact absurd hevent List.not_mem_nil
    · rcases List.mem_cons.mp hevent with rfl | hevent
      · simp
      · rcases mem_intercalate hevent with hsemi | ⟨e, he, hce⟩
        · rw [List.mem_singleton.mp hsemi]
          simp
        · exact .inr (.inr (.inr (.inr (.inr (.inl ⟨e, he, hce⟩)))))

end Node

/-! ### Taking a part back -/

namespace Frame

open Node

variable {s : Char} {n : Node} {u : Text}

theorem takeClasses_of_head (h : u.head? ≠ some '.') : takeClasses u = ([], u) := by
  rw [takeClasses.eq_def]
  split
  · exact absurd rfl h
  · rfl

theorem takeClasses_classSource {xs : List Text} (hxs : ∀ x ∈ xs, IsName x)
    (hu : ∀ c ∈ u.head?, c ≠ '.' ∧ isName c = false) :
    takeClasses (classSource xs ++ u) = (xs, u) := by
  cases xs with
  | nil => exact takeClasses_of_head fun hd => (hu '.' hd).1 rfl
  | cons x xs =>
    have hrun : ∀ c ∈ ['.'].intercalate (x :: xs), (isName c || c == '.') = true := by
      intro c hc
      rcases mem_intercalate hc with hdot | ⟨y, hy, hcy⟩
      · simp [List.mem_singleton.mp hdot]
      · simp [(hxs y hy).2 c hcy]
    have hstop : ∀ c ∈ u.head?, (isName c || c == '.') = false := by
      intro c hc
      simp [hu c hc]
    have hdots : ∀ y ∈ x :: xs, '.' ∉ y := by
      intro y hy hdot
      have := (hxs y hy).2 '.' hdot
      revert this
      decide +kernel
    have hkept : (x :: xs).filter (· ≠ []) = x :: xs :=
      List.filter_eq_self.mpr fun y hy => by simpa using (hxs y hy).1
    rw [classSource_eq, List.cons_append, takeClasses]
    rw [takeWhile_append hrun hstop, dropWhile_append hrun hstop,
      List.splitOn_intercalate '.' hdots (List.cons_ne_nil x xs), hkept]

theorem takeId_idSource {i : Option Text} (hi : ∀ x, i = some x → IsName x)
    (hu : ∀ c ∈ u.head?, c ≠ '#' ∧ isName c = false) : takeId (idSource i ++ u) = (i, u) := by
  cases i with
  | none =>
    have hhead : u.head? ≠ some '#' := fun hd => (hu '#' hd).1 rfl
    rw [idSource, List.nil_append, takeId.eq_def]
    split
    · exact absurd rfl hhead
    · rfl
  | some x =>
    obtain ⟨hne, hall⟩ := hi x rfl
    have hstop : ∀ c ∈ u.head?, isName c = false := fun c hc => (hu c hc).2
    rw [idSource, if_neg hne, List.cons_append, takeId]
    rw [takeWhile_append hall hstop, dropWhile_append hall hstop, if_neg hne]

theorem takeGroup_of_head {opener closer : Char} (h : u.head? ≠ some opener) :
    takeGroup opener closer u = (none, u) := by
  rcases takeGroup_cases opener closer u with ⟨h', -⟩ | ⟨v, rfl, -⟩
  · exact h'
  · exact absurd rfl h

theorem takeGroup_cons (opener closer : Char) (u : Text) : takeGroup opener closer (opener :: u) =
    (some (Group.read opener closer u).1, (Group.read opener closer u).2) := by
  rw [takeGroup, if_pos rfl]

theorem takeEvents_eventSource {es : List Text} (hes : ∀ e ∈ es, IsEvent e) :
    takeEvents (eventSource es) = (es, []) := by
  rw [eventSource]
  by_cases hne : es = []
  · rw [if_pos hne, hne]
    rfl
  · have hseps : ∀ e ∈ es, ∀ c ∈ e, (c == '@' || c == ';') = false := by
      intro e he c hc
      obtain ⟨-, hat, hsemi⟩ := (hes e he).2.2 c hc
      simp [hat, hsemi]
    have htrim : es.map trim = es := by
      refine List.map_congr_left (fun e he => ?_) |>.trans (List.map_id es)
      exact trim_eq_self_iff.mpr (tight_of_forall fun c hc => ((hes e he).2.2 c hc).1)
    have hkept : es.filter (· ≠ []) = es :=
      List.filter_eq_self.mpr fun e he => by simpa using (hes e he).1
    rw [if_neg hne, takeEvents, splitOnP_intercalate (by decide) hseps hne, htrim, hkept]

/-- **The head of a legal node is always read back**, whatever separates its attributes: the frame
of its line has its tag, its classes and its id, and the other parts are taken from what follows
them. -/
theorem read_source_eq_some_iff {d : Char} (h : n.Legal s) {f : Frame} :
    read (n.source [d]) = some f ↔
    f.tag = n.tag ∧ f.classNames = n.classes ∧ f.id = n.id ∧ ∃ r₃ r₄ r₅,
      takeGroup '(' ')' (contentSource n.content ++ n.tail d) = (f.content, r₃) ∧
      takeGroup '[' ']' (trimLeft r₃) = (f.attributes, r₄) ∧
      takeEvents (trimLeft r₄) = (f.eventNames, r₅) ∧ f.trailing = trimLeft r₅ := by
  have hc := startsIn_content (s := d) (n := n) n.content
  have hi := startsIn_id (s := d) (n := n) n.id n.content
  have hk := startsIn_classes (s := d) (n := n) n.classes n.id n.content
  have hword : ∀ c ∈ (classSource n.classes ++ (idSource n.id ++
      (contentSource n.content ++ n.tail d))).head?, isWord c = false :=
    fun c hc => (marks_apart c (hk c hc)).2.1
  have hclasses := takeClasses_classSource (fun x hx => (h.classes x hx).1) fun c hc =>
    ⟨fun hdot => by have := hi c hc; revert this; rw [hdot]; decide,
      (marks_apart c (hi.mono (by simp) c hc)).2.2⟩
  have hid := takeId_idSource h.id fun c hc' =>
    ⟨fun hsharp => by have := hc c hc'; revert this; rw [hsharp]; decide,
      (marks_apart c (hc.mono (by simp) c hc')).2.2⟩
  rw [read_eq_some_iff, trim_eq_self_iff.mpr h.tight_source, source_eq,
    takeWhile_append h.tag hword, dropWhile_append h.tag hword, trimLeft_of_startsIn hk,
    hclasses]
  constructor
  · rintro ⟨htag, r₁, r₂, r₃, r₄, r₅, h₁, h₂, h₃, h₄, h₅, h₆⟩
    obtain ⟨hnames, rfl⟩ := Prod.mk.inj h₁
    rw [trimLeft_of_startsIn (hi.mono (by simp)), hid] at h₂
    obtain ⟨hid', rfl⟩ := Prod.mk.inj h₂
    rw [trimLeft_of_startsIn (hc.mono (by simp))] at h₃
    exact ⟨htag, hnames.symm, hid'.symm, r₃, r₄, r₅, h₃, h₄, h₅, h₆⟩
  · rintro ⟨htag, hnames, hid', r₃, r₄, r₅, h₃, h₄, h₅, h₆⟩
    refine ⟨htag, _, contentSource n.content ++ n.tail d, r₃, r₄, r₅, by rw [hnames], ?_, ?_,
      h₄, h₅, h₆⟩
    · rw [trimLeft_of_startsIn (hi.mono (by simp)), hid, hid']
    · rw [trimLeft_of_startsIn (hc.mono (by simp)), h₃]

end Frame

/-! ### Where the characters of a node come from -/

namespace Node

variable {s : Char} {n : Node}

/-- **Reading makes no characters up**: every character of the line that a node is written on stands
in the line that the node was read from, unless it marks a part. -/
theorem mem_of_mem_source_node {line : Text} {f : Frame} {c : Char}
    (hread : Frame.read line = some f) (hc : c ∈ (f.node [s]).source [s]) :
    c ∈ line ∨ c ∈ ['.', '#', '(', ')', '[', ']', '@', ';'] := by
  obtain ⟨hcontent, hattributes⟩ := Frame.groups_isInfix hread
  obtain ⟨htag, hclasses, hid, hevents⟩ := Frame.names_subset hread
  have htrim : line.trim ⊆ line := (trim_sublist line).subset
  rcases mem_source hc with hct | ⟨x, hx, hcx⟩ | ⟨i, hi, hci⟩ | ⟨t, ht, hct⟩ | ⟨hne, hcl⟩ |
    ⟨e, he, hce⟩ | hmark
  · exact .inl (htrim (htag hct))
  · exact .inl (htrim (hclasses x (List.mem_filter.mp hx).1 hcx))
  · exact .inl (htrim (hid i hi hci))
  · obtain ⟨g, hg, rfl⟩ := Option.map_eq_some_iff.mp ht
    exact .inl (htrim ((hcontent g hg).subset hct))
  · cases hg : f.attributes with
    | none => exact absurd (by rw [Frame.node, Frame.listed_none hg]; rfl) hne
    | some g =>
      have hinner := (Frame.listing_sublist hg).subset hcl
      exact .inl (htrim ((hattributes g hg).subset hinner))
  · exact .inl (htrim (hevents e (List.mem_filter.mp he).1 hce))
  · exact .inr hmark

end Node

end Outline
