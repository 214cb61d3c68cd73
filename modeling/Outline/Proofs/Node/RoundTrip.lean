import Outline.Proofs.Node.Writing

/-!
# Reading back what is written

Content and attributes stand in groups, and come back from the line that describes a node exactly
when their groups end where they were written to end.  For content of a node that has been read
this is so; for attributes it may fail, because a fragment that was dropped may have opened a pair.

* `Frame.issues_eq_nil_iff`: the frames without issues.
* `Frame.Shows.node_eq`, `Frame.Shows.issues_eq_nil`: frames that show a node.
* `Node.read_source_iff`: the nodes that are read back from their own lines.
* `Node.read_source_quiet_iff`: those that are read back without a complaint.
* `Node.read_source_of_read_iff`: the lines whose nodes are read back.
-/

namespace Outline

open Text

/-! ### Nodes that are read back -/

namespace Node

open Outline.Frame

variable {s : Char} {n : Node}

/-- The content **returns** when, put between its parentheses, it closes no pair that it has not
opened, and its own pairs are closed or nothing behind it could close them. -/
def ContentReturns (s : Char) (n : Node) : Prop := ∀ c, n.content = some c →
  Group.Within '(' ')' 0 c ∧ (c.count ')' = c.count '(' ∨ ')' ∉ n.tail s)

/-- The attributes **return** when, put between their brackets, they close no pair that they have
not opened, and their own pairs are closed or no event could close them. -/
def ListingReturns (s : Char) (n : Node) : Prop :=
  Group.Within '[' ']' 0 (n.listing s) ∧
    ((n.listing s).count ']' = (n.listing s).count '[' ∨ ∀ e ∈ n.events, ']' ∉ e)

instance (s : Char) (n : Node) : Decidable (n.ListingReturns s) := inferInstanceAs
  (Decidable (_ ∧ _))

/-- A node is **well-formed** when it is legal and the texts in its groups are balanced. -/
structure WellFormed (s : Char) (n : Node) : Prop where
  legal : n.Legal s
  content : ∀ c, n.content = some c → Group.IsBalanced '(' ')' c
  listing : Group.IsBalanced '[' ']' (n.listing s)

theorem listing_eq_nil (h : n.attributes = []) : n.listing s = [] := by
  rw [listing, h]
  rfl

theorem length_listing (s d : Char) (n : Node) :
    (n.listing s).length = (n.listing d).length := by
  have hlen : ∀ l : List Text, ([s].intercalate l).length = ([d].intercalate l).length := by
    intro l
    induction l with
    | nil => rfl
    | cons t l ih =>
      cases l with
      | nil => rfl
      | cons u l =>
        rw [List.intercalate_cons_cons, List.intercalate_cons_cons]
        simp only [List.length_append, List.length_singleton, ih]
  exact hlen _

theorem not_mem_eventSource_iff {c : Char} (hat : c ≠ '@') (hsemi : c ≠ ';') (es : List Text) :
    c ∉ eventSource es ↔ ∀ e ∈ es, c ∉ e := by
  rw [eventSource]
  by_cases hes : es = []
  · rw [if_pos hes, hes]
    exact ⟨fun _ e he => absurd he List.not_mem_nil, fun _ => List.not_mem_nil⟩
  · rw [if_neg hes]
    constructor
    · intro h e he hc
      exact h (List.mem_cons_of_mem _ (mem_intercalate_of_mem he hc))
    · intro h hc
      rcases List.mem_cons.mp hc with hc | hc
      · exact hat hc
      · rcases mem_intercalate hc with hc | ⟨e, he, hce⟩
        · exact hsemi (List.mem_singleton.mp hc)
        · exact h e he hce

theorem validClass_of_legal (h : n.Legal s) : ∀ x ∈ n.classes, validClass x = true := by
  intro x hx
  rw [validClass, (h.classes x hx).2, Bool.not_false]

theorem validEvent_of_legal (h : n.Legal s) : ∀ e ∈ n.events, validEvent e = true := by
  intro e he
  obtain ⟨-, hstart, hall⟩ := h.events e he
  have hblank : e.any isBlank = false :=
    List.any_eq_false.mpr fun c hc => by simp [(hall c hc).1]
  rw [validEvent, hstart, hblank]
  rfl

end Node

/-! ### Frames that show a node -/

namespace Frame

open Node

variable {s : Char} {f : Frame} {n : Node}

theorem closingIssues_eq_nil_iff {opener closer : Char} {group : Option Group} :
    closingIssues opener closer group = [] ↔ ∀ g, group = some g → g.closing = .matched := by
  cases group with
  | none => exact ⟨fun _ => nofun, fun _ => rfl⟩
  | some g =>
    obtain ⟨inner, closing⟩ := g
    cases closing with
    | matched => exact ⟨fun _ g hg => by rw [← Option.some.inj hg], fun _ => rfl⟩
    | last => exact ⟨fun h => absurd h (List.cons_ne_nil _ _), fun h => nomatch h _ rfl⟩
    | missing => exact ⟨fun h => absurd h (List.cons_ne_nil _ _), fun h => nomatch h _ rfl⟩

/-- **A frame has no issues** when all its names are valid, its groups are closed by their own pairs
and nothing follows its parts. -/
theorem issues_eq_nil_iff : f.issues [s] = [] ↔
    (∀ x ∈ f.classNames, validClass x = true) ∧
      (∀ g, f.content = some g → g.closing = .matched) ∧
      (∀ g, f.attributes = some g → g.closing = .matched) ∧
      (∀ a ∈ f.listed [s], validAttribute a.name = true) ∧
      (∀ e ∈ f.eventNames, validEvent e = true) ∧ f.trailing = [] := by
  have htrailing : (if f.trailing = [] then [] else [Issue.trailing f.trailing]) = [] ↔
      f.trailing = [] := by
    by_cases h : f.trailing = []
    · simp [h]
    · simp [h]
  simp only [issues, headIssues, attributeIssues, tailIssues, List.append_eq_nil_iff,
    List.map_eq_nil_iff, List.filter_eq_nil_iff, closingIssues_eq_nil_iff, htrailing,
    Bool.not_eq_true', Bool.not_eq_false, and_assoc]

/-- The frame **shows** the node when its parts are those of the node. -/
structure Shows (s : Char) (f : Frame) (n : Node) : Prop where
  tag_eq : f.tag = n.tag
  classNames_eq : f.classNames = n.classes
  id_eq : f.id = n.id
  content_eq : f.content.map Group.inner = n.content
  listed_eq : f.listed [s] = n.attributes
  eventNames_eq : f.eventNames = n.events

/-- **A frame describes the legal node that it shows.** -/
theorem Shows.node_eq (hf : f.Shows s n) (h : n.Legal s) : f.node [s] = n := by
  have hattributes : n.attributes.filter (fun a => validAttribute a.name) = n.attributes :=
    List.filter_eq_self.mpr fun a ha => (h.attributes a ha).validAttribute
  have hclasses : n.classes.filter validClass = n.classes :=
    List.filter_eq_self.mpr (validClass_of_legal h)
  have hevents : n.events.filter validEvent = n.events :=
    List.filter_eq_self.mpr (validEvent_of_legal h)
  rw [Frame.node]
  simp only [hf.tag_eq, hf.classNames_eq, hf.id_eq, hf.content_eq, hf.listed_eq,
    hf.eventNames_eq, hattributes, hclasses, hevents]

/-- **A legal node gives no cause for complaint** when the groups that show it are closed by their
pairs and nothing follows them. -/
theorem Shows.issues_eq_nil (hf : f.Shows s n) (h : n.Legal s)
    (hcontent : ∀ g, f.content = some g → g.closing = .matched)
    (hattributes : ∀ g, f.attributes = some g → g.closing = .matched)
    (htrailing : f.trailing = []) :
    f.issues [s] = [] := by
  refine issues_eq_nil_iff.mpr ⟨?_, hcontent, hattributes, ?_, ?_, htrailing⟩
  · rw [hf.classNames_eq]
    exact validClass_of_legal h
  · rw [hf.listed_eq]
    exact fun a ha => (h.attributes a ha).validAttribute
  · rw [hf.eventNames_eq]
    exact validEvent_of_legal h

end Frame

namespace Node

open Outline.Frame

variable {s : Char} {n : Node}

def frame (s : Char) (n : Node) (content attributes : Closing) : Frame where
  tag := n.tag
  classNames := n.classes
  id := n.id
  content := n.content.map fun c => ⟨c, content⟩
  attributes := if n.attributes = [] then none else some ⟨n.listing s, attributes⟩
  eventNames := n.events
  trailing := []
  tag_ne_nil := n.tag_ne_nil

section Frame

variable {content attributes : Closing}

theorem listed_frame (h : n.Legal s) :
    (n.frame s content attributes).listed [s] = n.attributes := by
  by_cases hne : n.attributes = []
  · rw [listed_none (if_pos hne), hne]
  · have hpieces : ([s].intercalate (n.attributes.map Attribute.source)).splitOn s =
        n.attributes.map Attribute.source := by
      refine List.splitOn_intercalate s ?_ (by simpa using hne)
      exact List.forall_mem_map.mpr fun a ha => (h.attributes a ha).sep_not_mem
    have htrim : (n.attributes.map Attribute.source).map trim =
        n.attributes.map Attribute.source := by
      rw [List.map_map]
      exact List.map_congr_left fun a ha => trim_eq_self_iff.mpr (h.attributes a ha).tight_source
    have hkept : (n.attributes.map Attribute.source).filter (· ≠ []) =
        n.attributes.map Attribute.source := by
      refine List.filter_eq_self.mpr (List.forall_mem_map.mpr fun a ha => ?_)
      exact decide_eq_true (h.attributes a ha).source_ne_nil
    have hback : (n.attributes.map Attribute.source).map ofFragment = n.attributes := by
      rw [List.map_map]
      refine (List.map_congr_left fun a ha => ?_).trans (List.map_id _)
      exact (h.attributes a ha).ofFragment_source
    rw [listed_some (if_neg hne), listing, hpieces, htrim, hkept, hback]

/-- **The frame of a legal node shows it.** -/
theorem shows_frame (h : n.Legal s) : (n.frame s content attributes).Shows s n := by
  refine ⟨rfl, rfl, rfl, ?_, listed_frame h, rfl⟩
  rw [frame]
  cases n.content <;> rfl

theorem node_frame (h : n.Legal s) : (n.frame s content attributes).node [s] = n :=
  (shows_frame h).node_eq h

theorem issues_frame (h : n.Legal s) : (n.frame s .matched .matched).issues [s] = [] := by
  refine (shows_frame h).issues_eq_nil h (fun g hg => ?_) (fun g hg => ?_) rfl
  · obtain ⟨c, -, rfl⟩ := Option.map_eq_some_iff.mp hg
    rfl
  · by_cases hne : n.attributes = []
    · exact absurd ((if_pos hne).symm.trans hg) nofun
    · rw [← Option.some.inj ((if_neg hne).symm.trans hg)]

/-- **The line of a legal node has the frame of the node** when its groups end where they were
written to end. -/
theorem read_source (h : n.Legal s)
    (hcontent : ∀ c, n.content = some c →
      Group.read '(' ')' (c ++ ')' :: n.tail s) = (⟨c, content⟩, n.tail s))
    (hlisting : n.attributes ≠ [] →
      Group.read '[' ']' (n.listing s ++ ']' :: eventSource n.events) =
        (⟨n.listing s, attributes⟩, eventSource n.events)) :
    Frame.read (n.source [s]) = some (n.frame s content attributes) := by
  have htail : trimLeft (n.tail s) = n.tail s :=
    trimLeft_of_startsIn (startsIn_tail.mono (by simp))
  have hevents : trimLeft (eventSource n.events) = eventSource n.events :=
    trimLeft_of_startsIn ((startsIn_eventSource n.events).mono (by simp))
  refine (read_source_eq_some_iff h).mpr
    ⟨rfl, rfl, rfl, n.tail s, eventSource n.events, [], ?_, ?_, ?_, rfl⟩
  · rw [frame]
    cases hc : n.content with
    | none =>
      refine takeGroup_of_head fun hhead => ?_
      have := startsIn_tail '(' hhead
      revert this
      decide
    | some c =>
      rw [contentSource, List.cons_append, List.cons_append, List.append_assoc,
        List.singleton_append, takeGroup_cons, hcontent c hc]
      rfl
  · rw [htail, frame]
    by_cases hne : n.attributes = []
    · have hnone : n.tail s = eventSource n.events := by
        rw [tail, attributeSource, if_pos hne, List.nil_append]
      rw [hnone, if_pos hne]
      refine takeGroup_of_head fun hhead => ?_
      have := startsIn_eventSource n.events '[' hhead
      revert this
      decide
    · rw [if_neg hne, tail, attributeSource_eq hne, List.cons_append, List.append_assoc,
        List.singleton_append, takeGroup_cons, hlisting hne]
  · rw [hevents]
    exact takeEvents_eventSource h.events

end Frame

/-- **A node that is read back has groups that end where they were written to end**, whatever was
written between its attributes: what comes back of the attributes and of the events is no longer
than what was read for them. -/
theorem groups_of_read_source {d : Char} (h : n.Legal s) {f : Frame}
    (hread : Frame.read (n.source [d]) = some f) (hnode : f.node [s] = n) :
    (∀ c, n.content = some c → ∃ closing, f.content = some ⟨c, closing⟩ ∧
      Group.read '(' ')' (c ++ ')' :: n.tail d) = (⟨c, closing⟩, n.tail d)) ∧
    (n.attributes ≠ [] → ∃ closing, f.attributes = some ⟨n.listing d, closing⟩ ∧
      Group.read '[' ']' (n.listing d ++ ']' :: eventSource n.events) =
        (⟨n.listing d, closing⟩, eventSource n.events)) := by
  obtain ⟨-, -, -, r₃, r₄, r₅, h₃, h₄, h₅, -⟩ := (read_source_eq_some_iff h).mp hread
  have hinner : f.content.map Group.inner = n.content := congrArg Node.content hnode
  have hcontent : r₃ = n.tail d ∧ ∀ c, n.content = some c → ∃ closing,
      f.content = some ⟨c, closing⟩ ∧
      Group.read '(' ')' (c ++ ')' :: n.tail d) = (⟨c, closing⟩, n.tail d) := by
    cases hc : n.content with
    | none =>
      have hhead : (n.tail d).head? ≠ some '(' := fun hd => absurd (startsIn_tail '(' hd) (by simp)
      rw [hc, contentSource, List.nil_append, takeGroup_of_head hhead] at h₃
      exact ⟨(Prod.mk.inj h₃).2.symm, fun c hc => absurd hc (Option.some_ne_none c).symm⟩
    | some c =>
      rw [hc, contentSource, List.cons_append, List.cons_append, List.append_assoc,
        List.singleton_append, takeGroup_cons] at h₃
      obtain ⟨hgroup, hrest⟩ := Prod.mk.inj h₃
      rw [← hgroup, hc] at hinner
      obtain ⟨closing, hgiven⟩ := Group.read_append_of_inner (by decide) (Option.some.inj hinner)
      rw [hgiven] at hgroup hrest
      refine ⟨hrest.symm, fun c' hc' => ?_⟩
      obtain rfl := Option.some.inj hc'
      exact ⟨closing, hgroup.symm, hgiven⟩
  refine ⟨hcontent.2, fun hne => ?_⟩
  have htail : n.tail d = '[' :: (n.listing d ++ ']' :: eventSource n.events) := by
    rw [tail, attributeSource_eq hne, List.cons_append, List.append_assoc, List.singleton_append]
  rw [hcontent.1, trimLeft_of_startsIn (startsIn_tail.mono (by simp)), htail, takeGroup_cons] at h₄
  obtain ⟨hgroup, hrest⟩ := Prod.mk.inj h₄
  have hlisting := (listing_sublist (s := s) hgroup.symm).length_le
  rw [hnode, length_listing s d] at hlisting
  have hevents : (eventSource n.events).length ≤ r₄.length := by
    have hle := length_eventSource_le (trimLeft r₄)
    have hkept : f.eventNames.filter validEvent = n.events := congrArg Node.events hnode
    rw [h₅, hkept] at hle
    exact hle.trans (trimLeft_sublist r₄).length_le
  rw [← hrest] at hevents
  obtain ⟨closing, hgiven⟩ := Group.read_append_of_length_le (by decide) hlisting hevents
  exact ⟨closing, by rw [← hgroup, hgiven], hgiven⟩

theorem listingReturns_of_nil (h : n.attributes = []) : n.ListingReturns s := by
  rw [ListingReturns, listing_eq_nil h]
  exact ⟨Group.within_nil, .inl rfl⟩

theorem listingReturns_iff : n.ListingReturns s ↔ ∃ closing,
    Group.read '[' ']' (n.listing s ++ ']' :: eventSource n.events) =
      (⟨n.listing s, closing⟩, eventSource n.events) := by
  rw [Group.read_append_iff (by decide), not_mem_eventSource_iff (by decide) (by decide)]
  rfl

theorem contentReturns_iff : n.ContentReturns s ↔ ∀ c, n.content = some c → ∃ closing,
    Group.read '(' ')' (c ++ ')' :: n.tail s) = (⟨c, closing⟩, n.tail s) := by
  refine forall₂_congr fun c _ => ?_
  rw [Group.read_append_iff (by decide)]

/-- **The nodes that are read back from their own lines**: the legal nodes whose content and
whose attributes return. -/
theorem read_source_iff : (read [s] (n.source [s])).result = .ok n ↔
    n.Legal s ∧ n.ContentReturns s ∧ n.ListingReturns s := by
  constructor
  · intro h
    have hlegal := legal_of_read h
    obtain ⟨f, hread, hnode⟩ := read_result_eq_ok_iff.mp h
    obtain ⟨hcontent, hlisting⟩ := groups_of_read_source hlegal hread hnode
    refine ⟨hlegal, contentReturns_iff.mpr fun c hc => ?_, ?_⟩
    · obtain ⟨closing, -, hgiven⟩ := hcontent c hc
      exact ⟨closing, hgiven⟩
    · by_cases hne : n.attributes = []
      · exact listingReturns_of_nil hne
      · obtain ⟨closing, -, hgiven⟩ := hlisting hne
        exact listingReturns_iff.mpr ⟨closing, hgiven⟩
  · rintro ⟨hlegal, hcontent, hlisting⟩
    obtain ⟨attributes, hattributes⟩ := listingReturns_iff.mp hlisting
    have hclosing : ∃ closing, ∀ c, n.content = some c →
        Group.read '(' ')' (c ++ ')' :: n.tail s) = (⟨c, closing⟩, n.tail s) := by
      cases hc : n.content with
      | none => exact ⟨.matched, nofun⟩
      | some c =>
        obtain ⟨closing, hgiven⟩ := contentReturns_iff.mp hcontent c hc
        exact ⟨closing, fun d hd => Option.some.inj hd ▸ hgiven⟩
    obtain ⟨content, hcontent⟩ := hclosing
    have hread := read_source hlegal hcontent fun _ => hattributes
    exact read_result_eq_ok_iff.mpr ⟨_, hread, node_frame hlegal⟩

/-- **The nodes that are read back without a complaint**: the well-formed ones. -/
theorem read_source_quiet_iff : read [s] (n.source [s]) = ⟨[], .ok n⟩ ↔ n.WellFormed s := by
  constructor
  · intro h
    have hlegal : n.Legal s := legal_of_read (congrArg Reading.result h)
    obtain ⟨f, hread, hissues, hnode⟩ := read_eq_quiet_iff.mp h
    obtain ⟨hcontent, hlisting⟩ := groups_of_read_source hlegal hread hnode
    obtain ⟨-, hround, hsquare, -⟩ := issues_eq_nil_iff.mp hissues
    refine ⟨hlegal, fun c hc => ?_, ?_⟩
    · obtain ⟨closing, hgroup, hgiven⟩ := hcontent c hc
      obtain rfl : closing = .matched := hround _ hgroup
      exact (Group.read_matched_iff (by decide)).mp hgiven
    · by_cases hne : n.attributes = []
      · rw [listing_eq_nil hne]
        exact ⟨Group.within_nil, rfl⟩
      · obtain ⟨closing, hgroup, hgiven⟩ := hlisting hne
        obtain rfl : closing = .matched := hsquare _ hgroup
        exact (Group.read_matched_iff (by decide)).mp hgiven
  · rintro ⟨hlegal, hcontent, hlisting⟩
    have hread := read_source hlegal
      (fun c hc => Group.read_matched (by decide) (hcontent c hc))
      fun _ => Group.read_matched (by decide) hlisting
    exact read_eq_quiet_iff.mpr ⟨_, hread, issues_frame hlegal, node_frame hlegal⟩

/-! ### Nodes that have been read -/

/-- **A character that does not follow the content** does not occur behind it either when the node
is written, unless it marks a part there. -/
theorem not_mem_tail {f : Frame} {r₃ r₄ r₅ : Text} {c : Char} (hc : c ∉ ['[', ']', '@', ';'])
    (h₄ : takeGroup '[' ']' (trimLeft r₃) = (f.attributes, r₄))
    (h₅ : takeEvents (trimLeft r₄) = (f.eventNames, r₅)) (hr : c ∉ r₃) :
    c ∉ (f.node [s]).tail s := by
  simp only [List.mem_cons, List.not_mem_nil, or_false, not_or] at hc
  obtain ⟨hopen, hclose, hat, hsemi⟩ := hc
  have hparts : (∀ g, f.attributes = some g → g.inner ⊆ r₃) ∧ r₄ ⊆ r₃ := by
    have htrim : trimLeft r₃ ⊆ r₃ := (trimLeft_sublist r₃).subset
    obtain ⟨hinner, hafter⟩ := takeGroup_parts (by decide : '[' ≠ ']') (trimLeft r₃)
    rw [h₄] at hinner hafter
    exact ⟨fun g hg => List.Subset.trans (hinner g hg).subset htrim,
      List.Subset.trans hafter.subset htrim⟩
  rw [tail, List.mem_append, not_or]
  constructor
  · by_cases hne : (f.node [s]).attributes = []
    · rw [attributeSource, if_pos hne]
      exact List.not_mem_nil
    · rw [attributeSource_eq hne]
      cases hg : f.attributes with
      | none => exact absurd (by rw [node, listed_none hg]; rfl) hne
      | some g =>
        have hlisting : c ∉ (f.node [s]).listing s := fun hd =>
          hr (hparts.1 g hg ((listing_sublist hg).subset hd))
        simp [hopen, hclose, hlisting]
  · rw [not_mem_eventSource_iff hat hsemi]
    intro e he hce
    have hmem : e ∈ (takeEvents (trimLeft r₄)).1 := by
      rw [h₅]
      exact (List.mem_filter.mp he).1
    have hcr : c ∈ trimLeft r₄ := ((mem_of_mem_takeEvents hmem).2 c hce).1
    exact hr (hparts.2 ((trimLeft_sublist r₄).subset hcr))

/-- **The content of a node that has been read always returns.** -/
theorem contentReturns_of_read {line : Text} (h : (read [s] line).result = .ok n) :
    n.ContentReturns s := by
  obtain ⟨f, hread, rfl⟩ := read_result_eq_ok_iff.mp h
  obtain ⟨-, r₁, r₂, r₃, r₄, r₅, -, -, h₃, h₄, h₅, -⟩ := read_eq_some_iff.mp hread
  have hbehind : ')' ∉ r₃ → ')' ∉ (f.node [s]).tail s := not_mem_tail (by decide) h₄ h₅
  intro c hc
  have hcontent : f.content.map Group.inner = some c := hc
  obtain ⟨g, hg, rfl⟩ := Option.map_eq_some_iff.mp hcontent
  rw [hg] at h₃
  obtain ⟨hwithin, hcount⟩ := takeGroup_returns (by decide) h₃
  exact ⟨hwithin, hcount.imp_right hbehind⟩

/-- **The lines whose nodes are read back**: whatever a line describes, under whatever separator,
is read back exactly when its attributes return. -/
theorem read_source_of_read_iff {line : Text} (h : (read [s] line).result = .ok n) :
    (read [s] (n.source [s])).result = .ok n ↔ n.ListingReturns s := by
  rw [read_source_iff]
  constructor
  · rintro ⟨-, -, hlisting⟩
    exact hlisting
  · intro hlisting
    exact ⟨legal_of_read h, contentReturns_of_read h, hlisting⟩

/-- A fragment that closes the pair it opens is read back. -/
theorem read_source_of_nested_brackets : ∃ n,
    (read [';'] "a(x[)[b[1];2;c = d]@e".toList).result = .ok n ∧
      (read [';'] (n.source [';'])).result = .ok n := by
  let n : Node := ⟨['a'], [], none, some ['x', '['],
    [⟨['b', '[', '1', ']'], none⟩, ⟨['c'], some ['d']⟩], [['e']], List.cons_ne_nil _ _⟩
  have hread : (read [';'] "a(x[)[b[1];2;c = d]@e".toList).result = .ok n := rfl
  exact ⟨n, hread, (read_source_of_read_iff hread).mpr (by decide)⟩

/-- **Not every node is read back**: here a fragment with a digit in front is dropped, and with it
the bracket that keeps the group open. -/
theorem not_read_source_of_dropped_bracket : ∃ n,
    (read [';'] "a[1[;b];c]".toList).result = .ok n ∧
      ¬(read [';'] (n.source [';'])).result = .ok n := by
  let n : Node := ⟨['a'], [], none, none, [⟨['b', ']'], none⟩, ⟨['c'], none⟩], [],
    List.cons_ne_nil _ _⟩
  have hread : (read [';'] "a[1[;b];c]".toList).result = .ok n := rfl
  refine ⟨n, hread, fun h => ?_⟩
  have hlisting := (read_source_iff.mp h).2.2
  revert hlisting
  decide

end Node

end Outline
