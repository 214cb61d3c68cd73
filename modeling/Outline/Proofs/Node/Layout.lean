import Outline.Settings
import Outline.Proofs.Node.Fragments

/-!
# The layout of a line

A node can be written in many ways: white space may stand between its parts, around its attributes
and around its events, fragments may be blank, and events may share an at sign or have their own.
Such a way is a **layout** of the node.  Every part is cut from what the part before it has left,
and what is left differs from what was written behind that part by white space only.

* `Frame.exists_take`: one part is cut from a text.
* `Frame.listed_of_isLaid`, `Frame.takeEvents_of_areLaid`: lists whose fragments may be blank.
* `Node.read_layout`: every layout of a node is read as the node.
-/

namespace Outline

open Text

/-! ### Fragments -/

def Padded (x t : Text) : Prop := ∃ v w, isVoid v = true ∧ isVoid w = true ∧ t = v ++ x ++ w

/-- The texts are written for the members of a list, in this order, with any number of blank texts
between them. -/
inductive Spread {α : Type} (R : α → Text → Prop) : List α → List Text → Prop
  | nil : Spread R [] []
  | blank {xs : List α} {ts : List Text} {w : Text} (hw : isVoid w = true) (h : Spread R xs ts) :
    Spread R xs (w :: ts)
  | cons {x : α} {xs : List α} {t : Text} {ts : List Text} (ht : R x t) (h : Spread R xs ts) :
    Spread R (x :: xs) (t :: ts)

namespace Attribute

/-- An attribute as a fragment, with white space around it and around its equals sign. -/
inductive IsLaid : Attribute → Text → Prop
  | bare {name t : Text} (h : Padded name t) : IsLaid ⟨name, none⟩ t
  | valued {name v l r : Text} (hl : Padded name l) (hr : Padded v r) :
    IsLaid ⟨name, some v⟩ (l ++ '=' :: r)

/-- Attributes as a group.  Without attributes there need not be one. -/
inductive AreLaid (s : Char) : List Attribute → Text → Prop
  | none : AreLaid s [] []
  | group {as : List Attribute} {ts : List Text} (hne : ts ≠ []) (h : Spread IsLaid as ts) :
    AreLaid s as ('[' :: [s].intercalate ts ++ [']'])

end Attribute

def EventsLaid (es : List Text) (t : Text) : Prop := ∃ groups : List (List Text),
  (∀ g ∈ groups, g ≠ []) ∧ Spread Padded es groups.flatten ∧
    t = groups.flatMap fun g => '@' :: [';'].intercalate g

namespace Padded

variable {x t : Text} {c : Char}

theorem trim_eq (h : Padded x t) : trim t = trim x := by
  obtain ⟨v, w, hv, hw, rfl⟩ := h
  rw [trim_append_right hw, trim_append_left hv]

theorem isBlank_or_mem (h : Padded x t) (hc : c ∈ t) : isBlank c = true ∨ c ∈ x := by
  obtain ⟨v, w, hv, hw, rfl⟩ := h
  rcases List.mem_append.mp hc with hc | hc
  · rcases List.mem_append.mp hc with hc | hc
    · exact .inl (List.all_eq_true.mp hv c hc)
    · exact .inr hc
  · exact .inl (List.all_eq_true.mp hw c hc)

theorem not_mem (h : Padded x t) (hx : c ∉ x) (hc : isBlank c = false) : c ∉ t := by
  intro hmem
  rcases h.isBlank_or_mem hmem with hblank | hcx
  · exact Bool.false_ne_true (hc.symm.trans hblank)
  · exact hx hcx

theorem filter_eq {p : Char → Bool} (hp : ∀ c, isBlank c = true → p c = false) (h : Padded x t) :
    t.filter p = x.filter p := by
  rw [← filter_trim hp, h.trim_eq, filter_trim hp]

theorem of_isVoid {w : Text} (hw : isVoid w = true) : Padded [] w :=
  ⟨w, [], hw, rfl, by simp⟩

end Padded

namespace Spread

variable {α β : Type} {R : α → Text → Prop} {xs : List α} {ts : List Text}

theorem forall_mem {Q : Text → Prop} (hblank : ∀ w, isVoid w = true → Q w)
    (hR : ∀ x ∈ xs, ∀ t, R x t → Q t) (h : Spread R xs ts) : ∀ t ∈ ts, Q t := by
  induction h with
  | nil => exact nofun
  | blank hw _ ih => exact List.forall_mem_cons.mpr ⟨hblank _ hw, ih hR⟩
  | cons ht _ ih =>
    obtain ⟨hx, hxs⟩ := List.forall_mem_cons.mp hR
    exact List.forall_mem_cons.mpr ⟨hx _ ht, ih hxs⟩

/-- **What is left of fragments** when they are trimmed and those that are blank are left out. -/
theorem map_filter_trim {f : Text → α} (hR : ∀ x ∈ xs, ∀ t, R x t → trim t ≠ [] ∧ f (trim t) = x)
    (h : Spread R xs ts) : ((ts.map trim).filter (· ≠ [])).map f = xs := by
  induction h with
  | nil => rfl
  | blank hw _ ih =>
    rw [List.map_cons, List.filter_cons_of_neg (by simp [trim_eq_nil_iff.mpr hw])]
    exact ih hR
  | cons ht _ ih =>
    obtain ⟨hx, hxs⟩ := List.forall_mem_cons.mp hR
    obtain ⟨hne, hf⟩ := hx _ ht
    rw [List.map_cons, List.filter_cons_of_pos (by simp [hne]), List.map_cons, hf, ih hxs]

theorem flatMap_eq {f : Text → List β} {g : α → List β} (hblank : ∀ w, isVoid w = true → f w = [])
    (hR : ∀ x t, R x t → f t = g x) (h : Spread R xs ts) : ts.flatMap f = xs.flatMap g := by
  induction h with
  | nil => rfl
  | blank hw _ ih => rw [List.flatMap_cons, hblank _ hw, ih, List.nil_append]
  | cons ht _ ih => rw [List.flatMap_cons, List.flatMap_cons, hR _ _ ht, ih]

end Spread

/-! ### Attributes -/

namespace Attribute

variable {s : Char} {a : Attribute} {t : Text}

/-- What an attribute says, without its equals sign. -/
def letters (a : Attribute) : Text := a.name ++ a.value.getD []

/-- **A legal attribute is described by every fragment that is laid out for it.** -/
theorem IsLaid.ofFragment_trim (h : a.IsLaid t) (ha : a.Legal s) :
    trim t ≠ [] ∧ Frame.ofFragment (trim t) = a := by
  cases h with
  | @bare name t hpad =>
    rw [hpad.trim_eq, trim_eq_self_iff.mpr ha.name_tight]
    exact ⟨ha.name_ne_nil, ha.ofFragment_source⟩
  | @valued name v l r hl hr =>
    have hequals : '=' ∉ trimLeft l := fun h =>
      hl.not_mem ha.equals_not_mem (by decide) ((trimLeft_sublist l).subset h)
    have hleft : trim (trimLeft l) = name := by
      rw [trim_trimLeft, hl.trim_eq, trim_eq_self_iff.mpr ha.name_tight]
    have hright : trim (trimRight r) = v := by
      rw [trim_trimRight, hr.trim_eq, trim_eq_self_iff.mpr (ha.value_tight v rfl)]
    rw [trim_append_cons (by decide), Frame.ofFragment, cut_eq_some_iff.mpr ⟨rfl, hequals⟩]
    refine ⟨List.append_ne_nil_of_right_ne_nil _ (List.cons_ne_nil _ _), ?_⟩
    simp only [hleft, hright]

theorem IsLaid.not_mem (h : a.IsLaid t) (hs : isBlank s = false) (ha : a.Legal s) : s ∉ t := by
  have hsource := ha.sep_not_mem
  cases h with
  | bare hpad => exact hpad.not_mem hsource hs
  | valued hl hr =>
    simp only [source, List.mem_append, List.mem_cons, not_or] at hsource ⊢
    exact ⟨hl.not_mem hsource.1 hs, hsource.2.1, hr.not_mem hsource.2.2 hs⟩

theorem IsLaid.marks_eq (h : a.IsLaid t) :
    Group.marks '[' ']' t = Group.marks '[' ']' a.letters := by
  have hp : ∀ c, isBlank c = true → (c == '[' || c == ']') = false := fun _ =>
    Frame.not_mark_of_isBlank
  cases h with
  | bare hpad =>
    rw [Group.marks, hpad.filter_eq hp, letters, Option.getD_none, List.append_nil]
    rfl
  | valued hl hr =>
    rw [Group.marks, List.filter_append, List.filter_cons_of_neg (by decide), hl.filter_eq hp,
      hr.filter_eq hp, ← List.filter_append]
    rfl

end Attribute

namespace Frame

variable {s : Char} {as : List Attribute} {ts : List Text}

theorem isBalanced_of_isLaid (hopen : s ≠ '[') (hclose : s ≠ ']')
    (h : Spread Attribute.IsLaid as ts)
    (hbalanced : Group.IsBalanced '[' ']' (as.flatMap Attribute.letters)) :
    Group.IsBalanced '[' ']' ([s].intercalate ts) := by
  have hvoid : ∀ w, isVoid w = true → Group.marks '[' ']' w = [] := fun w hw =>
    (Padded.of_isVoid hw).filter_eq fun _ => not_mark_of_isBlank
  have hmarks : ∀ (a : Attribute) t, a.IsLaid t →
      Group.marks '[' ']' t = Group.marks '[' ']' a.letters := fun _ _ ht => ht.marks_eq
  refine Group.isBalanced_of_marks_eq ?_ hbalanced
  rw [marks_intercalate hopen hclose, h.flatMap_eq hvoid hmarks, Group.marks, List.filter_flatMap]
  rfl

/-- **The attributes of a group that is laid out** are read from its fragments. -/
theorem listed_of_isLaid (hs : isBlank s = false) (hne : ts ≠ [])
    (h : Spread Attribute.IsLaid as ts) (has : ∀ a ∈ as, a.Legal s) :
    (((([s].intercalate ts).splitOn s).map trim).filter (· ≠ [])).map ofFragment = as := by
  have hseps : ∀ t ∈ ts, s ∉ t := by
    refine h.forall_mem (fun w hw => ?_) fun a ha t ht => ht.not_mem hs (has a ha)
    exact (Padded.of_isVoid hw).not_mem List.not_mem_nil hs
  rw [List.splitOn_intercalate s hseps hne]
  exact h.map_filter_trim fun a ha t ht => ht.ofFragment_trim (has a ha)

/-! ### Events -/

theorem splitOnP_groups {p : Char → Bool} (hat : p '@' = true) (hsemi : p ';' = true)
    (g : List Text) (gs : List (List Text)) (hne : ∀ k ∈ g :: gs, k ≠ [])
    (h : ∀ t ∈ (g :: gs).flatten, ∀ c ∈ t, p c = false) :
    ([';'].intercalate g ++ gs.flatMap fun k => '@' :: [';'].intercalate k).splitOnP p =
      (g :: gs).flatten := by
  induction gs generalizing g with
  | nil =>
    rw [List.flatMap_nil, List.append_nil, List.flatten_cons, List.flatten_nil, List.append_nil]
    refine splitOnP_intercalate hsemi (fun t ht => h t ?_) (hne g List.mem_cons_self)
    simp [ht]
  | cons k gs ih =>
    have hg : ∀ t ∈ g, ∀ c ∈ t, p c = false := fun t ht => h t (by simp [ht])
    have hrest : ∀ t ∈ (k :: gs).flatten, ∀ c ∈ t, p c = false := fun t ht =>
      h t (List.mem_append_right g ht)
    rw [List.flatMap_cons, List.cons_append, List.splitOnP_append_cons _ _ hat,
      splitOnP_intercalate hsemi hg (hne g List.mem_cons_self),
      ih k (fun x hx => hne x (List.mem_cons_of_mem g hx)) hrest, ← List.flatten_cons]

/-- **Events that are laid out are taken back**, with white space behind them. -/
theorem takeEvents_of_areLaid {es : List Text} {t : Text} (hes : ∀ e ∈ es, IsEvent e)
    (h : EventsLaid es t) : takeEvents (trim t) = (es, []) := by
  obtain ⟨groups, hne, hspread, rfl⟩ := h
  cases groups with
  | nil => cases hspread; rfl
  | cons g gs =>
    have hblank : ∀ c, isBlank c = true → (c == '@' || c == ';') = false := fun _ =>
      beq_or_beq_of_isBlank (by decide) (by decide)
    have hseps : ∀ t ∈ (g :: gs).flatten, ∀ c ∈ t, (c == '@' || c == ';') = false := by
      refine hspread.forall_mem (fun w hw c hc => hblank c (List.all_eq_true.mp hw c hc)) ?_
      intro e he t ht c hc
      rcases ht.isBlank_or_mem hc with hb | hce
      · exact hblank c hb
      · simpa using ((hes e he).2.2 c hce).2
    have hkept : (((g :: gs).flatten.map trim).filter (· ≠ [])).map (fun e => e) = es := by
      refine hspread.map_filter_trim fun e he t ht => ?_
      have htight : Tight e := tight_of_forall fun c hc => ((hes e he).2.2 c hc).1
      rw [ht.trim_eq, trim_eq_self_iff.mpr htight]
      exact ⟨(hes e he).1, rfl⟩
    rw [List.map_id'] at hkept
    rw [List.flatMap_cons, List.cons_append, trim_cons (by decide), takeEvents,
      map_trim_splitOnP_trimRight hblank, splitOnP_groups (by decide) (by decide) g gs hne hseps,
      hkept]

theorem startsIn_trim_events {es : List Text} {t : Text} (h : EventsLaid es t) :
    StartsIn ['@'] (trim t) := by
  obtain ⟨groups, -, -, rfl⟩ := h
  cases groups with
  | nil => exact .nil
  | cons g gs =>
    rw [List.flatMap_cons, List.cons_append, trim_cons (by decide)]
    exact .cons List.mem_cons_self

/-! ### Taking one part after the other -/

variable {β : Type} {w x y : Text} {cs : List Char}

/-- The text is empty, or starts with white space or with one of the characters. -/
def Stops (cs : List Char) (t : Text) : Prop := ∀ c ∈ t.head?, isBlank c = true ∨ c ∈ cs

theorem Stops.apart (h : Stops cs y) (hcs : cs ⊆ ['.', '#', '(', '[', '@']) :
    ∀ c ∈ y.head?, isWord c = false ∧ isName c = false := by
  intro c hc
  rcases h c hc with hblank | hmem
  · refine ⟨isWord_eq_false_of_isBlank hblank, Bool.eq_false_iff.mpr fun hname => ?_⟩
    rw [isBlank_eq_false_of_isName hname] at hblank
    exact Bool.false_ne_true hblank
  · exact (Node.marks_apart c (hcs hmem)).2

theorem Stops.ne {d : Char} (h : Stops cs y) (hd : isBlank d = false) (hmem : d ∉ cs) :
    ∀ c ∈ y.head?, c ≠ d := by
  rintro c hc rfl
  rcases h c hc with hblank | hcs
  · exact Bool.false_ne_true (hd.symm.trans hblank)
  · exact hmem hcs

/-- **One part is cut from a text.**  Whatever white space stands around the text, what is left
counts for what stands behind the part. -/
theorem exists_take (take : Text → β × Text) {b : β} (hw : isVoid w = true) (hx : Tight x)
    (hy : StartsIn cs (trim y)) (htake : ∀ u, Stops cs u → take (x ++ u) = (b, u)) :
    ∃ r, take (trim (w ++ (x ++ y))) = (b, r) ∧ trimLeft r = trim y := by
  rw [trim_append_left hw]
  by_cases hne : x = []
  · subst hne
    exact ⟨trim y, htake _ fun c hc => .inr (hy c hc), trimLeft_trim y⟩
  · rw [trim_append_of_tight hx hne]
    exact ⟨trimRight y, htake _ fun c hc => (head?_trimRight hc).imp_right (hy c),
      trimLeft_trimRight y⟩

theorem startsIn_trim (hw : isVoid w = true) (hx : Tight x) (hstart : StartsIn cs x)
    (hy : StartsIn cs (trim y)) : StartsIn cs (trim (w ++ (x ++ y))) := by
  rw [trim_append_left hw]
  by_cases hne : x = []
  · subst hne
    exact hy
  · rw [trim_append_of_tight hx hne]
    cases x with
    | nil => exact absurd rfl hne
    | cons c x => exact .cons (hstart c rfl)

theorem tight_of_startsIn (h : StartsIn ['.', '#', '(', '[', '@'] x) (hend : EndsVisible x) :
    Tight x :=
  ⟨fun c hc => (Node.marks_apart c (h c hc)).1, hend⟩

theorem takeGroup_contentSource {content : Option Text} {u : Text}
    (hcontent : ∀ c, content = some c → Group.IsBalanced '(' ')' c) (hu : u.head? ≠ some '(') :
    takeGroup '(' ')' (Node.contentSource content ++ u) =
      (content.map fun c => ⟨c, .matched⟩, u) := by
  cases content with
  | none => exact takeGroup_of_head hu
  | some c =>
    rw [Node.contentSource, List.cons_append, List.cons_append, List.append_assoc,
      List.singleton_append, takeGroup_cons, Group.read_matched (by decide) (hcontent c rfl)]
    rfl

theorem endsVisible_of_areLaid {t : Text} (h : Attribute.AreLaid s as t) : EndsVisible t := by
  cases h with
  | none => exact .nil
  | group => exact endsVisible_concat.mpr (by decide)

theorem startsIn_of_areLaid {t : Text} (h : Attribute.AreLaid s as t) : StartsIn ['['] t := by
  cases h with
  | none => exact .nil
  | group => exact .cons List.mem_cons_self

theorem takeGroup_of_areLaid {t : Text} (hopen : s ≠ '[') (hclose : s ≠ ']')
    (hs : isBlank s = false) (h : Attribute.AreLaid s as t) (has : ∀ a ∈ as, a.Legal s)
    (hbalanced : Group.IsBalanced '[' ']' (as.flatMap Attribute.letters)) :
    ∃ g : Option Group, (∀ u, u.head? ≠ some '[' → takeGroup '[' ']' (t ++ u) = (g, u)) ∧
      (∀ k, g = some k → k.closing = .matched) ∧
      ∀ f : Frame, f.attributes = g → f.listed [s] = as := by
  cases h with
  | none => exact ⟨none, fun u hu => takeGroup_of_head hu, nofun, fun f hf => listed_none hf⟩
  | @group as ts hne hspread =>
    have hgroup := isBalanced_of_isLaid hopen hclose hspread hbalanced
    refine ⟨some ⟨[s].intercalate ts, .matched⟩, fun u hu => ?_, fun k hk => ?_, fun f hf => ?_⟩
    · rw [List.cons_append, List.cons_append, List.append_assoc, List.singleton_append,
        takeGroup_cons, Group.read_matched (by decide) hgroup]
    · rw [← Option.some.inj hk]
    · rw [listed_some hf]
      exact listed_of_isLaid hs hne hspread has

end Frame

/-! ### Lines -/

namespace Node

open Outline.Frame

/-- A **layout** of a node: the white space between its parts, and the texts of its attributes and
of its events. -/
structure Layout (s : Char) (n : Node) where
  before : Text
  afterTag : Text
  afterClasses : Text
  afterId : Text
  afterContent : Text
  attributes : Text
  afterAttributes : Text
  events : Text
  after : Text
  isVoid_of_mem : ∀ w ∈ [before, afterTag, afterClasses, afterId, afterContent, afterAttributes,
    after], isVoid w = true
  attributes_laid : Attribute.AreLaid s n.attributes attributes
  events_laid : EventsLaid n.events events

namespace Layout

variable {s : Char} {n : Node}

def text (l : n.Layout s) : Text :=
  l.before ++ n.tag ++ l.afterTag ++ classSource n.classes ++ l.afterClasses ++ idSource n.id ++
    l.afterId ++ contentSource n.content ++ l.afterContent ++ l.attributes ++ l.afterAttributes ++
    l.events ++ l.after

/-! What stands behind each part. -/

def behindAttributes (l : n.Layout s) : Text := l.afterAttributes ++ (l.events ++ l.after)

def behindContent (l : n.Layout s) : Text := l.afterContent ++ (l.attributes ++ l.behindAttributes)

def behindId (l : n.Layout s) : Text := l.afterId ++ (contentSource n.content ++ l.behindContent)

def behindClasses (l : n.Layout s) : Text := l.afterClasses ++ (idSource n.id ++ l.behindId)

def behindTag (l : n.Layout s) : Text := l.afterTag ++ (classSource n.classes ++ l.behindClasses)

variable (l : n.Layout s)

theorem text_eq : l.text = l.before ++ (n.tag ++ l.behindTag) := by
  simp only [text, behindTag, behindClasses, behindId, behindContent, behindAttributes,
    List.append_assoc]

theorem trim_behindAttributes : trim l.behindAttributes = trim l.events := by
  rw [behindAttributes, trim_append_left (l.isVoid_of_mem _ (by simp)),
    trim_append_right (l.isVoid_of_mem _ (by simp))]

theorem startsIn_behindAttributes : StartsIn ['@'] (trim l.behindAttributes) := by
  rw [trim_behindAttributes]
  exact startsIn_trim_events l.events_laid

theorem tight_attributes : Tight l.attributes :=
  tight_of_startsIn ((startsIn_of_areLaid l.attributes_laid).mono (by simp))
    (endsVisible_of_areLaid l.attributes_laid)

theorem startsIn_behindContent : StartsIn ['[', '@'] (trim l.behindContent) :=
  startsIn_trim (l.isVoid_of_mem _ (by simp)) l.tight_attributes
    ((startsIn_of_areLaid l.attributes_laid).mono (by simp))
    (l.startsIn_behindAttributes.mono (by simp))

theorem tight_contentSource (content : Option Text) : Tight (contentSource content) :=
  tight_of_startsIn ((startsIn_contentSource content).mono (by simp))
    (endsVisible_contentSource content)

theorem startsIn_behindId : StartsIn ['(', '[', '@'] (trim l.behindId) :=
  startsIn_trim (l.isVoid_of_mem _ (by simp)) (tight_contentSource n.content)
    ((startsIn_contentSource n.content).mono (by simp)) (l.startsIn_behindContent.mono (by simp))

theorem tight_idSource (h : n.Legal s) : Tight (idSource n.id) :=
  tight_of_startsIn ((startsIn_idSource n.id).mono (by simp)) (endsVisible_idSource h.id)

theorem startsIn_behindClasses (h : n.Legal s) :
    StartsIn ['#', '(', '[', '@'] (trim l.behindClasses) :=
  startsIn_trim (l.isVoid_of_mem _ (by simp)) (tight_idSource h)
    ((startsIn_idSource n.id).mono (by simp)) (l.startsIn_behindId.mono (by simp))

theorem tight_classSource (h : n.Legal s) : Tight (classSource n.classes) :=
  tight_of_startsIn ((startsIn_classSource n.classes).mono (by simp))
    (endsVisible_classSource fun x hx => (h.classes x hx).1)

theorem startsIn_behindTag (h : n.Legal s) :
    StartsIn ['.', '#', '(', '[', '@'] (trim l.behindTag) :=
  startsIn_trim (l.isVoid_of_mem _ (by simp)) (tight_classSource h)
    ((startsIn_classSource n.classes).mono (by simp)) ((l.startsIn_behindClasses h).mono (by simp))

/-- **The line of a layout has a frame that shows the node**, in which both groups are closed by
their pairs and nothing follows the events. -/
theorem exists_frame (hopen : s ≠ '[') (hclose : s ≠ ']') (hs : isBlank s = false) (h : n.Legal s)
    (hcontent : ∀ c, n.content = some c → Group.IsBalanced '(' ')' c)
    (hattributes : Group.IsBalanced '[' ']' (n.attributes.flatMap Attribute.letters)) :
    ∃ f, Frame.read l.text = some f ∧ f.Shows s n ∧
      (∀ g, f.content = some g → g.closing = .matched) ∧
      (∀ g, f.attributes = some g → g.closing = .matched) ∧ f.trailing = [] := by
  have htag : Tight n.tag :=
    tight_of_forall fun c hc => isBlank_eq_false_of_isWord (h.tag c hc)
  obtain ⟨g, hgroup, hmatched, hlisted⟩ :=
    takeGroup_of_areLaid hopen hclose hs l.attributes_laid h.attributes hattributes
  -- each part is cut where what stands behind it starts
  obtain ⟨r₀, h₀, hr₀⟩ := exists_take (fun t => (t.takeWhile isWord, t.dropWhile isWord))
    (l.isVoid_of_mem l.before (by simp)) htag (l.startsIn_behindTag h) fun u hu => by
      have hword := fun c hc => (hu.apart (List.Subset.refl _) c hc).1
      rw [takeWhile_append h.tag hword, dropWhile_append h.tag hword]
  obtain ⟨r₁, h₁, hr₁⟩ := exists_take takeClasses (l.isVoid_of_mem l.afterTag (by simp))
    (tight_classSource h) (l.startsIn_behindClasses h) fun u hu =>
      takeClasses_classSource (fun x hx => (h.classes x hx).1) fun c hc =>
        ⟨hu.ne (by decide) (by decide) c hc, (hu.apart (by simp) c hc).2⟩
  obtain ⟨r₂, h₂, hr₂⟩ := exists_take takeId (l.isVoid_of_mem l.afterClasses (by simp))
    (tight_idSource h) l.startsIn_behindId fun u hu => takeId_idSource h.id fun c hc =>
      ⟨hu.ne (by decide) (by decide) c hc, (hu.apart (by simp) c hc).2⟩
  obtain ⟨r₃, h₃, hr₃⟩ := exists_take (takeGroup '(' ')') (l.isVoid_of_mem l.afterId (by simp))
    (tight_contentSource n.content) l.startsIn_behindContent fun u hu =>
      takeGroup_contentSource hcontent fun hd => hu.ne (by decide) (by decide) '(' hd rfl
  obtain ⟨r₄, h₄, hr₄⟩ := exists_take (takeGroup '[' ']') (l.isVoid_of_mem l.afterContent (by simp))
    l.tight_attributes l.startsIn_behindAttributes fun u hu =>
      hgroup u fun hd => hu.ne (by decide) (by decide) '[' hd rfl
  have h₅ : takeEvents (trim l.behindAttributes) = (n.events, []) :=
    l.trim_behindAttributes ▸ takeEvents_of_areLaid h.events l.events_laid
  let f : Frame := ⟨n.tag, n.classes, n.id, n.content.map fun c => ⟨c, .matched⟩, g, n.events, [],
    n.tag_ne_nil⟩
  refine ⟨f, read_eq_some_iff.mpr ⟨?_, r₁, r₂, r₃, r₄, [], ?_, ?_, ?_, ?_, ?_, rfl⟩, ?_, ?_,
    hmatched, rfl⟩
  · rw [text_eq, (Prod.mk.inj h₀).1]
  · rw [text_eq, (Prod.mk.inj h₀).2, hr₀]
    exact h₁
  · rw [hr₁]
    exact h₂
  · rw [hr₂]
    exact h₃
  · rw [hr₃]
    exact h₄
  · rw [hr₄]
    exact h₅
  · refine ⟨rfl, rfl, rfl, ?_, hlisted f rfl, rfl⟩
    rw [Option.map_map]
    exact Option.map_id'
  · intro k hk
    obtain ⟨c, -, rfl⟩ := Option.map_eq_some_iff.mp hk
    rfl

end Layout

variable {n : Node}

/-- **Every layout of a node is read as the node**, and there is nothing to complain of. -/
theorem read_layout (m : Mark) (hopen : m.char ≠ '[') (hclose : m.char ≠ ']') (h : n.Legal m.char)
    (hcontent : ∀ c, n.content = some c → Group.IsBalanced '(' ')' c)
    (hattributes : Group.IsBalanced '[' ']' (n.attributes.flatMap Attribute.letters))
    (l : n.Layout m.char) : read [m.char] l.text = ⟨[], .ok n⟩ := by
  obtain ⟨f, hread, hshows, hgroup, hlisted, htrailing⟩ :=
    l.exists_frame hopen hclose m.visible h hcontent hattributes
  exact read_eq_quiet_iff.mpr
    ⟨f, hread, hshows.issues_eq_nil h hgroup hlisted htrailing, hshows.node_eq h⟩

/-- White space in many places, blank fragments in both lists, and events behind two at signs. -/
theorem read_layout_spaced :
    read [','] " a .b #c (d) [ ,e = f= , g] @h ; ;@ i ".toList =
      ⟨[], .ok ⟨['a'], [['b']], some ['c'], some ['d'], [⟨['e'], some ['f', '=']⟩, ⟨['g'], none⟩],
        [['h'], ['i']], List.cons_ne_nil _ _⟩⟩ := by
  let n : Node := ⟨['a'], [['b']], some ['c'], some ['d'],
    [⟨['e'], some ['f', '=']⟩, ⟨['g'], none⟩], [['h'], ['i']], List.cons_ne_nil _ _⟩
  have hpad : ∀ x : Text, Padded x (' ' :: x ++ [' ']) := fun x =>
    ⟨[' '], [' '], by decide, by decide, by simp⟩
  have hleft : ∀ x : Text, Padded x (' ' :: x) := fun x => ⟨[' '], [], by decide, rfl, by simp⟩
  have hright : ∀ x : Text, Padded x (x ++ [' ']) := fun x => ⟨[], [' '], rfl, by decide, by simp⟩
  let l : n.Layout ',' :=
    { before := [' '], afterTag := [' '], afterClasses := [' '], afterId := [' ']
      afterContent := [' '], afterAttributes := [' '], after := []
      attributes := "[ ,e = f= , g]".toList
      events := "@h ; ;@ i ".toList
      isVoid_of_mem := by decide
      attributes_laid := .group (List.cons_ne_nil [' '] _) <| .blank (by decide) <|
        .cons (.valued (hright ['e']) (hpad ['f', '='])) <| .cons (.bare (hleft ['g'])) .nil
      events_laid := ⟨[[['h', ' '], [' '], []], [[' ', 'i', ' ']]], by decide,
        .cons (hright ['h']) <| .blank (by decide) <| .blank rfl <| .cons (hpad ['i']) .nil, rfl⟩ }
  have hread : (read [','] "a.b#c(d)[e=f=,g]@h;i".toList).result = .ok n := rfl
  exact read_layout ⟨',', by decide⟩ (by decide) (by decide) (legal_of_read hread)
    (fun c hc => by obtain rfl := Option.some.inj hc; exact ⟨by decide, by decide⟩)
    ⟨by decide, by decide⟩ l

end Node

end Outline
