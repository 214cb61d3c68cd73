import Mathlib.Data.List.TakeWhile
import Outline.Node.Reader
import Outline.Proofs.Node.Group

/-!
# What a line can describe

Reading a line keeps the parts with legal names and drops the others, so every node that is read
is **legal**: its names are such as a line can hold.  What is kept of a part is never longer than
the part.

* `Frame.read_eq_some_iff`: the cuts that make up a frame.
* `Frame.groups_isInfix`, `Frame.names_subset`: the groups of a frame are stretches of the line,
  and its names are made of characters of the line.
* `Node.legal_of_read`: every node that is read is legal.
* `Node.missingTag_or_ofLine`: what comes of a line.
* `Frame.listing_sublist`, `Frame.length_eventSource_le`: what is kept of the attributes and of
  the events.
-/

namespace Outline

open Text

/-! ### Legal nodes -/

def IsName (x : Text) : Prop := x ≠ [] ∧ ∀ c ∈ x, isName c = true

theorem IsName.tight {x : Text} (h : IsName x) : Tight x :=
  tight_of_forall fun c hc => isBlank_eq_false_of_isName (h.2 c hc)

/-- A name that can stand behind an at sign. -/
def IsEvent (e : Text) : Prop :=
  e ≠ [] ∧ startsWithDigit e = false ∧ ∀ c ∈ e, isBlank c = false ∧ c ≠ '@' ∧ c ≠ ';'

/-- An attribute is **legal** when its name and its value can be told apart in a list of
attributes that are separated by `sep`. -/
structure Attribute.Legal (sep : Char) (a : Attribute) : Prop where
  name_ne_nil : a.name ≠ []
  name_tight : Tight a.name
  equals_not_mem : '=' ∉ a.name
  name_start : startsWithDigit a.name = false
  value_tight : ∀ v, a.value = some v → Tight v
  sep_not_mem : sep ∉ a.source

/-- A node is **legal** when all its names are. -/
structure Node.Legal (sep : Char) (n : Node) : Prop where
  tag : ∀ c ∈ n.tag, isWord c = true
  classes : ∀ x ∈ n.classes, IsName x ∧ startsWithDigit x = false
  id : ∀ i, n.id = some i → IsName i
  attributes : ∀ a ∈ n.attributes, a.Legal sep
  events : ∀ e ∈ n.events, IsEvent e

def Node.listing (sep : Char) (n : Node) : Text :=
  [sep].intercalate (n.attributes.map Attribute.source)

/-! ### Attributes -/

namespace Attribute

variable {s : Char} {u : Text}

theorem source_ofFragment_sublist (u : Text) : (Frame.ofFragment u).source.Sublist u := by
  rw [Frame.ofFragment]
  cases hcut : cut '=' u with
  | none => exact List.Sublist.refl u
  | some p =>
    obtain ⟨hu, -⟩ := cut_eq_some_iff.mp hcut
    rw [hu]
    exact (trim_sublist p.1).append ((trim_sublist p.2).cons_cons '=')

/-- **A fragment with a valid name describes a legal attribute.** -/
theorem legal_ofFragment (hu : Tight u) (hs : s ∉ u)
    (hvalid : Frame.validAttribute (Frame.ofFragment u).name = true) :
    (Frame.ofFragment u).Legal s := by
  rw [Frame.validAttribute, Bool.and_eq_true, decide_eq_true_eq, Bool.not_eq_true'] at hvalid
  have hsource : s ∉ (Frame.ofFragment u).source :=
    fun h => hs ((source_ofFragment_sublist u).subset h)
  revert hvalid hsource
  rw [Frame.ofFragment]
  cases hcut : cut '=' u with
  | none =>
    intro hvalid hsource
    exact ⟨hvalid.1, hu, cut_eq_none_iff.mp hcut, hvalid.2, nofun, hsource⟩
  | some p =>
    intro hvalid hsource
    obtain ⟨-, heq⟩ := cut_eq_some_iff.mp hcut
    refine ⟨hvalid.1, tight_trim _, fun h => heq ((trim_sublist p.1).subset h), hvalid.2,
      fun v hv => ?_, hsource⟩
    obtain rfl := Option.some.inj hv
    exact tight_trim _

variable {a : Attribute}

theorem Legal.source_ne_nil (h : a.Legal s) : a.source ≠ [] := by
  obtain ⟨name, value⟩ := a
  cases value with
  | none => exact h.name_ne_nil
  | some v => exact List.append_ne_nil_of_right_ne_nil _ (List.cons_ne_nil _ _)

theorem Legal.tight_source (h : a.Legal s) : Tight a.source := by
  obtain ⟨name, value⟩ := a
  cases value with
  | none => exact h.name_tight
  | some v =>
    have hequals : Tight ['='] := by
      refine tight_of_forall fun c hc => ?_
      rw [List.mem_singleton.mp hc]
      decide
    exact h.name_tight.append (hequals.append (h.value_tight v rfl))

/-- **A legal attribute is described by the way it is written.** -/
theorem Legal.ofFragment_source (h : a.Legal s) : Frame.ofFragment a.source = a := by
  obtain ⟨name, value⟩ := a
  rw [Frame.ofFragment]
  cases value with
  | none => rw [source, cut_eq_none_iff.mpr h.equals_not_mem]
  | some v =>
    rw [source, cut_eq_some_iff.mpr ⟨rfl, h.equals_not_mem⟩]
    simp only [trim_eq_self_iff.mpr h.name_tight, trim_eq_self_iff.mpr (h.value_tight v rfl)]

theorem Legal.validAttribute (h : a.Legal s) : Frame.validAttribute a.name = true := by
  rw [Frame.validAttribute, h.name_start]
  simpa using h.name_ne_nil

end Attribute

/-! ### The cuts of a line -/

namespace Frame

variable {s : Char} {f : Frame} {line t : Text}

/-- **A frame is made up of six cuts**, each at the visible start of what the last one left. -/
theorem read_eq_some_iff : read line = some f ↔
    f.tag = line.trim.takeWhile isWord ∧ ∃ r₁ r₂ r₃ r₄ r₅,
      takeClasses (trimLeft (line.trim.dropWhile isWord)) = (f.classNames, r₁) ∧
      takeId (trimLeft r₁) = (f.id, r₂) ∧
      takeGroup '(' ')' (trimLeft r₂) = (f.content, r₃) ∧
      takeGroup '[' ']' (trimLeft r₃) = (f.attributes, r₄) ∧
      takeEvents (trimLeft r₄) = (f.eventNames, r₅) ∧ f.trailing = trimLeft r₅ := by
  rw [read]
  constructor
  · intro h
    dsimp only at h
    split at h
    · exact absurd h nofun
    · obtain rfl := Option.some.inj h
      exact ⟨rfl, _, _, _, _, _, (Prod.eta _).symm, (Prod.eta _).symm, (Prod.eta _).symm,
        (Prod.eta _).symm, (Prod.eta _).symm, rfl⟩
  · rintro ⟨htag, r₁, r₂, r₃, r₄, r₅, h₁, h₂, h₃, h₄, h₅, h₆⟩
    obtain ⟨tag, classNames, id, content, attributes, eventNames, trailing, hne⟩ := f
    dsimp only at htag h₁ h₂ h₃ h₄ h₅ h₆
    subst htag h₆
    dsimp only
    rw [dif_neg hne]
    simp only [h₁, h₂, h₃, h₄, h₅]

/-- **A line has a frame exactly when it starts with a word character.** -/
theorem read_eq_none_iff : read line = none ↔ startsWithWord line.trim = false := by
  rw [read]
  cases h : line.trim with
  | nil => exact ⟨fun _ => rfl, fun _ => rfl⟩
  | cons c t =>
    cases hc : isWord c with
    | true =>
      rw [startsWithWord, hc, dif_neg (by rw [List.takeWhile_cons_of_pos hc]; exact nofun)]
      exact ⟨nofun, nofun⟩
    | false =>
      rw [startsWithWord, hc, dif_pos (List.takeWhile_cons_of_neg (by rw [hc]; exact nofun))]
      exact ⟨fun _ => rfl, fun _ => rfl⟩

theorem isName_of_mem_takeClasses {x : Text} (hx : x ∈ (takeClasses t).1) : IsName x := by
  rw [takeClasses.eq_def] at hx
  split at hx
  · obtain ⟨hmem, hne⟩ := List.mem_filter.mp hx
    obtain ⟨hsub, hdot⟩ := sublist_of_mem_splitOn hmem
    refine ⟨of_decide_eq_true hne, fun c hc => ?_⟩
    have hrun := List.mem_takeWhile_imp (hsub.subset hc)
    rw [Bool.or_eq_true, beq_iff_eq] at hrun
    exact hrun.resolve_right fun h => hdot (h ▸ hc)
  · exact absurd hx nofun

theorem isName_of_takeId {i : Text} (hi : (takeId t).1 = some i) : IsName i := by
  rw [takeId.eq_def] at hi
  split at hi
  · dsimp only at hi
    split at hi
    · exact absurd hi nofun
    · next hne =>
      obtain rfl := Option.some.inj hi
      exact ⟨hne, fun c hc => List.mem_takeWhile_imp hc⟩
  · exact absurd hi nofun

theorem subset_of_mem_takeClasses {x : Text} (hx : x ∈ (takeClasses t).1) : x ⊆ t := by
  rw [takeClasses.eq_def] at hx
  split at hx
  · next rest =>
    obtain ⟨hsub, -⟩ := sublist_of_mem_splitOn (List.mem_filter.mp hx).1
    exact (hsub.trans ((List.takeWhile_sublist _).trans (List.sublist_cons_self _ _))).subset
  · exact absurd hx nofun

theorem subset_of_takeId {i : Text} (hi : (takeId t).1 = some i) : i ⊆ t := by
  rw [takeId.eq_def] at hi
  split at hi
  · dsimp only at hi
    split at hi
    · exact absurd hi nofun
    · obtain rfl := Option.some.inj hi
      exact ((List.takeWhile_sublist _).trans (List.sublist_cons_self _ _)).subset
  · exact absurd hi nofun

theorem takeGroup_cases (opener closer : Char) (t : Text) :
    (takeGroup opener closer t = (none, t) ∧ t.head? ≠ some opener) ∨
    ∃ u, t = opener :: u ∧ takeGroup opener closer t =
      (some (Group.read opener closer u).1, (Group.read opener closer u).2) := by
  cases t with
  | nil => exact .inl ⟨rfl, nofun⟩
  | cons c u =>
    rw [takeGroup]
    by_cases h : c = opener
    · rw [if_pos h]
      exact .inr ⟨u, by rw [h], rfl⟩
    · rw [if_neg h]
      exact .inl ⟨rfl, fun hc => h (Option.some.inj hc)⟩

theorem takeGroup_parts {opener closer : Char} (hne : opener ≠ closer) (t : Text) :
    (∀ g, (takeGroup opener closer t).1 = some g → g.inner <:+: t) ∧
      (takeGroup opener closer t).2 <:+ t := by
  rcases takeGroup_cases opener closer t with ⟨hnone, -⟩ | ⟨u, rfl, hsome⟩
  · rw [hnone]
    exact ⟨nofun, List.suffix_refl t⟩
  · obtain ⟨hinner, hafter⟩ := Group.read_parts hne u
    have hu : u <:+ opener :: u := List.suffix_cons opener u
    rw [hsome]
    refine ⟨fun g hg => ?_, hafter.trans hu⟩
    rw [← Option.some.inj hg]
    exact hinner.isInfix.trans hu.isInfix

theorem takeGroup_returns {opener closer : Char} (hne : opener ≠ closer) {r : Text} {g : Group}
    (h : takeGroup opener closer t = (some g, r)) : Group.Within opener closer 0 g.inner ∧
      (g.inner.count closer = g.inner.count opener ∨ closer ∉ r) := by
  rcases takeGroup_cases opener closer t with ⟨hnone, -⟩ | ⟨u, -, hsome⟩
  · exact absurd (Prod.mk.inj (hnone.symm.trans h)).1 nofun
  · obtain ⟨hg, rfl⟩ := Prod.mk.inj (hsome.symm.trans h)
    obtain rfl := Option.some.inj hg
    rcases Group.read_cases hne u with
      ⟨i, r, hread, -, hbalanced⟩ | ⟨i, r, hread, rfl, hwithin, hr⟩ | ⟨hread, hu⟩
    · rw [hread]
      exact ⟨hbalanced.1, .inl hbalanced.2⟩
    · rw [hread]
      exact ⟨hwithin.of_append, .inr hr⟩
    · rw [hread]
      exact ⟨Group.within_of_not_mem hu, .inr List.not_mem_nil⟩

theorem takeClasses_isSuffix (t : Text) : (takeClasses t).2 <:+ t := by
  rw [takeClasses.eq_def]
  split
  · exact (List.dropWhile_suffix _).trans (List.suffix_cons _ _)
  · exact List.suffix_refl _

theorem takeId_isSuffix (t : Text) : (takeId t).2 <:+ t := by
  rw [takeId.eq_def]
  split
  · exact (List.dropWhile_suffix _).trans (List.suffix_cons _ _)
  · exact List.suffix_refl _

/-- **Every part of a frame is taken from an end of the line.** -/
theorem exists_ends (h : read line = some f) : ∃ u₁ u₂ u₃ u₄ u₅,
    (u₁ <:+ line.trim ∧ (takeClasses u₁).1 = f.classNames) ∧
    (u₂ <:+ line.trim ∧ (takeId u₂).1 = f.id) ∧
    (u₃ <:+ line.trim ∧ (takeGroup '(' ')' u₃).1 = f.content) ∧
    (u₄ <:+ line.trim ∧ (takeGroup '[' ']' u₄).1 = f.attributes) ∧
    (u₅ <:+ line.trim ∧ (takeEvents u₅).1 = f.eventNames) := by
  obtain ⟨-, r₁, r₂, r₃, r₄, r₅, h₁, h₂, h₃, h₄, h₅, -⟩ := read_eq_some_iff.mp h
  have htrim : ∀ {t u : Text}, t <:+ u → trimLeft t <:+ u :=
    fun h => (List.dropWhile_suffix _).trans h
  have hr₀ : trimLeft (line.trim.dropWhile isWord) <:+ line.trim :=
    htrim (List.dropWhile_suffix _)
  have hr₁ := takeClasses_isSuffix (trimLeft (line.trim.dropWhile isWord))
  have hr₂ := takeId_isSuffix (trimLeft r₁)
  have hr₃ := (takeGroup_parts (by decide : '(' ≠ ')') (trimLeft r₂)).2
  have hr₄ := (takeGroup_parts (by decide : '[' ≠ ']') (trimLeft r₃)).2
  rw [h₁] at hr₁
  rw [h₂] at hr₂
  rw [h₃] at hr₃
  rw [h₄] at hr₄
  have hr₁ : r₁ <:+ line.trim := hr₁.trans hr₀
  have hr₂ : r₂ <:+ line.trim := hr₂.trans (htrim hr₁)
  have hr₃ : r₃ <:+ line.trim := hr₃.trans (htrim hr₂)
  have hr₄ : r₄ <:+ line.trim := hr₄.trans (htrim hr₃)
  exact ⟨_, _, _, _, _, ⟨hr₀, congrArg Prod.fst h₁⟩, ⟨htrim hr₁, congrArg Prod.fst h₂⟩,
    ⟨htrim hr₂, congrArg Prod.fst h₃⟩, ⟨htrim hr₃, congrArg Prod.fst h₄⟩,
    ⟨htrim hr₄, congrArg Prod.fst h₅⟩⟩

/-- **The groups of a frame are stretches of the line.** -/
theorem groups_isInfix (h : read line = some f) :
    (∀ g, f.content = some g → g.inner <:+: line.trim) ∧
      ∀ g, f.attributes = some g → g.inner <:+: line.trim := by
  obtain ⟨-, -, u₃, u₄, -, -, -, ⟨hu₃, hcontent⟩, ⟨hu₄, hattributes⟩, -⟩ := exists_ends h
  constructor
  · intro g hg
    have hinner := (takeGroup_parts (by decide : '(' ≠ ')') u₃).1 g (hcontent.trans hg)
    exact hinner.trans hu₃.isInfix
  · intro g hg
    have hinner := (takeGroup_parts (by decide : '[' ≠ ']') u₄).1 g (hattributes.trans hg)
    exact hinner.trans hu₄.isInfix

theorem mem_of_mem_takeEvents {e : Text} (he : e ∈ (takeEvents t).1) :
    e ≠ [] ∧ ∀ c ∈ e, c ∈ t ∧ c ≠ '@' ∧ c ≠ ';' := by
  rw [takeEvents.eq_def] at he
  split at he
  · obtain ⟨hmem, hne⟩ := List.mem_filter.mp he
    obtain ⟨u, hu, rfl⟩ := List.mem_map.mp hmem
    obtain ⟨hsub, hall⟩ := sublist_of_mem_splitOnP hu
    refine ⟨of_decide_eq_true hne, fun c hc => ?_⟩
    have hcu := (trim_sublist u).subset hc
    have hsep := hall c hcu
    rw [Bool.or_eq_false_iff, beq_eq_false_iff_ne, beq_eq_false_iff_ne] at hsep
    exact ⟨List.mem_cons_of_mem _ (hsub.subset hcu), hsep⟩
  · exact absurd he nofun

/-- **The names of a frame** are made of characters of the line. -/
theorem names_subset (h : read line = some f) :
    f.tag ⊆ line.trim ∧ (∀ x ∈ f.classNames, x ⊆ line.trim) ∧
      (∀ i, f.id = some i → i ⊆ line.trim) ∧ ∀ e ∈ f.eventNames, e ⊆ line.trim := by
  obtain ⟨u₁, u₂, -, -, u₅, ⟨hu₁, hclasses⟩, ⟨hu₂, hid⟩, -, -, hu₅, hevents⟩ := exists_ends h
  refine ⟨?_, fun x hx => ?_, fun i hi => ?_, fun e he => ?_⟩
  · rw [(read_eq_some_iff.mp h).1]
    exact (List.takeWhile_sublist _).subset
  · rw [← hclasses] at hx
    exact List.Subset.trans (subset_of_mem_takeClasses hx) hu₁.subset
  · exact List.Subset.trans (subset_of_takeId (hid.trans hi)) hu₂.subset
  · rw [← hevents] at he
    exact fun c hc => hu₅.subset ((mem_of_mem_takeEvents he).2 c hc).1

/-- **The events that are kept** are written within the text that they are read from. -/
theorem length_eventSource_le (t : Text) :
    (Node.eventSource ((takeEvents t).1.filter validEvent)).length ≤ t.length := by
  rw [takeEvents.eq_def]
  split
  · next rest =>
    rw [List.filter_filter, List.filter_map, Node.eventSource]
    split
    · exact Nat.zero_le _
    · rw [List.length_cons, List.length_cons]
      have hkept := intercalate_map_filter_sublist [';']
        ((fun e => validEvent e && decide (e ≠ [])) ∘ trim) trim_sublist
        (rest.splitOnP fun c => c == '@' || c == ';')
      have hlen := hkept.length_le
      rw [length_intercalate_splitOnP] at hlen
      exact Nat.succ_le_succ hlen
  · exact Nat.zero_le _

/-! ### The node of a frame -/

theorem listed_some {g : Group} (hg : f.attributes = some g) :
    f.listed [s] = (((g.inner.splitOn s).map trim).filter (· ≠ [])).map ofFragment := by
  rw [listed, hg]
  simp only [pieces_singleton]

theorem listed_none (hg : f.attributes = none) : f.listed [s] = [] := by
  rw [listed, hg]

/-- **The attributes that are kept** are written within the group that they are read from. -/
theorem listing_sublist {g : Group} (hg : f.attributes = some g) :
    ((f.node [s]).listing s).Sublist g.inner := by
  have hkept : (f.node [s]).attributes.map Attribute.source =
      ((g.inner.splitOn s).filter fun u =>
        decide (trim u ≠ []) && validAttribute (ofFragment (trim u)).name).map
          fun u => (ofFragment (trim u)).source := by
    rw [node, listed_some hg, List.filter_map, List.filter_filter, List.filter_map, List.map_map,
      List.map_map]
    refine congrArg (List.map _) (List.filter_congr fun u _ => ?_)
    exact Bool.and_comm _ _
  rw [Node.listing, hkept]
  have hpieces := intercalate_map_filter_sublist [s]
    (fun u => decide (trim u ≠ []) && validAttribute (ofFragment (trim u)).name)
    (fun u => (Attribute.source_ofFragment_sublist (trim u)).trans (trim_sublist u))
    (g.inner.splitOn s)
  rwa [List.intercalate_splitOn] at hpieces

theorem legal_of_mem_listed {a : Attribute} (ha : a ∈ f.listed [s])
    (hvalid : validAttribute a.name = true) : a.Legal s := by
  cases hg : f.attributes with
  | none => rw [listed_none hg] at ha; exact absurd ha nofun
  | some g =>
    rw [listed_some hg] at ha
    obtain ⟨u, hu, rfl⟩ := List.mem_map.mp ha
    obtain ⟨p, hp, rfl⟩ := List.mem_map.mp (List.mem_filter.mp hu).1
    refine Attribute.legal_ofFragment (tight_trim p) (fun hs => ?_) hvalid
    exact (sublist_of_mem_splitOn hp).2 ((trim_sublist p).subset hs)

/-- **The node of a line is legal.** -/
theorem legal_node (h : read line = some f) : (f.node [s]).Legal s := by
  obtain ⟨htag, r₁, r₂, r₃, r₄, r₅, h₁, h₂, h₃, h₄, h₅, h₆⟩ := read_eq_some_iff.mp h
  refine ⟨?_, ?_, ?_, ?_, ?_⟩
  · intro c hc
    have hc : c ∈ f.tag := hc
    rw [htag] at hc
    exact List.mem_takeWhile_imp hc
  · intro x hx
    obtain ⟨hx, hvalid⟩ := List.mem_filter.mp hx
    have hmem : x ∈ (takeClasses (trimLeft (line.trim.dropWhile isWord))).1 := by
      rw [h₁]
      exact hx
    rw [validClass, Bool.not_eq_true'] at hvalid
    exact ⟨isName_of_mem_takeClasses hmem, hvalid⟩
  · intro i hi
    exact isName_of_takeId ((congrArg Prod.fst h₂).trans hi)
  · intro a ha
    obtain ⟨ha, hvalid⟩ := List.mem_filter.mp ha
    exact legal_of_mem_listed ha hvalid
  · intro e he
    obtain ⟨he, hvalid⟩ := List.mem_filter.mp he
    have hmem : e ∈ (takeEvents (trimLeft r₄)).1 := by
      rw [h₅]
      exact he
    obtain ⟨hne, hall⟩ := mem_of_mem_takeEvents hmem
    rw [validEvent, Bool.and_eq_true, Bool.not_eq_true', Bool.not_eq_true', List.any_eq_false]
      at hvalid
    exact ⟨hne, hvalid.1, fun c hc => ⟨Bool.eq_false_iff.mpr (hvalid.2 c hc), (hall c hc).2⟩⟩

end Frame

/-! ### Reading a node -/

namespace Node

variable {s : Char} {line : Text} {n : Node}

theorem read_singleton (h : Frame.read line = some f) :
    read [s] line = ⟨f.issues [s], .ok (f.node [s])⟩ := by
  rw [read, h]
  exact if_neg fun hs => absurd hs.1 (List.cons_ne_nil s [])

/-- **A line describes a node when it has a frame**, which is when it has a tag. -/
theorem read_result_eq_ok_iff : (read [s] line).result = .ok n ↔
    ∃ f, Frame.read line = some f ∧ f.node [s] = n := by
  cases h : Frame.read line with
  | none =>
    rw [read, h]
    exact ⟨nofun, fun ⟨f, hf, _⟩ => absurd hf nofun⟩
  | some f =>
    rw [read_singleton h]
    constructor
    · intro hn
      exact ⟨f, rfl, Except.ok.inj hn⟩
    · rintro ⟨f', hf, rfl⟩
      rw [Option.some.inj hf]

theorem read_eq_quiet_iff : read [s] line = ⟨[], .ok n⟩ ↔
    ∃ f, Frame.read line = some f ∧ f.issues [s] = [] ∧ f.node [s] = n := by
  cases h : Frame.read line with
  | none =>
    rw [read, h]
    exact ⟨nofun, fun ⟨f, hf, _⟩ => absurd hf nofun⟩
  | some f =>
    rw [read_singleton h, Reading.mk.injEq]
    constructor
    · rintro ⟨hissues, hn⟩
      exact ⟨f, rfl, hissues, Except.ok.inj hn⟩
    · rintro ⟨f', hf, hissues, rfl⟩
      rw [Option.some.inj hf]
      exact ⟨hissues, rfl⟩

/-- **Every node that is read is legal.** -/
theorem legal_of_read (h : (read [s] line).result = .ok n) : n.Legal s := by
  obtain ⟨f, hf, rfl⟩ := read_result_eq_ok_iff.mp h
  exact Frame.legal_node hf

/-- The node is one that a line can describe: it is legal, its tag is the longest word that the line
starts with, and its content stands in the line as it is. -/
structure OfLine (sep : Char) (line : Text) (n : Node) : Prop where
  legal : n.Legal sep
  tag_eq : n.tag = line.trim.takeWhile isWord
  content_isInfix : ∀ c, n.content = some c → c <:+: line.trim

theorem ofLine_node (h : Frame.read line = some f) : (f.node [s]).OfLine s line := by
  obtain ⟨htag, -⟩ := Frame.read_eq_some_iff.mp h
  refine ⟨Frame.legal_node h, htag, ?_⟩
  intro c hc
  have hcontent : f.content.map Group.inner = some c := hc
  obtain ⟨g, hg, rfl⟩ := Option.map_eq_some_iff.mp hcontent
  exact (Frame.groups_isInfix h).1 g hg

/-- **What comes of a line**, whatever it holds and whatever character separates attributes.  If the
line is blank or starts with no word character, it has no tag, and nothing else is said about it.
Any other line describes a node, and every name of the node is such as a line can hold. -/
theorem missingTag_or_ofLine (s : Char) (line : Text) :
    (startsWithWord line.trim = false ∧ read [s] line = ⟨[], .error .missingTag⟩) ∨
      (startsWithWord line.trim = true ∧
        ∃ n, (read [s] line).result = .ok n ∧ n.OfLine s line) := by
  cases h : Frame.read line with
  | none =>
    left
    refine ⟨Frame.read_eq_none_iff.mp h, ?_⟩
    rw [read, h]
  | some f =>
    right
    constructor
    · by_contra hstart
      have hnone := Frame.read_eq_none_iff.mpr (Bool.eq_false_iff.mpr hstart)
      exact absurd (h.symm.trans hnone) (Option.some_ne_none f)
    · exact ⟨f.node [s], by rw [read_singleton h], ofLine_node h⟩

end Node

end Outline
