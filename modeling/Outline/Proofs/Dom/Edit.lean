import Outline.Proofs.Dom.Element
import Outline.Proofs.Dom.Lineage
import Outline.Proofs.Markup.Tags

/-!
# What an opening tag says

Classes, ids and attributes may be given to an element in any order, and the attributes `id` and
`class` are a second way to its id and its classes.  An element that is **tidy** names nothing
twice, and every change leaves it so.

* `Edit`: a change of what the opening tag of an element says.
* `Tidy.apply`: a change leaves a tidy element tidy.
* `nodup_names_allAttributes`: the opening tag of a tidy element has no name twice.
* `openingTag_unrepeated`: what comes of a new element by any changes.
-/

namespace Outline.Dom

inductive Edit where
  | addClass (name : Text)
  | setId (id : Text)
  | setAttribute (name : Text) (value : Option Text)

namespace Edit

def apply (e : Element) : Edit → Element
  | addClass name => e.addClass name
  | setId id => e.setId (some id)
  | setAttribute name value => e.setAttribute name value

/-- The step by which a host makes the change to an element. -/
def step (n : Nat) : Edit → Step
  | addClass name => .applyClass n name
  | setId id => .setId n id
  | setAttribute name value => .setAttribute n name value

def attribute? : Edit → Option Attribute
  | setAttribute name value => some ⟨name, value⟩
  | _ => none

@[simp] theorem tag_apply (e : Element) (c : Edit) : (c.apply e).tag = e.tag := by
  cases c with
  | addClass | setId => rfl
  | setAttribute name value =>
    simp only [apply, Element.setAttribute]
    split_ifs <;> rfl

@[simp] theorem tag_foldl_apply (e : Element) (cs : List Edit) :
    (cs.foldl apply e).tag = e.tag := by
  induction cs generalizing e with
  | nil => rfl
  | cons c cs ih => rw [List.foldl_cons, ih, tag_apply]

theorem perform_step (s : Store) (r : Ref) (c : Edit) :
    s.perform r (c.step 0) = s.update r c.apply := by
  cases c <;> rfl

theorem get_foldl_perform {s : Store} {r : Ref} (hr : r < s.next) (cs : List Edit) :
    ((cs.map (step 0)).foldl (Store.perform r) s).get r = cs.foldl apply (s.get r) := by
  induction cs generalizing s with
  | nil => rfl
  | cons c cs ih =>
    rw [List.map_cons, List.foldl_cons, List.foldl_cons, perform_step, ih (by simpa using hr),
      Store.get_update_self hr]

end Edit

/-! ### Tidy elements -/

/-- The element has no class twice, and its attributes are those of a list that set neither its id
nor its classes. -/
structure Tidy (e : Element) (as : List Attribute) : Prop where
  nodup_classes : e.classes.Nodup
  attributes_eq : e.attributes = settled (as.filter ordinary)

theorem tidy_new (tag : Text) : Tidy { tag := tag } [] := ⟨List.nodup_nil, rfl⟩

namespace Tidy

variable {e : Element} {as : List Attribute}

/-- **A change leaves a tidy element tidy.** -/
theorem apply (h : Tidy e as) (c : Edit) : Tidy (c.apply e) (as ++ c.attribute?.toList) := by
  cases c with
  | addClass name =>
    refine ⟨nodup_insertNew h.nodup_classes name, ?_⟩
    show e.attributes = _
    simpa [Edit.attribute?] using h.attributes_eq
  | setId id =>
    refine ⟨h.nodup_classes, ?_⟩
    show e.attributes = _
    simpa [Edit.attribute?] using h.attributes_eq
  | setAttribute name value =>
    show Tidy (e.setAttribute name value) (as ++ [⟨name, value⟩])
    rw [Element.setAttribute]
    -- the two names that are no attributes of their own are left out of the list
    split_ifs with hid hclass
    · refine ⟨h.nodup_classes, ?_⟩
      show e.attributes = _
      simpa [ordinary, hid] using h.attributes_eq
    · refine ⟨?_, ?_⟩
      · rw [Element.setClasses, foldl_insertNew]
        exact nodup_eraseDups _
      · show e.attributes = _
        simpa [ordinary, hclass] using h.attributes_eq
    · have hordinary : ordinary ⟨name, value⟩ = true := by simp [ordinary, hid, hclass]
      refine ⟨h.nodup_classes, ?_⟩
      rw [List.filter_append, List.filter_cons_of_pos hordinary, List.filter_nil, settled_concat,
        ← h.attributes_eq]

theorem foldl (h : Tidy e as) (cs : List Edit) :
    Tidy (cs.foldl Edit.apply e) (as ++ cs.filterMap Edit.attribute?) := by
  induction cs generalizing e as with
  | nil => simpa using h
  | cons c cs ih =>
    have hnext := ih (h.apply c)
    rw [List.append_assoc] at hnext
    rw [List.foldl_cons]
    cases hc : c.attribute? <;> simpa [hc] using hnext

end Tidy

/-! ### The names in an opening tag -/

theorem map_name_settled (as : List Attribute) :
    (settled as).map Attribute.name = (as.map Attribute.name).eraseDups := by
  rw [settled, List.map_map]
  exact List.map_id _

theorem lastValue_of_mem_settled {as : List Attribute} {a : Attribute} (ha : a ∈ settled as) :
    (∃ b ∈ as, b.name = a.name) ∧ lastValue a.name as = some a.value := by
  obtain ⟨n, hn, rfl⟩ := List.mem_map.mp ha
  obtain ⟨b, hb, hbn⟩ := List.mem_map.mp (List.mem_eraseDups.mp hn)
  have hsome : (lastValue n as).isSome := by
    rw [lastValue, Option.isSome_map, Option.isSome_iff_ne_none, Ne, List.getLast?_eq_none_iff]
    exact List.ne_nil_of_mem (List.mem_filter.mpr ⟨hb, by simpa using hbn⟩)
  obtain ⟨v, hv⟩ := Option.isSome_iff_exists.mp hsome
  exact ⟨⟨b, hb, hbn⟩, by simp [hv]⟩

/-- An id and classes are one entry each, whose names no ordinary attribute has. -/
theorem nodup_names_allAttributes {id : Option Text} {classes : List Text}
    {attributes : List Attribute} (hnodup : (attributes.map Attribute.name).Nodup)
    (hordinary : ∀ a ∈ attributes, ordinary a = true) :
    ((Markup.allAttributes id classes attributes).map Attribute.name).Nodup := by
  have hids : ((Markup.idAttribute id).map Attribute.name).Nodup := by
    cases id with
    | none => exact List.nodup_nil
    | some i =>
      rw [Markup.idAttribute]
      split_ifs
      · exact List.nodup_nil
      · exact List.nodup_singleton _
  have hclasses : ((Markup.classAttribute classes).map Attribute.name).Nodup := by
    rw [Markup.classAttribute]
    split_ifs
    · exact List.nodup_nil
    · exact List.nodup_singleton _
  rw [Markup.allAttributes, List.map_append, List.map_append]
  refine (hids.append hclasses ?_).append hnodup ?_
  · intro n hn hn'
    obtain ⟨a, ha, rfl⟩ := List.mem_map.mp hn
    obtain ⟨b, hb, hba⟩ := List.mem_map.mp hn'
    rw [Markup.name_of_mem_idAttribute ha, Markup.name_of_mem_classAttribute hb] at hba
    exact absurd hba (by decide)
  · intro n hn hn'
    obtain ⟨b, hb, rfl⟩ := List.mem_map.mp hn'
    have hb := hordinary b hb
    rw [ordinary, decide_eq_true_eq] at hb
    rw [← List.map_append] at hn
    obtain ⟨a, ha, hab⟩ := List.mem_map.mp hn
    rcases List.mem_append.mp ha with ha | ha
    · exact hb.1 (hab ▸ Markup.name_of_mem_idAttribute ha)
    · exact hb.2 (hab ▸ Markup.name_of_mem_classAttribute ha)

/-- **An opening tag repeats no name.**  Whatever changes a host makes to a new element, its classes
are without repeats, and its attributes are those that were set apart from `id` and `class`: each
name once, in the order of their first setting, with the value that was set last.  So what is
written into its opening tag, whatever it comes to contain, has no name twice. -/
theorem openingTag_unrepeated (s : Store) (tag : Text) (cs : List Edit) :
    let e := ((cs.map (Edit.step 0)).foldl (Store.perform s.next) (s.create tag)).get s.next
    let set := (cs.filterMap Edit.attribute?).filter ordinary
    let given := Markup.allAttributes e.id e.classes e.attributes
    e = cs.foldl Edit.apply { tag := tag } ∧
    e.classes.Nodup ∧
    (e.attributes.map Attribute.name).Nodup ∧
    (∀ a ∈ e.attributes, a.name ≠ ['i', 'd'] ∧ a.name ≠ ['c', 'l', 'a', 's', 's']) ∧
    e.attributes.map Attribute.name = (set.map Attribute.name).eraseDups ∧
    (∀ a ∈ e.attributes, lastValue a.name set = some a.value) ∧
    (given.map Attribute.name).Nodup ∧
    ∀ ms, (Markup.element e.tag e.id e.classes e.attributes ms).html =
      '<' :: (tag ++ Markup.spaced given ++ '>' :: Markup.remainder tag ms) := by
  intro e set given
  have he : e = cs.foldl Edit.apply { tag := tag } := by
    have hnew : (s.create tag).get s.next = { tag := tag } := by rw [Store.get_create, if_pos rfl]
    rw [← hnew]
    exact Edit.get_foldl_perform (by simp) cs
  have htidy : Tidy e ([] ++ cs.filterMap Edit.attribute?) := he ▸ (tidy_new tag).foldl cs
  have hattributes : e.attributes = settled set := htidy.attributes_eq
  have hnames : e.attributes.map Attribute.name = (set.map Attribute.name).eraseDups := by
    rw [hattributes, map_name_settled]
  have hnodup : (e.attributes.map Attribute.name).Nodup := hnames ▸ nodup_eraseDups _
  have hordinary : ∀ a ∈ e.attributes, ordinary a = true := by
    intro a ha
    obtain ⟨⟨b, hb, hba⟩, -⟩ := lastValue_of_mem_settled (hattributes ▸ ha)
    have hb := (List.mem_filter.mp hb).2
    rwa [ordinary, hba] at hb
  have htag : e.tag = tag := by rw [he, Edit.tag_foldl_apply]
  refine ⟨he, htidy.nodup_classes, hnodup, fun a ha => ?_, hnames, fun a ha => ?_,
    nodup_names_allAttributes hnodup hordinary, fun ms => ?_⟩
  · simpa [ordinary] using hordinary a ha
  · exact (lastValue_of_mem_settled (hattributes ▸ ha)).2
  · have hhtml := Markup.html_element_append e.tag e.id e.classes e.attributes ms []
    rw [List.append_nil, List.append_nil, htag] at hhtml
    rw [htag, hhtml, Markup.inside]

end Outline.Dom
