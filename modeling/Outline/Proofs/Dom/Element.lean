import Mathlib.Data.List.Induction
import Mathlib.Data.List.Nodup
import Outline.Dom.Building

/-!
# The element of a node

An element is made of a node by one change after the other, and attributes may overrule what
classes and ids did before.  What comes of it can be told at once: from the **last value** that is
given to a name, and from lists without repeats.

* `Dom.lastValue`: the last value that is given to a name.
* `Dom.foldl_putAttribute`: attributes that are set one after the other.
* `Element.foldl_setAttribute`: what a list of attributes does to an element.
* `Building.element`: the element of a node, told at once.
* `Building.foldl_own`: the changes that are made of a node come to that element.
-/

namespace Outline.Dom

/-! ### Lists without repeats -/

section

variable {α : Type} [BEq α] [LawfulBEq α]

theorem eraseDups_concat (xs : List α) (x : α) :
    (xs ++ [x]).eraseDups = insertNew xs.eraseDups x := by
  rw [List.eraseDups_append, insertNew]
  by_cases h : x ∈ xs <;> simp [List.removeAll, List.eraseDups_cons, h]

theorem nodup_insertNew {xs : List α} (h : xs.Nodup) (x : α) : (insertNew xs x).Nodup := by
  rw [insertNew]
  split
  · exact h
  · next hx =>
    have hx : x ∉ xs := fun hmem => hx (List.contains_iff_mem.mpr hmem)
    rw [← List.concat_eq_append]
    exact h.concat hx

theorem nodup_eraseDups (xs : List α) : xs.eraseDups.Nodup := by
  induction xs using List.reverseRecOn with
  | nil => exact List.nodup_nil
  | append_singleton xs x ih =>
    rw [eraseDups_concat]
    exact nodup_insertNew ih x

/-- **Items put in one after the other, unless they are there**, are the list without repeats. -/
theorem foldl_insertNew (xs : List α) : xs.foldl insertNew [] = xs.eraseDups := by
  induction xs using List.reverseRecOn with
  | nil => rfl
  | append_singleton xs x ih => rw [List.foldl_concat, ih, eraseDups_concat]

end

/-! ### Attributes -/

/-- The last value that is given to a name, if one is given. -/
def lastValue (name : Text) (as : List Attribute) : Option (Option Text) :=
  ((as.filter fun a => a.name = name).getLast?).map Attribute.value

/-- The attribute is one of the element: it sets neither its id nor its classes. -/
def ordinary (a : Attribute) : Bool := a.name ≠ ['i', 'd'] ∧ a.name ≠ ['c', 'l', 'a', 's', 's']

/-- The attributes of a list, each name once and with its last value. -/
def settled (as : List Attribute) : List Attribute :=
  (as.map Attribute.name).eraseDups.map fun n => ⟨n, (lastValue n as).getD none⟩

theorem lastValue_concat (name : Text) (as : List Attribute) (a : Attribute) :
    lastValue name (as ++ [a]) = if a.name = name then some a.value else lastValue name as := by
  rw [lastValue, List.filter_append]
  by_cases h : a.name = name <;> simp [h, lastValue]

theorem putAttribute_map {l : List Text} (hl : l.Nodup) (f : Text → Option Text) (n : Text)
    (v : Option Text) :
    putAttribute n v (l.map fun x => ⟨x, f x⟩) =
      (insertNew l n).map fun x => ⟨x, if n = x then v else f x⟩ := by
  induction l with
  | nil => simp [putAttribute, insertNew]
  | cons x l ih =>
    obtain ⟨hx, hl⟩ := List.nodup_cons.mp hl
    rw [List.map_cons, putAttribute]
    by_cases h : x = n
    · subst h
      have hrest : ∀ y ∈ l, x ≠ y := fun y hy hxy => hx (hxy ▸ hy)
      simp [insertNew]
      intro y hy hxy
      exact absurd hxy (hrest y hy)
    · rw [if_neg h, ih hl]
      have hn : n ≠ x := Ne.symm h
      by_cases hmem : n ∈ l <;> simp [insertNew, hmem, hn]

theorem settled_concat (as : List Attribute) (a : Attribute) :
    settled (as ++ [a]) = putAttribute a.name a.value (settled as) := by
  rw [settled, settled, putAttribute_map (nodup_eraseDups _), List.map_append, List.map_singleton,
    eraseDups_concat]
  refine List.map_congr_left fun n _ => ?_
  rw [lastValue_concat]
  split <;> rfl

/-- **Attributes that are set one after the other** stand in the order of their first setting, with
the last values. -/
theorem foldl_putAttribute (as : List Attribute) :
    as.foldl (fun l a => putAttribute a.name a.value l) [] = settled as := by
  induction as using List.reverseRecOn with
  | nil => rfl
  | append_singleton as a ih => rw [List.foldl_concat, ih, settled_concat]

namespace Element

theorem foldl_addClass (e : Element) (cs : List Text) :
    cs.foldl addClass e = { e with classes := cs.foldl insertNew e.classes } := by
  induction cs generalizing e with
  | nil => rfl
  | cons c cs ih => rw [List.foldl_cons, ih]; rfl

theorem foldl_addListener (e : Element) (bs : List Binding) :
    bs.foldl addListener e = { e with listeners := e.listeners ++ bs } := by
  induction bs generalizing e with
  | nil => simp
  | cons b bs ih => rw [List.foldl_cons, ih]; simp [addListener]

/-- **What a list of attributes does to an element.**  The last `id` and the last `class` overrule
what was there; the other attributes are put in. -/
theorem foldl_setAttribute (e : Element) (as : List Attribute) :
    as.foldl (fun e a => e.setAttribute a.name a.value) e =
      { e with
        id := ((lastValue ['i', 'd'] as).map nonempty).getD e.id
        classes := ((lastValue ['c', 'l', 'a', 's', 's'] as).map fun v =>
          (v.getD []).words.eraseDups).getD e.classes
        attributes := (as.filter ordinary).foldl
          (fun l a => putAttribute a.name a.value l) e.attributes } := by
  induction as using List.reverseRecOn with
  | nil => rfl
  | append_singleton as a ih =>
    rw [List.foldl_concat, ih, lastValue_concat, lastValue_concat, List.filter_append, setAttribute]
    by_cases hid : a.name = ['i', 'd']
    · simp [hid, ordinary, setId]
    · by_cases hclass : a.name = ['c', 'l', 'a', 's', 's']
      · simp [hclass, ordinary, setClasses, foldl_insertNew]
      · simp [hid, hclass, ordinary]

theorem foldl_addText (e : Element) (ts : List Text) :
    ts.foldl addText e = { e with children := e.children ++ ts.map .text } := by
  induction ts generalizing e with
  | nil => simp
  | cons t ts ih => rw [List.foldl_cons, ih]; simp [addText]

end Element

/-! ### The element of a node -/

namespace Building

variable {ε : Type}

def texts (m : Means ε) (d : Node) : List Text :=
  match m.content d with
  | .ok (some t) => [t]
  | _ => []

theorem contentSteps_eq (m : Means ε) (n : Nat) (d : Node) :
    contentSteps m n d = (texts m d).map (.appendText n) := by
  rw [contentSteps, texts]
  rcases m.content d with _ | _ | _ <;> rfl

/-- **The element of a node**, below an element and above others. -/
def element (m : Means ε) (parent : Option Ref) (d : Node) (children : List Ref) : Element where
  tag := d.tag
  id := ((lastValue ['i', 'd'] d.attributes).map nonempty).getD (nonempty d.id)
  classes := ((lastValue ['c', 'l', 'a', 's', 's'] d.attributes).map fun v =>
    (v.getD []).words.eraseDups).getD d.classes.eraseDups
  attributes := settled (d.attributes.filter ordinary)
  children := (texts m d).map .text ++ children.map .element
  listeners := d.events.filterMap m.lookup
  parent := parent

/-- **The changes that are made of a node come to its element.** -/
theorem foldl_own (m : Means ε) (d : Node) :
    (d.events.filterMap m.lookup).foldl Element.addListener
      ((texts m d).foldl Element.addText
        (d.attributes.foldl (fun e a => e.setAttribute a.name a.value)
          ((nonempty d.id).toList.foldl (fun e i => e.setId (some i))
            (d.classes.foldl Element.addClass { tag := d.tag })))) = element m none d [] := by
  have hid : ∀ e : Element, e.id = none →
      (nonempty d.id).toList.foldl (fun e i => e.setId (some i)) e =
        { e with id := nonempty d.id } := by
    intro e he
    cases nonempty d.id with
    | none =>
      show e = { e with id := none }
      rw [← he]
    | some i => rfl
  rw [Element.foldl_addListener, Element.foldl_addText, Element.foldl_setAttribute,
    Element.foldl_addClass, hid _ rfl, foldl_insertNew, foldl_putAttribute]
  simp [element]

end Building

end Outline.Dom
