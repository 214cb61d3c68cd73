import Mathlib.Data.List.Basic
import Outline.Section

/-!
# Cutting into sections

A list **cuts** into loose entries and sections when every section starts at depth zero, and
nothing else does.

* `Section.cuts_split`: how a list is cut; nothing is lost and nothing is moved.
* `Section.split_map`: sections depend on the depths alone.
* `Section.split_fst_eq`, `Section.map_top_split`: the loose entries are those before the first one
  at depth zero, and each of these starts a section.
* `Section.split_append`: a list that starts at depth zero is cut by itself.
-/

namespace Outline.Section

variable {α β : Type}

def entries (s : Section α) : List α := s.top :: s.nested

def map (f : α → β) (s : Section α) : Section β := ⟨f s.top, s.nested.map f⟩

theorem entries_map (f : α → β) (s : Section α) : (s.map f).entries = s.entries.map f := rfl

/-- **The list cuts into the loose entries and the sections.** -/
structure Cuts (depth : α → Int) (l loose : List α) (sections : List (Section α)) : Prop where
  eq_append : l = loose ++ sections.flatMap entries
  loose_ne : ∀ x ∈ loose, depth x ≠ 0
  top_eq : ∀ s ∈ sections, depth s.top = 0
  nested_ne : ∀ s ∈ sections, ∀ x ∈ s.nested, depth x ≠ 0

section

variable {depth : α → Int} {x : α}

theorem split_cons_of_eq (h : depth x = 0) (l : List α) :
    split depth (x :: l) = ([], ⟨x, (split depth l).1⟩ :: (split depth l).2) := by
  rw [split]
  exact if_pos h

theorem split_cons_of_ne (h : depth x ≠ 0) (l : List α) :
    split depth (x :: l) = (x :: (split depth l).1, (split depth l).2) := by
  rw [split]
  exact if_neg h

theorem split_congr {depth' : α → Int} {l : List α} (h : ∀ x ∈ l, depth x = depth' x) :
    split depth l = split depth' l := by
  induction l with
  | nil => rfl
  | cons x l ih =>
    rw [List.forall_mem_cons] at h
    rw [split, split, ih h.2, h.1]

/-- **Sections depend on the depths alone.** -/
theorem split_map (depth : α → Int) {depth' : β → Int} {f : α → β}
    (h : ∀ x, depth' (f x) = depth x) (l : List α) :
    split depth' (l.map f) = ((split depth l).1.map f, (split depth l).2.map (map f)) := by
  induction l with
  | nil => rfl
  | cons x xs ih =>
    rw [List.map_cons]
    by_cases hx : depth x = 0
    · rw [split_cons_of_eq ((h x).trans hx), split_cons_of_eq hx, ih]
      rfl
    · rw [split_cons_of_ne ((h x).trans_ne hx), split_cons_of_ne hx, ih]
      rfl

/-- **How a list is cut.** -/
theorem cuts_split (depth : α → Int) (l : List α) :
    Cuts depth l (split depth l).1 (split depth l).2 := by
  induction l with
  | nil => exact ⟨rfl, nofun, nofun, nofun⟩
  | cons x l ih =>
    have hl := congrArg (x :: ·) ih.eq_append
    by_cases hx : depth x = 0
    · rw [split_cons_of_eq hx]
      exact ⟨hl, nofun, List.forall_mem_cons.mpr ⟨hx, ih.top_eq⟩,
        List.forall_mem_cons.mpr ⟨ih.loose_ne, ih.nested_ne⟩⟩
    · rw [split_cons_of_ne hx]
      exact ⟨hl, List.forall_mem_cons.mpr ⟨hx, ih.loose_ne⟩, ih.top_eq, ih.nested_ne⟩

theorem sublist_of_mem_split {l : List α} {s : Section α} (hs : s ∈ (split depth l).2) :
    s.entries.Sublist l := by
  have hpart : s.entries.Sublist ((split depth l).2.flatMap entries) :=
    List.sublist_flatten_of_mem (List.mem_map_of_mem hs)
  have hall := hpart.trans (List.sublist_append_right (split depth l).1 _)
  rwa [← (cuts_split depth l).eq_append] at hall

/-- **The loose entries are those before the first one at depth zero.** -/
theorem split_fst_eq (depth : α → Int) (l : List α) :
    (split depth l).1 = l.takeWhile fun x => depth x ≠ 0 := by
  induction l with
  | nil => rfl
  | cons x l ih =>
    by_cases hx : depth x = 0
    · rw [split_cons_of_eq hx, List.takeWhile_cons_of_neg (by simpa using hx)]
    · rw [split_cons_of_ne hx, List.takeWhile_cons_of_pos (by simpa using hx), ih]

/-- **Each entry at depth zero starts a section.** -/
theorem map_top_split (depth : α → Int) (l : List α) :
    (split depth l).2.map top = l.filter fun x => depth x = 0 := by
  induction l with
  | nil => rfl
  | cons x l ih =>
    by_cases hx : depth x = 0
    · rw [split_cons_of_eq hx, List.filter_cons_of_pos (by simpa using hx), List.map_cons, ih]
    · rw [split_cons_of_ne hx, List.filter_cons_of_neg (by simpa using hx), ih]

theorem split_append_of_ne {l r : List α} (hl : ∀ x ∈ l, depth x ≠ 0) :
    split depth (l ++ r) = (l ++ (split depth r).1, (split depth r).2) := by
  induction l with
  | nil => rfl
  | cons x l ih =>
    rw [List.forall_mem_cons] at hl
    rw [List.cons_append, split_cons_of_ne hl.1, ih hl.2]
    rfl

/-- **A list that starts at depth zero is cut by itself**, whatever stands before it. -/
theorem split_append {l' : List α} (h : ∀ x ∈ l'.head?, depth x = 0) (l : List α) :
    split depth (l ++ l') = ((split depth l).1, (split depth l).2 ++ (split depth l').2) := by
  induction l with
  | nil =>
    cases l' with
    | nil => rfl
    | cons x l' =>
      rw [List.nil_append, split_cons_of_eq (h x rfl)]
      rfl
  | cons x l ih =>
    by_cases hx : depth x = 0
    · rw [List.cons_append, split_cons_of_eq hx, split_cons_of_eq hx, ih]
      rfl
    · rw [List.cons_append, split_cons_of_ne hx, split_cons_of_ne hx, ih]

end

end Outline.Section
