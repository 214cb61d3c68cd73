import Outline.Proofs.Node.RoundTrip
import Outline.Proofs.Text.Trimming

/-!
# Fragments of an attribute list

Between the brackets of a line stand **fragments**, and each describes an attribute.  A fragment
with an invalid name is **dropped**.  When no bracket is dropped with it, the brackets that are left
are those that were there, in the same order, so the list closes where it closed before.

* `Frame.filter_fragments`: what the fragments have of the characters of the list.
* `Frame.marks_listing`: the brackets that are left.
* `Node.read_source_of_dropped`: lines that lose no bracket are read back.
-/

namespace Outline

open Text

namespace Frame

variable {s : Char} {f : Frame}

/-- What stands between the separators of the attributes, trimmed, unless nothing does. -/
def fragments (sep : Text) (f : Frame) : List Text :=
  match f.attributes with
  | none => []
  | some group => ((pieces sep group.inner).map trim).filter (· ≠ [])

/-- The fragments that are dropped for their names. -/
def dropped (sep : Text) (f : Frame) : List Text :=
  (f.fragments sep).filter fun u => !validAttribute (ofFragment u).name

theorem listed_eq (sep : Text) (f : Frame) : f.listed sep = (f.fragments sep).map ofFragment := by
  rw [listed, fragments]
  cases f.attributes <;> rfl

/-! ### Characters of fragments -/

section

variable {p : Char → Bool}

theorem filter_source_ofFragment (hp : ∀ c, isBlank c = true → p c = false) (u : Text) :
    (ofFragment u).source.filter p = u.filter p := by
  rw [ofFragment]
  cases hcut : cut '=' u with
  | none => rfl
  | some q =>
    obtain ⟨name, value⟩ := q
    obtain ⟨hu, -⟩ := cut_eq_some_iff.mp hcut
    show (trim name ++ '=' :: trim value).filter p = u.filter p
    rw [hu, List.filter_append, List.filter_append, filter_trim hp, List.filter_cons,
      List.filter_cons, filter_trim hp]

theorem filter_fragments (hp : ∀ c, isBlank c = true → p c = false) (hs : p s = false) {g : Group}
    (hg : f.attributes = some g) :
    (f.fragments [s]).flatMap (List.filter p) = g.inner.filter p := by
  have hempty : ∀ u ∈ (g.inner.splitOn s).map trim, decide (u ≠ []) = false →
      u.filter p = [] := by
    intro u _ hu
    rw [of_not_not (of_decide_eq_false hu)]
    rfl
  have hfragments : f.fragments [s] = ((g.inner.splitOn s).map trim).filter (· ≠ []) := by
    rw [fragments, hg]
    simp only [pieces_singleton]
  rw [hfragments, flatMap_filter_of_nil hempty, List.flatMap_map]
  simp only [filter_trim hp]
  rw [← filter_intercalate hs, List.intercalate_splitOn]

end

/-! ### Brackets -/

theorem not_mark_of_isBlank {c : Char} : isBlank c = true → (c == '[' || c == ']') = false :=
  beq_or_beq_of_isBlank (by decide) (by decide)

theorem marks_intercalate (hopen : s ≠ '[') (hclose : s ≠ ']') (l : List Text) :
    Group.marks '[' ']' ([s].intercalate l) = l.flatMap (Group.marks '[' ']') := by
  rw [Group.marks, filter_intercalate (by simp [hopen, hclose])]
  rfl

theorem marks_source_ofFragment (u : Text) :
    Group.marks '[' ']' (ofFragment u).source = Group.marks '[' ']' u :=
  filter_source_ofFragment (fun _ => not_mark_of_isBlank) u

theorem marks_fragments (hopen : s ≠ '[') (hclose : s ≠ ']') {g : Group}
    (hg : f.attributes = some g) :
    (f.fragments [s]).flatMap (Group.marks '[' ']') = Group.marks '[' ']' g.inner :=
  filter_fragments (fun _ => not_mark_of_isBlank) (by simp [hopen, hclose]) hg

/-- **The brackets that are left** of an attribute list are all of them, when the separator is none
and none is dropped. -/
theorem marks_listing (hopen : s ≠ '[') (hclose : s ≠ ']')
    (hdropped : ∀ u ∈ f.dropped [s], '[' ∉ u ∧ ']' ∉ u) {g : Group} (hg : f.attributes = some g) :
    Group.marks '[' ']' ((f.node [s]).listing s) = Group.marks '[' ']' g.inner := by
  have hnone : ∀ u ∈ f.fragments [s], validAttribute (ofFragment u).name = false →
      Group.marks '[' ']' u = [] := by
    intro u hu hinvalid
    obtain ⟨ho, hc⟩ := hdropped u (List.mem_filter.mpr ⟨hu, by simp [hinvalid]⟩)
    refine List.filter_eq_nil_iff.mpr fun c hmem => ?_
    simp only [Bool.or_eq_true, beq_iff_eq, not_or]
    exact ⟨fun h => ho (h ▸ hmem), fun h => hc (h ▸ hmem)⟩
  rw [Node.listing, marks_intercalate hopen hclose, node, listed_eq, List.filter_map, List.map_map,
    List.flatMap_map]
  simp only [Function.comp_apply, marks_source_ofFragment]
  exact (flatMap_filter_of_nil hnone).trans (marks_fragments hopen hclose hg)

end Frame

namespace Node

open Outline.Frame

variable {s : Char} {n : Node}

theorem listingReturns_of_dropped {line : Text} {f : Frame} (hopen : s ≠ '[') (hclose : s ≠ ']')
    (hread : Frame.read line = some f)
    (hdropped : ∀ u ∈ f.dropped [s], '[' ∉ u ∧ ']' ∉ u) : (f.node [s]).ListingReturns s := by
  obtain ⟨-, r₁, r₂, r₃, r₄, r₅, -, -, -, h₄, h₅, -⟩ := read_eq_some_iff.mp hread
  cases hg : f.attributes with
  | none =>
    refine listingReturns_of_nil ?_
    rw [node, listed_none hg]
    rfl
  | some g =>
    rw [hg] at h₄
    obtain ⟨hwithin, hcount⟩ := takeGroup_returns (by decide) h₄
    have hmarks := marks_listing hopen hclose hdropped hg
    constructor
    · rw [← Group.within_marks, hmarks, Group.within_marks]
      exact hwithin
    · rw [← Group.count_closer_marks '[' ']', ← Group.count_opener_marks '[' ']', hmarks,
        Group.count_closer_marks, Group.count_opener_marks]
      refine hcount.imp_right fun hr e he hce => ?_
      -- a bracket in an event would stand behind the group
      have hmem : e ∈ (takeEvents (trimLeft r₄)).1 := by
        rw [h₅]
        exact (List.mem_filter.mp he).1
      have htail := ((mem_of_mem_takeEvents hmem).2 ']' hce).1
      exact hr ((trimLeft_sublist r₄).subset htail)

/-- **Lines that lose no bracket are read back.**  Whatever a line describes, balanced or not, comes
back from the line that it is written on, if no fragment that is dropped for its name holds a
bracket and the separator is none. -/
theorem read_source_of_dropped (hopen : s ≠ '[') (hclose : s ≠ ']') {line : Text}
    (h : (read [s] line).result = .ok n)
    (hdropped : ∀ f, Frame.read line = some f → ∀ u ∈ f.dropped [s], '[' ∉ u ∧ ']' ∉ u) :
    (read [s] (n.source [s])).result = .ok n := by
  obtain ⟨f, hread, rfl⟩ := read_result_eq_ok_iff.mp h
  refine read_source_iff.mpr ⟨legal_of_read h, contentReturns_of_read h, ?_⟩
  exact listingReturns_of_dropped hopen hclose hread (hdropped f hread)

/-- Both groups end at a last closing character, and a fragment without brackets is dropped. -/
theorem read_source_of_dropped_of_unclosed :
    let line : Text := "a(x(y) [ b[[ ; ;1=c; d=] @e] f".toList
    ∃ n f, (read [';'] line).result = .ok n ∧ Frame.read line = some f ∧
      f.dropped [';'] = [['1', '=', 'c']] ∧ (read [';'] (n.source [';'])).result = .ok n := by
  intro line
  let f : Frame := ⟨['a'], [], none, some ⟨"x(y".toList, .last⟩,
    some ⟨" b[[ ; ;1=c; d=] @e".toList, .last⟩, [], ['f'], List.cons_ne_nil _ _⟩
  have hframe : Frame.read line = some f := rfl
  have hdropped : f.dropped [';'] = [['1', '=', 'c']] := rfl
  have hread : (read [';'] line).result = .ok (f.node [';']) := rfl
  refine ⟨f.node [';'], f, hread, hframe, hdropped, ?_⟩
  refine read_source_of_dropped (by decide) (by decide) hread fun f' hf' => ?_
  obtain rfl := Option.some.inj (hframe.symm.trans hf')
  rw [hdropped]
  decide

end Node

end Outline
