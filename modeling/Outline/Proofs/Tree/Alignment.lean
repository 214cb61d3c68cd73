import Outline.Proofs.Tree.Subtrees

/-!
# Trees of the same shape

Two trees are **aligned** when they have the same shape and each label of the one is related to the
label of the other at its place.  The relation may look at the labels around the latter: at the one
above it, if there is one, and at those below it.

* `Tree.Aligned`, `Tree.AlignedAll`: trees and lists of trees that are aligned.
* `Tree.alignedAll_map`: two images of the same trees are.
-/

namespace Outline.Tree

universe u v w

variable {α : Type u} {β : Type v} {γ : Type w}

mutual

/-- The trees have the same shape, and `P` relates the labels at each place.  The label `above` is
the one that the second tree hangs below. -/
def Aligned (P : Option β → α → β → List β → Prop) (above : Option β) : Tree α → Tree β → Prop
  | node a ts, node b us => P above a b (us.map label) ∧ AlignedAll P (some b) ts us

def AlignedAll (P : Option β → α → β → List β → Prop) (above : Option β) :
    List (Tree α) → List (Tree β) → Prop
  | [], [] => True
  | t :: ts, u :: us => Aligned P above t u ∧ AlignedAll P above ts us
  | _, _ => False

end

variable {P : Option β → α → β → List β → Prop} {above : Option β}

/-- **The roots of aligned trees** are related below the same label. -/
theorem AlignedAll.of_mem {ts : List (Tree α)} {us : List (Tree β)} {u : Tree β}
    (h : AlignedAll P above ts us) (hu : u ∈ us) : ∃ a below, P above a u.label below := by
  induction us generalizing ts with
  | nil => exact absurd hu List.not_mem_nil
  | cons v us ih =>
    cases ts with
    | nil => exact absurd h not_false
    | cons t ts =>
      obtain ⟨hroot, hrest⟩ := h
      rcases List.mem_cons.mp hu with rfl | hu
      · cases t with
        | node a ts =>
          cases u with
          | node b us => exact ⟨a, us.map label, hroot.1⟩
      · exact ih hrest hu

mutual

/-- **Every label of the second tree** is related below another one of it, or below the one that
the tree hangs below. -/
theorem Aligned.exists_above : ∀ (t : Tree α) {above : Option β} {u : Tree β},
    Aligned P above t u → ∀ b ∈ u.walk, ∃ up a below, P up a b below ∧
      (up = above ∨ ∃ y ∈ u.walk, up = some y)
  | node a ts, above, node y us, h, b, hb => by
    rcases List.mem_cons.mp hb with rfl | hb
    · exact ⟨above, a, us.map label, h.1, .inl rfl⟩
    · obtain ⟨up, a', below, hP, hup⟩ := AlignedAll.exists_above ts h.2 b hb
      refine ⟨up, a', below, hP, .inr ?_⟩
      rcases hup with rfl | ⟨z, hz, rfl⟩
      · exact ⟨y, List.mem_cons_self, rfl⟩
      · exact ⟨z, List.mem_cons_of_mem y hz, rfl⟩

theorem AlignedAll.exists_above : ∀ (ts : List (Tree α)) {above : Option β} {us : List (Tree β)},
    AlignedAll P above ts us → ∀ b ∈ walkAll us, ∃ up a below, P up a b below ∧
      (up = above ∨ ∃ y ∈ walkAll us, up = some y)
  | [], _, [], _, _, hb => absurd hb List.not_mem_nil
  | t :: ts, above, u :: us, h, b, hb => by
    rw [walkAll] at hb ⊢
    rcases List.mem_append.mp hb with hb | hb
    · obtain ⟨up, a, below, hP, hup⟩ := Aligned.exists_above t h.1 b hb
      exact ⟨up, a, below, hP, hup.imp_right fun ⟨y, hy, h⟩ => ⟨y, List.mem_append_left _ hy, h⟩⟩
    · obtain ⟨up, a, below, hP, hup⟩ := AlignedAll.exists_above ts h.2 b hb
      exact ⟨up, a, below, hP, hup.imp_right fun ⟨y, hy, h⟩ => ⟨y, List.mem_append_right _ hy, h⟩⟩

end

mutual

theorem aligned_map {f : γ → α} {g : γ → β} : ∀ (t : Tree γ) {above : Option β},
    (∀ x ∈ t.walk, ∀ above below, P above (f x) (g x) below) → Aligned P above (t.map f) (t.map g)
  | node x ts, above, h => by
    rw [map, map]
    refine ⟨h x List.mem_cons_self above _, alignedAll_map ts fun y hy => ?_⟩
    exact h y (List.mem_cons_of_mem x hy)

/-- **Two images of the same trees are aligned** when the images of each label are related. -/
theorem alignedAll_map {f : γ → α} {g : γ → β} : ∀ (ts : List (Tree γ)) {above : Option β},
    (∀ x ∈ walkAll ts, ∀ above below, P above (f x) (g x) below) →
      AlignedAll P above (mapAll f ts) (mapAll g ts)
  | [], _, _ => trivial
  | t :: ts, above, h => by
    rw [mapAll, mapAll]
    constructor
    · exact aligned_map t fun x hx => h x (List.mem_append_left _ hx)
    · exact alignedAll_map ts fun x hx => h x (List.mem_append_right _ hx)

end

end Outline.Tree
