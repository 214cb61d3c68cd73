import Outline.Proofs.Dom.Protocol

/-!
# What steps attach

The steps of a forest attach elements to elements made before them, and none of them twice.

* `attached`: the elements that steps attach.
* `Building.nodup_attached_forestSteps`, `Building.lt_of_mem_forestSteps`: each element is attached
  once at most, and to one made before it.
-/

namespace Outline.Dom

def Step.child? : Step → Option Nat
  | addChild _ c => some c
  | _ => none

/-- The elements that steps attach, in order. -/
def attached (steps : List Step) : List Nat := steps.filterMap Step.child?

section

variable {step : Step} {steps : List Step} {c : Nat}

theorem attached_append (l l' : List Step) : attached (l ++ l') = attached l ++ attached l' :=
  List.filterMap_append

theorem attached_cons_of_none (h : step.child? = none) :
    attached (step :: steps) = attached steps := List.filterMap_cons_none h

theorem attached_cons_of_some (h : step.child? = some c) :
    attached (step :: steps) = c :: attached steps := List.filterMap_cons_some h

theorem mem_attached_iff : c ∈ attached steps ↔ ∃ p, .addChild p c ∈ steps := by
  rw [attached, List.mem_filterMap]
  constructor
  · rintro ⟨step, hstep, hchild⟩
    cases step with
    | addChild p c' => exact ⟨p, Option.some.inj hchild ▸ hstep⟩
    | create | applyClass | setId | setAttribute | appendText | bind => cases hchild
  · rintro ⟨p, hstep⟩
    exact ⟨_, hstep, rfl⟩

end

namespace Building

variable {ε : Type}

theorem attached_ownSteps (m : Means ε) (n : Nat) (d : Node) :
    attached (ownSteps m n d) = [] := by
  obtain ⟨rest, hown, hrest⟩ := ownSteps_cons m n d
  rw [hown, attached_cons_of_none rfl, attached, List.filterMap_eq_nil_iff]
  intro step hstep
  have hmentions := (hrest step hstep).1
  cases step with
  | addChild => exact absurd (List.cons.inj hmentions).2 (List.cons_ne_nil _ _)
  | create | applyClass | setId | setAttribute | appendText | bind => rfl

theorem attached_attachSteps (above : Option Nat) (n : Nat) :
    attached (attachSteps above n) = above.toList.map fun _ => n := by
  cases above <;> rfl

mutual

/-- **The steps of a tree attach no element twice.** -/
theorem nodup_attached_treeSteps (m : Means ε) (n : Nat) :
    ∀ t : Tree Item, (attached (treeSteps m n t)).Nodup
  | .node i ts => by
    rw [treeSteps_eq, attached_append, attached_ownSteps, List.nil_append]
    exact nodup_attached_forestSteps m (some n) (n + 1) ts

theorem nodup_attached_forestSteps (m : Means ε) (above : Option Nat) (n : Nat) :
    ∀ ts : List (Tree Item), (attached (forestSteps m above n ts)).Nodup
  | [] => List.nodup_nil
  | t :: ts => by
    have hpos := count_pos t
    -- the elements of the tree come before its root, and those of the others behind it
    have htree : ∀ c ∈ attached (treeSteps m n t), n < c ∧ c < n + count t := by
      intro c hc
      obtain ⟨p, hstep⟩ := mem_attached_iff.mp hc
      have hlt := lt_of_addChild_mem_treeSteps hstep
      have hrange := mentions_treeSteps hstep (List.mem_cons_of_mem p List.mem_cons_self)
      omega
    have hattach : ∀ c ∈ attached (attachSteps above n), c = n := by
      rw [attached_attachSteps]
      cases above <;> simp
    have hrest : ∀ c ∈ attached (forestSteps m above (n + count t) ts), n + count t ≤ c := by
      intro c hc
      obtain ⟨p, hstep⟩ := mem_attached_iff.mp hc
      exact le_of_addChild_mem_forestSteps hstep
    have hone : (attached (attachSteps above n)).Nodup := by
      rw [attached_attachSteps]
      cases above <;> simp
    rw [forestSteps, attached_append, attached_append, List.nodup_append, List.nodup_append]
    refine ⟨nodup_attached_treeSteps m n t,
      ⟨hone, nodup_attached_forestSteps m above (n + count t) ts, ?_⟩, ?_⟩
    · intro a ha b hb
      have := hattach a ha
      have := hrest b hb
      omega
    · intro a ha b hb
      have := htree a ha
      rcases List.mem_append.mp hb with hb | hb
      · have := hattach b hb
        omega
      · have := hrest b hb
        omega

end

mutual

/-- **Elements are attached to elements made before them.** -/
theorem lt_of_mem_treeSteps : ∀ {t : Tree Item} {m : Means ε} {n p c : Nat},
    .addChild p c ∈ treeSteps m n t → p < c
  | .node i ts, m, n, p, c, h => by
    rw [treeSteps_eq, List.mem_append] at h
    rcases h with h | h
    · have hmem : c ∈ attached (ownSteps m n i.node) := mem_attached_iff.mpr ⟨p, h⟩
      rw [attached_ownSteps] at hmem
      exact absurd hmem List.not_mem_nil
    · refine lt_of_mem_forestSteps (fun q hq => ?_) h
      rw [← Option.some.inj hq]
      exact Nat.lt_succ_self n

theorem lt_of_mem_forestSteps : ∀ {ts : List (Tree Item)} {m : Means ε} {above : Option Nat}
    {n p c : Nat}, (∀ q ∈ above, q < n) → .addChild p c ∈ forestSteps m above n ts → p < c
  | [], _, _, _, _, _, _, h => absurd h List.not_mem_nil
  | t :: ts, m, above, n, p, c, habove, h => by
    rw [forestSteps, List.mem_append, List.mem_append] at h
    rcases h with h | h | h
    · exact lt_of_mem_treeSteps h
    · cases above with
      | none => exact absurd h List.not_mem_nil
      | some q =>
        obtain ⟨rfl, rfl⟩ := Step.addChild.inj (List.mem_singleton.mp h)
        exact habove p rfl
    · exact lt_of_mem_forestSteps (fun q hq => Nat.lt_add_right _ (habove q hq)) h

end

end Building

end Outline.Dom
