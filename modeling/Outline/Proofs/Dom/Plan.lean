import Outline.Dom.Plan
import Outline.Proofs.Dom.Moments

/-!
# Callbacks that follow plans end

Every event that a callback dispatches uses up an action of its plan, so the nesting of dispatches
is not deeper than the number of actions that are left.

* `Plans.size_pop`: an action that is taken is one less.
* `dispatch_ne_exhausted`: a dispatch whose callbacks follow plans comes to an end of its own.
-/

namespace Outline.Dom

open Activity

theorem Plans.size_pop (callback : Text) (plans : Plans) :
    (plans.pop callback).2.size + (plans.pop callback).1.toList.length = plans.size := by
  induction plans with
  | nil => rfl
  | cons p plans ih =>
    obtain ⟨c, actions⟩ := p
    rw [pop]
    split
    · cases actions with
      | nil => rfl
      | cons action actions =>
        simp only [List.head?_cons, List.tail_cons, size, Option.toList_some, List.length_cons,
          List.length_nil]
        omega
    · simp only [size]
      omega

/-- What comes of an activity is within a bound on the actions that were left: they are not more,
and the callbacks are not exhausted. -/
structure Settled {α : Type} (a : Activity Plans) (p : Activity Plans × Except Fault α) : Prop where
  size_le : p.1.memory.size ≤ a.memory.size
  ne_exhausted : p.2 ≠ .error .exhausted

theorem Settled.of_le {α : Type} {a a' : Activity Plans} {p : Activity Plans × Except Fault α}
    (h : Settled a p) (hle : a.memory.size ≤ a'.memory.size) : Settled a' p :=
  ⟨Nat.le_trans h.size_le hle, h.ne_exhausted⟩

theorem Settled.of_ok {α : Type} {a a' : Activity Plans} {x : α}
    (hle : a'.memory.size ≤ a.memory.size) : Settled a (a', .ok x) := ⟨hle, nofun⟩

section

variable {names : Names} {depth : Nat} {again : Dispatcher Plans}

def SettlesBelow (depth : Nat) (again : Dispatcher Plans) : Prop :=
  ∀ a r trigger event, a.memory.size < depth → Settled a (again a r trigger event)

theorem Action.run_settled (hagain : SettlesBelow depth again) (names : Names) (callback : Text)
    (action : Action) {a : Activity Plans} (ha : a.memory.size < depth) :
    Settled a ((action.script names callback).run again a) := by
  cases action with
  | fail => exact ⟨Nat.le_refl _, nofun⟩
  | dispatch element trigger event =>
    rw [Action.script]
    split
    · exact ⟨Nat.le_refl _, nofun⟩
    · next r _ =>
      have hnested := hagain a r trigger event ha
      rw [Script.run_dispatch hnested.ne_exhausted]
      cases hresult : (again a r trigger event).2 with
      | ok n => exact .of_ok hnested.size_le
      | error f =>
        refine ⟨hnested.size_le, fun h => hnested.ne_exhausted ?_⟩
        rw [hresult, Except.error.inj h]
  | listen element binding =>
    rw [Action.script]
    split
    · exact .of_ok (Nat.le_refl _)
    · exact ⟨Nat.le_refl _, nofun⟩
    · exact ⟨Nat.le_refl _, nofun⟩

theorem Plans.run_settled (hagain : SettlesBelow depth again) (names : Names) (callback : Text)
    (event : Data) {a : Activity Plans} (ha : a.memory.size ≤ depth) :
    Settled a ((Plans.callbacks names callback event).run again a) := by
  have hsize := Plans.size_pop callback a.memory
  rw [Plans.callbacks, Script.run]
  cases hpop : (a.memory.pop callback).1 with
  | none => exact .of_ok (Nat.le_of_add_right_le (Nat.le_of_eq hsize))
  | some action =>
    rw [hpop, Option.toList_some, List.length_singleton] at hsize
    exact (Action.run_settled hagain names callback action (a := { a with memory := _ })
      (show (a.memory.pop callback).2.size < depth by omega)).of_le
        (show (a.memory.pop callback).2.size ≤ a.memory.size by omega)

theorem deliver_settled (hagain : SettlesBelow depth again) (names : Names) (r : Ref)
    (trigger : Text) (event : Data) (bs : List Binding) (n : Nat) {a : Activity Plans}
    (ha : a.memory.size ≤ depth) :
    Settled a (deliver (Plans.callbacks names) again r trigger event bs n a) := by
  induction bs generalizing n a with
  | nil => exact .of_ok (Nat.le_refl _)
  | cons b bs ih =>
    obtain ⟨-, heq⟩ | ⟨f, -, hrelease, heq⟩ | ⟨a₁, a₂, result, -, hrelease, hrun, heq⟩ :=
      deliver_cons (Plans.callbacks names) again r trigger event b bs n a
    · exact heq ▸ ih n ha
    · obtain ⟨rfl, -⟩ := eq_of_release_error hrelease
      exact heq ▸ ⟨Nat.le_refl _, nofun⟩
    · have hmemory : a₁.memory = a.memory := memory_of_release hrelease
      have hcall := Plans.run_settled hagain names b.callback event
        (a := a₁.note (.called r b event)) (hmemory ▸ ha)
      rw [hrun] at hcall
      have hle : a₂.memory.size ≤ a.memory.size := hmemory ▸ hcall.size_le
      rw [heq]
      cases result with
      | error f => exact ⟨hle, fun h => hcall.ne_exhausted (by rw [Except.error.inj h])⟩
      | ok _ => exact (ih (n + 1) (Nat.le_trans hle ha)).of_le hle

theorem dispatchWithin_settles (names : Names) (depth : Nat) :
    SettlesBelow depth (dispatchWithin (Plans.callbacks names) depth) := by
  induction depth with
  | zero => exact fun a _ _ _ ha => absurd ha (Nat.not_lt_zero _)
  | succ depth ih =>
    intro a r trigger event ha
    have hdeliver := deliver_settled ih names r trigger event (a.store.get r).listeners 0
      (Nat.le_of_lt_succ ha)
    exact ⟨hdeliver.size_le, hdeliver.ne_exhausted⟩

end

/-- **Callbacks that follow plans are never exhausted**, so that dispatching an event on an element
ends with what its callbacks come to. -/
theorem dispatch_ne_exhausted (names : Names) (a : Activity Plans) (r : Ref) (trigger : Text)
    (event : Data) : (dispatch names a r trigger event).2 ≠ .error .exhausted := by
  have hsettled := dispatchWithin_settles names (a.memory.size + 1) a r trigger event
    (Nat.lt_succ_self _)
  exact hsettled.ne_exhausted

end Outline.Dom
