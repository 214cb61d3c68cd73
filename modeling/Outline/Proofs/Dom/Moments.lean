import Outline.Dom.Dispatch
import Outline.Proofs.Dom.Store
import Mathlib.Logic.Relation

/-!
# Moves of a dispatch

However callbacks call each other, a dispatch goes on by **moves** of few kinds: something is
remembered or noted, a listener is added, a callback is called, a listener is missed, or a dispatch
ends.  What every move preserves holds at every moment.

* `Activity.Move`: a single change of an activity.
* `Script.run_reaches`, `dispatchWithin_reaches`: scripts and dispatches are made of moves.
* `Activity.Reaches.throughout`: what moves preserve holds at every moment.
-/

namespace Outline.Dom

variable {σ : Type}

namespace Activity

@[simp] theorem note_store (a : Activity σ) (h : Happening) : (a.note h).store = a.store := rfl

@[simp] theorem note_history (a : Activity σ) (h : Happening) :
    (a.note h).history = a.history ++ [⟨h, a.store⟩] := rfl

@[simp] theorem listen_store (a : Activity σ) (r : Ref) (b : Binding) :
    (a.listen r b).store = a.store.update r (·.addListener b) := rfl

@[simp] theorem listen_history (a : Activity σ) (r : Ref) (b : Binding) :
    (a.listen r b).history = a.history ++ [⟨.added r b, (a.listen r b).store⟩] := rfl

/-- A single change of an activity. -/
inductive Move : Activity σ → Activity σ → Prop
  | remember (a : Activity σ) (memory : σ) : Move a { a with memory := memory }
  | note (a : Activity σ) (callback : Text) (n : Nat) : Move a (a.note (.noted callback n))
  | listen (a : Activity σ) (r : Ref) (b : Binding) : Move a (a.listen r b)
  | call {a a' : Activity σ} {r : Ref} {b : Binding} (h : a.release r b = .ok a')
      (event : Data) : Move a (a'.note (.called r b event))
  | miss {a : Activity σ} {r : Ref} {b : Binding} {f : Fault} (h : a.release r b = .error f) :
      Move a (a.note (.missed r b))
  | finish (a : Activity σ) (r : Ref) (trigger : Text) (result : Except Fault Nat) :
      Move a (a.note (.ended r trigger result))

abbrev Reaches : Activity σ → Activity σ → Prop := Relation.ReflTransGen Move

end Activity

open Activity

/-! ### Scripts and dispatches are made of moves -/

section Runs

variable {callbacks : Callbacks σ} {again : Dispatcher σ}

theorem Script.run_dispatch_of_exhausted {a : Activity σ} {r : Ref} {trigger : Text} {event : Data}
    (h : (again a r trigger event).2 = .error .exhausted)
    (next : Except Fault Nat → Script σ) :
    (dispatch r trigger event next).run again a =
      ((again a r trigger event).1, .error .exhausted) := by
  rw [run]
  rcases hagain : again a r trigger event with ⟨a', result⟩
  rw [hagain] at h
  obtain rfl : result = .error .exhausted := h
  rfl

theorem Script.run_dispatch {a : Activity σ} {r : Ref} {trigger : Text} {event : Data}
    (h : (again a r trigger event).2 ≠ .error .exhausted) (next : Except Fault Nat → Script σ) :
    (dispatch r trigger event next).run again a =
      (next (again a r trigger event).2).run again (again a r trigger event).1 := by
  rw [run]
  split
  · next heq => exact absurd (congrArg Prod.snd heq) h
  · next heq => rw [heq]

theorem Script.run_reaches (hagain : ∀ a r trigger event, Reaches a (again a r trigger event).1)
    (script : Script σ) (a : Activity σ) : Reaches a (script.run again a).1 := by
  induction script generalizing a with
  | done | fail => exact .refl
  | remember change next ih => exact .head (.remember a _) (ih _ _ _)
  | note callback n next ih => exact .head (.note a callback n) (ih _)
  | listen r b next ih => exact .head (.listen a r b) (ih _)
  | dispatch r trigger event next ih =>
    have hfirst := hagain a r trigger event
    by_cases h : (again a r trigger event).2 = .error .exhausted
    · rwa [run_dispatch_of_exhausted h]
    · rw [run_dispatch h]
      exact hfirst.trans (ih _ _)

/-- **What comes of the next listener.**  It listens for another trigger, or it is missed, or its
callback is called, which fails or not. -/
theorem deliver_cons (callbacks : Callbacks σ) (again : Dispatcher σ) (r : Ref) (trigger : Text)
    (event : Data) (b : Binding) (bs : List Binding) (n : Nat) (a : Activity σ) :
    (b.trigger ≠ trigger ∧ deliver callbacks again r trigger event (b :: bs) n a =
      deliver callbacks again r trigger event bs n a) ∨
    (∃ f, b.trigger = trigger ∧ a.release r b = .error f ∧
      deliver callbacks again r trigger event (b :: bs) n a = (a.note (.missed r b), .error f)) ∨
    ∃ a₁ a₂ result, b.trigger = trigger ∧ a.release r b = .ok a₁ ∧
      (callbacks b.callback event).run again (a₁.note (.called r b event)) = (a₂, result) ∧
      deliver callbacks again r trigger event (b :: bs) n a =
        match result with
        | .error f => (a₂, .error f)
        | .ok () => deliver callbacks again r trigger event bs (n + 1) a₂ := by
  rw [deliver]
  by_cases htrigger : b.trigger = trigger
  · rw [if_pos htrigger]
    cases hrelease : a.release r b with
    | error f => exact .inr (.inl ⟨f, htrigger, rfl, rfl⟩)
    | ok a₁ =>
      rcases hrun : (callbacks b.callback event).run again (a₁.note (.called r b event)) with
        ⟨a₂, result⟩
      refine .inr (.inr ⟨a₁, a₂, result, htrigger, rfl, hrun, ?_⟩)
      dsimp only
      rw [hrun]
      cases result <;> rfl
  · exact .inl ⟨htrigger, if_neg htrigger⟩

theorem deliver_reaches (hagain : ∀ a r trigger event, Reaches a (again a r trigger event).1)
    (r : Ref) (trigger : Text) (event : Data) (bs : List Binding) (n : Nat) (a : Activity σ) :
    Reaches a (deliver callbacks again r trigger event bs n a).1 := by
  induction bs generalizing n a with
  | nil => exact .refl
  | cons b bs ih =>
    obtain ⟨-, heq⟩ | ⟨f, -, hrelease, heq⟩ | ⟨a₁, a₂, result, -, hrelease, hrun, heq⟩ :=
      deliver_cons callbacks again r trigger event b bs n a
    · exact heq ▸ ih n a
    · exact heq ▸ .single (.miss hrelease)
    · have hcall := Script.run_reaches hagain (callbacks b.callback event)
        (a₁.note (.called r b event))
      rw [hrun] at hcall
      rw [heq]
      cases result with
      | error f => exact .head (.call hrelease event) hcall
      | ok _ => exact .head (.call hrelease event) (hcall.trans (ih _ _))

theorem dispatchWithin_reaches (callbacks : Callbacks σ) (depth : Nat) (a : Activity σ) (r : Ref)
    (trigger : Text) (event : Data) :
    Reaches a (dispatchWithin callbacks depth a r trigger event).1 := by
  induction depth generalizing a r trigger event with
  | zero => exact .refl
  | succ depth ih => exact .tail (deliver_reaches ih r trigger event _ 0 a) (.finish _ r trigger _)

end Runs

/-! ### Listeners that are dropped -/

namespace Activity

variable {a a' : Activity σ} {r : Ref} {b : Binding}

theorem eq_of_release (h : a.release r b = .ok a') :
    (b.once = false ∧ a' = a) ∨
      ∃ left, b.once = true ∧ removeListener b (a.store.get r).listeners = some left ∧
        a' = { a with store := a.store.update r fun e => { e with listeners := left } } := by
  rw [release] at h
  split at h
  · next honce =>
    split at h
    · cases h
    · next left hleft => exact .inr ⟨left, honce, hleft, (Except.ok.inj h).symm⟩
  · next honce => exact .inl ⟨Bool.eq_false_iff.mpr honce, (Except.ok.inj h).symm⟩

theorem eq_of_release_error {f : Fault} (h : a.release r b = .error f) :
    f = .notListening ∧ b.once = true ∧ removeListener b (a.store.get r).listeners = none := by
  rw [release] at h
  split at h
  · next honce =>
    split at h
    · next hnone => exact ⟨(Except.error.inj h).symm, honce, hnone⟩
    · cases h
  · cases h

theorem history_of_release (h : a.release r b = .ok a') : a'.history = a.history := by
  obtain ⟨-, rfl⟩ | ⟨left, -, -, rfl⟩ := eq_of_release h <;> rfl

theorem memory_of_release (h : a.release r b = .ok a') : a'.memory = a.memory := by
  obtain ⟨-, rfl⟩ | ⟨left, -, -, rfl⟩ := eq_of_release h <;> rfl

end Activity

/-! ### What moves preserve -/

/-- A property of what has happened and of the store holds at every moment of a history. -/
def Throughout (P : List Moment → Store → Prop) (h : List Moment) : Prop :=
  ∀ before m after, h = before ++ m :: after → P (before ++ [m]) m.store

theorem throughout_nil (P : List Moment → Store → Prop) : Throughout P [] := by
  intro before m after h
  exact absurd h.symm (by simp)

theorem throughout_concat {P : List Moment → Store → Prop} {h : List Moment} {m : Moment}
    (hh : Throughout P h) (hm : P (h ++ [m]) m.store) : Throughout P (h ++ [m]) := by
  intro before m' after heq
  rcases List.eq_nil_or_concat' after with rfl | ⟨after, last, rfl⟩
  · obtain ⟨rfl, hlast⟩ := List.append_inj' heq rfl
    obtain rfl := List.head_eq_of_cons_eq hlast
    exact hm
  · rw [← List.cons_append, ← List.append_assoc] at heq
    exact hh before m' after (List.append_inj' heq rfl).1

namespace Activity

variable {P : List Moment → Store → Prop} {a a' : Activity σ}

/-- A move adds at most one moment, which shows the store after it. -/
theorem Move.history_cases (h : Move a a') :
    (a'.history = a.history ∧ a'.store = a.store) ∨
      ∃ m, a'.history = a.history ++ [m] ∧ m.store = a'.store := by
  cases h with
  | remember => exact .inl ⟨rfl, rfl⟩
  | note | miss | finish | listen => exact .inr ⟨_, rfl, rfl⟩
  | call hrelease event =>
    exact .inr ⟨_, congrArg (· ++ _) (history_of_release hrelease), rfl⟩

theorem Reaches.history_isPrefix (h : Reaches a a') : a.history <+: a'.history := by
  induction h with
  | refl => exact List.prefix_refl _
  | tail _ hlast ih =>
    obtain ⟨hsame, -⟩ | ⟨m, hadded, -⟩ := hlast.history_cases
    · exact hsame ▸ ih
    · exact hadded ▸ ih.trans (List.prefix_append _ _)

/-- **What every move preserves holds at every moment.** -/
theorem Reaches.throughout (h : Reaches a a')
    (hmove : ∀ {a a' : Activity σ}, Move a a' → P a.history a.store → P a'.history a'.store)
    (hstart : P a.history a.store) (hhistory : Throughout P a.history) :
    P a'.history a'.store ∧ Throughout P a'.history := by
  induction h with
  | refl => exact ⟨hstart, hhistory⟩
  | tail _ hlast ih =>
    have hP := hmove hlast ih.1
    refine ⟨hP, ?_⟩
    obtain ⟨hsame, -⟩ | ⟨m, hadded, hm⟩ := hlast.history_cases
    · exact hsame ▸ ih.2
    · rw [hadded] at hP ⊢
      exact throughout_concat ih.2 (hm ▸ hP)

end Activity

end Outline.Dom
