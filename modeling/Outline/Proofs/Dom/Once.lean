import Outline.Proofs.Data.Equality
import Outline.Proofs.Dom.Moments

/-!
# Listeners that are called once

A binding that is called once is taken from the listeners just before it is called.  So at every
moment its calls and its occurrences among the listeners together are as many as its additions,
however dispatches of the element are nested and whatever callbacks fail.  Bindings are counted up
to equality.

* `Balanced`: calls and listeners are as many as additions.
* `Activity.Move.balanced`: a move keeps the balance.
* `once_conserved`: the balance holds whenever something happens.
-/

namespace Outline.Dom

variable {σ : Type}

/-! ### Listeners removed -/

section Removal

variable {b c : Binding} {l left : List Binding}

theorem countP_eq_zero_of_removeListener (h : removeListener b l = none) :
    l.countP (·.same b) = 0 := by
  induction l with
  | nil => rfl
  | cons c l ih =>
    rw [removeListener] at h
    split at h
    · cases h
    · next hne => rw [List.countP_cons, if_neg hne, ih (Option.map_eq_none_iff.mp h)]

/-- Of the bindings that equal another one, those equal to the removed one are one less. -/
theorem countP_of_removeListener (h : removeListener c l = some left) (b : Binding) :
    left.countP (·.same b) + (if c.same b then 1 else 0) = l.countP (·.same b) := by
  induction l generalizing left with
  | nil => cases h
  | cons d l ih =>
    rw [removeListener] at h
    split at h
    · next hsame =>
      obtain rfl := Option.some.inj h
      rw [List.countP_cons, Binding.same_eq_of_same hsame b]
    · obtain ⟨left, hleft, rfl⟩ := Option.map_eq_some_iff.mp h
      rw [List.countP_cons, List.countP_cons, ← ih hleft]
      omega

end Removal

/-! ### Calls and additions counted -/

def Happening.isCallOf (r : Ref) (b : Binding) : Happening → Bool
  | called q c _ => q == r && c.same b
  | _ => false

def Happening.isAdditionOf (r : Ref) (b : Binding) : Happening → Bool
  | added q c => q == r && c.same b
  | _ => false

section

variable (r q : Ref) (b c : Binding) (event : Data)

@[simp] theorem isCallOf_called :
    (Happening.called q c event).isCallOf r b = (q == r && c.same b) := rfl

@[simp] theorem isCallOf_added : (Happening.added q c).isCallOf r b = false := rfl

@[simp] theorem isAdditionOf_called : (Happening.called q c event).isAdditionOf r b = false := rfl

@[simp] theorem isAdditionOf_added :
    (Happening.added q c).isAdditionOf r b = (q == r && c.same b) := rfl

end

/-- How often the callback of a binding was called as a listener of an element. -/
def callsOf (r : Ref) (b : Binding) (h : List Moment) : Nat :=
  h.countP (·.happening.isCallOf r b)

def additionsOf (r : Ref) (b : Binding) (h : List Moment) : Nat :=
  h.countP (·.happening.isAdditionOf r b)

def Store.occurrences (s : Store) (r : Ref) (b : Binding) : Nat :=
  (s.get r).listeners.countP (·.same b)

theorem callsOf_concat (r : Ref) (b : Binding) (h : List Moment) (what : Happening) (s : Store) :
    callsOf r b (h ++ [⟨what, s⟩]) = callsOf r b h + if what.isCallOf r b then 1 else 0 := by
  rw [callsOf, List.countP_append, List.countP_singleton, callsOf]

theorem additionsOf_concat (r : Ref) (b : Binding) (h : List Moment) (what : Happening)
    (s : Store) :
    additionsOf r b (h ++ [⟨what, s⟩]) =
      additionsOf r b h + if what.isAdditionOf r b then 1 else 0 := by
  rw [additionsOf, List.countP_append, List.countP_singleton, additionsOf]

/-! ### The balance -/

/-- **Calls and listeners are as many as additions**, and as the `n` listeners that there were at
first. -/
structure Balanced (r : Ref) (b : Binding) (n : Nat) (h : List Moment) (s : Store) : Prop where
  stored : r < s.next
  balance : callsOf r b h + s.occurrences r b = n + additionsOf r b h

section Balance

variable {r q : Ref} {b c : Binding} {n : Nat} {s : Store} {a a' : Activity σ}

theorem occurrences_addListener (hr : r < s.next) (q : Ref) (b c : Binding) :
    (s.update q (·.addListener c)).occurrences r b =
      s.occurrences r b + if q == r && c.same b then 1 else 0 := by
  by_cases hq : q = r
  · subst hq
    rw [Store.occurrences, Store.get_update_self hr, Element.addListener, List.countP_append,
      List.countP_singleton, beq_self_eq_true, Bool.true_and, Store.occurrences]
  · rw [Store.occurrences, Store.get_update_of_ne hq, beq_false_of_ne hq]
    rfl

theorem occurrences_of_release (h : a.release q c = .ok a') (hr : r < a.store.next)
    (hb : b.once = true) :
    a'.store.occurrences r b + (if q == r && c.same b then 1 else 0) =
      a.store.occurrences r b := by
  obtain ⟨hc, rfl⟩ | ⟨left, -, hleft, rfl⟩ := Activity.eq_of_release h
  · have hne : c.same b = false := by
      by_contra hsame
      rw [Binding.once_of_same (Bool.of_not_eq_false hsame) hb] at hc
      cases hc
    rw [hne, Bool.and_false]
    rfl
  · by_cases hq : q = r
    · subst hq
      rw [Store.occurrences, Store.get_update_self hr, beq_self_eq_true, Bool.true_and,
        Store.occurrences, ← countP_of_removeListener hleft b]
    · rw [Store.occurrences, Store.get_update_of_ne hq, beq_false_of_ne hq]
      rfl

theorem next_of_release (h : a.release q c = .ok a') : a'.store.next = a.store.next := by
  obtain ⟨-, rfl⟩ | ⟨left, -, -, rfl⟩ := Activity.eq_of_release h
  · rfl
  · exact Store.next_update _ _ _

theorem Balanced.note (h : Balanced r b n a.history a.store) {what : Happening}
    (hcall : what.isCallOf r b = false) (hadd : what.isAdditionOf r b = false) :
    Balanced r b n (a.note what).history (a.note what).store := by
  refine ⟨h.stored, ?_⟩
  rw [Activity.note_history, callsOf_concat, additionsOf_concat, hcall, hadd]
  exact h.balance

/-- **A move keeps the balance** of a binding that is called once. -/
theorem Activity.Move.balanced (h : Move a a') (hb : b.once = true)
    (ha : Balanced r b n a.history a.store) : Balanced r b n a'.history a'.store := by
  cases h with
  | remember => exact ha
  | note | miss | finish => exact ha.note rfl rfl
  | listen q c =>
    refine ⟨(Store.next_update _ _ _).symm ▸ ha.stored, ?_⟩
    have hbalance := ha.balance
    rw [listen_history, listen_store, callsOf_concat, additionsOf_concat, isCallOf_added,
      isAdditionOf_added, if_neg Bool.false_ne_true, occurrences_addListener ha.stored q b c]
    omega
  | call hrelease event =>
    -- a listener less, and a call more
    refine ⟨(next_of_release hrelease).symm ▸ ha.stored, ?_⟩
    have hcount := occurrences_of_release hrelease ha.stored hb
    have hbalance := ha.balance
    rw [note_history, note_store, callsOf_concat, additionsOf_concat, history_of_release hrelease,
      isCallOf_called, isAdditionOf_called, if_neg Bool.false_ne_true]
    omega

theorem balanced_of_reaches (h : Activity.Reaches a a') (ha : a.history = [])
    (hr : r < a.store.next) (hb : b.once = true) :
    Throughout (Balanced r b (a.store.occurrences r b)) a'.history := by
  have hstart : Balanced r b (a.store.occurrences r b) a.history a.store := by
    refine ⟨hr, ?_⟩
    rw [ha]
    exact Nat.add_comm _ _
  exact (h.throughout (fun hmove => hmove.balanced hb) hstart (ha ▸ throughout_nil _)).2

end Balance

/-- **A listener that is called once is neither lost nor called twice.**  An element that starts
without listeners is used by a script: it adds listeners and dispatches events, and so do callbacks
meanwhile, any of which may fail.  Whenever something happens, in particular whenever a callback
starts and whenever a dispatch ends, a binding that is called once has been called as a listener of
the element, and is among its listeners, together as often as it was added. -/
theorem once_conserved (callbacks : Callbacks σ) (depth : Nat) (script : Script σ) (memory : σ)
    {s : Store} {r : Ref} (hr : r < s.next) (hnone : (s.get r).listeners = []) {b : Binding}
    (hb : b.once = true) {before after : List Moment} {m : Moment}
    (h : (script.run (dispatchWithin callbacks depth) ⟨s, memory, []⟩).1.history =
      before ++ m :: after) :
    callsOf r b (before ++ [m]) + m.store.occurrences r b = additionsOf r b (before ++ [m]) := by
  have hreaches := Script.run_reaches (dispatchWithin_reaches callbacks depth) script
    ⟨s, memory, []⟩
  have hbalance := (balanced_of_reaches hreaches rfl hr hb before m after h).balance
  have hzero : s.occurrences r b = 0 := by rw [Store.occurrences, hnone]; rfl
  rwa [hzero, Nat.zero_add] at hbalance

/-- Callbacks of which `a` dispatches the event once more, when it is called for the first time. -/
def echoing : Callbacks Bool := fun callback event =>
  if callback = ['a'] then
    .remember (fun _ _ => true) fun _ echoed =>
      if echoed then .done
      else .dispatch 0 ['t'] event fun
        | .ok _ => .done
        | .error f => .fail f
  else .done

/-- A listener that dispatches the event once more, before two equal ones that are called once.
When the first of these is called, by the nested dispatch, the other one is still there. -/
theorem once_conserved_of_nested :
    let a : Binding := ⟨['a'], ['t'], ['a'], []⟩
    let b : Binding := ⟨['b'], ['t'], ['b'], [(.text ['o', 'n', 'c', 'e'], .bool true)]⟩
    let s : Store := ⟨[{ tag := ['e'] }]⟩
    let script : Script Bool :=
      .listen 0 a (.listen 0 b (.listen 0 b (.dispatch 0 ['t'] .null fun _ => .done)))
    0 < s.next ∧ (s.get 0).listeners = [] ∧ b.once = true ∧
      ∃ before m after, (script.run (dispatchWithin echoing 2) ⟨s, false, []⟩).1.history =
          before ++ m :: after ∧ m.happening = .called 0 b .null ∧
        callsOf 0 b (before ++ [m]) + m.store.occurrences 0 b = additionsOf 0 b (before ++ [m]) ∧
        m.store.occurrences 0 b = 1 := by
  intro a b s script
  let h := (script.run (dispatchWithin echoing 2) ⟨s, false, []⟩).1.history
  let m : Moment := ⟨.called 0 b .null, ⟨[{ tag := ['e'], listeners := [a, b] }]⟩⟩
  have hs : 0 < s.next := by decide
  have hb : b.once = true := by decide
  have hh : h = h.take 5 ++ m :: h.drop 6 := rfl
  exact ⟨hs, rfl, hb, h.take 5, m, h.drop 6, hh, rfl,
    once_conserved echoing 2 script false hs rfl hb hh, by decide⟩

end Outline.Dom
