import Outline.Proofs.Dom.Once

/-!
# What a dispatch does

A dispatch goes through the listeners that there were when it began.  As long as the callbacks
leave the listeners of the element alone, what it has gone through and what it is still to go
through make up the listeners at any time: of the former those are left that are not called once or
listen for something else.  So the first listener that equals the one to be dropped is the one whose
turn it is, also when equal bindings repeat, and no listener is missed.

* `CalledInTurn`: callbacks that are called one after the other.
* `LeavesListeners`: callbacks that leave the listeners of the element alone.
* `release_of_listeners`: the listener whose turn it is is the one that is dropped.
* `deliver_delivered`: what comes of the listeners that are still to be gone through.
* `dispatch_delivers`: what comes of a dispatch.
-/

namespace Outline.Dom

open Activity

variable {σ : Type}

/-! ### Listeners of a trigger -/

section Listeners

variable {trigger : Text} {b : Binding} {l l' : List Binding}

def listening (trigger : Text) (l : List Binding) : List Binding :=
  l.filter fun b => b.trigger == trigger

/-- The bindings of a list that are left when those that listen for a trigger have been called: all
but those among them that are called once. -/
def remaining (trigger : Text) (l : List Binding) : List Binding :=
  l.filter fun b => !(b.trigger == trigger && b.once)

@[simp] theorem listening_append (trigger : Text) (l l' : List Binding) :
    listening trigger (l ++ l') = listening trigger l ++ listening trigger l' :=
  List.filter_append l l'

@[simp] theorem remaining_append (trigger : Text) (l l' : List Binding) :
    remaining trigger (l ++ l') = remaining trigger l ++ remaining trigger l' :=
  List.filter_append l l'

theorem listening_concat (h : b.trigger = trigger) (l : List Binding) :
    listening trigger (l ++ [b]) = listening trigger l ++ [b] := by
  simp [listening, h]

theorem listening_concat_of_ne (h : b.trigger ≠ trigger) (l : List Binding) :
    listening trigger (l ++ [b]) = listening trigger l := by
  simp [listening, h]

theorem remaining_concat (h : b.trigger = trigger) (l : List Binding) :
    remaining trigger (l ++ [b]) = remaining trigger l ++ if b.once then [] else [b] := by
  cases hb : b.once with
  | true => simp [remaining, h, hb]
  | false => simp [remaining, hb]

theorem remaining_concat_of_ne (h : b.trigger ≠ trigger) (l : List Binding) :
    remaining trigger (l ++ [b]) = remaining trigger l ++ [b] := by
  simp [remaining, h]

/-- **No binding that is left equals** one that listens for the trigger and is called once. -/
theorem same_eq_false_of_remaining (htrigger : b.trigger = trigger) (hb : b.once = true) :
    ∀ c ∈ remaining trigger l, c.same b = false := by
  intro c hc
  by_contra hsame
  have hsame : c.same b = true := Bool.of_not_eq_false hsame
  have honce : c.once = true := Binding.once_of_same hsame hb
  have hlistens : c.trigger = trigger := (Binding.same_iff.mp hsame).2.1.trans htrigger
  obtain ⟨-, hleft⟩ := List.mem_filter.mp hc
  simp [honce, hlistens] at hleft

theorem removeListener_append (h : ∀ c ∈ l, c.same b = false) (l' : List Binding) :
    removeListener b (l ++ b :: l') = some (l ++ l') := by
  induction l with
  | nil =>
    show (if b.same b then some l' else _) = some l'
    exact if_pos (Binding.same_refl b)
  | cons c l ih =>
    obtain ⟨hc, hl⟩ := List.forall_mem_cons.mp h
    rw [List.cons_append, removeListener, if_neg (by simp [hc]), ih hl]
    rfl

end Listeners

/-! ### Callbacks in turn -/

section Turns

variable (callbacks : Callbacks σ) (again : Dispatcher σ) (r : Ref) (event : Data)

def call (b : Binding) (a : Activity σ) : Activity σ × Except Fault Unit :=
  (callbacks b.callback event).run again (a.note (.called r b event))

/-- **Callbacks called in turn**, those of a list of listeners and no others: each is called when
the one before has returned and when its listener, if it is called once, has been dropped.  The
result is that of the last one. -/
inductive CalledInTurn (a : Activity σ) : List Binding → Activity σ → Except Fault Unit → Prop
  | none : CalledInTurn a [] a (.ok ())
  | next {bs : List Binding} {b : Binding} {a₁ a₂ a₃ : Activity σ} {result : Except Fault Unit}
      (h : CalledInTurn a bs a₁ (.ok ())) (hrelease : a₁.release r b = .ok a₂)
      (hcall : call callbacks again r event b a₂ = (a₃, result)) :
      CalledInTurn a (bs ++ [b]) a₃ result

/-- The callbacks of a list of listeners, called in turn, **leave the listeners of the element
alone**: each of them, when it ends, finds those that there were when it was called. -/
def LeavesListeners (a : Activity σ) (bs : List Binding) : Prop :=
  ∀ earlier b later a₁ a₂, bs = earlier ++ b :: later →
    CalledInTurn callbacks again r event a earlier a₁ (.ok ()) → a₁.release r b = .ok a₂ →
      ((call callbacks again r event b a₂).1.store.get r).listeners = (a₂.store.get r).listeners

/-- What comes of calling the listeners for a trigger, when `l` are the listeners at first. -/
inductive Delivered (trigger : Text) (a : Activity σ) (l : List Binding) :
    Activity σ → Except Fault Nat → Prop
  /-- All callbacks return. -/
  | all {a' : Activity σ}
      (hcalled : CalledInTurn callbacks again r event a (listening trigger l) a' (.ok ()))
      (hleft : (a'.store.get r).listeners = remaining trigger l) :
      Delivered trigger a l a' (.ok (listening trigger l).length)
  /-- The callback of `b` fails: what comes behind it is neither called nor dropped. -/
  | upTo {before : List Binding} {b : Binding} {after : List Binding} {a' : Activity σ} {f : Fault}
      (hl : l = before ++ b :: after) (htrigger : b.trigger = trigger)
      (hcalled : CalledInTurn callbacks again r event a (listening trigger (before ++ [b])) a'
        (.error f))
      (hleft : (a'.store.get r).listeners = remaining trigger (before ++ [b]) ++ after) :
      Delivered trigger a l a' (.error f)

end Turns

section Delivery

variable {callbacks : Callbacks σ} {again : Dispatcher σ} {r : Ref} {trigger : Text} {event : Data}
  {a : Activity σ} {b : Binding} {l : List Binding}

/-- **The listener whose turn it is is dropped** if it is called once, and no other is. -/
theorem release_of_listeners {done todo : List Binding} (htrigger : b.trigger = trigger)
    (hl : (a.store.get r).listeners = remaining trigger done ++ b :: todo) :
    ∃ a', a.release r b = .ok a' ∧
      (a'.store.get r).listeners = remaining trigger (done ++ [b]) ++ todo := by
  rw [release, remaining_concat htrigger]
  by_cases hb : b.once = true
  · have hr : r < a.store.next := by
      by_contra hle
      rw [Store.get_of_le (Nat.le_of_not_lt hle)] at hl
      exact absurd hl.symm (List.append_ne_nil_of_right_ne_nil _ (List.cons_ne_nil b todo))
    rw [if_pos hb, hl, removeListener_append (same_eq_false_of_remaining htrigger hb)]
    refine ⟨_, rfl, ?_⟩
    rw [Store.get_update_self hr, if_pos hb, List.append_nil]
  · rw [if_neg hb]
    refine ⟨a, rfl, ?_⟩
    rw [hl, if_neg hb, List.append_assoc, List.singleton_append]

/-- **What comes of the listeners that are still to be gone through**, when the callbacks of those
before have been called in turn. -/
theorem deliver_delivered {a₀ : Activity σ}
    (hkeeps : LeavesListeners callbacks again r event a₀ (listening trigger l))
    (todo : List Binding) {done : List Binding} {a : Activity σ} (hl : l = done ++ todo)
    (hcalled : CalledInTurn callbacks again r event a₀ (listening trigger done) a (.ok ()))
    (hleft : (a.store.get r).listeners = remaining trigger done ++ todo) :
    ∃ a' result, Delivered callbacks again r event trigger a₀ l a' result ∧
      deliver callbacks again r trigger event todo (listening trigger done).length a =
        (a', result) := by
  induction todo generalizing done a with
  | nil =>
    rw [List.append_nil] at hl hleft
    subst hl
    exact ⟨a, _, .all hcalled hleft, rfl⟩
  | cons b todo ih =>
    have hl' : l = (done ++ [b]) ++ todo := by
      rw [List.append_assoc, List.singleton_append]
      exact hl
    by_cases htrigger : b.trigger = trigger
    · obtain ⟨a₁, hrelease, hreleased⟩ := release_of_listeners htrigger hleft
      have hlistening : listening trigger l =
          listening trigger done ++ b :: listening trigger todo := by
        rw [hl', listening_append, listening_concat htrigger, List.append_assoc,
          List.singleton_append]
      have hkept := hkeeps _ b _ a a₁ hlistening hcalled hrelease
      rw [deliver, if_pos htrigger, hrelease]
      rcases hcall : call callbacks again r event b a₁ with ⟨a₂, result⟩
      have hnext : CalledInTurn callbacks again r event a₀ (listening trigger (done ++ [b])) a₂
          result := by
        rw [listening_concat htrigger]
        exact .next hcalled hrelease hcall
      rw [hcall, hreleased] at hkept
      rw [call] at hcall
      dsimp only
      rw [hcall]
      cases result with
      | error f => exact ⟨a₂, _, .upTo hl htrigger hnext hkept, rfl⟩
      | ok _ =>
        have hlength : (listening trigger (done ++ [b])).length =
            (listening trigger done).length + 1 := by
          rw [listening_concat htrigger, List.length_append, List.length_singleton]
        rw [← hlength]
        exact ih hl' hnext hkept
    · rw [deliver, if_neg htrigger]
      rw [← listening_concat_of_ne htrigger] at hcalled ⊢
      refine ih hl' hcalled ?_
      rw [remaining_concat_of_ne htrigger, List.append_assoc, List.singleton_append]
      exact hleft

/-- **What a dispatch does**, when the callbacks leave the listeners of the element alone.  It calls
the callbacks of exactly the listeners for the trigger in turn, until one fails.  If none does, it
comes to their number, and the listeners that are left are the old ones without those for the
trigger that are called once.  If the callback of a listener fails, so does the dispatch, and only
listeners up to that one have been dropped. -/
theorem dispatch_delivers {depth : Nat}
    (hkeeps : LeavesListeners callbacks (dispatchWithin callbacks depth) r event a
      (listening trigger (a.store.get r).listeners)) :
    ∃ a' result,
      Delivered callbacks (dispatchWithin callbacks depth) r event trigger a
        (a.store.get r).listeners a' result ∧
      dispatchWithin callbacks (depth + 1) a r trigger event =
        (a'.note (.ended r trigger result), result) := by
  obtain ⟨a', result, hdelivered, hdeliver⟩ :=
    deliver_delivered hkeeps (a.store.get r).listeners (List.nil_append _).symm .none rfl
  refine ⟨a', result, hdelivered, ?_⟩
  have hzero : (listening trigger ([] : List Binding)).length = 0 := rfl
  rw [hzero] at hdeliver
  rw [dispatchWithin]
  dsimp only
  rw [hdeliver]

end Delivery

def stumbling : Callbacks Nat := fun callback _ =>
  .remember (fun _ n => n + 1) fun _ n => if n = 1 then .fail (.failed callback) else .done

theorem store_call_stumbling (again : Dispatcher Nat) (r : Ref) (event : Data) (b : Binding)
    (a : Activity Nat) : (call stumbling again r event b a).1.store = a.store := by
  simp only [call, stumbling, Script.run]
  split <;> rfl

/-- Three equal listeners that are called once, of which the second fails, and others between them.
The third equal one is left, behind those that are not concerned. -/
theorem dispatch_delivers_of_equal :
    let once : Data := .text ['o', 'n', 'c', 'e']
    let b : Binding := ⟨['b'], ['t'], ['b'], [(once, .bool true)]⟩
    let b' : Binding := ⟨['b'], ['t'], ['b'], [(once, .int 1)]⟩
    let c : Binding := ⟨['c'], ['u'], ['b'], [(once, .bool true)]⟩
    let d : Binding := ⟨['d'], ['t'], ['d'], []⟩
    let a : Activity Nat := ⟨⟨[{ tag := ['e'], listeners := [b, c, b', d, b] }]⟩, 0, []⟩
    b.same b' = true ∧
      LeavesListeners stumbling (dispatchWithin stumbling 0) 0 .null a
        (listening ['t'] (a.store.get 0).listeners) ∧
      ∃ a', Delivered stumbling (dispatchWithin stumbling 0) 0 .null ['t'] a
          [b, c, b', d, b] a' (.error (.failed ['b'])) ∧
        a'.history.map (·.happening) = [.called 0 b .null, .called 0 b' .null] ∧
        (a'.store.get 0).listeners = [c, d, b] := by
  intro once b b' c d a
  have hsame : b.same b' = true := by decide
  have hkeeps : LeavesListeners stumbling (dispatchWithin stumbling 0) 0 .null a
      (listening ['t'] (a.store.get 0).listeners) := by
    intro earlier e later a₁ a₂ _ _ _
    rw [store_call_stumbling]
  obtain ⟨a', result, hdelivered, hdispatch⟩ := dispatch_delivers hkeeps
  let p := dispatchWithin stumbling 1 a 0 ['t'] .null
  have hresult : p.2 = .error (.failed ['b']) := rfl
  have hhistory : p.1.history.map (·.happening) =
    [.called 0 b .null, .called 0 b' .null, .ended 0 ['t'] (.error (.failed ['b']))] := rfl
  have hleft : (p.1.store.get 0).listeners = [c, d, b] := rfl
  obtain rfl : result = .error (.failed ['b']) := (congrArg Prod.snd hdispatch).symm.trans hresult
  have hend : p.1 = a'.note (.ended 0 ['t'] (.error (.failed ['b']))) := congrArg Prod.fst hdispatch
  rw [hend, note_history, List.map_append] at hhistory
  rw [hend] at hleft
  exact ⟨hsame, hkeeps, a', hdelivered, List.append_inj_left' hhistory rfl, hleft⟩

end Outline.Dom
