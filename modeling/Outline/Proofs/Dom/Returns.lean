import Outline.Proofs.Dom.Once

/-!
# When a dispatch returns

The listeners of a dispatch are settled when it begins.  So a dispatch may come to a binding that
dispatches nested in it have called already: it is **missed**, and the dispatch fails although no
callback does.  That is the only way: a dispatch whose callbacks raise nothing of their own returns
when nothing is missed.  And a binding is missed exactly when it is **spent**, that is when it has
been called as often as it was there or was added.

* `Script.RaisesOnly`: the faults that a callback raises of its own.
* `dispatch_returns_unless_missed`: when a dispatch returns, and when a binding is missed.
* `not_dispatch_returns_of_nested`: a dispatch that fails although no callback does.
-/

namespace Outline.Dom

open Activity

variable {σ : Type}

/-- A listener that is to be dropped is no listener any more. -/
def Happening.isMiss : Happening → Bool
  | missed _ _ => true
  | _ => false

namespace Script

/-- The script raises no faults but some, and those that events that it dispatched ended with. -/
def RaisesOnly : Script σ → (Fault → Prop) → Prop
  | done, _ => True
  | fail f, S => S f
  | remember _ next, S => ∀ s memory, (next s memory).RaisesOnly S
  | note _ _ next, S => next.RaisesOnly S
  | listen _ _ next, S => next.RaisesOnly S
  | dispatch _ _ _ next, S =>
    ∀ result, (next result).RaisesOnly fun f => S f ∨ result = .error f

/-- The script raises nothing of its own, and what events that it dispatches end with ends the
script as well. -/
def LetsThrough : Script σ → Prop
  | done => True
  | fail _ => False
  | remember _ next => ∀ s memory, (next s memory).LetsThrough
  | note _ _ next => next.LetsThrough
  | listen _ _ next => next.LetsThrough
  | dispatch _ _ _ next =>
    (∀ n, (next (.ok n)).LetsThrough) ∧ ∀ f, next (.error f) = .fail f

end Script

/-! ### Faults and what is missed -/

section Faults

variable {callbacks : Callbacks σ} {again : Dispatcher σ} {a a' : Activity σ} {f : Fault}
  {h h' : List Moment}

/-- A fault that comes of a missed listener, or of callbacks that are exhausted. -/
def Explained (f : Fault) (h : List Moment) : Prop :=
  f = .exhausted ∨ f = .notListening ∧ ∃ m ∈ h, m.happening.isMiss = true

theorem Explained.mono (hf : Explained f h) (hearlier : h <+: h') : Explained f h' :=
  hf.imp_right fun ⟨hlost, m, hm, hmiss⟩ => ⟨hlost, m, hearlier.subset hm, hmiss⟩

def ExplainsFaults (again : Dispatcher σ) : Prop :=
  ∀ a r trigger event f, (again a r trigger event).2 = .error f →
    Explained f (again a r trigger event).1.history

theorem Script.run_explained (hreach : ∀ a r trigger event, Reaches a (again a r trigger event).1)
    (hagain : ExplainsFaults again) {script : Script σ} {S : Fault → Prop}
    (hscript : script.RaisesOnly S) {a : Activity σ} (hS : ∀ f, S f → Explained f a.history)
    (hf : (script.run again a).2 = .error f) : Explained f (script.run again a).1.history := by
  induction script generalizing a S with
  | done => cases hf
  | fail g => exact hS f (Except.error.inj hf ▸ hscript)
  | remember change next ih => exact ih _ _ (hscript _ _) (a := { a with memory := _ }) hS hf
  | note callback n next ih =>
    exact ih hscript (fun g hg => (hS g hg).mono (List.prefix_append _ _)) hf
  | listen r b next ih =>
    exact ih hscript (fun g hg => (hS g hg).mono (List.prefix_append _ _)) hf
  | dispatch r trigger event next ih =>
    by_cases hout : (again a r trigger event).2 = .error .exhausted
    · rw [run_dispatch_of_exhausted hout] at hf ⊢
      exact .inl (Except.error.inj hf).symm
    · rw [run_dispatch hout] at hf ⊢
      -- what may be raised from here on has come of the nested dispatch, or was explained before
      have hgrown := (hreach a r trigger event).history_isPrefix
      refine ih _ (hscript _) (fun g hg => ?_) hf
      exact hg.elim (fun hg => (hS g hg).mono hgrown) (hagain a r trigger event g)

theorem deliver_explained (hreach : ∀ a r trigger event, Reaches a (again a r trigger event).1)
    (hagain : ExplainsFaults again)
    (hquiet : ∀ callback event, (callbacks callback event).RaisesOnly fun _ => False) {r : Ref}
    {trigger : Text} {event : Data} {bs : List Binding} {n : Nat} {a : Activity σ}
    (hf : (deliver callbacks again r trigger event bs n a).2 = .error f) :
    Explained f (deliver callbacks again r trigger event bs n a).1.history := by
  induction bs generalizing n a with
  | nil => cases hf
  | cons b bs ih =>
    obtain ⟨-, heq⟩ | ⟨g, -, hrelease, heq⟩ | ⟨a₁, a₂, result, -, -, hrun, heq⟩ :=
      deliver_cons callbacks again r trigger event b bs n a
    · rw [heq] at hf ⊢
      exact ih hf
    · rw [heq] at hf ⊢
      obtain rfl := Except.error.inj hf
      exact .inr ⟨(eq_of_release_error hrelease).1, _, List.mem_append_right _ List.mem_cons_self,
        rfl⟩
    · rw [heq] at hf ⊢
      cases result with
      | ok _ => exact ih hf
      | error g =>
        have hcall := Script.run_explained (f := g) hreach hagain (hquiet b.callback event)
          (a := a₁.note (.called r b event)) (fun _ => False.elim) (congrArg Prod.snd hrun)
        rw [hrun] at hcall
        exact Except.error.inj hf ▸ hcall

/-- **A fault comes of a missed listener**, if callbacks raise nothing of their own. -/
theorem dispatchWithin_explained
    (hquiet : ∀ callback event, (callbacks callback event).RaisesOnly fun _ => False)
    (depth : Nat) : ExplainsFaults (dispatchWithin callbacks depth) := by
  induction depth with
  | zero => exact fun _ _ _ _ _ hf => .inl (Except.error.inj hf).symm
  | succ depth ih =>
    intro a r trigger event f hf
    exact (deliver_explained (dispatchWithin_reaches callbacks depth) ih hquiet hf).mono
      (List.prefix_append _ _)

/-! ### Nothing is missed by a dispatch that returns -/

def NoneMissed (h : List Moment) : Prop := ∀ m ∈ h, m.happening.isMiss = false

theorem NoneMissed.concat (hh : NoneMissed h) {m : Moment} (hm : m.happening.isMiss = false) :
    NoneMissed (h ++ [m]) :=
  List.forall_mem_append.mpr ⟨hh, List.forall_mem_singleton.mpr hm⟩

def MissesNone (again : Dispatcher σ) : Prop :=
  ∀ a r trigger event n, (again a r trigger event).2 = .ok n → NoneMissed a.history →
    NoneMissed (again a r trigger event).1.history

theorem Script.run_noneMissed (hagain : MissesNone again) {script : Script σ}
    (hscript : script.LetsThrough) {a : Activity σ} (ha : NoneMissed a.history)
    (hok : (script.run again a).2 = .ok ()) : NoneMissed (script.run again a).1.history := by
  induction script generalizing a with
  | done => exact ha
  | fail => cases hok
  | remember change next ih => exact ih _ _ (hscript _ _) (a := { a with memory := _ }) ha hok
  | note callback n next ih => exact ih hscript (ha.concat rfl) hok
  | listen r b next ih => exact ih hscript (ha.concat rfl) hok
  | dispatch r trigger event next ih =>
    have hne : (again a r trigger event).2 ≠ .error .exhausted := by
      intro hout
      rw [run_dispatch_of_exhausted hout] at hok
      cases hok
    rw [run_dispatch hne] at hok ⊢
    cases hresult : (again a r trigger event).2 with
    | ok n =>
      rw [hresult] at hok
      exact ih _ (hscript.1 n) (hagain a r trigger event n hresult ha) hok
    | error f =>
      rw [hresult, hscript.2 f] at hok
      cases hok

theorem deliver_noneMissed (hagain : MissesNone again)
    (hcandid : ∀ callback event, (callbacks callback event).LetsThrough) {r : Ref} {trigger : Text}
    {event : Data} {bs : List Binding} {n k : Nat} {a : Activity σ} (ha : NoneMissed a.history)
    (hok : (deliver callbacks again r trigger event bs n a).2 = .ok k) :
    NoneMissed (deliver callbacks again r trigger event bs n a).1.history := by
  induction bs generalizing n a with
  | nil => exact ha
  | cons b bs ih =>
    obtain ⟨-, heq⟩ | ⟨g, -, -, heq⟩ | ⟨a₁, a₂, result, -, hrelease, hrun, heq⟩ :=
      deliver_cons callbacks again r trigger event b bs n a
    · rw [heq] at hok ⊢
      exact ih ha hok
    · rw [heq] at hok
      cases hok
    · rw [heq] at hok ⊢
      cases result with
      | error g => cases hok
      | ok _ =>
        have hcalled : NoneMissed (a₁.note (.called r b event)).history := by
          rw [note_history, history_of_release hrelease]
          exact ha.concat rfl
        have hcall := Script.run_noneMissed hagain (hcandid b.callback event) hcalled
          (congrArg Prod.snd hrun)
        rw [hrun] at hcall
        exact ih hcall hok

theorem dispatchWithin_noneMissed
    (hcandid : ∀ callback event, (callbacks callback event).LetsThrough) (depth : Nat) :
    MissesNone (dispatchWithin callbacks depth) := by
  induction depth with
  | zero =>
    intro a r trigger event n hok
    cases hok
  | succ depth ih =>
    intro a r trigger event n hok ha
    exact (deliver_noneMissed ih hcandid ha hok).concat rfl

end Faults

/-! ### What is missed -/

/-- A listener that is missed is called once, and no listener equals it. -/
def Moment.Lost (m : Moment) : Prop :=
  ∀ q b, m.happening = .missed q b → b.once = true ∧ m.store.occurrences q b = 0

theorem Activity.Move.lost {a a' : Activity σ} (h : Move a a') (ha : ∀ m ∈ a.history, m.Lost) :
    ∀ m ∈ a'.history, m.Lost := by
  cases h with
  | remember => exact ha
  | note | finish | listen =>
    exact List.forall_mem_append.mpr ⟨ha, List.forall_mem_singleton.mpr nofun⟩
  | call hrelease event =>
    rw [note_history, history_of_release hrelease]
    exact List.forall_mem_append.mpr ⟨ha, List.forall_mem_singleton.mpr nofun⟩
  | miss hrelease =>
    refine List.forall_mem_append.mpr ⟨ha, List.forall_mem_singleton.mpr fun q b heq => ?_⟩
    obtain ⟨rfl, rfl⟩ := Happening.missed.inj heq
    obtain ⟨-, honce, hnone⟩ := eq_of_release_error hrelease
    exact ⟨honce, countP_eq_zero_of_removeListener hnone⟩

theorem lost_of_reaches {a a' : Activity σ} (h : Reaches a a') (ha : ∀ m ∈ a.history, m.Lost) :
    ∀ m ∈ a'.history, m.Lost := by
  induction h with
  | refl => exact ha
  | tail _ hlast ih => exact hlast.lost ih

/-- **A binding that is spent**: it is called once, and was called as often as it was among the
listeners of an element at first or was added. -/
structure Spent (s : Store) (r : Ref) (b : Binding) (h : List Moment) : Prop where
  once : b.once = true
  calls : callsOf r b h = s.occurrences r b + additionsOf r b h

/-- A binding is missed when it is spent, and called when it is not. -/
theorem spent_of_missed {a a' : Activity σ} (h : Reaches a a') (ha : a.history = []) {q : Ref}
    (hq : q < a.store.next) (b : Binding) {before after : List Moment} {m : Moment}
    (hm : a'.history = before ++ m :: after) :
    (m.happening = .missed q b → Spent a.store q b before) ∧
      ∀ event, m.happening = .called q b event → ¬ Spent a.store q b before := by
  have hmem : m ∈ a'.history := hm ▸ List.mem_append_right _ List.mem_cons_self
  have hlost := lost_of_reaches h (by rw [ha]; nofun) m hmem
  have hbalanced (hb : b.once = true) := (balanced_of_reaches h ha hq hb before m after hm).balance
  obtain ⟨what, s⟩ := m
  constructor
  · rintro rfl
    obtain ⟨honce, hzero⟩ := hlost q b rfl
    have hbalance := hbalanced honce
    rw [callsOf_concat, additionsOf_concat, hzero] at hbalance
    exact ⟨honce, hbalance⟩
  · rintro event rfl ⟨honce, hcalls⟩
    have hbalance := hbalanced honce
    rw [callsOf_concat, additionsOf_concat, isCallOf_called, isAdditionOf_called,
      Binding.same_refl, beq_self_eq_true, Bool.and_self, if_pos rfl,
      if_neg Bool.false_ne_true] at hbalance
    omega

/-- **When a dispatch returns.**  Callbacks raise nothing of their own, and dispatch events and add
listeners in any way.  Then a dispatch returns, or it fails because a listener was missed; if
callbacks let faults through, it returns exactly when none is missed.  A listener that a dispatch
comes to is missed exactly when it is spent. -/
theorem dispatch_returns_unless_missed {callbacks : Callbacks σ}
    (hquiet : ∀ callback event, (callbacks callback event).RaisesOnly fun _ => False)
    {a : Activity σ} (ha : a.history = []) {depth : Nat} {r : Ref} {trigger : Text} {event : Data}
    (hdepth : (dispatchWithin callbacks depth a r trigger event).2 ≠ .error .exhausted) :
    let p := dispatchWithin callbacks depth a r trigger event
    ((∃ n, p.2 = .ok n) ∨ p.2 = .error .notListening ∧ ¬ NoneMissed p.1.history) ∧
    ((∀ callback event, (callbacks callback event).LetsThrough) →
      ((∃ n, p.2 = .ok n) ↔ NoneMissed p.1.history)) ∧
    ∀ before m after, p.1.history = before ++ m :: after → ∀ q < a.store.next, ∀ b,
      (m.happening = .missed q b → Spent a.store q b before) ∧
      ∀ event, m.happening = .called q b event → ¬ Spent a.store q b before := by
  intro p
  have hreach : Reaches a p.1 := dispatchWithin_reaches callbacks depth a r trigger event
  have houtcome : (∃ n, p.2 = .ok n) ∨ p.2 = .error .notListening ∧ ¬ NoneMissed p.1.history := by
    cases hresult : p.2 with
    | ok n => exact .inl ⟨n, rfl⟩
    | error f =>
      rcases dispatchWithin_explained hquiet depth a r trigger event f hresult with
        rfl | ⟨rfl, m, hm, hmiss⟩
      · exact absurd hresult hdepth
      · exact .inr ⟨rfl, fun hnone => Bool.false_ne_true ((hnone m hm).symm.trans hmiss)⟩
  refine ⟨houtcome, fun hcandid => ⟨fun ⟨n, hn⟩ => ?_, fun hnone => ?_⟩, ?_⟩
  · exact dispatchWithin_noneMissed hcandid depth a r trigger event n hn (by rw [ha]; nofun)
  · exact houtcome.resolve_right fun h => h.2 hnone
  · exact fun before m after hm q hq b => spent_of_missed hreach ha hq b hm

theorem echoing_quiet (callback : Text) (event : Data) :
    (echoing callback event).RaisesOnly fun _ => False := by
  rw [echoing]
  split
  · intro s echoed
    dsimp only
    split
    · trivial
    · rintro (f | n)
      · exact .inr rfl
      · trivial
  · trivial

/-- The nested dispatch calls a listener that the outer one is still to call. -/
theorem dispatch_returns_unless_missed_of_nested :
    let a : Binding := ⟨['a'], ['t'], ['a'], []⟩
    let b : Binding := ⟨['b'], ['t'], ['b'], [(.text ['o', 'n', 'c', 'e'], .bool true)]⟩
    let s : Store := ⟨[{ tag := ['e'], listeners := [a, b] }]⟩
    let p := dispatchWithin echoing 2 ⟨s, false, []⟩ 0 ['t'] .null
    (∀ callback event, (echoing callback event).RaisesOnly fun _ => False) ∧
      p.2 ≠ .error .exhausted ∧ p.2 = .error .notListening ∧ ¬ NoneMissed p.1.history ∧
      ∃ before m after, p.1.history = before ++ m :: after ∧ m.happening = .missed 0 b ∧
        Spent s 0 b before := by
  intro a b s p
  have hfails : p.2 = .error .notListening := rfl
  have hdepth : p.2 ≠ .error .exhausted := by rw [hfails]; nofun
  obtain ⟨houtcome, -, hspent⟩ :=
    dispatch_returns_unless_missed echoing_quiet (a := ⟨s, false, []⟩) rfl hdepth
  have hmissed := houtcome.resolve_left fun ⟨n, hn⟩ => nomatch hfails.symm.trans hn
  let m : Moment := ⟨.missed 0 b, ⟨[{ tag := ['e'], listeners := [a] }]⟩⟩
  have hh : p.1.history = p.1.history.take 4 ++ m :: p.1.history.drop 5 := rfl
  exact ⟨echoing_quiet, hdepth, hfails, hmissed.2, _, m, _, hh, rfl,
    (hspent _ m _ hh 0 (by decide) b).1 rfl⟩

/-- A dispatch may fail although no callback does: the listeners that are left to call are called
once, and a dispatch nested in the first call has called them. -/
theorem not_dispatch_returns_of_nested :
    ¬ ∀ callbacks : Callbacks Bool,
      (∀ callback event, (callbacks callback event).RaisesOnly fun _ => False) →
      ∀ (depth : Nat) (a : Activity Bool) (r : Ref) (trigger : Text) (event : Data),
        (dispatchWithin callbacks depth a r trigger event).2 ≠ .error .exhausted →
        ∃ n, (dispatchWithin callbacks depth a r trigger event).2 = .ok n := by
  intro hreturns
  let a : Binding := ⟨['a'], ['t'], ['a'], []⟩
  let b : Binding := ⟨['b'], ['t'], ['b'], [(.text ['o', 'n', 'c', 'e'], .bool true)]⟩
  let start : Activity Bool := ⟨⟨[{ tag := ['e'], listeners := [a, b] }]⟩, false, []⟩
  have hfails : (dispatchWithin echoing 2 start 0 ['t'] .null).2 = .error .notListening := rfl
  obtain ⟨n, hn⟩ := hreturns echoing echoing_quiet 2 start 0 ['t'] .null (by rw [hfails]; nofun)
  exact nomatch hfails.symm.trans hn

end Outline.Dom
