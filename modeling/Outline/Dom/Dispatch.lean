import Outline.Dom.Store

/-!
# Dispatching events

An event that is dispatched on an element calls every binding that listens for its trigger, in
binding order.  A binding that is meant to be called once is taken from the listeners before it is
called.  The listeners are those at the beginning of the dispatch, also when they change in the
course of it: callbacks may dispatch events and add listeners in turn.

A callback is a **script**: what it does next may depend on the elements, on what callbacks
remember, and on what came of the events that it dispatched.  What happens meanwhile is kept as a
list of **moments**.

* `Script.run`: a script carried out.
* `deliver`: the listeners of an element called, one after the other.
* `dispatchWithin`: an event dispatched on an element.
-/

namespace Outline.Dom

/-- Why a dispatch ends early. -/
inductive Fault where
  /-- The callback failed. -/
  | failed (callback : Text)
  /-- A binding to be dropped is no listener any more. -/
  | notListening
  /-- There is no element or binding with the name. -/
  | unknown (name : Text)
  /-- The callbacks called each other more often than they had actions. -/
  | exhausted
deriving DecidableEq, Repr

def Fault.wording : Fault → Text
  | failed callback => "callback ".toList ++ callback ++ " failed".toList
  | notListening => "list.remove(x): x not in list".toList
  | unknown name => "unknown name ".toList ++ name.quoted
  | exhausted => "callbacks call each other without end".toList

/-! ## What happens -/

/-- What happens in the course of a dispatch. -/
inductive Happening where
  /-- A listener is added to an element. -/
  | added (element : Ref) (binding : Binding)
  /-- The callback of a listener starts. -/
  | called (element : Ref) (binding : Binding) (event : Data)
  /-- A listener to be dropped is no listener any more. -/
  | missed (element : Ref) (binding : Binding)
  /-- A dispatch ends. -/
  | ended (element : Ref) (trigger : Text) (result : Except Fault Nat)
  /-- A callback notes how many others an event that it dispatched has called. -/
  | noted (callback : Text) (count : Nat)

/-- What happens, and the store at that time. -/
structure Moment where
  happening : Happening
  store : Store

/-- What a dispatch changes: the store, and what callbacks remember. -/
structure Activity (σ : Type) where
  store : Store
  memory : σ
  history : List Moment := []

namespace Activity

variable {σ : Type}

def note (a : Activity σ) (h : Happening) : Activity σ :=
  { a with history := a.history ++ [⟨h, a.store⟩] }

def listen (a : Activity σ) (r : Ref) (b : Binding) : Activity σ :=
  { a with store := a.store.update r (·.addListener b) }.note (.added r b)

end Activity

/-- The listeners without the first binding that equals the given one, if there is one. -/
def removeListener (b : Binding) : List Binding → Option (List Binding)
  | [] => none
  | c :: rest => if c.same b then some rest else (removeListener b rest).map (c :: ·)

/-- The activity after a binding that is called once is taken from the listeners. -/
def Activity.release {σ : Type} (a : Activity σ) (r : Ref) (b : Binding) :
    Except Fault (Activity σ) :=
  if b.once then
    match removeListener b (a.store.get r).listeners with
    | none => .error .notListening
    | some left => .ok { a with store := a.store.update r fun e => { e with listeners := left } }
  else .ok a

/-! ## Callbacks -/

/-- What a callback does when it is called, one thing after the other. -/
inductive Script (σ : Type) where
  | done
  | fail (fault : Fault)
  /-- Something is remembered; what comes next depends on what was remembered before. -/
  | remember (change : Store → σ → σ) (next : Store → σ → Script σ)
  | note (callback : Text) (count : Nat) (next : Script σ)
  /-- A binding added to the listeners of an element. -/
  | listen (element : Ref) (binding : Binding) (next : Script σ)
  /-- An event dispatched on an element; what comes next depends on what came of it. -/
  | dispatch (element : Ref) (trigger : Text) (event : Data)
      (next : Except Fault Nat → Script σ)

/-- What each callback does when it is called with an event. -/
abbrev Callbacks (σ : Type) := Text → Data → Script σ

/-- A way to dispatch events. -/
abbrev Dispatcher (σ : Type) := Activity σ → Ref → Text → Data → Activity σ × Except Fault Nat

variable {σ : Type}

/-- A script carried out.  A callback that gets an event dispatched may go on when that fails,
unless the callbacks are exhausted. -/
def Script.run (again : Dispatcher σ) : Script σ → Activity σ → Activity σ × Except Fault Unit
  | done, a => (a, .ok ())
  | fail f, a => (a, .error f)
  | remember change next, a =>
    (next a.store a.memory).run again { a with memory := change a.store a.memory }
  | note callback n next, a => next.run again (a.note (.noted callback n))
  | listen r b next, a => next.run again (a.listen r b)
  | dispatch r trigger event next, a =>
    match again a r trigger event with
    | (a, .error .exhausted) => (a, .error .exhausted)
    | (a, result) => (next result).run again a

/-! ## Dispatching -/

/-- The bindings of a list that listen for a trigger called in order, after `called` others. -/
def deliver (callbacks : Callbacks σ) (again : Dispatcher σ) (r : Ref) (trigger : Text)
    (event : Data) : List Binding → Nat → Activity σ → Activity σ × Except Fault Nat
  | [], called, a => (a, .ok called)
  | b :: rest, called, a =>
    if b.trigger = trigger then
      match a.release r b with
      | .error f => (a.note (.missed r b), .error f)
      | .ok a =>
        match (callbacks b.callback event).run again (a.note (.called r b event)) with
        | (a, .error f) => (a, .error f)
        | (a, .ok ()) => deliver callbacks again r trigger event rest (called + 1) a
    else deliver callbacks again r trigger event rest called a

/-- An event dispatched on an element, with events nested at most `depth` levels. -/
def dispatchWithin (callbacks : Callbacks σ) : Nat → Dispatcher σ
  | 0, a, _, _, _ => (a, .error .exhausted)
  | depth + 1, a, r, trigger, event =>
    let listeners := (a.store.get r).listeners
    let (a, result) :=
      deliver callbacks (dispatchWithin callbacks depth) r trigger event listeners 0 a
    (a.note (.ended r trigger result), result)

end Outline.Dom
