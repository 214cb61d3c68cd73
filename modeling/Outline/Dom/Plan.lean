import Outline.Dom.Dispatch

/-!
# Plans of callbacks

What a callback does on each of its calls may be settled beforehand.  Its **plan** lists an action
for each call, and the callback does nothing when no action is left.  Plans speak of elements and
bindings by names, which mean what they mean at the time of the call.

* `Plans.callbacks`: the scripts that follow plans.
* `dispatch`: an event dispatched on an element whose callbacks follow plans.
-/

namespace Outline.Dom

/-- What a callback does apart from being called. -/
inductive Action where
  | fail
  /-- An event dispatched on the element with a name. -/
  | dispatch (element trigger : Text) (event : Data)
  /-- A named binding added to the listeners of a named element. -/
  | listen (element binding : Text)
deriving Repr, Inhabited

/-- What callbacks do on their next calls, an action a call.  A callback without actions left
does nothing. -/
abbrev Plans := List (Text × List Action)

/-- The elements and bindings that plans refer to by name. -/
structure Names where
  elements : List (Text × Ref) := []
  bindings : List (Text × Binding) := []
deriving Repr, Inhabited

/-- The script of an action.  What an event that it dispatches ends with is passed on. -/
def Action.script (names : Names) (callback : Text) : Action → Script Plans
  | fail => .fail (.failed callback)
  | dispatch element trigger event =>
    match names.elements.lookup element with
    | none => .fail (.unknown element)
    | some r =>
      .dispatch r trigger event fun
        | .error f => .fail f
        | .ok n => .note callback n .done
  | listen element binding =>
    match names.elements.lookup element, names.bindings.lookup binding with
    | some r, some b => .listen r b .done
    | none, _ => .fail (.unknown element)
    | _, none => .fail (.unknown binding)

namespace Plans

def pop (callback : Text) : Plans → Option Action × Plans
  | [] => (none, [])
  | (c, actions) :: rest =>
    if c = callback then (actions.head?, (c, actions.tail) :: rest)
    else
      let (action, rest) := pop callback rest
      (action, (c, actions) :: rest)

def size : Plans → Nat
  | [] => 0
  | (_, actions) :: rest => actions.length + size rest

def callbacks (names : Names) : Callbacks Plans := fun callback _ =>
  .remember (fun _ plans => (plans.pop callback).2) fun _ plans =>
    match (plans.pop callback).1 with
    | none => .done
    | some action => action.script names callback

end Plans

/-- An event dispatched on an element.  Every nested dispatch uses up an action, so the number of
actions bounds the nesting. -/
def dispatch (names : Names) : Dispatcher Plans := fun a r trigger event =>
  dispatchWithin (Plans.callbacks names) (a.memory.size + 1) a r trigger event

/-! ## Calls -/

inductive Call where
  | called (callback : Text) (event : Data)
  /-- An event that a callback dispatched has called so many others. -/
  | nested (callback : Text) (count : Nat)
deriving Repr

def Happening.call? : Happening → Option Call
  | called _ b event => some (.called b.callback event)
  | noted callback n => some (.nested callback n)
  | _ => none

def Activity.calls {σ : Type} (a : Activity σ) : List Call :=
  a.history.filterMap (·.happening.call?)

end Outline.Dom
