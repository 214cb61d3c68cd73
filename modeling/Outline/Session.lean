import Outline.Dom.Plan
import Outline.Dom.Generation

/-!
# Sessions

A **session** is the work with one set of settings, one registry and one store.  Its elements and
bindings are known by names, which may be given again; a name means what it was given to last.

* `Session.register`, `Session.generate`, `Session.dispatch`: the operations on all of a session.
* `Session.learn`: what a callback does when it is called, which is settled once.
-/

namespace Outline

/-- Settings, bindings and elements that belong together. -/
structure Session where
  settings : Settings := {}
  registry : Registry := {}
  store : Dom.Store := {}
  names : Dom.Names := {}
  plans : Dom.Plans := []
deriving Repr

namespace Session

/-! ## Names -/

def element? (s : Session) (name : Text) : Option Dom.Ref := s.names.elements.lookup name

def binding? (s : Session) (name : Text) : Option Binding := s.names.bindings.lookup name

def nameElement (s : Session) (name : Text) (r : Dom.Ref) : Session :=
  { s with names := { s.names with elements := (name, r) :: s.names.elements } }

def nameBinding (s : Session) (name : Text) (b : Binding) : Session :=
  { s with names := { s.names with bindings := (name, b) :: s.names.bindings } }

/-- The session in which several elements are named by a stem and their positions. -/
def nameElements (s : Session) (stem : Text) (refs : List Dom.Ref) : Session :=
  refs.zipIdx.foldl (fun s p => s.nameElement (stem ++ Text.ofNat p.2) p.1) s

/-! ## Callbacks and bindings -/

/-- The session in which a callback has a plan, which is the one it was given first. -/
def learn (s : Session) (callback : Text) (actions : List Dom.Action) : Session :=
  if (s.plans.lookup callback).isSome then s
  else { s with plans := s.plans ++ [(callback, actions)] }

def register (s : Session) (name trigger callback : Option Text)
    (options : List (Data × Data)) :
    Except Registry.Part (Session × Binding × List Notice) :=
  (s.registry.register name trigger callback options).map fun p =>
    ({ s with registry := p.1 }, p.2)

def setSeparator (s : Session) (d : Data) : Except Settings.Refusal Session :=
  (s.settings.setSeparator d).map fun settings => { s with settings := settings }

/-! ## Elements -/

def create (s : Session) (tag : Text) : Session × Dom.Ref :=
  ({ s with store := s.store.create tag }, s.store.next)

def update (s : Session) (r : Dom.Ref) (f : Dom.Element → Dom.Element) : Session :=
  { s with store := s.store.update r f }

def mount (s : Session) (container : Dom.Ref) (roots : List Dom.Ref) : Session :=
  { s with store := s.store.mount container roots }

def generate (s : Session) (template : Text) (container : Option Dom.Ref) :
    List Notice × Except Dom.Generation.Refusal (Session × Dom.Generated) :=
  let (notices, result) := s.store.generate s.settings s.registry template container
  (notices, result.map fun p => ({ s with store := p.1 }, p.2))

/-- The session after an event is dispatched on an element, the calls made, and how many of them
the event itself made. -/
def dispatch (s : Session) (r : Dom.Ref) (trigger : Text) (event : Data) :
    Session × List Dom.Call × Except Dom.Fault Nat :=
  let (a, result) := Dom.dispatch s.names ⟨s.store, s.plans, []⟩ r trigger event
  ({ s with store := a.store, plans := a.memory }, a.calls, result)

end Session

end Outline
