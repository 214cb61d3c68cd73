import Outline.Event.Name
import Outline.Data
import Outline.Notice

/-!
# Bindings and their registry

A **binding** ties a callback to a kind of trigger under a name, and a **registry** holds the
bindings that templates may refer to.  Names may be registered again; the earliest binding of a
name stays in force.

* `Registry.register`: a binding added, refused when a part of it is missing.
* `Registry.lookup`, `Registry.contains`: the binding in force under a name, and whether there is
  one.
-/

namespace Outline

/-- A callback tied to a kind of trigger.  Callbacks are told apart by their names. -/
structure Binding where
  name : Text
  trigger : Text
  callback : Text
  options : List (Data × Data)
deriving Repr, Inhabited

namespace Binding

def same (a b : Binding) : Bool :=
  a.name == b.name && a.trigger == b.trigger && a.callback == b.callback
    && Data.same (.dict a.options) (.dict b.options)

/-- The binding is dropped after its first call: the option `once` is given and counts as set. -/
def once (b : Binding) : Bool :=
  b.options.any fun e => e.1.same (.text ['o', 'n', 'c', 'e']) && e.2.truth

end Binding

structure Registry where
  bindings : List Binding := []
deriving Repr, Inhabited

namespace Registry

/-- The parts that a binding needs. -/
inductive Part where
  | name
  | trigger
  | callback
deriving DecidableEq, Repr

def Part.label : Part → Text
  | name => "name".toList
  | trigger => "trigger_type".toList
  | callback => "callback".toList

def Part.wording (p : Part) : Text := "Missing required field: ".toList ++ p.label

def lookup (r : Registry) (name : Text) : Option Binding :=
  r.bindings.find? fun b => b.name == Event.plainName name

/-- A value is known when it is a name with a binding in force. -/
def contains (r : Registry) : Data → Bool
  | .text name => (r.lookup name).isSome
  | _ => false

def given : Option Text → Option Text
  | some [] => none
  | t => t

/-- The binding that the parts of a registration make up, or the first part that is missing.  An
empty name or trigger is a missing one. -/
def bindingOf (name trigger callback : Option Text) (options : List (Data × Data)) :
    Except Part Binding :=
  match given name, given trigger, callback with
  | none, _, _ => .error .name
  | _, none, _ => .error .trigger
  | _, _, none => .error .callback
  | some n, some t, some c => .ok ⟨Event.plainName n, t, c, options⟩

def add (r : Registry) (b : Binding) : Registry := ⟨r.bindings ++ [b]⟩

def notices (r : Registry) (b : Binding) : List Notice :=
  if (r.lookup b.name).isSome then [.repeated b.name] else []

def register (r : Registry) (name trigger callback : Option Text)
    (options : List (Data × Data)) : Except Part (Registry × Binding × List Notice) :=
  (bindingOf name trigger callback options).map fun b => (r.add b, b, r.notices b)

end Registry

end Outline
