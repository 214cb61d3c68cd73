import Outline.Dom.Store
import Outline.Template
import Outline.Reference.Decoding

/-!
# Building a forest

A forest becomes live elements by a sequence of **steps**, the only things that a host has to be
able to do.  The steps name the elements that they make by counting them.  Content is decoded by
whatever the host brings along, and content that it refuses to decode refuses the forest as a whole.

* `Building.steps`: the steps that build a forest, and the elements that they make of its roots.
* `Building.notices`: the events of a forest that no binding is registered for.
* `Store.perform`: a step carried out on a store.
-/

namespace Outline.Dom

/-- A step of building.  Elements are numbered from zero in the order of their making. -/
inductive Step where
  | create (tag : Text)
  | applyClass (element : Nat) (name : Text)
  | setId (element : Nat) (id : Text)
  | setAttribute (element : Nat) (name : Text) (value : Option Text)
  | appendText (element : Nat) (data : Text)
  | bind (element : Nat) (binding : Binding)
  | addChild (parent child : Nat)
deriving Repr

namespace Building

variable {ε : Type}

/-- How content and event names are understood.  Decoding may come to faults of any type. -/
structure Means (ε : Type := Reference.Overlong) where
  /-- The text that content stands for, or what is wrong with it. -/
  decode : Text → Except ε Text
  /-- The binding that an event name refers to. -/
  lookup : Text → Option Binding

def idSteps (n : Nat) (id : Option Text) : List Step :=
  (nonempty id).toList.map (.setId n)

/-- The text that the content of a node stands for, none when there is no content. -/
def Means.content (m : Means ε) (d : Node) : Except ε (Option Text) :=
  match nonempty d.content with
  | none => .ok none
  | some t => (m.decode t).map some

def contentSteps (m : Means ε) (n : Nat) (d : Node) : List Step :=
  match m.content d with
  | .ok (some t) => [.appendText n t]
  | _ => []

/-- The steps that make the element with a number from a node, before it gets children. -/
def ownSteps (m : Means ε) (n : Nat) (d : Node) : List Step :=
  .create d.tag :: d.classes.map (.applyClass n) ++ idSteps n d.id
    ++ d.attributes.map (fun a => .setAttribute n a.name a.value)
    ++ contentSteps m n d ++ (d.events.filterMap m.lookup).map (.bind n)

mutual

def count : Tree Item → Nat
  | .node _ ts => 1 + countAll ts

def countAll : List (Tree Item) → Nat
  | [] => 0
  | t :: ts => count t + countAll ts

end

mutual

def treeSteps (m : Means ε) (n : Nat) : Tree Item → List Step
  | .node i ts => ownSteps m n i.node ++ childSteps m n (n + 1) ts

def childSteps (m : Means ε) (parent n : Nat) : List (Tree Item) → List Step
  | [] => []
  | t :: ts => treeSteps m n t ++ .addChild parent n :: childSteps m parent (n + count t) ts

end

/-- The steps that build a forest, whose first root gets the number `n`, and the numbers of all
roots. -/
def stepsFrom (m : Means ε) (n : Nat) : Forest → List Step × List Nat
  | [] => ([], [])
  | t :: ts =>
    let (steps, roots) := stepsFrom m (n + count t) ts
    (treeSteps m n t ++ steps, n :: roots)

/-- The first content of a forest that cannot be decoded. -/
def check (m : Means ε) (f : Forest) : Except ε Unit :=
  (Tree.walkAll f).forM fun i => (m.content i.node).map fun _ => ()

def steps (m : Means ε) (f : Forest) : Except ε (List Step × List Nat) :=
  (check m f).map fun _ => stepsFrom m 0 f

def unresolved (m : Means ε) (i : Item) : List Notice :=
  (i.node.events.filter fun name => (m.lookup name).isNone).map (.unresolved i.line)

def isDecodable (m : Means ε) (i : Item) : Bool :=
  match m.content i.node with
  | .ok _ => true
  | .error _ => false

/-- The events of a forest that no binding is registered for, in the order of building, up to the
first content that cannot be decoded. -/
def notices (m : Means ε) (f : Forest) : List Notice :=
  ((Tree.walkAll f).takeWhile (isDecodable m)).flatMap (unresolved m)

end Building

namespace Store

variable {ε : Type}

/-- The store after a step, when the element with number zero is at the position `base`. -/
def perform (base : Ref) (s : Store) : Step → Store
  | .create tag => s.create tag
  | .applyClass n name => s.update (base + n) (·.addClass name)
  | .setId n id => s.update (base + n) (·.setId (some id))
  | .setAttribute n name value => s.update (base + n) (·.setAttribute name value)
  | .appendText n data => s.update (base + n) (·.addText data)
  | .bind n b => s.update (base + n) (·.addListener b)
  | .addChild p c => s.append (base + p) (base + c)

/-- The store after steps, when the element with number zero is the next one made. -/
def performAll (s : Store) (steps : List Step) : Store := steps.foldl (perform s.next) s

def build (s : Store) (m : Building.Means ε) (f : Forest) :
    Except ε (Store × List Ref) :=
  (Building.steps m f).map fun p => (s.performAll p.1, p.2.map (s.next + ·))

end Store

end Outline.Dom
