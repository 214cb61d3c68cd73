import Outline.Proofs.Dom.Building

/-!
# Runs that end early

The steps of a forest are made one after the other, and content is decoded when its turn comes.  So
a forest that is refused has been begun: its **run** ends before the text that cannot be made, and
an element that is not finished is attached to none.

* `Building.run`: the run of a forest.
* `Building.run_begins`: a run is the beginning of the steps of its forest, and all of them if it
  does not end early.
* `Building.steps_eq_run`: a forest has steps exactly when its run does not end early.
-/

namespace Outline.Dom.Building

variable {ε : Type} {m : Means ε}

/-- Steps that are made, and why there are no more of them if they end early. -/
structure Run (ε : Type) where
  steps : List Step
  fault : Option ε
deriving Repr

namespace Run

def made (steps : List Step) : Run ε := ⟨steps, none⟩

/-- A run with another one behind it, which is not begun when the first ends early. -/
def andThen (a b : Run ε) : Run ε :=
  match a.fault with
  | none => ⟨a.steps ++ b.steps, b.fault⟩
  | some o => ⟨a.steps, some o⟩

def outcome (a : Run ε) : Except ε Unit :=
  match a.fault with
  | none => .ok ()
  | some o => .error o

/-- The run makes the first of some steps, or all of them if it does not end early. -/
structure Begins (a : Run ε) (steps : List Step) : Prop where
  first : a.steps <+: steps
  all : a.fault = none → a.steps = steps

variable {a b : Run ε} {l k : List Step}

theorem begins_made (l : List Step) : (made l : Run ε).Begins l :=
  ⟨List.prefix_refl l, fun _ => rfl⟩

theorem Begins.andThen (ha : a.Begins l) (hb : b.Begins k) : (a.andThen b).Begins (l ++ k) := by
  rcases a with ⟨steps, _ | o⟩
  · obtain rfl := ha.all rfl
    refine ⟨(List.prefix_append_right_inj steps).mpr hb.first, fun h => ?_⟩
    exact congrArg (steps ++ ·) (hb.all h)
  · exact ⟨ha.first.trans (List.prefix_append l k), fun h => absurd h (Option.some_ne_none o)⟩

theorem outcome_andThen (a b : Run ε) :
    (a.andThen b).outcome = a.outcome.bind fun _ => b.outcome := by
  rcases a with ⟨steps, _ | o⟩ <;> rfl

theorem fault_of_outcome (h : a.outcome = .ok ()) : a.fault = none := by
  rcases a with ⟨steps, _ | o⟩
  · rfl
  · exact absurd h nofun

end Run

/-! ### The run of a forest -/

def earlySteps (n : Nat) (d : Node) : List Step :=
  .create d.tag :: d.classes.map (.applyClass n) ++ idSteps n d.id
    ++ d.attributes.map (fun a => .setAttribute n a.name a.value)

def ownRun (m : Means ε) (n : Nat) (d : Node) : Run ε :=
  match m.content d with
  | .ok _ => .made (ownSteps m n d)
  | .error o => ⟨earlySteps n d, some o⟩

mutual

def treeRun (m : Means ε) (n : Nat) : Tree Item → Run ε
  | .node i ts => (ownRun m n i.node).andThen (childRun m n (n + 1) ts)

/-- The run of the children of an element.  A child is attached when it is finished. -/
def childRun (m : Means ε) (parent n : Nat) : List (Tree Item) → Run ε
  | [] => .made []
  | t :: ts =>
    (treeRun m n t).andThen
      ((Run.made [.addChild parent n]).andThen (childRun m parent (n + count t) ts))

end

def runFrom (m : Means ε) (n : Nat) : Forest → Run ε
  | [] => .made []
  | t :: ts => (treeRun m n t).andThen (runFrom m (n + count t) ts)

def run (m : Means ε) (f : Forest) : Run ε := runFrom m 0 f

/-! ### Runs and steps -/

theorem ownRun_begins (m : Means ε) (n : Nat) (d : Node) :
    (ownRun m n d).Begins (ownSteps m n d) := by
  rw [ownRun]
  cases m.content d with
  | ok c => exact Run.begins_made _
  | error o =>
    have happend : ownSteps m n d = earlySteps n d ++
        (contentSteps m n d ++ (d.events.filterMap m.lookup).map (.bind n)) := by
      rw [ownSteps, earlySteps, List.append_assoc, List.append_assoc]
    rw [happend]
    exact ⟨List.prefix_append _ _, fun h => absurd h (Option.some_ne_none o)⟩

mutual

theorem treeRun_begins (m : Means ε) (n : Nat) :
    ∀ t : Tree Item, (treeRun m n t).Begins (treeSteps m n t)
  | .node i ts => by
    rw [treeRun, treeSteps]
    exact (ownRun_begins m n i.node).andThen (childRun_begins m n (n + 1) ts)

theorem childRun_begins (m : Means ε) (p n : Nat) :
    ∀ ts : List (Tree Item), (childRun m p n ts).Begins (childSteps m p n ts)
  | [] => Run.begins_made []
  | t :: ts => by
    rw [childRun, childSteps]
    exact (treeRun_begins m n t).andThen
      ((Run.begins_made _).andThen (childRun_begins m p (n + count t) ts))

end

theorem runFrom_begins (m : Means ε) (n : Nat) (f : Forest) :
    (runFrom m n f).Begins (stepsFrom m n f).1 := by
  induction f generalizing n with
  | nil => exact Run.begins_made []
  | cons t f ih => exact (treeRun_begins m n t).andThen (ih (n + count t))

/-- **A run is the beginning of the steps of its forest.** -/
theorem run_begins (m : Means ε) (f : Forest) : (run m f).Begins (stepsFrom m 0 f).1 :=
  runFrom_begins m 0 f

/-! ### What comes of runs -/

theorem check_cons (m : Means ε) (t : Tree Item) (ts : Forest) :
    check m (t :: ts) = (check m [t]).bind fun _ => check m ts :=
  check_append m [t] ts

theorem check_node (m : Means ε) (i : Item) (ts : Forest) :
    check m [.node i ts] = (ownRun m 0 i.node).outcome.bind fun _ => check m ts := by
  have hwalk : Tree.walkAll [Tree.node i ts] = i :: Tree.walkAll ts := List.append_nil _
  rw [check, hwalk, List.forM_eq_forM, List.forM_cons, ownRun, check, List.forM_eq_forM]
  cases m.content i.node <;> rfl

theorem outcome_ownRun (m : Means ε) (n : Nat) (d : Node) :
    (ownRun m n d).outcome = (ownRun m 0 d).outcome := by
  rw [ownRun, ownRun]
  cases m.content d <;> rfl

mutual

theorem outcome_treeRun (m : Means ε) (n : Nat) :
    ∀ t : Tree Item, (treeRun m n t).outcome = check m [t]
  | .node i ts => by
    rw [treeRun, Run.outcome_andThen, outcome_childRun m n (n + 1) ts, outcome_ownRun, check_node]

theorem outcome_childRun (m : Means ε) (p n : Nat) :
    ∀ ts : List (Tree Item), (childRun m p n ts).outcome = check m ts
  | [] => rfl
  | t :: ts => by
    rw [childRun, Run.outcome_andThen, outcome_treeRun m n t, Run.outcome_andThen,
      outcome_childRun m p (n + count t) ts, check_cons m t ts]
    rfl

end

theorem outcome_runFrom (m : Means ε) (n : Nat) (f : Forest) :
    (runFrom m n f).outcome = check m f := by
  induction f generalizing n with
  | nil => rfl
  | cons t f ih => rw [runFrom, Run.outcome_andThen, outcome_treeRun, ih, check_cons m t f]

/-- **A forest has steps exactly when its run does not end early**, and then the run makes them. -/
theorem steps_eq_run (m : Means ε) (f : Forest) :
    steps m f = (run m f).outcome.map fun _ => ((run m f).steps, (stepsFrom m 0 f).2) := by
  have houtcome : (run m f).outcome = check m f := outcome_runFrom m 0 f
  rw [steps, houtcome]
  cases hcheck : check m f with
  | error o => rfl
  | ok _ =>
    have hall := (run_begins m f).all (Run.fault_of_outcome (houtcome.trans hcheck))
    rw [hall]

end Outline.Dom.Building
