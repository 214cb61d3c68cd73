import Outline.Command.Run

/-!
# The reach of a command line

A run looks at few places of a file system: those that the paths it is given lead through, and
those where settings may be found.  They can be told from the command line alone.

* `Invocation.reach`: the places that a run may look at.
-/

namespace Outline.Command

/-- The places that the parts of a path lead through from a place, whatever stands there. -/
def placesFrom (start : Place) : List Text → List Place
  | [] => [start]
  | part :: rest =>
    start :: placesFrom (if part = Path.up then start.dropLast else start ++ [part]) rest

def placesOf (cwd : Place) (p : Path) : List Place :=
  placesFrom (if p.isAbsolute then [] else cwd) p.parts

def settingsCandidates (cwd : Place) : List Path :=
  (Path.selfAndParents ⟨['/'], cwd⟩).map fun p => p.child settingsName

def Job.paths (cwd : Place) (j : Job) : List Path :=
  let output :=
    match j.task with
    | .render output _ _ => output.toList
    | .tree => []
  let settings :=
    match j.config with
    | some path => [path]
    | none => settingsCandidates cwd
  j.template :: settings ++ output

/-- The places that a run may look at. -/
def Invocation.reach (cwd : Place) : Invocation → List Place
  | .version => []
  | .job j => (j.paths cwd).flatMap (placesOf cwd)

end Outline.Command
