import Outline.Settings
import Outline.Text.Lines
import Outline.Yaml.Value

/-!
# Loading settings

Settings are kept in a YAML document.  A document that is missing, empty or says nothing stands for
the defaults.

* `Settings.load`: the settings of a document.
-/

namespace Outline.Settings

inductive LoadFault where
  /-- It is no YAML. -/
  | malformed
  /-- It says something, but is no mapping. -/
  | notMapping
  /-- Some of its values are refused. -/
  | refused (refusals : List Refusal)
  /-- One of its scalars has no value. -/
  | scalar (fault : Yaml.ScalarFault)
deriving DecidableEq, Repr

def ofDocument (d : Data) : Except LoadFault Settings :=
  if d.truth then
    match d with
    | .dict entries => (ofEntries entries).mapError .refused
    | _ => .error .notMapping
  else .ok {}

def ofText (t : Text) : Except LoadFault Settings :=
  match Data.ofYaml t.unifyBreaks with
  | .error .malformed => .error .malformed
  | .error (.scalar f) => .error (.scalar f)
  | .ok d => ofDocument d

/-- The settings of a document, which may be missing. -/
def load : Option Text → Except LoadFault Settings
  | none => .ok {}
  | some t => ofText t

end Outline.Settings
