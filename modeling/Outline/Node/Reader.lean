import Outline.Node.Frame

/-!
# Reading a node

* `Node.read`: the node that a line describes, with the issues of the line.  It fails when the
  line has no tag, and when it has attributes but no separator to tell them apart.
-/

namespace Outline

namespace Node

inductive Fault where
  | missingTag
  /-- The line has attributes, and the separator is empty. -/
  | emptySeparator
deriving DecidableEq, Repr

def Fault.wording : Fault → Text
  | missingTag => "missing tag".toList
  | emptySeparator => "empty separator".toList

/-- The outcome of reading a line: the issues met, and the node or the fault. -/
structure Reading where
  issues : List Issue
  result : Except Fault Node

/-- The node that a line describes, when attributes are separated by `sep`. -/
def read (sep line : Text) : Reading :=
  match Frame.read line with
  | none => ⟨[], .error .missingTag⟩
  | some frame =>
    if sep = [] ∧ frame.attributes.isSome then ⟨frame.headIssues, .error .emptySeparator⟩
    else ⟨frame.issues sep, .ok (frame.node sep)⟩

end Node

end Outline
