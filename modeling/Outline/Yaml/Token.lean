import Outline.Text.Basic

/-!
# Tokens

The tokens that a document is made of: indicators, scalars, properties of nodes, directives, and
the starts and ends of blocks, which are told from the indentation.
-/

namespace Outline.Yaml

/-- A token of a document. -/
inductive Token where
  | versionDirective (major : Nat)
  | tagDirective (handle start : Text)
  | otherDirective
  | documentStart
  | documentEnd
  | blockSequenceStart
  | blockMappingStart
  | blockEnd
  | flowSequenceStart
  | flowSequenceEnd
  | flowMappingStart
  | flowMappingEnd
  | blockEntry
  | flowEntry
  | key
  | value
  | alias (name : Text)
  | anchor (name : Text)
  /-- A tag: a handle that is declared elsewhere, unless the tag is complete, and what follows. -/
  | tag (handle : Option Text) (suffix : Text)
  /-- A scalar; a plain one is written without quotes or an indicator. -/
  | scalar (text : Text) (plain : Bool)
deriving DecidableEq, Repr

end Outline.Yaml
