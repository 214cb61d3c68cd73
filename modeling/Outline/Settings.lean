import Outline.Data

/-!
# Settings

How templates are read and built: the marker that counts depth, the separator between attributes,
whether character references in content are resolved, and the tag of the container that trees are
put into when none is given.

* `Mark`: a character that is not blank, which is what a marker and a separator have to be.
* `Settings.ofData`: the settings that a value describes, or all that is wrong with it.
* `Settings.setSeparator`: a change of one setting, under the same rules.
-/

namespace Outline

/-- A character that can be told from white space. -/
structure Mark where
  char : Char
  visible : Text.isBlank char = false
deriving DecidableEq, Repr

def Mark.greater : Mark := ⟨'>', by decide⟩

def Mark.semicolon : Mark := ⟨';', by decide⟩

/-- The settings under which templates are read and built. -/
structure Settings where
  marker : Mark := .greater
  separator : Mark := .semicolon
  decodesReferences : Bool := true
  container : Text := ['b', 'o', 'd', 'y']
deriving DecidableEq, Repr

/-! ## Refusals -/

namespace Settings

inductive Field where
  | marker
  | separator
  | decodesReferences
  | container
deriving DecidableEq, Repr

def Field.name : Field → Text
  | marker => "marker".toList
  | separator => "attribute_separator".toList
  | decodesReferences => "decode_entities".toList
  | container => "container".toList

inductive Cause where
  /-- The settings are no mapping. -/
  | notMapping
  /-- The value is no text. -/
  | notText
  /-- The value is a sequence of bytes that is no text. -/
  | notUnicode
  /-- The text is not a single character other than white space. -/
  | notMark
  /-- The value is of a kind that no truth value is written in. -/
  | notTruthValue
  /-- The value is of such a kind, but means neither true nor false. -/
  | unknownTruthValue
deriving DecidableEq, Repr

def Cause.wording : Cause → Text
  | notMapping => "Input should be a valid dictionary or instance of BuilderConfig".toList
  | notText => "Input should be a valid string".toList
  | notUnicode =>
    "Input should be a valid string, unable to parse raw data as a unicode string".toList
  | notMark => "Value error, must be a single non-whitespace character".toList
  | notTruthValue => "Input should be a valid boolean".toList
  | unknownTruthValue => "Input should be a valid boolean, unable to interpret input".toList

/-- A refused value and the setting that it was meant for, if it was meant for one. -/
structure Refusal where
  field : Option Field
  cause : Cause
deriving DecidableEq, Repr

/-! ## Reading values -/

def decodeBytes (bs : List UInt8) : Option Text :=
  (String.fromUTF8? ⟨bs.toArray⟩).map String.toList

/-- The text that a value stands for. -/
def readText : Data → Except Cause Text
  | .text t => .ok t
  | .bytes bs => ((decodeBytes bs).map Except.ok).getD (.error .notUnicode)
  | _ => .error .notText

def markOf : Text → Except Cause Mark
  | [c] => if h : Text.isBlank c = false then .ok ⟨c, h⟩ else .error .notMark
  | _ => .error .notMark

def readMark (d : Data) : Except Cause Mark := (readText d).bind markOf

def truthWords : List (List String × Bool) :=
  [(["1", "on", "t", "true", "y", "yes"], true), (["0", "off", "f", "false", "n", "no"], false)]

/-- The truth value that a word means; the case of ASCII letters does not matter. -/
def truthOfWord (t : Text) : Except Cause Bool :=
  let word := String.ofList (t.map Char.toLower)
  match truthWords.find? fun entry => entry.1.contains word with
  | some entry => .ok entry.2
  | none => .error .unknownTruthValue

def least64 : Int := -9223372036854775808

/-- The truth value that a whole number stands for.  Numbers of at most 64 bits are of a kind that
truth values are written in, but only zero and one mean any. -/
def truthOfInt (n : Int) : Except Cause Bool :=
  if n = 0 then .ok false
  else if n = 1 then .ok true
  else if least64 ≤ n ∧ n < -least64 then .error .unknownTruthValue
  else .error .notTruthValue

/-- The truth value that a value stands for.  A double counts as the whole number that it is, unless
that is the least one. -/
def readTruth : Data → Except Cause Bool
  | .bool b => .ok b
  | .text t => truthOfWord t
  | .bytes bs => ((decodeBytes bs).map truthOfWord).getD (.error .unknownTruthValue)
  | .int n => truthOfInt n
  | .double x =>
    match x.toInt? with
    | some n => if n = least64 then .error .notTruthValue else truthOfInt n
    | none => .error .notTruthValue
  | _ => .error .notTruthValue

/-! ## Reading settings -/

/-- The value of a field, its default when it is absent, or the refusal of it. -/
def readField {α : Type} (field : Field) (read : Data → Except Cause α) (default : α)
    (entries : List (Data × Data)) : Except Refusal α :=
  match Data.get field.name entries with
  | none => .ok default
  | some d => (read d).mapError fun cause => ⟨some field, cause⟩

def refusals {α : Type} : Except Refusal α → List Refusal
  | .error r => [r]
  | .ok _ => []

/-- The settings that the entries of a mapping describe; unknown names mean nothing. -/
def ofEntries (entries : List (Data × Data)) : Except (List Refusal) Settings :=
  let defaults : Settings := {}
  let marker := readField .marker readMark defaults.marker entries
  let separator := readField .separator readMark defaults.separator entries
  let decodes := readField .decodesReferences readTruth defaults.decodesReferences entries
  let container := readField .container readText defaults.container entries
  match marker, separator, decodes, container with
  | .ok m, .ok s, .ok d, .ok c => .ok ⟨m, s, d, c⟩
  | _, _, _, _ =>
    .error (refusals marker ++ refusals separator ++ refusals decodes ++ refusals container)

/-- The settings that a value describes, or all that is wrong with it. -/
def ofData : Data → Except (List Refusal) Settings
  | .dict entries => ofEntries entries
  | _ => .error [⟨none, .notMapping⟩]

/-- The settings with another separator. -/
def setSeparator (s : Settings) (d : Data) : Except Refusal Settings :=
  match readMark d with
  | .ok m => .ok { s with separator := m }
  | .error cause => .error ⟨some .separator, cause⟩

end Settings

end Outline
