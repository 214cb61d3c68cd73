import Outline.Text.Basic

/-!
# Options

Arguments that start with a hyphen are **options**: a long name behind two hyphens, or short names
behind one.  Some take a value, which follows an equals sign, the short name or a blank.  Two
hyphens alone end the options.

* `Options.parse`: the options and the other arguments of a command.
-/

namespace Outline.Command

structure OptionSpec (κ : Type) where
  key : κ
  long : Text
  short : Option Char := none
  takesValue : Bool := false

structure Parsed (κ : Type) where
  options : List (κ × Text)
  others : List Text

namespace Options

variable {κ : Type}

/-- What an argument with options amounts to: the options that are complete, and the one that takes
the next argument as its value. -/
structure Group (κ : Type) where
  complete : List (κ × Text)
  waiting : Option κ := none

def shortGroup (specs : List (OptionSpec κ)) : Text → Option (Group κ)
  | [] => some ⟨[], none⟩
  | c :: rest =>
    match specs.find? fun s => s.short == some c with
    | none => none
    | some s =>
      if s.takesValue then
        some (if rest = [] then ⟨[], some s.key⟩ else ⟨[(s.key, rest)], none⟩)
      else (shortGroup specs rest).map fun g => { g with complete := (s.key, []) :: g.complete }

def longGroup (specs : List (OptionSpec κ)) (t : Text) : Option (Group κ) :=
  let (name, value) : Text × Option Text :=
    match t.cut '=' with
    | some (name, value) => (name, some value)
    | none => (t, none)
  match specs.find? fun s => s.long == name with
  | none => none
  | some s =>
    match s.takesValue, value with
    | true, some v => some ⟨[(s.key, v)], none⟩
    | true, none => some ⟨[], some s.key⟩
    | false, some _ => none
    | false, none => some ⟨[(s.key, [])], none⟩

/-- What an argument stands for that starts with a hyphen. -/
def group (specs : List (OptionSpec κ)) : Text → Option (Group κ)
  | '-' :: '-' :: name => longGroup specs name
  | '-' :: names => shortGroup specs names
  | _ => none

def isOption : Text → Bool
  | '-' :: _ :: _ => true
  | _ => false

/-- The options and the other arguments, when an option may wait for its value.  If options may not
be mixed with the others, the first other argument ends them.  An unknown option and a missing
value are refused. -/
def parseFrom (specs : List (OptionSpec κ)) (mixed : Bool) :
    Option κ → List Text → Option (Parsed κ)
  | some _, [] => none
  | some key, value :: rest =>
    (parseFrom specs mixed none rest).map fun p => { p with options := (key, value) :: p.options }
  | none, [] => some ⟨[], []⟩
  | none, arg :: rest =>
    if arg = ['-', '-'] then some ⟨[], rest⟩
    else if isOption arg then
      match group specs arg with
      | none => none
      | some g =>
        (parseFrom specs mixed g.waiting rest).map fun p =>
          { p with options := g.complete ++ p.options }
    else if mixed then
      (parseFrom specs mixed none rest).map fun p => { p with others := arg :: p.others }
    else some ⟨[], arg :: rest⟩

def parse (specs : List (OptionSpec κ)) (mixed : Bool) (args : List Text) : Option (Parsed κ) :=
  parseFrom specs mixed none args

end Options

def Parsed.has {κ : Type} [BEq κ] (p : Parsed κ) (key : κ) : Bool :=
  p.options.any fun o => o.1 == key

/-- The value of an option; of several the last. -/
def Parsed.value {κ : Type} [BEq κ] (p : Parsed κ) (key : κ) : Option Text :=
  p.options.reverse.lookup key

end Outline.Command
