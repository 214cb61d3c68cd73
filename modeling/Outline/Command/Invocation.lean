import Outline.Command.Options
import Outline.Files.Path

/-!
# Invocations

What the arguments of the command line ask for.  The options that print help and that install or
show the completion of a shell are left out, and taken for options that are unknown.

* `Invocation.ofArguments`: the invocation that arguments stand for, if they are in order.
-/

namespace Outline.Command

inductive Task where
  /-- Its markup is printed or written to a file, as a page of its own or not. -/
  | render (output : Option Path) (page : Bool) (title : Text)
  /-- Its trees are listed. -/
  | tree
deriving DecidableEq, Repr

structure Job where
  task : Task
  template : Path
  config : Option Path
  verbose : Bool
deriving DecidableEq, Repr

inductive Invocation where
  | version
  | job (job : Job)
deriving DecidableEq, Repr

inductive Key where
  | version
  | output
  | page
  | title
  | config
  | verbose
deriving DecidableEq, Repr

def globalOptions : List (OptionSpec Key) :=
  [{ key := .version, long := "version".toList, short := some 'V' }]

def sharedOptions : List (OptionSpec Key) :=
  [{ key := .config, long := "config".toList, short := some 'c', takesValue := true },
   { key := .verbose, long := "verbose".toList, short := some 'v' }]

def renderOptions : List (OptionSpec Key) :=
  [{ key := .output, long := "output".toList, short := some 'o', takesValue := true },
   { key := .page, long := "page".toList },
   { key := .title, long := "title".toList, takesValue := true }] ++ sharedOptions

namespace Invocation

/-- The path that an argument names.  No path holds the null character. -/
def path? (t : Text) : Option Path :=
  if t.contains (Char.ofNat 0) then none else some (Path.ofText t)

/-- The path that the value of an option names, if the option is given. -/
def optionPath? (p : Parsed Key) (key : Key) : Option (Option Path) :=
  match p.value key with
  | none => some none
  | some t => (path? t).map some

/-- The job that the arguments of a command describe, which name one template. -/
def job? (specs : List (OptionSpec Key)) (task : Parsed Key → Option Task) (args : List Text) :
    Option Invocation := do
  let p ← Options.parse specs true args
  match p.others with
  | [name] =>
    let template ← path? name
    let config ← optionPath? p .config
    let task ← task p
    some (.job ⟨task, template, config, p.has .verbose⟩)
  | _ => none

def renderTask (p : Parsed Key) : Option Task :=
  (optionPath? p .output).map fun output =>
    .render output (p.has .page) ((p.value .title).getD [])

def ofCommand (name : Text) (args : List Text) : Option Invocation :=
  if name = "render".toList then job? renderOptions renderTask args
  else if name = "tree".toList then job? sharedOptions (fun _ => some .tree) args
  else none

def asksVersion (args : List Text) : Bool :=
  ((Options.parse globalOptions false args).map fun p => p.has .version).getD false

/-- The invocation that arguments stand for, if they are in order.  An option in place of the name
of a command is looked at once more. -/
def ofArguments (args : List Text) : Option Invocation :=
  match Options.parse globalOptions false args with
  | none => none
  | some p =>
    if p.has .version then some .version
    else
      match p.others with
      | [] => none
      | name :: rest =>
        match ofCommand name rest with
        | some i => some i
        | none => if Options.isOption name && asksVersion p.others then some .version else none

end Invocation

end Outline.Command
