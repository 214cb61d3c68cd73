import Outline.Command.Invocation
import Outline.Dom.Generation
import Outline.Files.Tree
import Outline.Markup.Page
import Outline.Settings.Loading
import Outline.Text.Terminal
import Outline.Tree.Listing

/-!
# Running the command line

A run looks at the files there are and ends with what it prints and the files as it leaves them.
Nothing is written before all that can be refused has been read.

* `Command.run`: the outcome of a command line.
-/

namespace Outline.Command

def settingsName : Text := "htmlbuilder.yaml".toList

def versionLine : Text := "htmlbuilder 0.1.0\n".toList

inductive Problem where
  | templateNotFound (path : Path)
  | template (refusal : Template.Refusal)
  | settings (path : Path) (fault : Settings.LoadFault)
deriving Repr

/-- The end of a run that the system did not break off. -/
structure Report where
  stdout : Text := []
  notices : List Notice := []
  problem : Option Problem := none
  files : FileTree
deriving Repr

/-- What breaks off a run. -/
inductive Crash where
  | file (fault : FileFault)
  | scalar (fault : Yaml.ScalarFault)
  | content (fault : Reference.Overlong)
deriving DecidableEq, Repr

/-- The outcome of a command line. -/
inductive Outcome where
  /-- The arguments are not in order. -/
  | usage
  | version (line : Text)
  | crashed (crash : Crash)
  /-- The run came to its end; notices below the threshold are not shown. -/
  | finished (threshold : Level) (report : Report)
deriving Repr

structure Setting where
  files : FileTree
  cwd : Place
  debug : Bool := false

/-! ## Wording -/

def refusedWording (n : Nat) : Text :=
  Text.ofNat n ++ " validation error".toList ++ (if n = 1 then [] else ['s'])
    ++ " for BuilderConfig".toList

def detail : Settings.LoadFault → Text
  | .malformed => "not valid YAML".toList
  | .notMapping => "top level must be a mapping".toList
  | .refused refusals => refusedWording refusals.length
  | .scalar f => f.wording

def Problem.wording : Problem → Text
  | templateNotFound path => "File not found: ".toList ++ path.text
  | template refusal => refusal.wording
  | settings path fault =>
    "Invalid config ".toList ++ path.text ++ ": ".toList ++ detail fault

def Problem.line (p : Problem) : Text := "Error: ".toList ++ Text.withoutSequences p.wording

def levelLabel : Level → Text
  | .debug => "DEBUG    ".toList
  | .info => "INFO     ".toList
  | .warning => "WARNING  ".toList

def noticeLine (n : Notice) : Text := levelLabel n.level ++ n.wording

def Report.status (r : Report) : Nat := if r.problem.isSome then 1 else 0

/-- The lines of the notices that reach a threshold, and of the problem of a run. -/
def Report.messages (r : Report) (threshold : Level) : List Text :=
  (r.notices.filter fun n => threshold.rank ≤ n.level.rank).map noticeLine
    ++ (r.problem.map Problem.line).toList

/-! ## Steps of a run -/

/-- A step that ends in a report or a crash when it fails. -/
abbrev Attempt := Except (Crash ⊕ Report)

/-- The outcome of an operation on files, whose faults break off the run. -/
def system {α : Type} : Except FileFault α → Attempt α
  | .ok a => .ok a
  | .error f => .error (.inl (.file f))

def refuse {α : Type} (s : Setting) (notices : List Notice) (p : Problem) : Attempt α :=
  .error (.inr { notices := notices, problem := some p, files := s.files })

def readTemplate (s : Setting) (path : Path) : Attempt Text := do
  match ← system (s.files.look s.cwd path) with
  | none => refuse s [] (.templateNotFound path)
  | some _ => (system (s.files.read s.cwd path)).map Text.unifyBreaks

def cwdPath (s : Setting) : Path := ⟨['/'], s.cwd⟩

/-- The file with the settings: the one that is named, or the nearest upwards. -/
def settingsPath (s : Setting) : Option Path → Attempt (Option Path)
  | some path => .ok (some path)
  | none => system (s.files.findUpwards s.cwd (cwdPath s) settingsName)

/-- The settings of a file, which are the defaults if there is none. -/
def readSettings (s : Setting) (named : Option Path) : Attempt Settings := do
  match ← settingsPath s named with
  | none => pure {}
  | some path =>
    match ← system (s.files.look s.cwd path) with
    | none => pure {}
    | some _ => do
      let text ← system (s.files.read s.cwd path)
      match Settings.load (some text) with
      | .ok settings => pure settings
      | .error (.scalar f) => .error (.inl (.scalar f))
      | .error fault => refuse s [] (.settings path fault)

/-- The markup of a template, with the notices on the way. -/
def markupOf (s : Setting) (settings : Settings) (template : Text) :
    Attempt (Text × List Notice) :=
  let store : Dom.Store := {}
  match store.generate settings {} template none with
  | (notices, .error (.template r)) => refuse s notices (.template r)
  | (_, .error (.content o)) => .error (.inl (.content o))
  | (notices, .ok (store, made)) => .ok (Markup.htmlAll (store.contents made.container), notices)

def forestOf (s : Setting) (settings : Settings) (template : Text) :
    Attempt (Forest × List Notice) :=
  match Template.compile settings template with
  | (notices, .error r) => refuse s notices (.template r)
  | (notices, .ok forest) => .ok (forest, notices)

def line (t : Text) : Text := t ++ ['\n']

def listing (path : Path) (forest : Forest) : List Text :=
  Text.label path.text
    :: Tree.listing (fun i => Text.label (i.node.source [';'])) forest

/-- The file written that markup is put into, with the directories above it. -/
def deliver (s : Setting) (output : Path) (markup : Text) : Attempt FileTree := do
  let files ← system (s.files.makeDirectories s.cwd output.parent)
  system (files.write s.cwd output (line markup))

def perform (s : Setting) (j : Job) : Attempt Report := do
  let template ← readTemplate s j.template
  let settings ← readSettings s j.config
  match j.task with
  | .render output page title =>
    let (markup, notices) ← markupOf s settings template
    let markup := if page then Markup.page "en".toList title markup else markup
    match output with
    | some path =>
      let files ← deliver s path markup
      pure
        { stdout := Text.withoutSequences (line ("Wrote ".toList ++ path.text))
          notices := notices
          files := files }
    | none =>
      pure
        { stdout := Text.withoutSequences (line markup)
          notices := notices
          files := s.files }
  | .tree =>
    let (forest, notices) ← forestOf s settings template
    pure
      { stdout := (listing j.template forest).flatMap line
        notices := notices
        files := s.files }

/-- The level that notices have to reach to be shown. -/
def threshold (s : Setting) (j : Job) : Level :=
  if s.debug then .debug else if j.verbose then .info else .warning

def run (s : Setting) (args : List Text) : Outcome :=
  match Invocation.ofArguments args with
  | none => .usage
  | some .version => .version versionLine
  | some (.job j) =>
    match perform s j with
    | .ok report => .finished (threshold s j) report
    | .error (.inl crash) => .crashed crash
    | .error (.inr report) => .finished (threshold s j) report

end Outline.Command
