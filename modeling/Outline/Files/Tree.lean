import Outline.Files.Path

/-!
# Files

A **file tree** holds the files and directories below a root, which is its own parent.

* `FileTree.resolve`: the place that a path leads to.
* `FileTree.makeDirectories`: a directory made with all that are missing above it.
* `FileTree.write`: a file written.
-/

namespace Outline

/-- A place in a file tree: the names on the way to it from the root. -/
abbrev Place := List Text

inductive FileEntry where
  | directory
  | file (text : Text)
deriving DecidableEq, Repr

/-- Files and directories by their places.  The root is a directory. -/
structure FileTree where
  entries : List (Place × FileEntry) := []
deriving Repr, Inhabited

inductive FileFault where
  | isDirectory
  | notDirectory
  | exists
  | notFound
  | nameTooLong
deriving DecidableEq, Repr

namespace FileTree

def byteCount (t : Text) : Nat := (String.ofList t).utf8ByteSize

def nameLimit : Nat := 255

def pathLimit : Nat := 4095

def entry (t : FileTree) (p : Place) : Option FileEntry :=
  if p = [] then some .directory else t.entries.lookup p

def put (t : FileTree) (p : Place) (e : FileEntry) : FileTree := ⟨(p, e) :: t.entries⟩

def isDirectory (t : FileTree) (p : Place) : Bool := t.entry p = some .directory

/-- The place that the parts of a path lead to from a place.  Each part but the last has to lead
to a directory; the last may lead to nothing.  A part is not looked up when it is too long. -/
def walk (t : FileTree) (start : Place) : List Text → Except FileFault Place
  | [] => .ok start
  | part :: rest =>
    match t.entry start with
    | none => .error .notFound
    | some (.file _) => .error .notDirectory
    | some .directory =>
      if nameLimit < byteCount part then .error .nameTooLong
      else t.walk (if part = Path.up then start.dropLast else start ++ [part]) rest

/-- The place that a path leads to. -/
def resolve (t : FileTree) (cwd : Place) (p : Path) : Except FileFault Place :=
  if pathLimit < byteCount p.text then .error .nameTooLong
  else t.walk (if p.isAbsolute then [] else cwd) p.parts

/-- What a path leads to, if it leads anywhere.  Only a name that is too long is a fault. -/
def look (t : FileTree) (cwd : Place) (p : Path) : Except FileFault (Option FileEntry) :=
  match t.resolve cwd p with
  | .ok place => .ok (t.entry place)
  | .error .nameTooLong => .error .nameTooLong
  | .error _ => .ok none

/-! ## Making directories -/

def makeDirectory (t : FileTree) (cwd : Place) (p : Path) : Except FileFault FileTree :=
  match t.resolve cwd p with
  | .error f => .error f
  | .ok place => if (t.entry place).isSome then .error .exists else .ok (t.put place .directory)

/-- The outcome of making a directory, which is no fault when the directory is there. -/
def allowExisting (t : FileTree) (cwd : Place) (p : Path) :
    Except FileFault FileTree → Except FileFault FileTree
  | .ok t' => .ok t'
  | .error f =>
    match t.look cwd p with
    | .ok (some .directory) => .ok t
    | _ => .error f

/-- A directory made with those that are missing above it; at most `fuel` are. -/
def makeDirectoriesWithin (cwd : Place) : Nat → FileTree → Path → Except FileFault FileTree
  | 0, t, p => allowExisting t cwd p (t.makeDirectory cwd p)
  | fuel + 1, t, p =>
    match t.makeDirectory cwd p with
    | .error .notFound =>
      if p.parent = p then .error .notFound
      else
        match makeDirectoriesWithin cwd fuel t p.parent with
        | .error f => .error f
        | .ok t => allowExisting t cwd p (t.makeDirectory cwd p)
    | result => allowExisting t cwd p result

def makeDirectories (t : FileTree) (cwd : Place) (p : Path) : Except FileFault FileTree :=
  makeDirectoriesWithin cwd p.parts.length t p

/-! ## Reading and writing -/

def read (t : FileTree) (cwd : Place) (p : Path) : Except FileFault Text :=
  match t.resolve cwd p with
  | .error f => .error f
  | .ok place =>
    match t.entry place with
    | none => .error .notFound
    | some .directory => .error .isDirectory
    | some (.file text) => .ok text

/-- A file written, in place of the one that was there. -/
def write (t : FileTree) (cwd : Place) (p : Path) (text : Text) : Except FileFault FileTree :=
  match t.resolve cwd p with
  | .error f => .error f
  | .ok place =>
    if t.isDirectory place then .error .isDirectory
    else if t.isDirectory place.dropLast then .ok (t.put place (.file text))
    else .error .notFound

/-- What has been put into the tree since it was another one, in order. -/
def changesSince (t before : FileTree) : List (Place × FileEntry) :=
  (t.entries.take (t.entries.length - before.entries.length)).reverse

/-! ## Looking upwards -/

def findFirst (t : FileTree) (cwd : Place) : List Path → Except FileFault (Option Path)
  | [] => .ok none
  | p :: rest =>
    match t.look cwd p with
    | .error f => .error f
    | .ok (some _) => .ok (some p)
    | .ok none => t.findFirst cwd rest

/-- The first path with a name among the directories from one upwards at which something stands. -/
def findUpwards (t : FileTree) (cwd : Place) (start : Path) (name : Text) :
    Except FileFault (Option Path) :=
  t.findFirst cwd (start.selfAndParents.map fun p => p.child name)

end FileTree

end Outline
