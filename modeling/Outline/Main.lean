import Outline.Command.Reach

/-!
# The command line

Looks at the files that the arguments reach, runs the command on them, and carries out what it
prints and writes.
-/

namespace Outline.Command

def systemName (p : Place) : String := String.ofList (Path.text ⟨['/'], p⟩)

def inspect (p : Place) : IO (Option FileEntry) := do
  let path := (← IO.currentDir) / systemName p
  if ← path.isDir then
    return some .directory
  else if ← path.pathExists then
    return some (.file (← IO.FS.readFile path).toList)
  else
    return none

def snapshot (places : List Place) : IO FileTree := do
  let mut entries := []
  for p in places do
    if let some e ← inspect p then
      entries := (p, e) :: entries
  return ⟨entries⟩

def install (p : Place) : FileEntry → IO Unit
  | .directory => IO.FS.createDirAll (systemName p)
  | .file text => IO.FS.writeFile (systemName p) (String.ofList text)

def tell (lines : List Text) : IO Unit :=
  lines.forM fun l => IO.eprintln (String.ofList l)

def crashWording : Crash → Text
  | .file .isDirectory => "Is a directory".toList
  | .file .notDirectory => "Not a directory".toList
  | .file .exists => "File exists".toList
  | .file .notFound => "No such file or directory".toList
  | .file .nameTooLong => "File name too long".toList
  | .scalar f => f.wording
  | .content o => o.wording

def usageLine : Text := "Usage: htmlbuilder [-V] render|tree TEMPLATE [OPTIONS]".toList

/-- The program run with arguments; the result is its exit status. -/
def start (args : List Text) : IO UInt32 := do
  let cwd := (Path.ofText (← IO.currentDir).toString.toList).parts
  let debug := ((← IO.getEnv "HTMLBUILDER_DEBUG").getD "") ≠ ""
  let files ← snapshot (((Invocation.ofArguments args).map (Invocation.reach cwd)).getD [])
  match run { files := files, cwd := cwd, debug := debug } args with
  | .usage =>
    tell [usageLine]
    return 2
  | .version line =>
    IO.print (String.ofList line)
    return 0
  | .crashed crash =>
    tell [crashWording crash]
    return 1
  | .finished threshold report =>
    tell (report.messages threshold)
    for (place, entry) in report.files.changesSince files do
      install place entry
    IO.print (String.ofList report.stdout)
    return report.status.toUInt32

end Outline.Command

def main (args : List String) : IO UInt32 := Outline.Command.start (args.map String.toList)
