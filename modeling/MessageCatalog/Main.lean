import MessageCatalog.CommandLine.Run

/-!
# The program

The command line as a program. The files that a run can see are those below the current directory
and below the paths named on the command line; they are read before the run, and what the run has
changed is written back after it. Git is not asked from here: a run that wants its answer is told
that git is not available, and the check has to be switched off.
-/

namespace MessageCatalog.Program

/-- The location of an absolute path. -/
def locationOf (path : String) : Location := (Path.ofText path.toList).parts

/-- The written form of a location. -/
def written (loc : Location) : String := String.ofList loc.toText

/-- Add what stands at a location of the disk to a tree. Files that cannot be read are left out,
and so is what git keeps for itself. -/
def addPlace (t : FileTree) (loc : Location) : IO FileTree := do
  let place := (← IO.currentDir) / written loc
  if ← place.isDir then
    let below ← place.walkDir fun p => pure (p.fileName != some ".git")
    below.foldlM add (t.addDirectory loc)
  else if ← place.pathExists then add t place
  else return t
where
  /-- Add a file or a directory. -/
  add (t : FileTree) (place) : IO FileTree := do
    let loc := locationOf place.toString
    if ← place.isDir then return t.addDirectory loc
    else
      try return t.addFile loc (← IO.FS.readBinFile place)
      catch _ => return t

/-- The session in which a command line runs. -/
def sessionFor (words : List Text) : IO Session := do
  let current := locationOf (← IO.currentDir).toString
  let named := words.map fun w => current.resolve (Path.ofText w)
  let outside := named.filter fun loc => !current.isPrefixOf loc && !loc.isPrefixOf current
  let tree ← (current :: outside).foldlM addPlace {}
  return { tree, current, git := fun _ => .unavailable "not available" }

/-- Write back what a run has changed. -/
def store (before after : FileTree) : IO Unit := do
  for dir in after.directories do
    if !before.isDirectory dir then IO.FS.createDirAll (written dir)
  for (loc, bytes) in after.files do
    if (before.content? loc).map (·.toList) != some bytes.toList then
      IO.FS.writeBinFile (written loc) bytes

/-- Run a command line on the disk, and give its exit code. -/
def run (words : List Text) : IO UInt32 := do
  let session ← sessionFor words
  let dryRun := (← IO.getEnv "DRY_RUN").any fun value => !value.isEmpty
  let out := CommandLine.run words { current := session.current, dryRun } session
  store session.tree out.session.tree
  IO.print (String.ofList out.output)
  IO.eprint (String.ofList out.errors)
  if let .broken f := out.ending then IO.eprintln (String.ofList f.message)
  return out.ending.exitCode.toUInt32

end MessageCatalog.Program

/-- The program. -/
def main (args : List String) : IO UInt32 :=
  MessageCatalog.Program.run (args.map String.toList)
