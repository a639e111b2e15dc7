import MessageCatalog.Catalog.Files
import MessageCatalog.Workspace.Glob
import MessageCatalog.Workspace.Session

/-!
# Merging messages into catalog files

A catalog file is read, merged, and written back or written to another place. Before a file is
overwritten git is asked about it, and a file with changes that are not staged is left alone. In a
batch git is asked about all files before the first one is written.
-/

namespace MessageCatalog

/-- The result of merging messages into one file. Names are relative to the base directory. -/
structure FileMerge where
  file : Text
  sourceFile : Text
  content : ByteArray
  sourceContent : ByteArray
  catalog : Catalog
  report : MergeReport
  written : Bool := false

/-- Merging of files with given options. -/
structure Merger where
  options : MergeOptions

namespace Merger

/-! ### Names of files -/

def base (m : Merger) (current : Location) : Location := current.resolve m.options.baseDir

/-- The location of a file seen from the base directory. -/
def locate (m : Merger) (current : Location) (file : Text) : Location :=
  (m.base current).resolve (Path.ofText file)

/-- The name of a location relative to the base directory. -/
def nameOf (m : Merger) (current : Location) (loc : Location) : Text :=
  (loc.relativeTo (m.base current)).toText

/-- Where the result for a file goes: its place under another directory, less its first
component. -/
def destination (m : Merger) (current : Location) (source : Location) (directory : Text) : Path :=
  let parts := (source.relativeTo (m.base current)).parts
  ⟨"/", m.locate current directory ++ if parts.length ≤ 1 then parts else parts.drop 1⟩

/-! ### Guarding and writing -/

/-- The lines about a file with changes that must not be lost. -/
def refusal (name : Text) (status : FileStatus) : List Notice :=
  [⟨"Unsaved changes in git for " ++ name ++ " (" ++ status.name ++ ")", some .red⟩,
    ⟨"Commit, stash, or abandon the changes before continuing", some .red⟩]

/-- The lines about a check that git could not do. -/
def checkFailure (name : Text) (f : Failure) : List Notice :=
  [⟨"Git check failed for " ++ name ++ ": " ++ f.message, some .red⟩,
    ⟨"Use --no-git-check to ignore this check.", none⟩]

/-- Fail unless a file may be overwritten. -/
def guard (m : Merger) (loc : Location) : Action Unit := do
  let o := m.options
  let name := m.nameOf (← get).current loc
  Action.detail o.verbose 1 ("gitCheck=" ++ o.gitCheck.display ++ ' ' :: name)
  if o.gitCheck.truthy then
    let status ← tryCatch (Action.status loc) fun f => do
      Action.sayAll (checkFailure name f)
      throw f
    if status.isSafe then
      Action.detail o.verbose 1 ("git status " ++ status.name ++ ' ' :: name)
    else
      Action.sayAll (refusal name status)
      throw (.unsavedChanges status.name name)

/-- Write a file, unless this is a dry run. -/
def writeFile (m : Merger) (name : Text) (loc : Location) (bytes : ByteArray) : Action Bool := do
  if m.options.dryRun.truthy then
    Action.say ("Dry run only, not writing " ++ name) (some .yellow)
    return false
  else
    Action.say ("Writing " ++ name) (some .green)
    Action.write loc bytes
    return true

/-! ### Single files -/

def charset (o : MergeOptions) : Except Failure Text :=
  match o.charset with
  | .text t => .ok t
  | _ => .error .wrongType

/-- Merge messages into the content of a file, and write nothing. -/
def preview (m : Merger) (loc : Location) (messages : Value) : Action FileMerge := do
  let o := m.options
  let messages ← Action.ofExcept (Merge.messageValues messages)
  let name := m.nameOf (← get).current loc
  Action.say ("Reading " ++ name) (some .blue)
  let sourceContent ← Action.read loc
  let s ← get
  let source ← Action.ofExcept (do
    Catalog.ofContent s.tree s.current sourceContent (← charset o))
  let report ← Action.ofMerge (source.merge (.list messages) o)
  let catalog := if o.replace.truthy then report.replace else report.patch
  let content ← Action.ofExcept (catalog.render Catalog.defaultWidth)
  return { file := name, sourceFile := name, content, sourceContent, catalog, report }

/-- Whether a result has to be written back. -/
def needsWriting (m : Merger) (r : FileMerge) : Bool :=
  r.report.isChange || m.options.forceSave.truthy || r.content.toList != r.sourceContent.toList

/-- Merge messages into a file and write it back if anything changed. -/
def update (m : Merger) (loc : Location) (messages : Value) : Action FileMerge := do
  m.guard loc
  let r ← m.preview loc messages
  if m.needsWriting r then
    return { r with written := ← m.writeFile r.file loc r.content }
  else
    Action.say ("No changes to write " ++ r.file)
    return r

/-- Fail unless a file that is there may be overwritten. -/
def guardPresent (m : Merger) (path : Path) : Action Unit := do
  let t ← Action.tree
  match t.walk? [] path.parts with
  | some loc => if t.isPresent loc then m.guard loc
  | none => pure ()

/-- Merge messages into a file and write the result to another one. -/
def updateTo (m : Merger) (source : Location) (target : Location) (messages : Value) :
    Action FileMerge := do
  m.guardPresent target.toPath
  let r ← m.preview source messages
  let name := m.nameOf (← get).current target
  Action.makeDirectory target.dropLast
  return { r with file := name, written := ← m.writeFile name target r.content }

/-! ### Batches -/

def find (m : Merger) (patterns : Value) : Action (List Location) := do
  let s ← get
  Action.ofExcept (s.tree.glob (m.base s.current) patterns)

/-- The line about the number of files. -/
def sayCount (verb count' : Text) (files : List Location) : Action Unit :=
  if files.isEmpty then Action.say "No po files found" (some .yellow)
  else Action.say (verb ++ ' ' :: Decimal.ofNat files.length ++ count') (some .blue)

/-- Merge messages into several files and write them back. -/
def updateAll (m : Merger) (patterns : Value) (messages : Value) : Action (List FileMerge) := do
  let messages ← Action.ofExcept (Merge.messageValues messages)
  let files ← m.find patterns
  files.forM m.guard
  sayCount "Updating" " po files" files
  files.mapM fun file => m.update file (.list messages)

/-- Merge messages into several files and write the results under another directory. -/
def updateAllTo (m : Merger) (patterns : Value) (directory : Text) (messages : Value) :
    Action (List FileMerge) := do
  let messages ← Action.ofExcept (Merge.messageValues messages)
  let files ← m.find patterns
  let current := (← get).current
  let targets := files.map fun file => m.destination current file directory
  sayCount "Creating" " new po files" files
  targets.forM m.guardPresent
  (files.zip targets).mapM fun p => m.updateTo p.1 (Location.resolve [] p.2) (.list messages)

end Merger

end MessageCatalog
