import MessageCatalog.CommandLine.Arguments
import MessageCatalog.Workspace.Session

/-!
# Checking arguments

The values of settings are checked in the order in which the settings were first named: numbers
have to be whole numbers, and paths have to lead to what the setting is about. Then the words and
settings that a command cannot do without have to be there.
-/

namespace MessageCatalog.CommandLine

/-- What a path leads to. -/
inductive PathTarget where
  | nothing
  | file
  | directory
  deriving DecidableEq, Repr

/-- What a written path leads to, seen from a directory. A path with a slash at its end never leads
to a file. -/
def PathTarget.ofText (tree : FileTree) (current : Location) (t : Text) : PathTarget :=
  let path := Path.ofText t
  if t.isEmpty then .nothing
  else match tree.walk? (if path.isAbsolute then [] else current) path.parts with
    | none => .nothing
    | some loc =>
      if tree.isDirectory loc then .directory
      else if tree.isFile loc && t.getLast? != some '/' then .file
      else .nothing

namespace Arguments

def numberFault (t : Text) : Option UsageFault :=
  if (Decimal.int? t).isSome then none else some (.badNumber t)

def directoryFault (t : Text) : PathTarget → Option UsageFault
  | .directory => none
  | .file => some (.isFile t)
  | .nothing => some (.missingPath t)

def fileFault (t : Text) : PathTarget → Option UsageFault
  | .file => none
  | .directory => some (.isDirectory t)
  | .nothing => some (.missingPath t)

/-- The fault in the value of a setting. The directory of an output file is made where it is
missing. -/
def settingFault (a : Arguments) (s : Setting) : Action (Option UsageFault) := do
  let session ← get
  match a.value? s with
  | none => return none
  | some t =>
    let target := PathTarget.ofText session.tree session.current t
    match s with
    | .argPos | .refsMax | .refsPerFile | .refsPerLine | .refsLineLength => return numberFault t
    | .baseDir => return directoryFault t target
    | .config => return fileFault t target
    | .destination | .outputDirectory =>
      return if target = .file then some (.isFile t) else none
    | .output =>
      if target = .directory then return some (.isDirectory t)
      else
        Action.makeDirectory (session.current.resolve (Path.ofText t).parent)
        return none
    | _ => return none

def missingFault (a : Arguments) (c : Command) : Option UsageFault :=
  if a.words.isEmpty then some .missingWords
  else if c = .merge && (a.values .source).isEmpty then some .missingSource
  else none

def fault (a : Arguments) (c : Command) : Action (Option UsageFault) := do
  match ← a.settings.findSomeM? a.settingFault with
  | some f => return some f
  | none => return a.missingFault c

end Arguments

end MessageCatalog.CommandLine
