import MessageCatalog.Text.Codec
import MessageCatalog.Workspace.FileTree
import MessageCatalog.Workspace.Git
import MessageCatalog.Merge.Basic
import MessageCatalog.Value.Printer

/-!
# Sessions

A session is what a program works in: a file tree, a current directory, git, the codecs that there
are, and the record of what it told the user. An action runs in a session; when it fails, what it
did before stays done.
-/

namespace MessageCatalog

/-- The files, the surroundings and the record of a run. -/
structure Session where
  tree : FileTree := {}
  current : Location := []
  git : Location → GitAnswer := fun _ => .silent
  /-- The codec of a name, if there is one. -/
  codec? : Text → Option Codec := Codec.ofName?
  notices : List Notice := []
  events : List (Event × Text) := []
  asked : List Location := []

instance : Inhabited Session := ⟨{}⟩

/-- Read bytes with the codec of a name. -/
def Session.decode (s : Session) (name : Text) (bytes : ByteArray) : Except Failure Text :=
  match s.codec? name with
  | none => .error (.unknownCharset name)
  | some codec => (codec.decode bytes).mapError (CodecFault.failure name)

/-- A step in a session, which may fail. -/
abbrev Action := ExceptT Failure (StateM Session)

namespace Action

/-- Run an action: its result and the session afterwards. -/
def outcome {α : Type} (a : Action α) (s : Session) : Except Failure α × Session :=
  Id.run ((ExceptT.run a).run s)

/-- An action that gives a result that is already there, or fails with the failure. -/
def ofExcept {α : Type} (r : Except Failure α) : Action α := ExceptT.mk (pure r)

/-- Tell the user a line. -/
def say (text : Text) (colour : Option Colour := none) : Action Unit :=
  modify fun s => { s with notices := s.notices ++ [⟨text, colour⟩] }

/-- Tell the user lines. -/
def sayAll (notices : List Notice) : Action Unit :=
  modify fun s => { s with notices := s.notices ++ notices }

/-- Tell a line if a level of detail asks for it. -/
def detail (verbose : Value) (level : Int) (text : Text) : Action Unit := do
  if ← ofExcept (Options.atLeast verbose level) then say text

def tree : Action FileTree := do return (← get).tree

def read (loc : Location) : Action ByteArray := do ofExcept ((← tree).read loc)

/-- Change the file tree. -/
def change (f : FileTree → Except Failure FileTree) : Action Unit := do
  let t ← ofExcept (f (← tree))
  modify fun s => { s with tree := t }

def write (loc : Location) (bytes : ByteArray) : Action Unit := change (·.write loc bytes)

/-- Make a directory and those on the way to it. -/
def makeDirectory (loc : Location) : Action Unit := change (·.makeDirectory loc)

/-- Write a value to a file, and make the directories on the way to it. -/
def writeValue (loc : Location) (v : Value) : Action Unit := do
  makeDirectory loc.dropLast
  write loc (String.ofList (v.print ++ ['\n'])).toByteArray

/-- Ask git for the state of a file. -/
def status (loc : Location) : Action FileStatus := do
  modify fun s => { s with asked := s.asked ++ [loc] }
  let name := loc.getLast?.getD []
  ofExcept (FileStatus.ofAnswer name ((← get).git loc))

/-- Take over the outcome of a merge: its lines, its events and its result. -/
def ofMerge (o : Merge.Outcome) : Action MergeReport := do
  modify fun s => { s with notices := s.notices ++ o.notices, events := s.events ++ o.events }
  ofExcept o.result

end Action

end MessageCatalog
