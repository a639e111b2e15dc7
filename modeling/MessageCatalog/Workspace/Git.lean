import MessageCatalog.Failure

/-!
# The state of a file under version control

What git tells about a file, and the state that follows from it. Only a file without changes, or
with changes that are all staged, may be overwritten.
-/

namespace MessageCatalog

/-- What came of asking git for the short status of a file. -/
inductive GitAnswer where
  /-- Git ran and wrote to its two outputs. -/
  | finished (stdout : Text) (code : Int) (stderr : Text)
  /-- Git could not be run. -/
  | unavailable (reason : Text)
  deriving DecidableEq

/-- The answer of git about a file without changes. -/
def GitAnswer.silent : GitAnswer := .finished [] 0 []

/-- The state of a file under version control. -/
inductive FileStatus where
  | clean | untracked | staged | added | modified
  deriving DecidableEq, Repr

namespace FileStatus

def name : FileStatus → Text
  | .clean => "clean"
  | .untracked => "untracked"
  | .staged => "staged"
  | .added => "added"
  | .modified => "modified"

/-- Whether a file in this state may be overwritten. -/
def isSafe : FileStatus → Bool
  | .clean | .added | .staged => true
  | .untracked | .modified => false

/-- The state that the first two columns of a line stand for. -/
def ofColumns (columns : Text) : FileStatus :=
  if columns.any (· = '?') then .untracked
  else if columns = ("M " : Text) then .staged
  else if columns = ("A " : Text) then .added
  else .modified

/-- The state of the file with a name, told by the first line that mentions the name. Letter case
does not matter. -/
def ofLines (name : Text) (lines : List Text) : FileStatus :=
  match lines.find? fun line => Text.contains (Text.lower name) (Text.lower line) with
  | some line => ofColumns (line.take 2)
  | none => .clean

/-- The state of the file with a name, told by an answer of git. -/
def ofAnswer (name : Text) : GitAnswer → Except Failure FileStatus
  | .unavailable reason => .error (.gitUnavailable reason)
  | .finished stdout code stderr =>
    if code = 0 then .ok (ofLines name (Text.splitOn '\n' stdout))
    else .error (.gitExit code stderr)

end FileStatus

end MessageCatalog
