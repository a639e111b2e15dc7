import MessageCatalog.Extract.Call
import MessageCatalog.Extract.CommentRules
import MessageCatalog.Extract.Keys
import MessageCatalog.Notice
import MessageCatalog.Source.Statement

/-!
# Keys found in a source file

The keys that a file declares in its comments come first, and then those of its marked calls in the
order in which the calls are visited.
-/

namespace MessageCatalog

/-- What was found in a file: the keys, and the warnings with the line each is about. -/
structure Findings where
  occurrences : List Occurrence := []
  warnings : List (Nat × Text) := []
  deriving DecidableEq, Inhabited

namespace Call

/-- Whether a call marks a translatable text: a marker is called by its name, or as a member of
something where the options allow it. -/
def isMarked (o : ExtractOptions) (c : Call) : Bool :=
  match c.function with
  | .name id => o.isMarker id
  | .attribute _ id => o.members.truthy && o.isMarker id
  | _ => false

def keys (o : ExtractOptions) (c : Call) : Keys :=
  match c.argument? o.position with
  | some n => Keys.ofNode n
  | none => ⟨[], []⟩

end Call

namespace Findings

/-- Add one key of a call; the first key gets the comments about the call. -/
def addKey (line : Nat) (state : Findings × CommentNotes) (key : Text) : Findings × CommentNotes :=
  let (f, notes) := state
  let (comment, notes) := notes.takeAround line
  ({ f with occurrences := f.occurrences ++ [⟨key, line, comment⟩] }, notes)

/-- The keys that are known and not empty. -/
def usable (ks : List (Option Text)) : List Text :=
  ks.filterMap fun k => match k with
    | some (c :: rest) => some (c :: rest)
    | _ => none

def addCall (o : ExtractOptions) (state : Findings × CommentNotes) (c : Call) :
    Findings × CommentNotes :=
  let (f, notes) := state
  if c.isMarked o && !notes.ignored.contains c.endLine then
    let found := c.keys o
    let f := { f with warnings := f.warnings ++ found.warnings.map (c.line, ·) }
    (usable found.keys).foldl (addKey c.line) (f, notes)
  else state

/-- What a source file holds that has been read. -/
def ofModule (o : ExtractOptions) (rules : CommentRules) (m : Source.Module) :
    Except Failure Findings := do
  let notes ← CommentNotes.ofComments rules m.comments
  return ((Call.inNode m.tree).foldl (addCall o) (⟨notes.declared, []⟩, notes)).1

/-- What the text of a source file holds. -/
def ofText (o : ExtractOptions) (rules : CommentRules) (t : Text) : Except Failure Findings :=
  match Source.Module.ofText t with
  | none => .error .sourceSyntax
  | some m => ofModule o rules m

/-- The lines that tell the warnings about a file. -/
def notices (f : Findings) (name : Text) : List Notice :=
  f.warnings.map fun w => ⟨name ++ ':' :: Decimal.ofNat w.1 ++ ": " ++ w.2, some .yellow⟩

end Findings

end MessageCatalog
