import MessageCatalog.Extract.Occurrences
import MessageCatalog.Index
import MessageCatalog.Message
import MessageCatalog.Workspace.Glob
import MessageCatalog.Workspace.Session

/-!
# Collecting messages from source files

A collector reads source files and gathers what it finds in an index. A file that cannot be read,
has bytes that stand for no character, or cannot be parsed is reported and passed over; what the
index held before a failure stays in it.
-/

namespace MessageCatalog

/-- Collecting with given options. -/
structure Collector where
  options : ExtractOptions
  rules : CommentRules
  deriving Inhabited

/-- A step of collecting: it works on an index inside a session, and it may fail. -/
abbrev Collecting := ExceptT Failure (StateT Index (StateM Session))

namespace Collecting

/-- A step that leaves the index alone. -/
def ofAction {α : Type} (a : Action α) : Collecting α :=
  ExceptT.mk fun i => do return (← ExceptT.run a, i)

/-- Run a step: its result, the index afterwards, and the session afterwards. -/
def outcome {α : Type} (a : Collecting α) (i : Index) (s : Session) :
    Except Failure α × Index × Session :=
  let ((r, i), s) := Id.run (((ExceptT.run a).run i).run s)
  (r, i, s)

/-- A step on an index of its own, which is empty at the start. -/
def fromEmpty {α : Type} (a : Collecting α) : Action α :=
  ExceptT.mk do return (← (ExceptT.run a).run .empty).1

end Collecting

namespace Collector

def ofOptions (o : ExtractOptions) : Except Failure Collector := do
  return ⟨o, ← CommentRules.ofOptions o.comments⟩

def base (c : Collector) (current : Location) : Location := current.resolve c.options.baseDir

/-- The location of a file seen from the base directory. -/
def locate (c : Collector) (current : Location) (file : Text) : Location :=
  (c.base current).resolve (Path.ofText file)

/-- The name of a location relative to the base directory. -/
def nameOf (c : Collector) (current : Location) (loc : Location) : Text :=
  (loc.relativeTo (c.base current)).toText

/-- The name of a location in the session at hand. -/
def name (c : Collector) (loc : Location) : Action Text := do
  return c.nameOf (← get).current loc

/-- The context under which the index keeps everything. A context that is no text keeps a place of
its own, which no message can be made of. -/
def contextName (c : Collector) : Except Failure Text :=
  match c.options.context with
  | .text t => .ok t
  | v => if v.isHashable then .ok [] else .error .wrongType

/-! ### Adding -/

/-- Add one key of a file to the index. -/
def addOccurrence (c : Collector) (name : Text) (o : Occurrence) : Collecting Unit := do
  let context ← Collecting.ofAction (Action.ofExcept c.contextName)
  let reference := name ++ ':' :: Decimal.ofNat o.line
  let added := (← getThe Index).add context o.key reference o.comment
  set (← Collecting.ofAction (Action.ofExcept added))

/-- Add the keys of a text, as if it were the content of a file. -/
def addText (c : Collector) (loc : Location) (t : Text) : Collecting (List Occurrence) := do
  let name ← Collecting.ofAction (c.name loc)
  let found ← Collecting.ofAction do
    let found ← Action.ofExcept (Findings.ofText c.options c.rules t)
    Action.sayAll (found.notices name)
    return found
  found.occurrences.forM (c.addOccurrence name)
  Collecting.ofAction (Action.detail c.options.verbose 1
    (Decimal.ofNat found.occurrences.length ++ " keys in " ++ name))
  return found.occurrences

/-- Read a source file in an encoding, or else in that of the options. -/
def readText (c : Collector) (encoding : Value) (loc : Location) : Action Text := do
  let chosen := if encoding.truthy then encoding else c.options.encoding
  let name ← match chosen with
    | .text t => pure t
    | .null => pure ("utf-8" : Text)
    | _ => throw Failure.wrongType
  let bytes ← Action.read loc
  return Text.unifyLineEnds (← Action.ofExcept ((← get).decode name bytes))

/-- Report a file that is passed over. -/
def passOver (c : Collector) (what : Text) (loc : Location) (f : Failure) : Action Unit := do
  Action.say ("  " ++ what ++ ' ' :: (← c.name loc) ++ ": " ++ f.message) (some .red)

/-- Whether a file with a failure is passed over because it cannot be read. -/
def isUnreadable (f : Failure) : Bool := f.isSystem || f.kind == .decoding

/-- Add the keys of a file and count them. -/
def addLocation (c : Collector) (encoding : Value) (loc : Location) : Collecting Nat := do
  let content ← Collecting.ofAction (tryCatch (some <$> c.readText encoding loc) fun f => do
    if isUnreadable f then
      c.passOver "Error reading" loc f
      return none
    else throw f)
  match content with
  | none => return 0
  | some t => tryCatch (List.length <$> c.addText loc t) fun f => do
    if f.kind = .sourceSyntax then
      Collecting.ofAction (c.passOver "Could not parse" loc f)
      return 0
    else throw f

/-- The line about the number of keys. -/
def sayCount (count : Nat) : Collecting Unit :=
  Collecting.ofAction
    (Action.say ("Extracted " ++ Decimal.ofNat count ++ " key instances") (some .green))

/-- Add the keys of one file. -/
def addFile (c : Collector) (file : Text) (encoding : Value) : Collecting Unit := do
  let loc ← Collecting.ofAction do
    let loc := c.locate (← get).current file
    Action.say ("Extracting from " ++ (← c.name loc)) (some .blue)
    return loc
  sayCount (← c.addLocation encoding loc)

/-- Add the keys of all files that patterns find. -/
def addFiles (c : Collector) (patterns encoding : Value) : Collecting Unit := do
  let files ← Collecting.ofAction do
    let s ← get
    let files ← Action.ofExcept (s.tree.glob (c.base s.current) patterns)
    Action.say ("Extracting from " ++ Decimal.ofNat files.length ++ " files") (some .blue)
    return files
  sayCount ((← files.mapM (c.addLocation encoding)).foldr (· + ·) 0)

/-! ### Messages -/

/-- The message of a key of the index. -/
def message (c : Collector) (i : Index) (context key : Text) : Except Failure Message := do
  if key.isEmpty then throw (.messageKey key.quoted)
  match c.options.context with
  | .text _ => return { key, context, refs := ← i.refs context key,
                        comments := ← i.comments context key }
  | _ => throw .messageContext

def messages (c : Collector) (i : Index) : Except Failure (List Message) := do
  let context ← c.contextName
  (i.keys context).mapM (c.message i context)

/-- Collect the messages of all files that patterns find. -/
def collect (c : Collector) (patterns encoding : Value) : Collecting (List Message) := do
  c.addFiles patterns encoding
  let i ← getThe Index
  Collecting.ofAction (Action.ofExcept (c.messages i))

end Collector

end MessageCatalog
