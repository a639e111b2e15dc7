import MessageCatalog.Merge.Comments
import MessageCatalog.Message
import MessageCatalog.Notice
import MessageCatalog.Options.Merge

/-!
# Merging messages into a catalog

Every message id ends up in one of three groups: *added* if only the messages have it, *found* if
the catalog has it too, and *missing* if only the catalog has it. A found message id is also
*changed* if one of its comments is. Two catalogs come out: `patch` keeps the missing entries
without the comments that belong to places in the source, so that their translations survive, and
`replace` holds the messages only.
-/

namespace MessageCatalog

/-- What happened to one message id. -/
structure Tracked where
  entry : Entry
  message : Option Message := none
  changes : List Change := []

/-- What a merge can tell about a message id. -/
inductive Event where
  | added | found | changed | missing
  deriving DecidableEq, Repr

def Event.name : Event → Text
  | .added => "added"
  | .found => "found"
  | .changed => "changed"
  | .missing => "missing"

namespace Merge

/-- A message that has been merged, and whether the catalog lacked it. -/
structure Step where
  tracked : Tracked
  isNew : Bool

/-- How much a merge tells. -/
structure Detail where
  some : Bool
  all : Bool

/-! ### Merging one message -/

/-- Set the reference comment of an entry, if references are on and the message has some. -/
def mergeReference (o : ReferenceOptions) (m : Message) (e : Entry) :
    Except Failure (Entry × Option Change) :=
  if o.enabled.truthy && !m.refs.isEmpty then e.setReference o m.refs else .ok (e, none)

def mergeFound (o : ReferenceOptions) (m : Message) (found : Entry) : Except Failure Step := do
  let (e, reference) ← mergeReference o m found
  let (e, extracted) := e.setExtracted m.comments
  return ⟨⟨e, some m, reference.toList ++ extracted.toList⟩, false⟩

/-- The entry of a message that the catalog lacks. -/
def mergeNew (o : ReferenceOptions) (context : Text) (m : Message) : Except Failure Step := do
  let (e, _) ← mergeReference o m { msgid := m.key }
  let (e, _) := e.setExtracted m.comments
  return ⟨⟨if context.isEmpty then e else { e with msgctxt := some context }, some m, []⟩, true⟩

def mergeOne (o : ReferenceOptions) (context : Text) (source : Bucket) (m : Message) :
    Except Failure Step :=
  match source.get? m.key with
  | some found => mergeFound o m found
  | none => mergeNew o context m

/-! ### Merging all messages -/

/-- Read and merge one value, when the keys in `seen` have been merged already. -/
def mergeValue (o : ReferenceOptions) (context : Text) (source : Bucket) (seen : List Text)
    (v : Value) : Except Failure (Text × Step) := do
  let m ← Message.ofValue v
  if seen.contains m.key then throw (.duplicateKey m.key)
  return (m.key, ← mergeOne o context source m)

/-- Merge messages one after another, up to the first that fails. -/
def mergeAll (o : ReferenceOptions) (context : Text) (source : Bucket) (seen : List Text) :
    List Value → List (Text × Step) × Option Failure
  | [] => ([], none)
  | v :: rest => match mergeValue o context source seen v with
    | .error f => ([], some f)
    | .ok step =>
      let (steps, failure) := mergeAll o context source (step.1 :: seen) rest
      (step :: steps, failure)

/-- The entries that no message has, without the comments that belong to places. -/
def missingFrom (source : Bucket) (seen : List Text) : List (Text × Tracked) :=
  (source.entries.filter fun p => !p.1.isEmpty && !seen.contains p.1).map fun p =>
    (p.1, { entry := p.2.clearPlaces })

/-! ### What a merge tells -/

def Step.events (s : Step) : List Event :=
  if s.isNew then [.added]
  else if s.tracked.changes.isEmpty then [.found] else [.found, .changed]

def eventNotice (event : Event) (msgid : Text) : Notice := ⟨event.name ++ ": " ++ msgid, none⟩

/-- Whether an event is told at a level of detail. -/
def Detail.tells (d : Detail) : Event → Bool
  | .added | .missing => d.some
  | .found | .changed => d.all

def Step.notices (o : ReferenceOptions) (d : Detail) (key : Text) (s : Step) : List Notice :=
  let hasRefs := match s.tracked.message with
    | some m => !m.refs.isEmpty
    | none => false
  (if o.enabled.truthy && !hasRefs then
    [⟨"Missing location reference for '" ++ key ++ "'", some .yellow⟩] else []) ++
    (s.events.filter d.tells).map (eventNotice · key)

/-- The first line of a merge. -/
def opening (c : Catalog) (context : Text) : Notice :=
  ⟨"Processing po: context='" ++ context ++ "' language=" ++ c.language ++ " translations=" ++
    Decimal.ofNat (c.count context), some .cyan⟩

end Merge

/-! ### The report -/

/-- The result of a merge. -/
structure MergeReport where
  steps : List (Text × Merge.Step)
  missing : List (Text × Tracked)
  patch : Catalog
  replace : Catalog

namespace MergeReport

/-- The message ids of an event, with what happened to them. -/
def track (r : MergeReport) (event : Event) : List (Text × Tracked) :=
  match event with
  | .missing => r.missing
  | _ => (r.steps.filter fun s => s.2.events.contains event).map fun s => (s.1, s.2.tracked)

/-- The groups of a report, in the order they are told. -/
def groups : List Event := [.added, .found, .changed, .missing]

/-- The number of message ids in a group. -/
def count (r : MergeReport) (event : Event) : Nat := (r.track event).length

/-- The sizes of all groups. -/
def counts (r : MergeReport) : List (Event × Nat) := groups.map fun g => (g, r.count g)

def isChange (r : MergeReport) : Bool := 0 < r.count .added + r.count .missing + r.count .changed

/-- The sizes of the groups as a line. -/
def totals (r : MergeReport) : Text :=
  Text.join ", " (r.counts.map fun c => c.1.name ++ '=' :: Decimal.ofNat c.2)

end MergeReport

namespace Merge

/-- Everything that comes out of a merge: the lines and events in order, and the report or the
reason why there is none. -/
structure Outcome where
  notices : List Notice := []
  events : List (Event × Text) := []
  result : Except Failure MergeReport

/-- The outcome of a failure before anything happened. -/
def Outcome.failed (f : Failure) : Outcome := { result := .error f }

/-- The report about merged messages and missing entries. -/
def report (c : Catalog) (context : Text) (order : SortOrder) (source : Bucket)
    (steps : List (Text × Step)) : MergeReport :=
  let missing := missingFrom source (steps.map (·.1))
  let positions := SortOrder.positions source.keys
  let bucket (entries : List (Text × Tracked)) : Bucket :=
    order.sortBucket positions (.ofList (entries.map fun e => (e.1, e.2.entry)))
  let merged := steps.map fun s => (s.1, s.2.tracked)
  { steps, missing
    patch := c.withContext context (bucket (merged ++ missing))
    replace := c.withContext context (bucket merged) }

/-- Merge values into the entries of a context. -/
def mergeBucket (c : Catalog) (source : Bucket) (o : MergeOptions) (order : SortOrder)
    (d : Detail) (messages : List Value) : Outcome :=
  let (steps, failure) := mergeAll o.references o.context source [] messages
  let stepNotices := (if d.some then [opening c o.context] else []) ++
    steps.flatMap fun s => s.2.notices o.references d s.1
  let stepEvents := steps.flatMap fun s => s.2.events.map fun e => (e, s.1)
  match failure with
  | some f => ⟨stepNotices, stepEvents, .error f⟩
  | none =>
    let r := report c o.context order source steps
    { notices := stepNotices ++
        (if d.some then r.missing.map fun m => eventNotice .missing m.1 else []) ++
        [⟨"Totals: " ++ r.totals, none⟩]
      events := stepEvents ++ r.missing.map fun m => (.missing, m.1)
      result := .ok r }

/-- The values that a list of messages stands for; an object stands for its names. -/
def messageValues : Value → Except Failure (List Value)
  | .list items => .ok items
  | .object fields => .ok (fields.map fun f => .text f.1)
  | other => .error (.messagesNotList other.typeName)

/-- What has to hold before a merge starts: its messages are a list, the sort order is known, the
catalog has the context, and the level of detail is a number. -/
def prepare (c : Catalog) (messages : Value) (o : MergeOptions) :
    Except Failure (List Value × SortOrder × Bucket × Detail) := do
  let values ← messageValues messages
  let order ← SortOrder.ofValue o.custom o.sort
  let source ← match c.translations.get? o.context with
    | some source => .ok source
    | none => .error (.missingContext o.context)
  return (values, order, source, ⟨← Options.atLeast o.verbose 1, ← Options.atLeast o.verbose 2⟩)

end Merge

def Catalog.merge (c : Catalog) (messages : Value) (o : MergeOptions) : Merge.Outcome :=
  match Merge.prepare c messages o with
  | .error f => .failed f
  | .ok (values, order, source, detail) => Merge.mergeBucket c source o order detail values

end MessageCatalog
