import MessageCatalog.Audit.Files
import MessageCatalog.CommandLine.Overlay
import MessageCatalog.Extract.Collector
import MessageCatalog.Merge.Files

/-!
# The commands

Each command turns its arguments into options, does its work in a session, and comes to a verdict.
Failures that a command expects become a verdict; any other failure ends the program where it
stands.
-/

namespace MessageCatalog.CommandLine

/-- How a command comes to its end: well, with something to print, or with a line about what went
wrong. -/
inductive Verdict where
  | success (printed : Text)
  | failure (reason : Text)
  deriving DecidableEq, Inhabited

def expecting {α : Type} (expected : Failure → Bool) (a : Action α) : Action (Except Failure α) :=
  tryCatch (.ok <$> a) fun f => if expected f then return .error f else throw f

/-- Read the configuration file, if there is one. -/
def loadConfig (a : Arguments) : Action Config := do
  match a.value? .config with
  | none => return {}
  | some t =>
    let path := Path.ofText t
    let s ← get
    let bytes ← Action.ofExcept (s.tree.readPath (s.current.toPath.append path))
    match Charset.utf8.decode bytes with
    | none => throw (.undecodable "utf-8")
    | some content => Action.ofExcept (Config.ofText path.toText (Text.unifyLineEnds content))

/-- Collect the messages of the files that patterns find. -/
def collect (o : ExtractOptions) (patterns : List Text) : Action (List Message) := do
  let c ← Action.ofExcept (Collector.ofOptions o)
  (c.collect (.list (patterns.map .text)) .null).fromEmpty

/-- Extract messages, and print them or write them to a file. -/
def extractMessages (a : Arguments) : Action Verdict := do
  let found ← expecting Failure.isOwn do
    let config ← loadConfig a
    let options ← Action.ofExcept (a.extractOptions (← get).current config.extract)
    collect options a.words
  match found with
  | .error f => return .failure f.message
  | .ok messages =>
    let data := Value.list (messages.map Message.toValue)
    match a.value? .output with
    | none => return .success (data.print ++ ['\n'])
    | some t =>
      let path := Path.ofText t
      Action.writeValue ((← get).current.resolve path) data
      Action.say ("Wrote " ++ Decimal.ofNat messages.length ++ " messages to " ++ path.toText)
        (some .green)
      return .success []

/-- Merge messages into one file, and tell whether that failed. -/
def mergeFile (m : Merger) (directory : Option Text) (messages : Value) (file : Location) :
    Action Bool := do
  let current := (← get).current
  let merged ← expecting Failure.isContained (match directory with
    | some dir =>
      m.updateTo file (Location.resolve [] (m.destination current file dir)) messages
    | none => m.update file messages)
  match merged with
  | .error f =>
    Action.say ("Error: " ++ m.nameOf current file ++ ": " ++ f.message) (some .red)
    return true
  | .ok r =>
    Action.say (r.file ++ ": " ++ r.report.totals) (if r.written then some .green else none)
    return false

/-- The end of a merge, told for each file whether it failed. -/
def verdictOf (failures : List Bool) : Verdict :=
  match failures.countP id with
  | 0 => .success []
  | n + 1 => .failure (Decimal.ofNat (n + 1) ++ " of " ++ Decimal.ofNat failures.length ++
      " po file(s) failed")

/-- Merge messages into catalog files, each on its own. -/
def mergeFiles (m : Merger) (directory : Option Text) (messages : Value) (files : List Location) :
    Action Verdict := do
  if files.isEmpty then
    Action.say "No po files found" (some .yellow)
    return .success []
  return verdictOf (← files.mapM (mergeFile m directory messages))

/-- Read the options of a merge, extract the messages and find the catalog files. -/
def prepareMerge (a : Arguments) (s : MergeOptions.Surroundings) :
    Action (Merger × List Message × List Location) := do
  let config ← loadConfig a
  let options ← Action.ofExcept (a.extractOptions s.current config.extract)
  let merger : Merger := ⟨← Action.ofExcept (a.mergeOptions s config.merge)⟩
  let messages ← collect options (a.values .source)
  return (merger, messages, ← merger.find (.list (a.words.map .text)))

/-- Extract messages and merge them into catalog files. -/
def mergeMessages (a : Arguments) (s : MergeOptions.Surroundings) : Action Verdict := do
  match ← expecting Failure.isOwn (prepareMerge a s) with
  | .error f => return .failure f.message
  | .ok (merger, messages, files) =>
    mergeFiles merger (a.value? .destination) (.list (messages.map Message.toValue)) files

/-- The line about all audited files. -/
def summaryLine (s : AuditSummary) : Text :=
  "Summary: files=" ++ Decimal.ofNat s.reports.length ++
    ", untranslated=" ++ Decimal.ofNat (s.sum AuditReport.untranslated) ++
    ", fuzzy=" ++ Decimal.ofNat (s.sum AuditReport.fuzzy) ++
    ", obsolete=" ++ Decimal.ofNat (s.sum AuditReport.obsolete)

/-- Audit catalog files, and write a report where one is asked for. -/
def auditCatalogs (a : Arguments) : Action Verdict := do
  let options : AuditOptions :=
    { context := (a.value? .context).getD []
      baseDir := Path.ofText ((a.value? .baseDir).getD ".")
      charset := (a.value? .charset).getD "utf-8" }
  match ← expecting Failure.isContained (options.auditAll (.list (a.words.map .text))) with
  | .error f => return .failure f.message
  | .ok summary =>
    Action.sayAll summary.notices
    if let some t := a.value? .outputDirectory then
      let directory := Path.ofText t
      summary.save ((← get).current.resolve directory)
      Action.say ("Audit report written: " ++
        (directory.append ⟨[], [AuditSummary.fileName]⟩).toText) (some .green)
    Action.say (summaryLine summary)
    return .success []

end MessageCatalog.CommandLine
