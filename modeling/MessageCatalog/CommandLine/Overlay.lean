import MessageCatalog.CommandLine.Arguments
import MessageCatalog.Options.Config
import MessageCatalog.Options.Merge

/-!
# Options of a command

The options of a command are those of the configuration file, with the settings of the command line
laid over them.
-/

namespace MessageCatalog.CommandLine

def pair? : Value → Except Failure (Value × Value)
  | .list [a, b] => .ok (a, b)
  | .text [a, b] => .ok (.text [a], .text [b])
  | .object [(a, _), (b, _)] => .ok (.text a, .text b)
  | .list _ | .text _ | .object _ => .error .notPair
  | _ => .error .wrongType

/-- The fields that pairs stand for, and whether there is a name that is no text. -/
def addPair (state : List (Text × Value) × Bool) (v : Value) :
    Except Failure (List (Text × Value) × Bool) := do
  match ← pair? v with
  | (.text name, value) => return (OrderedMap.insertPair name value state.1, state.2)
  | (name, _) => if name.isHashable then return (state.1, true) else throw .wrongType

/-- The fields of a section. A list of pairs is a section, too. -/
def sectionFields : Value → Except Failure (List (Text × Value))
  | .object fields => .ok fields
  | .list items => do
    let (fields, stray) ← items.foldlM addPair ([], false)
    if stray then throw .wrongType else return fields
  | .text [] => .ok []
  | .text _ => .error .notPair
  | _ => .error .wrongType

def objectFields : Value → Except Failure (List (Text × Value))
  | .object fields => .ok fields
  | _ => .error .noFields

/-- Lay values over fields; a value that is not there changes nothing. -/
def overlay (fields : List (Text × Value)) (values : List (Text × Option Value)) :
    List (Text × Value) :=
  values.foldl (fun fields v => match v.2 with
    | some value => OrderedMap.insertPair v.1 value fields
    | none => fields) fields

namespace Arguments

def textOption (a : Arguments) (s : Setting) : Option Value := (a.value? s).map .text

def numberOption (a : Arguments) (s : Setting) : Option Value := (a.number? s).map .int

/-- A setting that was turned on or off as an option. -/
def truthOption (a : Arguments) (s : Setting) : Option Value := (a.truth? s).map .bool

/-- A setting that can only be turned on as an option. -/
def onOption (a : Arguments) (s : Setting) : Option Value :=
  if a.isOn s then some (.bool true) else none

/-- How often the user asked for details, as an option. -/
def verboseOption (a : Arguments) : Option Value :=
  match a.count .verbose with
  | 0 => none
  | n + 1 => some (.int (n + 1))

def markersOption (a : Arguments) : Option Value :=
  match a.values .marker with
  | [] => none
  | names => some (.list (names.map .text))

/-- Lay the settings that all sections have in common over fields. -/
def overlayShared (a : Arguments) (fields : List (Text × Value)) : List (Text × Value) :=
  overlay fields [("base_dir", a.textOption .baseDir), ("context", a.textOption .context),
    ("verbose", a.verboseOption)]

/-- The extraction options of a section and the command line. -/
def extractOptions (a : Arguments) (current : Location) (sect : Value) :
    Except Failure ExtractOptions := do
  let fields := overlay (a.overlayShared (← sectionFields sect))
    [("markers", a.markersOption), ("arg_pos", a.numberOption .argPos),
      ("members", a.truthOption .members)]
  let o ← ExtractOptions.ofValue current (.object fields)
  match a.truthOption .comments with
  | some v => return { o with comments := { o.comments with extract := v } }
  | none => return o

def referenceOptions (a : Arguments) (v : Value) : Except Failure ReferenceOptions := do
  let o ← ReferenceOptions.ofValue v
  return {
    enabled := (a.truthOption .references).getD o.enabled
    max := (a.numberOption .refsMax).getD o.max
    perFile := (a.numberOption .refsPerFile).getD o.perFile
    perLine := (a.numberOption .refsPerLine).getD o.perLine
    lineLength := (a.numberOption .refsLineLength).getD o.lineLength }

/-- The merge options of a section and the command line. -/
def mergeOptions (a : Arguments) (s : MergeOptions.Surroundings) (sect : Value) :
    Except Failure MergeOptions := do
  let given ← objectFields sect
  let references ← a.referenceOptions (Options.fieldOr "references" .null given)
  let fields := overlay (a.overlayShared given)
    [("sort", a.textOption .sort), ("replace", a.truthOption .replace),
      ("dry_run", a.onOption .dryRun), ("force_save", a.onOption .forceSave),
      ("git_check", a.truthOption .gitCheck)]
  let fields ← Options.checkNames "merge" MergeOptions.names (.object fields)
  MergeOptions.ofFields s fields (.ok references)

end Arguments

end MessageCatalog.CommandLine
