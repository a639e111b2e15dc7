import MessageCatalog.Options.Reference
import MessageCatalog.Options.Extraction
import MessageCatalog.SortOrder

/-!
# Merge options

How messages are merged into a catalog, and how the result is written.
-/

namespace MessageCatalog

/-- The order that a value stands for: the name of a built-in order, or a function from the
register of custom comparisons. -/
def SortOrder.ofValue (custom : Text → Comparison) (v : Value) : Except Failure SortOrder :=
  match v with
  | .function name => .ok (.custom name (custom name))
  | .text name => match SortOrder.ofName? name with
    | some order => .ok order
    | none => .error (.sortOption v.shown)
  | _ => .error (.sortOption v.shown)

/-- Options of a merge. -/
structure MergeOptions where
  baseDir : Path
  context : Text := []
  sort : Value := .text "source"
  references : ReferenceOptions := {}
  replace : Value := .bool false
  dryRun : Value := .bool false
  forceSave : Value := .bool false
  gitCheck : Value := .bool true
  charset : Value := .text "utf-8"
  verbose : Value := .int 0
  /-- The comparisons that a sort option can name. -/
  custom : Text → Comparison := fun _ _ _ _ => 0
  deriving Inhabited

namespace MergeOptions

def names : List Text :=
  ["base_dir", "context", "sort", "references", "replace", "dry_run", "force_save", "git_check",
    "charset", "verbose"]

/-- What the surroundings give: the current directory, whether the environment asks for a dry run,
and the custom comparisons. -/
structure Surroundings where
  current : Location
  dryRun : Bool := false
  custom : Text → Comparison := fun _ _ _ _ => 0

/-- The options with nothing set. -/
def default (s : Surroundings) : MergeOptions :=
  { baseDir := s.current.toPath, custom := s.custom, dryRun := .bool s.dryRun }

/-- The options that fields stand for, with the reference options found by `references`. -/
def ofFields (s : Surroundings) (fields : List (Text × Value))
    (references : Except Failure ReferenceOptions) : Except Failure MergeOptions := do
  let defaults := default s
  let baseDir ← match Value.field? "base_dir" fields with
    | some dir => ExtractOptions.directory? dir
    | none => .ok defaults.baseDir
  let references ← references
  let sort := match Options.fieldOr "sort" .null fields with
    | .null => defaults.sort
    | v => v
  let _ ← SortOrder.ofValue s.custom sort
  let context ← match Options.fieldOr "context" (.text []) fields with
    | .text t => .ok t
    | _ => .error .optionContext
  return {
    baseDir, references, sort, context
    replace := Options.fieldOr "replace" defaults.replace fields
    dryRun := if s.dryRun then .bool true else Options.fieldOr "dry_run" (.bool false) fields
    forceSave := Options.fieldOr "force_save" defaults.forceSave fields
    gitCheck := Options.fieldOr "git_check" defaults.gitCheck fields
    charset := Options.fieldOr "charset" defaults.charset fields
    verbose := Options.fieldOr "verbose" defaults.verbose fields
    custom := s.custom }

def ofValue (s : Surroundings) (v : Value) : Except Failure MergeOptions := do
  let fields ← Options.checkNames "merge" names v
  ofFields s fields (ReferenceOptions.ofValue (Options.fieldOr "references" .null fields))

end MergeOptions

end MessageCatalog
