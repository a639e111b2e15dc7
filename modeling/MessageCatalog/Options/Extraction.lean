import MessageCatalog.Options.Basic
import MessageCatalog.Path

/-!
# Extraction options

Which calls mark a translatable text, which of their arguments holds it, and what comments in the
source mean.
-/

namespace MessageCatalog

/-- What comments in the source mean. A pattern that is empty or absent matches nothing. -/
structure CommentOptions where
  extract : Value := .bool true
  keyPattern : Value := .text "i18n-extract (.+)"
  ignorePattern : Value := .text "i18n-ignore-line"
  deriving Inhabited

namespace CommentOptions

def names : List Text := ["extract", "key_regex", "ignore_regex"]

/-- The options that a value stands for: nothing and true are the defaults, false turns all
handling of comments off, and an object sets single options. -/
def ofValue (v : Value) : Except Failure CommentOptions :=
  match v with
  | .null | .bool true => .ok {}
  | .bool false => .ok { extract := .bool false, keyPattern := .null, ignorePattern := .null }
  | _ => do
    let fields ← Options.checkNames "comments" names v
    let defaults : CommentOptions := {}
    return {
      extract := Options.fieldOr "extract" defaults.extract fields
      keyPattern := Options.fieldOr "key_regex" defaults.keyPattern fields
      ignorePattern := Options.fieldOr "ignore_regex" defaults.ignorePattern fields }

end CommentOptions

/-- Options of the extraction. -/
structure ExtractOptions where
  baseDir : Path
  context : Value := .text ""
  encoding : Value := .text "utf-8"
  markers : List Value := [.text "_", .text "gettext"]
  argPos : Value := .int 0
  members : Value := .bool false
  comments : CommentOptions := {}
  verbose : Value := .int 0
  deriving Inhabited

namespace ExtractOptions

def names : List Text :=
  ["base_dir", "context", "encoding", "markers", "arg_pos", "members", "comments", "verbose"]

/-- A directory option: a text that is read as a path. -/
def directory? : Value → Except Failure Path
  | .text t => .ok (Path.ofText t)
  | _ => .error .wrongType

/-- The marker names that a value stands for, each once. -/
def markersOf (v : Value) : Except Failure (List Value) := do
  let items ← match v with
    | .text t => .ok [.text t]
    | .list items => .ok items
    | .object fields => .ok (fields.map fun f => .text f.1)
    | _ => .error .wrongType
  if items.all Value.isHashable then
    if items.isEmpty then .error .noMarkers else .ok (Value.distinctKeys items)
  else .error .wrongType

/-- Whether a value is a whole number; truth values count as such. -/
def isWhole : Value → Bool
  | .int _ | .bool _ => true
  | _ => false

/-- The options that an object stands for. `current` is the base directory by default. -/
def ofValue (current : Location) (v : Value) : Except Failure ExtractOptions := do
  let fields ← Options.checkNames "extract" names v
  let defaults : ExtractOptions := { baseDir := current.toPath }
  let baseDir ← match Value.field? "base_dir" fields with
    | some dir => directory? dir
    | none => .ok current.toPath
  let markers ← match Value.field? "markers" fields with
    | some m => markersOf m
    | none => .ok defaults.markers
  let argPos := Options.fieldOr "arg_pos" defaults.argPos fields
  if !isWhole argPos then throw .argumentPosition
  let comments ← match Value.field? "comments" fields with
    | some c => CommentOptions.ofValue c
    | none => .ok {}
  return {
    baseDir, markers, argPos, comments
    context := Options.fieldOr "context" defaults.context fields
    encoding := Options.fieldOr "encoding" defaults.encoding fields
    members := Options.fieldOr "members" defaults.members fields
    verbose := Options.fieldOr "verbose" defaults.verbose fields }

def position (o : ExtractOptions) : Int :=
  match o.argPos with
  | .int n => n
  | .bool b => b.toNat
  | _ => 0

def isMarker (o : ExtractOptions) (name : Text) : Bool :=
  o.markers.any fun m => match m with
    | .text t => decide (t = name)
    | _ => false

end ExtractOptions

end MessageCatalog
