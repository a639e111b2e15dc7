import MessageCatalog.Options.Basic
import MessageCatalog.Value.Reader

/-!
# Configuration files

A configuration file is an object with a section for extracting and one for merging; a section
that is missing is empty.
-/

namespace MessageCatalog

/-- The sections of a configuration. -/
structure Config where
  extract : Value := .object []
  merge : Value := .object []
  deriving Inhabited

namespace Config

def names : List Text := ["extract", "merge"]

/-- Read the text of the configuration file at a path. -/
def ofText (path content : Text) : Except Failure Config :=
  match Value.read content with
  | .error .grammar => .error (.configSyntax path)
  | .error .longNumber => .error .longNumber
  | .ok (.object fields) =>
    let unknown := (fields.map (·.1)).filter fun name => !names.contains name
    if unknown.isEmpty then
      .ok {
        extract := Options.fieldOr "extract" (.object []) fields
        merge := Options.fieldOr "merge" (.object []) fields }
    else .error (.configSections (Text.sort unknown))
  | .ok _ => .error (.configNotObject path)

end Config

end MessageCatalog
