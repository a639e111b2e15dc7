import MessageCatalog.Options.Basic

/-!
# Reference options

Whether reference comments are written, and the limits that shape them.
-/

namespace MessageCatalog

/-- Options of reference comments. Each limit is a value read by `Limit.ofValue`. -/
structure ReferenceOptions where
  enabled : Value := .bool true
  max : Value := .int (-1)
  perFile : Value := .int (-1)
  perLine : Value := .int (-1)
  lineLength : Value := .int (-1)
  deriving Inhabited

namespace ReferenceOptions

def names : List Text := ["enabled", "max", "per_file", "per_line", "line_length"]

/-- The options that a value stands for: nothing and true are the defaults, false turns
references off, and an object sets single options. -/
def ofValue (v : Value) : Except Failure ReferenceOptions :=
  match v with
  | .null | .bool true => .ok {}
  | .bool false => .ok { enabled := .bool false }
  | _ => do
    let fields ← Options.checkNames "references" names v
    return {
      enabled := Options.fieldOr "enabled" (.bool true) fields
      max := Options.fieldOr "max" (.int (-1)) fields
      perFile := Options.fieldOr "per_file" (.int (-1)) fields
      perLine := Options.fieldOr "per_line" (.int (-1)) fields
      lineLength := Options.fieldOr "line_length" (.int (-1)) fields }

end ReferenceOptions

end MessageCatalog
