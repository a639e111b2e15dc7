import MessageCatalog.Value.Basic
import MessageCatalog.Failure

/-!
# Option values

Options are given as an object whose names are checked first. Fields that need no check keep the
value they were given; what a value of the wrong type leads to is decided where it is used.
-/

namespace MessageCatalog.Options

/-- The fields of an object of options, after refusing names that are not known. -/
def checkNames (section' : Text) (known : List Text) (v : Value) :
    Except Failure (List (Text × Value)) :=
  match v with
  | .object fields =>
    let unknown := (fields.map (·.1)).filter fun name => !known.contains name
    if unknown.isEmpty then .ok fields
    else .error (.unknownOptions section' (Text.sort unknown))
  | other => .error (.optionsNotMapping section' other.typeName)

def fieldOr (name : Text) (default : Value) (fields : List (Text × Value)) : Value :=
  (Value.field? name fields).getD default

/-- Whether a number value is at least the given level of detail. -/
def atLeast (v : Value) (level : Int) : Except Failure Bool :=
  match v.number? with
  | some x => .ok (match x with
    | .nan => false
    | _ => !(Binary64.ofInt level).greater x)
  | none => .error .wrongType

end MessageCatalog.Options
