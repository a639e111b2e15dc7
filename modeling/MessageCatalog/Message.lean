import MessageCatalog.Value.Basic
import MessageCatalog.Failure

/-!
# Messages

A message is a text to be translated, with the places where it was found and the comments beside
them. Messages are also accepted as values of no fixed type, which are checked field by field.
-/

namespace MessageCatalog

/-- A message with all places where it was found. -/
structure Message where
  key : Text
  context : Text := []
  refs : List Text := []
  comments : List Text := []
  deriving DecidableEq, Inhabited

namespace Message

/-- The texts that a field stands for: a single text is a list of one, and nothing is none. -/
def textsOf (field : Text) : Value → Except Failure (List Text)
  | .null => .ok []
  | .text t => .ok [t]
  | .list items => items.mapM fun v => match v with
    | .text t => .ok t
    | other => .error (.messageStrings field other.typeName)
  | .object fields => .ok (fields.map (·.1))
  | _ => .error .wrongType

def ofValue (v : Value) : Except Failure Message :=
  match v with
  | .object fields => do
    let get (name : Text) : Value := (Value.field? name fields).getD .null
    let key ← match get "key" with
      | .text (c :: rest) => .ok (c :: rest)
      | other => .error (.messageKey other.shown)
    let given := get "context"
    let context ← match if given.truthy then given else .text [] with
      | .text t => .ok t
      | _ => .error .messageContext
    let refs ← textsOf "refs" (get "refs")
    let comments ← textsOf "comments" (get "comments")
    return { key, context, refs, comments }
  | other => .error (.messageNotMapping other.typeName)

def toValue (m : Message) : Value :=
  .object [
    ("key", .text m.key),
    ("context", .text m.context),
    ("refs", .list (m.refs.map .text)),
    ("comments", .list (m.comments.map .text))]

end Message

end MessageCatalog
