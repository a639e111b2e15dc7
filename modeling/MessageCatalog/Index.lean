import MessageCatalog.OrderedMap
import MessageCatalog.Reference.Basic
import MessageCatalog.Failure

/-!
# The index of messages

The index collects where messages were found: by context, by key and by reference, each in the
order of first mention. A reference holds at most one comment; a second comment that differs from
the first is a conflict.
-/

namespace MessageCatalog

/-- The comment, if there is one, at each reference of each key of each context. -/
structure Index where
  contexts : OrderedMap (OrderedMap (OrderedMap (Option Text))) := .empty

namespace Index

def empty : Index := ⟨.empty⟩

instance : Inhabited Index := ⟨empty⟩

/-- The references of a key with their comments. -/
def places? (i : Index) (context key : Text) : Except Failure (OrderedMap (Option Text)) :=
  match i.contexts.get? context with
  | none => .error (.missingKey context)
  | some keys => match keys.get? key with
    | none => .error (.missingKey key)
    | some places => .ok places

/-- A comment that is not empty. -/
def nonempty : Option Text → Option Text
  | some (c :: rest) => some (c :: rest)
  | _ => none

def add (i : Index) (context key reference : Text) (comment : Option Text) :
    Except Failure Index :=
  let keys := (i.contexts.get? context).getD .empty
  let places := (keys.get? key).getD .empty
  let stored := nonempty ((places.get? reference).getD none)
  let store (c : Option Text) : Index :=
    ⟨i.contexts.insert context (keys.insert key (places.insert reference c))⟩
  match stored, nonempty comment with
  | some old, some new =>
    if old = new then .ok (store (some old)) else .error (.conflict key reference old new)
  | some old, none => .ok (store (some old))
  | none, new => .ok (store new)

def contextNames (i : Index) : List Text := i.contexts.keys

/-- The keys of a context; an unknown context has none. -/
def keys (i : Index) (context : Text) : List Text :=
  match i.contexts.get? context with
  | some keys => keys.keys
  | none => []

/-- The references of a key, by file and line. -/
def refs (i : Index) (context key : Text) : Except Failure (List Text) := do
  return Reference.sort (← i.places? context key).keys

def comment (i : Index) (context key reference : Text) : Except Failure (Option Text) := do
  match (← i.places? context key).get? reference with
  | some c => return c
  | none => .error (.missingKey reference)

/-- The comments of a key in the order of its references. -/
def comments (i : Index) (context key : Text) : Except Failure (List Text) := do
  let places ← i.places? context key
  return (Reference.sort places.keys).filterMap fun ref => nonempty ((places.get? ref).getD none)

/-- The number of keys of all contexts. -/
def size (i : Index) : Nat := (i.contexts.values.map OrderedMap.size).foldr (· + ·) 0

end Index

end MessageCatalog
