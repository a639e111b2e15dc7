import MessageCatalog.Number.Binary64
import MessageCatalog.Text.Quoted
import MessageCatalog.OrderedMap

/-!
# Dynamic values

Options and messages arrive from configuration files and callers as values of no fixed type. A
value is what a JSON text can hold, or a function that the caller has registered under a name. The
fields of an object keep their order.
-/

namespace MessageCatalog

/-- A value of no fixed type. -/
inductive Value where
  | null
  | bool (b : Bool)
  | int (n : Int)
  | float (x : Binary64)
  | text (t : Text)
  | list (items : List Value)
  | object (fields : List (Text × Value))
  | function (name : Text)
  deriving Inhabited

namespace Value

/-- The name of a value's type, as messages give it. -/
def typeName : Value → Text
  | .null => "NoneType"
  | .bool _ => "bool"
  | .int _ => "int"
  | .float _ => "float"
  | .text _ => "str"
  | .list _ => "list"
  | .object _ => "dict"
  | .function _ => "function"

/-- Whether a value counts as true: all do but nothing, false, zero and what is empty. -/
def truthy : Value → Bool
  | .null => false
  | .bool b => b
  | .int n => n != 0
  | .float x => !x.isZero
  | .text t => !t.isEmpty
  | .list items => !items.isEmpty
  | .object fields => !fields.isEmpty
  | .function _ => true

def field? (name : Text) : List (Text × Value) → Option Value := List.lookup name

/-- A number, of either kind. Truth values count as one and zero. -/
def number? : Value → Option Binary64
  | .bool b => some (.ofInt b.toNat)
  | .int n => some (.ofInt n)
  | .float x => some x
  | _ => none

/-- Whether a value can be a key of a map: lists and objects cannot. -/
def isHashable : Value → Bool
  | .list _ | .object _ => false
  | _ => true

/-! ### Showing values -/

mutual

/-- The text of a value inside a message. -/
def shown : Value → Text
  | .null => "None"
  | .bool b => if b then "True" else "False"
  | .int n => Decimal.ofInt n
  | .float x => x.toText
  | .text t => t.quoted
  | .list items => '[' :: shownItems items ++ [']']
  | .object fields => '\x7b' :: shownFields fields ++ ['\x7d']
  | .function name => "<function " ++ name ++ ">"

/-- Items with commas between them. -/
def shownItems : List Value → Text
  | [] => []
  | [v] => shown v
  | v :: rest => shown v ++ ", " ++ shownItems rest

/-- Fields with commas between them. -/
def shownFields : List (Text × Value) → Text
  | [] => []
  | [(name, v)] => name.quoted ++ ": " ++ shown v
  | (name, v) :: rest => name.quoted ++ ": " ++ shown v ++ ", " ++ shownFields rest

end

/-- The text of a value as part of a sentence: a text stands for itself. -/
def display : Value → Text
  | .text t => t
  | v => shown v

/-! ### Equality of keys -/

/-- Whether two values are one key of a map: numbers are compared by value, whatever their
type. -/
def sameKey : Value → Value → Bool
  | .null, .null => true
  | .text a, .text b => decide (a = b)
  | .function a, .function b => decide (a = b)
  | a, b => match a.number?, b.number? with
    | some x, some y => match x, y with
      | .nan, _ | _, .nan => false
      | _, _ => !x.greater y && !y.greater x
    | _, _ => false

/-- The values without those that are the same key as an earlier one. -/
def distinctKeys : List Value → List Value
  | [] => []
  | v :: rest => v :: (distinctKeys rest).filter fun w => !sameKey v w

end Value

end MessageCatalog
