import MessageCatalog.Text.Basic

/-!
# Syntax trees

The tree of a source file, as far as the search for messages needs it. Expressions that can hold a
message have constructors of their own; all other expressions and all statements are a form with
children. Children stand in the order in which they are visited.
-/

namespace MessageCatalog.Source

/-- The types of constants other than texts. -/
inductive ConstantType where
  | int | float | complex | bytes | bool | none | ellipsis
  deriving DecidableEq, Repr

/-- The name of a constant's type, as messages give it. -/
def ConstantType.name : ConstantType → Text
  | .int => "int"
  | .float => "float"
  | .complex => "complex"
  | .bytes => "bytes"
  | .bool => "bool"
  | .none => "NoneType"
  | .ellipsis => "ellipsis"

/-- The forms of expressions without a constructor of their own; `part` is everything that is no
expression. -/
inductive Form where
  | tuple | list | set | dict
  | listComp | setComp | dictComp | generator
  | unary | binary | compare
  | lambda | named | starred | subscript | slice
  | await | yield | yieldFrom
  | field
  | part
  deriving DecidableEq, Repr

def Form.name : Form → Text
  | .tuple => "Tuple"
  | .list => "List"
  | .set => "Set"
  | .dict => "Dict"
  | .listComp => "ListComp"
  | .setComp => "SetComp"
  | .dictComp => "DictComp"
  | .generator => "GeneratorExp"
  | .unary => "UnaryOp"
  | .binary => "BinOp"
  | .compare => "Compare"
  | .lambda => "Lambda"
  | .named => "NamedExpr"
  | .starred => "Starred"
  | .subscript => "Subscript"
  | .slice => "Slice"
  | .await => "Await"
  | .yield => "Yield"
  | .yieldFrom => "YieldFrom"
  | .field => "FormattedValue"
  | .part => "Module"

/-- A node of a syntax tree. -/
inductive Node where
  /-- A constant text. -/
  | text (t : Text)
  /-- Another constant. -/
  | constant (type : ConstantType)
  | name (id : Text)
  | attribute (object : Node) (id : Text)
  /-- A call, with the lines on which it begins and ends. -/
  | call (line endLine : Nat) (function : Node) (arguments keywords : List Node)
  /-- A sum of two operands. -/
  | sum (left right : Node)
  /-- A formatted text: constant texts and fields. -/
  | formatted (parts : List Node)
  /-- A choice by a test. -/
  | choice (test body orElse : Node)
  /-- A disjunction or a conjunction of two or more operands. -/
  | junction (isOr : Bool) (first second : Node) (rest : List Node)
  | other (form : Form) (children : List Node)
  deriving Inhabited

namespace Node

/-- Whether a node can be given a single value. -/
def isPlace : Node → Bool
  | .name _ | .attribute .. | .other .subscript _ => true
  | _ => false

mutual

/-- Whether a node can stand before an assignment: a place, or a tuple or list of such; one item
can be starred. -/
def isTarget : Node → Bool
  | .name _ | .attribute .. | .other .subscript _ => true
  | .other .tuple items | .other .list items => areTargets items
  | .other .starred [inner] => isUnstarred inner && isTarget inner
  | _ => false

/-- Whether all nodes can stand before an assignment. -/
def areTargets : List Node → Bool
  | [] => true
  | n :: rest => isTarget n && areTargets rest

def isUnstarred : Node → Bool
  | .other .starred _ => false
  | _ => true

end

mutual

/-- Whether a node can be deleted. -/
def isDeletable : Node → Bool
  | .name _ | .attribute .. | .other .subscript _ => true
  | .other .tuple items | .other .list items => areDeletable items
  | _ => false

def areDeletable : List Node → Bool
  | [] => true
  | n :: rest => isDeletable n && areDeletable rest

end

end Node

end MessageCatalog.Source
