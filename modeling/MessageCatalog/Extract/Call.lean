import MessageCatalog.Source.Node

/-!
# Calls in a source file

The calls of a tree in the order in which they are visited: a call comes before the calls inside
it, and the children of a node are visited from the first to the last.
-/

namespace MessageCatalog

open Source

/-- A call: the lines on which it begins and ends, what is called, and the arguments by
position. -/
structure Call where
  line : Nat
  endLine : Nat
  function : Node
  arguments : List Node
  deriving Inhabited

namespace Call

mutual

def inNode : Node → List Call
  | .text _ | .constant _ | .name _ => []
  | .attribute object _ => inNode object
  | .call line endLine function arguments keywords =>
    ⟨line, endLine, function, arguments⟩ ::
      (inNode function ++ inNodes arguments ++ inNodes keywords)
  | .sum left right => inNode left ++ inNode right
  | .formatted parts => inNodes parts
  | .choice test body orElse => inNode test ++ inNode body ++ inNode orElse
  | .junction _ first second rest => inNode first ++ inNode second ++ inNodes rest
  | .other _ children => inNodes children

/-- The calls of several trees. -/
def inNodes : List Node → List Call
  | [] => []
  | n :: rest => inNode n ++ inNodes rest

end

@[simp] theorem inNodes_append (ns ms : List Node) :
    inNodes (ns ++ ms) = inNodes ns ++ inNodes ms := by
  induction ns with
  | nil => simp [inNodes]
  | cons n rest ih => simp [inNodes, ih]

/-- The argument at a position; a negative position counts from the end. -/
def argument? (c : Call) (position : Int) : Option Node :=
  let index := if position < 0 then c.arguments.length + position else position
  if index < 0 then none else c.arguments[index.toNat]?

end Call

end MessageCatalog
