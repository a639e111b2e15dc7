import MessageCatalog.Text.Basic
import MessageCatalog.Text.NameTable

/-!
# Characters by name

A character of the tables can be given by its Unicode name. Letter case does not matter.
-/

namespace MessageCatalog.Text

def placeOf (name : Text) : List Text → Option Nat
  | [] => none
  | n :: rest => if n = name then some 0 else (placeOf name rest).map (· + 1)

/-- The character of a name in small letters, if the tables have it. -/
def named? (name : Text) : Option Char :=
  NameTable.runs.findSome? fun run =>
    (placeOf name (run.2.flatMap fun t => splitOn ';' (lower t.toList))).map fun i => Char.ofNat (run.1 + i)

end MessageCatalog.Text
