import MessageCatalog.Source.Node

/-!
# Keys of an argument

The keys that an argument of a call can stand for. What only the running program knows is written
as a star; an expression that cannot hold a text has no key, and a warning says why.
-/

namespace MessageCatalog

open Source

/-- The keys of an expression, nothing where a key cannot be told, and the warnings about it. -/
structure Keys where
  keys : List (Option Text)
  warnings : List Text := []
  deriving DecidableEq, Inhabited

namespace Keys

/-- What stands in a key for a part that is not known. -/
def unknownPart : Text := "*"

/-- A key that is known. -/
def known (t : Text) : Keys := ⟨[some t], []⟩

/-- A key that cannot be told. -/
def unknown (warning : Text) : Keys := ⟨[none], [warning]⟩

/-- All keys of two expressions. -/
def append (a b : Keys) : Keys := ⟨a.keys ++ b.keys, a.warnings ++ b.warnings⟩

instance : Append Keys := ⟨append⟩

/-- All keys of several expressions. -/
def concat (all : List Keys) : Keys := all.foldr append ⟨[], []⟩

/-- The warning about a sum with an operand that has several keys. -/
def severalKeys : Text := "Unsupported multiple keys for binary expression, keys skipped."

/-- The keys of two expressions that stand for one text after the other. -/
def join (a b : Keys) : Keys :=
  match a.keys, b.keys with
  | [some t], [some u] => ⟨[some (t ++ u)], a.warnings ++ b.warnings⟩
  | [_], [_] => ⟨[none], a.warnings ++ b.warnings⟩
  | _, _ => ⟨[none], a.warnings ++ b.warnings ++ [severalKeys]⟩

/-- The text of a formatted text, with a star for every field. -/
def template : List Node → Text
  | [] => []
  | .text t :: rest => t ++ template rest
  | _ :: rest => unknownPart ++ template rest

/-- The warning about an expression that cannot hold a text. -/
def unsupported (name : Text) : Text := "Unsupported node: " ++ name

mutual

def ofNode : Node → Keys
  | .text t => known t
  | .constant type => unknown ("Unsupported constant: " ++ type.name)
  | .sum left right => (ofNode left).join (ofNode right)
  | .formatted parts => known (template parts)
  | .choice _ body orElse => ofNode body ++ ofNode orElse
  | .junction true first second rest => concat (ofNode first :: ofNode second :: ofNodes rest)
  | .junction false _ second rest => (ofNodes rest).getLast?.getD (ofNode second)
  | .call .. | .name _ | .attribute .. => known unknownPart
  | .other form _ => unknown (unsupported form.name)

/-- The keys of each of several expressions. -/
def ofNodes : List Node → List Keys
  | [] => []
  | n :: rest => ofNode n :: ofNodes rest

end

end Keys

end MessageCatalog
