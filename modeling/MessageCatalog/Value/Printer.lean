import MessageCatalog.Value.Basic

/-!
# Printing values

A value is printed over several lines, each level indented by two spaces; an empty list or object
stays on its line. Characters outside ASCII are written as they are.
-/

namespace MessageCatalog.Value

open Text

def escapeChar (c : Char) : Text :=
  if c = '"' then "\\\""
  else if c = '\\' then "\\\\"
  else if c = '\n' then "\\n"
  else if c = '\r' then "\\r"
  else if c = '\t' then "\\t"
  else if c = '\x08' then "\\b"
  else if c = '\x0c' then "\\f"
  else if c.toNat < 0x20 then '\\' :: 'u' :: hexDigits 4 c.toNat
  else [c]

def escaped (t : Text) : Text := '"' :: t.flatMap escapeChar ++ ['"']

/-- A printed number of double precision. -/
def printedFloat : Binary64 → Text
  | .nan => "NaN"
  | .infinite false => "Infinity"
  | .infinite true => "-Infinity"
  | x => x.toText

/-- A line break and the indentation of a level. -/
def newLine (level : Nat) : Text := '\n' :: List.replicate (2 * level) ' '

mutual

/-- Print a value at a level of indentation. -/
def printed (level : Nat) : Value → Text
  | .null => "null"
  | .bool b => if b then "true" else "false"
  | .int n => Decimal.ofInt n
  | .float x => printedFloat x
  | .text t => escaped t
  | .list [] => "[]"
  | .list (v :: vs) => '[' :: printedItems (level + 1) (v :: vs) ++ newLine level ++ [']']
  | .object [] => ['\x7b', '\x7d']
  | .object (f :: fs) =>
    '\x7b' :: printedFields (level + 1) (f :: fs) ++ newLine level ++ ['\x7d']
  | .function name => escaped name

/-- The items of a list, each on lines of its own. -/
def printedItems (level : Nat) : List Value → Text
  | [] => []
  | [v] => newLine level ++ printed level v
  | v :: rest => newLine level ++ printed level v ++ "," ++ printedItems level rest

/-- The fields of an object, each on lines of its own. -/
def printedFields (level : Nat) : List (Text × Value) → Text
  | [] => []
  | [(name, v)] => newLine level ++ escaped name ++ ": " ++ printed level v
  | (name, v) :: rest =>
    newLine level ++ escaped name ++ ": " ++ printed level v ++ "," ++ printedFields level rest

end

def print (v : Value) : Text := printed 0 v

end MessageCatalog.Value
