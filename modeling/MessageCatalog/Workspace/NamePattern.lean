import MessageCatalog.Text.Basic

/-!
# Patterns of file names

A pattern of a single name: a star stands for any characters, a question mark for one, and a set
in brackets for one of its characters, or for any other character if the set begins with an
exclamation mark. Capital and small letters differ.
-/

namespace MessageCatalog

/-- A part of a pattern. -/
inductive PatternPart where
  /-- This character. -/
  | exactly (c : Char)
  /-- Any one character. -/
  | any
  /-- Any characters. -/
  | many
  /-- A character in one of the ranges, or in none of them. -/
  | oneOf (negated : Bool) (ranges : List (Char × Char))
  deriving DecidableEq

abbrev NamePattern := List PatternPart

namespace NamePattern

/-- The ranges of a set; a range that runs backwards holds nothing. -/
def rangesOf : Text → List (Char × Char)
  | low :: '-' :: high :: rest => (low, high) :: rangesOf rest
  | c :: rest => (c, c) :: rangesOf rest
  | [] => []

/-- The inside of a set and what follows it; a closing bracket at the start belongs to the set. -/
def setBody? (t : Text) : Option (Bool × Text × Text) :=
  let (negated, t) := match t with
    | '!' :: rest => (true, rest)
    | rest => (false, rest)
  let (bracket, t) : Text × Text := match t with
    | ']' :: rest => ([']'], rest)
    | rest => ([], rest)
  (Text.cutFirst ']' t).map fun (body, rest) => (negated, bracket ++ body, rest)

/-- Read a pattern of at most the given length. A bracket that is not closed stands for itself. -/
def ofTextUpTo : Nat → Text → NamePattern
  | 0, _ | _, [] => []
  | n + 1, '*' :: rest => .many :: ofTextUpTo n rest
  | n + 1, '?' :: rest => .any :: ofTextUpTo n rest
  | n + 1, '[' :: rest => match setBody? rest with
    | some (negated, body, rest) => .oneOf negated (rangesOf body) :: ofTextUpTo n rest
    | none => .exactly '[' :: ofTextUpTo n rest
  | n + 1, c :: rest => .exactly c :: ofTextUpTo n rest

def ofText (t : Text) : NamePattern := ofTextUpTo t.length t

/-- A text and what is left of it after each of its characters. -/
def suffixes : Text → List Text
  | [] => [[]]
  | c :: rest => (c :: rest) :: suffixes rest

/-- Whether a character lies in a range. -/
def inRange (c : Char) (r : Char × Char) : Bool :=
  r.1.toNat ≤ c.toNat && c.toNat ≤ r.2.toNat

/-- Whether a character fits a part that stands for one character. -/
def fits (c : Char) : PatternPart → Bool
  | .exactly d => c == d
  | .any => true
  | .many => false
  | .oneOf negated ranges => ranges.any (inRange c) != negated

def accepts : NamePattern → Text → Bool
  | [], name => name.isEmpty
  | .many :: parts, name => (suffixes name).any (accepts parts)
  | _ :: _, [] => false
  | part :: parts, c :: name => fits c part && accepts parts name

end NamePattern

end MessageCatalog
