import MessageCatalog.Source.Token
import MessageCatalog.Source.Node

/-!
# Reading tokens

A parser reads tokens from the start of a list, or fails without saying why. Repetition is bounded
by a number of steps, which the caller takes from the length of the source.
-/

namespace MessageCatalog.Source

/-- A reader of tokens. -/
abbrev Parser := StateT (List Lexeme) Option

namespace Parser

variable {α : Type}

/-- The next token, which stays. -/
def peek : Parser Token := do
  match ← get with
  | l :: _ => return l.token
  | [] => return .endOfSource

/-- The token after the next one, which stays. -/
def peekSecond : Parser Token := do
  match ← get with
  | _ :: l :: _ => return l.token
  | _ => return .endOfSource

/-- The line on which the next token begins. -/
def line : Parser Nat := do
  match ← get with
  | l :: _ => return l.line
  | [] => failure

/-- Take the next token. -/
def take : Parser Lexeme := do
  match ← get with
  | l :: rest => set rest; return l
  | [] => failure

def isNext (t : Token) : Parser Bool := return (← peek) = t

/-- Take the next token if it is the given one. -/
def accept (t : Token) : Parser Bool := do
  if ← isNext t then
    let _ ← take
    return true
  else return false

/-- Take the given token. -/
def expect (t : Token) : Parser Unit := do
  if !(← accept t) then failure

def isOperator (t : Text) : Parser Bool := isNext (.operator t)

/-- Take the next token if it is an operator. -/
def acceptOperator (t : Text) : Parser Bool := accept (.operator t)

def operator (t : Text) : Parser Unit := expect (.operator t)

def isKeyword (t : Text) : Parser Bool := isNext (.keyword t)

/-- Take the next token if it is a keyword. -/
def acceptKeyword (t : Text) : Parser Bool := accept (.keyword t)

def keyword (t : Text) : Parser Unit := expect (.keyword t)

/-- Take the next token if it is one of the operators. -/
def acceptAmong (ops : List Text) : Parser (Option Text) := do
  match ← peek with
  | .operator t =>
    if ops.contains t then
      let _ ← take
      return some t
    else return none
  | _ => return none

def name : Parser Text := do
  match ← peek with
  | .name t =>
    let _ ← take
    return t
  | _ => failure

/-- Whether a name and then an operator are next. -/
def isNameBefore (op : Text) : Parser Bool := do
  match ← peek, ← peekSecond with
  | .name _, .operator t => return t = op
  | _, _ => return false

/-- What a parser reads, or nothing where it fails. -/
def attempt (p : Parser α) : Parser (Option α) := (some <$> p) <|> pure none

/-- Repeat a step until it has nothing to add, at most the given number of times. -/
def iterate (step : α → Parser (Option α)) : Nat → α → Parser α
  | 0, _ => failure
  | n + 1, a => do
    match ← step a with
    | some b => iterate step n b
    | none => return a

/-- What a list of items with commas has come to: the items, the latest first, whether there was a
comma, and whether the last comma was followed by nothing. -/
structure CommaScan (α : Type) where
  items : List α
  sawComma : Bool := false
  atEnd : Bool := false

/-- One or more items with commas between them, and whether there was a comma; there may be one at
the end. -/
def commaList (steps : Nat) (item : Parser α) : Parser (List α × Bool) := do
  let first ← item
  let more (s : CommaScan α) : Parser (Option (CommaScan α)) := do
    if s.atEnd then return none
    else if ← acceptOperator "," then
      match ← attempt item with
      | some x => return some { s with items := x :: s.items, sawComma := true }
      | none => return some { s with sawComma := true, atEnd := true }
    else return none
  let s ← iterate more steps { items := [first] }
  return (s.items.reverse, s.sawComma)

end Parser

end MessageCatalog.Source
