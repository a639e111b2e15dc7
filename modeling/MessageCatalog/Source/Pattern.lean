import MessageCatalog.Source.Expression

/-!
# Patterns of `match` statements

The grammar of patterns. A pattern is read for the expressions inside it, which are the literals
it compares with.
-/

namespace MessageCatalog.Source

open MessageCatalog.Source.Parser

/-- The readers that patterns use: those of expressions, and the one for the patterns inside. -/
structure PatternRules where
  rules : Rules
  pattern : Parser (List Node)

namespace PatternRules

variable (r : PatternRules)

/-- The number of steps that a repetition may take. -/
def steps : Nat := r.rules.steps

/-- Take a number of a kind that passes a test. -/
def number (test : NumberKind → Bool) : Parser Unit := do
  match ← peek with
  | .number kind =>
    if !test kind then failure
    let _ ← take
  | _ => failure

/-- A number with its sign, or a complex number: a real part and an imaginary one. -/
def numberPattern : Parser (List Node) := do
  let _ ← acceptOperator "-"
  let real ← match ← peek with
    | .number kind => pure (decide (kind ≠ .imaginary))
    | _ => failure
  number fun _ => true
  match ← acceptAmong ["+", "-"] with
  | some _ =>
    if !real then failure
    number (· = .imaginary)
  | none => pure ()
  return []

/-- Fail before a mark that would go on with a name. -/
def noNameGoesOn : Parser Unit := do
  if (← isOperator ".") || (← isOperator "(") || (← isOperator "=") then failure

def capture : Parser Unit := do
  let id ← name
  if id = ("_" : Text) then failure
  noNameGoesOn

def starPattern : Parser (List Node) := do
  operator "*"
  let _ ← name
  noNameGoesOn
  return []

def sequenceItem : Parser (List Node × Bool) := do
  if ← isOperator "*" then return (← starPattern, true) else return (← r.pattern, false)

/-- The rest of a sequence whose first item has been read. -/
def sequenceRest (first : List Node) : Parser (List Node) := do
  let rest ← attempt (commaList r.steps r.sequenceItem)
  return first ++ ((rest.map (·.1)).getD []).flatMap (·.1)

/-- The names of a dotted name: whether there are several. -/
def dottedName : Parser Bool := do
  let _ ← name
  let step (_ : Bool) : Parser (Option Bool) := do
    if ← acceptOperator "." then
      let _ ← name
      return some true
    else return none
  iterate step r.steps false

/-- The patterns between the parentheses of a class, those by position before those by name. -/
def classArguments : Parser (List Node) := do
  let item : Parser (Bool × List Node) := do
    if ← isNameBefore "=" then
      let _ ← name
      operator "="
      return (true, ← r.pattern)
    else return (false, ← r.pattern)
  if ← acceptOperator ")" then return []
  let (items, _) ← commaList r.steps item
  operator ")"
  if (items.dropWhile fun i => !i.1).any fun i => !i.1 then failure
  return items.flatMap (·.2)

/-- A name: of a value, of a class, or of what is captured. -/
def namePattern : Parser (List Node) := do
  let _ ← r.dottedName
  if ← acceptOperator "(" then r.classArguments
  else
    noNameGoesOn
    return []

def mappingKey : Parser (List Node) := do
  match ← peek with
  | .string .. => return [← r.rules.strings]
  | .name _ =>
    if ← r.dottedName then return [] else failure
  | _ =>
    if (← acceptKeyword "None") || (← acceptKeyword "True") || (← acceptKeyword "False") then
      return []
    else numberPattern

/-- An item of a mapping: its key and its pattern, or the name of the rest. -/
inductive MappingItem where
  | pair (key value : List Node)
  | rest

def mappingItem : Parser MappingItem := do
  if ← acceptOperator "**" then
    capture
    return .rest
  else
    let key ← r.mappingKey
    operator ":"
    return .pair key (← r.pattern)

/-- What follows the opening brace of a mapping. Keys are visited before patterns, and the rest
comes last. -/
def mapping : Parser (List Node) := do
  if ← acceptOperator "\x7d" then return []
  let (items, _) ← commaList r.steps r.mappingItem
  operator "\x7d"
  let isRest : MappingItem → Bool
    | .rest => true
    | .pair .. => false
  if items.dropLast.any isRest then failure
  let keys := items.flatMap fun i => match i with
    | .pair key _ => key
    | .rest => []
  let values := items.flatMap fun i => match i with
    | .pair _ value => value
    | .rest => []
  return keys ++ values

/-- What follows the opening parenthesis of a group or a sequence. -/
def group : Parser (List Node) := do
  if ← acceptOperator ")" then return []
  let (first, star) ← r.sequenceItem
  if ← acceptOperator "," then
    let nodes ← r.sequenceRest first
    operator ")"
    return nodes
  else
    operator ")"
    if star then failure
    return first

/-- What follows the opening bracket of a sequence. -/
def sequence : Parser (List Node) := do
  if ← acceptOperator "]" then return []
  let (items, _) ← commaList r.steps r.sequenceItem
  operator "]"
  return items.flatMap (·.1)

/-- A pattern without alternatives. -/
def closed : Parser (List Node) := do
  match ← peek with
  | .string .. => return [← r.rules.strings]
  | .name _ => r.namePattern
  | _ =>
    if (← acceptKeyword "None") || (← acceptKeyword "True") || (← acceptKeyword "False") then
      return []
    else if ← acceptOperator "(" then r.group
    else if ← acceptOperator "[" then r.sequence
    else if ← acceptOperator "\x7b" then r.mapping
    else numberPattern

/-- Alternatives, which can be given a name. -/
def alternatives : Parser (List Node) := do
  let step (found : List Node) : Parser (Option (List Node)) := do
    if ← acceptOperator "|" then return some (found ++ (← r.closed)) else return none
  let nodes ← iterate step r.steps (← r.closed)
  if ← acceptKeyword "as" then capture
  return nodes

/-- The patterns of a case: one, or a sequence without brackets. -/
def casePatterns : Parser (List Node) := do
  let (first, star) ← r.sequenceItem
  if ← acceptOperator "," then r.sequenceRest first
  else
    if star then failure
    return first

end PatternRules

/-- The readers of patterns that are nested at most the given number of times. -/
def patternRules (r : Rules) : Nat → PatternRules
  | 0 => ⟨r, failure⟩
  | n + 1 => { rules := r, pattern := fun s => (patternRules r n).alternatives s }

end MessageCatalog.Source
