import MessageCatalog.Source.Lexer
import MessageCatalog.Source.Parser
import MessageCatalog.Source.StringLiteral

/-!
# Expressions

The grammar of expressions, from lists of them down to atoms. Every function takes the readers for
the rules that it needs inside brackets and after prefixes as a `Rules` value; `rules` ties them
together, one level of nesting at a time.
-/

namespace MessageCatalog.Source

open MessageCatalog.Source.Parser

/-- The readers that expressions use for the expressions inside them, and the number of steps that
a repetition may take. -/
structure Rules where
  steps : Nat
  expression : Parser Node
  disjunction : Parser Node
  inversion : Parser Node
  bitwise : Parser Node
  factor : Parser Node
  primary : Parser Node

namespace Rules

variable (r : Rules)

/-! ### Lists of expressions -/

def starred : Parser Node := do
  operator "*"
  return .other .starred [← r.bitwise]

def isStarred : Node → Bool
  | .other .starred _ => true
  | _ => false

/-- An expression that can give its value a name. -/
def namedExpression : Parser Node := do
  if ← isNameBefore ":=" then
    let id ← name
    operator ":="
    return .other .named [.name id, ← r.expression]
  else
    let e ← r.expression
    if ← isOperator ":=" then failure
    return e

def starExpression : Parser Node := do
  if ← isOperator "*" then r.starred else r.expression

def starNamed : Parser Node := do
  if ← isOperator "*" then r.starred else r.namedExpression

/-- A single item, or a tuple of items. -/
def tupleOf (items : List Node × Bool) : Node :=
  match items with
  | ([item], false) => item
  | (items, _) => .other .tuple items

/-- Expressions with commas between them. -/
def starExpressions : Parser Node := tupleOf <$> commaList r.steps r.starExpression

def yieldExpression : Parser Node := do
  keyword "yield"
  if ← acceptKeyword "from" then
    return .other .yieldFrom [← r.expression]
  else
    return .other .yield (← attempt r.starExpressions).toList

def yieldOrExpressions : Parser Node := do
  if ← isKeyword "yield" then r.yieldExpression else r.starExpressions

/-! ### Targets and comprehensions -/

/-- A target, which can be starred. -/
def target : Parser Node := do
  let star ← acceptOperator "*"
  let t ← r.primary
  if !t.isTarget then failure
  return if star then .other .starred [t] else t

/-- Targets with commas between them. -/
def targets : Parser Node := tupleOf <$> commaList r.steps r.target

def comprehensionClause : Parser Node := do
  let _ ← acceptKeyword "async"
  keyword "for"
  let t ← r.targets
  keyword "in"
  let source ← r.disjunction
  let condition (found : List Node) : Parser (Option (List Node)) := do
    if ← acceptKeyword "if" then return some ((← r.disjunction) :: found) else return none
  let conditions ← iterate condition r.steps []
  return .other .part (t :: source :: conditions.reverse)

def isClauseNext : Parser Bool := return (← isKeyword "for") || (← isKeyword "async")

def comprehensionClauses : Parser (List Node) := do
  let first ← r.comprehensionClause
  let more (found : List Node) : Parser (Option (List Node)) := do
    if ← isClauseNext then return some ((← r.comprehensionClause) :: found) else return none
  return (← iterate more r.steps [first]).reverse

/-! ### Parameters -/

/-- What parameters bring along, in the groups in which it is visited. -/
structure Parameters where
  positional : List Node := []
  rest : List Node := []
  keyword : List Node := []
  keywordDefaults : List Node := []
  keywordRest : List Node := []
  defaults : List Node := []

/-- Everything that parameters bring along. -/
def Parameters.nodes (p : Parameters) : List Node :=
  p.positional ++ p.rest ++ p.keyword ++ p.keywordDefaults ++ p.keywordRest ++ p.defaults

/-- What may come next in a list of parameters. -/
inductive ParameterPhase where
  /-- Positional parameters: whether they need a default from now on, and whether a slash can
  come. -/
  | positional (needsDefault slash : Bool)
  /-- Parameters given by name only: whether there has to be one more. -/
  | byName (needsOne : Bool)
  /-- Nothing. -/
  | finished
  deriving DecidableEq

/-- A list of parameters that is being read, and whether a slash has been passed. -/
structure ParameterScan where
  found : Parameters := {}
  phase : ParameterPhase := .positional false false
  slashSeen : Bool := false
  complete : Bool := false

/-- The annotation of a parameter; parameters of a `lambda` have none. -/
def annotation (isLambda star : Bool) : Parser (List Node) := do
  if isLambda then return []
  else if ← acceptOperator ":" then
    return [← if star then r.starExpression else r.expression]
  else return []

def default : Parser (List Node) := do
  if ← acceptOperator "=" then return [← r.expression] else return []

/-- One parameter, or one of the marks between them. -/
def parameter (isLambda : Bool) (s : ParameterScan) : Parser ParameterScan := do
  let p := s.found
  if ← acceptOperator "/" then
    match s.phase with
    | .positional needs true =>
      return { s with phase := .positional needs false, slashSeen := true }
    | _ => failure
  else if ← acceptOperator "**" then
    if s.phase = .byName true || s.phase = .finished then failure
    let _ ← name
    let a ← r.annotation isLambda false
    return { s with found := { p with keywordRest := a }, phase := .finished }
  else if ← acceptOperator "*" then
    match s.phase with
    | .positional .. =>
      if ← isOperator "," then return { s with phase := .byName true }
      else
        let _ ← name
        let a ← r.annotation isLambda true
        return { s with found := { p with rest := a }, phase := .byName false }
    | _ => failure
  else
    let _ ← name
    let a ← r.annotation isLambda false
    let d ← r.default
    match s.phase with
    | .positional needs _ =>
      if needs && d.isEmpty then failure
      let found := { p with positional := p.positional ++ a, defaults := p.defaults ++ d }
      return { s with found, phase := .positional (needs || !d.isEmpty) (!s.slashSeen) }
    | .byName _ =>
      let found :=
        { p with keyword := p.keyword ++ a, keywordDefaults := p.keywordDefaults ++ d }
      return { s with found, phase := .byName false }
    | .finished => failure

/-- The parameters before a mark that ends them. -/
def parameters (isLambda : Bool) (ending : Text) : Parser (List Node) := do
  let step (s : ParameterScan) : Parser (Option ParameterScan) := do
    if s.complete then return none
    else if ← isOperator ending then
      if s.phase = .byName true then failure
      return some { s with complete := true }
    else
      let s ← r.parameter isLambda s
      if ← acceptOperator "," then return some s
      else if (← isOperator ending) && s.phase ≠ .byName true then
        return some { s with complete := true }
      else failure
  return (← iterate step (r.steps + 1) {}).found.nodes

def lambda : Parser Node := do
  keyword "lambda"
  let ps ← r.parameters true ":"
  operator ":"
  return .other .lambda (ps ++ [← r.expression])

/-! ### Strings -/

/-- The tree of an expression in a field of a formatted literal. -/
def fieldExpression (line : Nat) (source : Text) : Option Node := do
  let lexed ← lex line ('(' :: source ++ [')'])
  let (node, _) ← r.starExpressions.run lexed.lexemes
  return node

mutual

/-- The node of a piece of a formatted literal that begins on a line. -/
def pieceNode (line : Nat) : StringLiteral.Piece → Option Node
  | .text t => some (.text t)
  | .field source before format => do
    let e ← fieldExpression r (line + before) source
    let spec ← pieceNodes line format
    return .other .field (if spec.isEmpty then [e] else [e, .formatted spec])

def pieceNodes (line : Nat) : List StringLiteral.Piece → Option (List Node)
  | [] => some []
  | p :: rest => do return (← pieceNode line p) :: (← pieceNodes line rest)

end

/-- A string literal that has been read. -/
structure Literal where
  style : StringStyle
  body : Text
  line : Nat

def literalParts (l : Literal) : Option (List Node) := do
  if l.style.isFormatted then
    pieceNodes r l.line (← StringLiteral.pieces l.style.isRaw l.body)
  else
    return [.text (← StringLiteral.decode l.style.isRaw l.body)]

/-- The node of literals that stand side by side. Literals of bytes and of text do not mix. -/
def literalNode (ls : List Literal) : Option Node :=
  if ls.any (·.style.isBytes) then
    if ls.all fun l => l.style.isBytes && StringLiteral.isByteBody l.style.isRaw l.body then
      some (.constant .bytes)
    else none
  else if ls.any (·.style.isFormatted) then do
    return .formatted (← ls.mapM r.literalParts).flatten
  else do
    return .text (← ls.mapM fun l => StringLiteral.decode l.style.isRaw l.body).flatten

/-- String literals that stand side by side. -/
def strings : Parser Node := do
  let step (found : List Literal) : Parser (Option (List Literal)) := do
    match ← peek with
    | .string style body =>
      let l ← take
      return some (⟨style, body, l.line⟩ :: found)
    | _ => return none
  match (← iterate step r.steps []).reverse with
  | [] => failure
  | ls => match r.literalNode ls with
    | some n => return n
    | none => failure

/-! ### Atoms -/

/-- What follows the opening parenthesis of a tuple, a generator or an expression. -/
def parenthesized : Parser Node := do
  if ← acceptOperator ")" then return .other .tuple []
  else if ← isKeyword "yield" then
    let y ← r.yieldExpression
    operator ")"
    return y
  else
    let first ← r.starNamed
    if ← isClauseNext then
      if isStarred first then failure
      let clauses ← r.comprehensionClauses
      operator ")"
      return .other .generator (first :: clauses)
    else if ← acceptOperator "," then
      let rest ← attempt (commaList r.steps r.starNamed)
      operator ")"
      return .other .tuple (first :: (rest.map (·.1)).getD [])
    else
      operator ")"
      if isStarred first then failure
      return first

/-- What follows the opening bracket of a list. -/
def bracketed : Parser Node := do
  if ← acceptOperator "]" then return .other .list []
  let first ← r.starNamed
  if ← isClauseNext then
    if isStarred first then failure
    let clauses ← r.comprehensionClauses
    operator "]"
    return .other .listComp (first :: clauses)
  let rest ← if ← acceptOperator "," then attempt (commaList r.steps r.starNamed) else pure none
  operator "]"
  return .other .list (first :: (rest.map (·.1)).getD [])

/-- An entry of a dictionary: its key, unless it is another dictionary, and its value. -/
def dictEntry : Parser (List Node × Node) := do
  if ← acceptOperator "**" then return ([], ← r.bitwise)
  else
    let key ← r.expression
    operator ":"
    return ([key], ← r.expression)

/-- A dictionary: all keys are visited before all values. -/
def dictNode (entries : List (List Node × Node)) : Node :=
  .other .dict (entries.flatMap (·.1) ++ entries.map (·.2))

/-- The entries of a dictionary after the first one. -/
def dictRest (first : List Node × Node) : Parser Node := do
  let rest ← if ← acceptOperator "," then attempt (commaList r.steps r.dictEntry) else pure none
  operator "\x7d"
  return dictNode (first :: (rest.map (·.1)).getD [])

/-- What follows the opening brace of a set whose first item has been read. -/
def setRest (first : Node) : Parser Node := do
  if ← isClauseNext then
    if isStarred first then failure
    let clauses ← r.comprehensionClauses
    operator "\x7d"
    return .other .setComp (first :: clauses)
  let rest ← if ← acceptOperator "," then attempt (commaList r.steps r.starNamed) else pure none
  operator "\x7d"
  return .other .set (first :: (rest.map (·.1)).getD [])

/-- What follows the opening brace of a dictionary or a set. -/
def braced : Parser Node := do
  if ← acceptOperator "\x7d" then return .other .dict []
  else if ← isOperator "**" then r.dictRest (← r.dictEntry)
  else if (← isOperator "*") || (← isNameBefore ":=") then r.setRest (← r.starNamed)
  else
    let first ← r.expression
    if ← acceptOperator ":" then
      let value ← r.expression
      if ← isClauseNext then
        let clauses ← r.comprehensionClauses
        operator "\x7d"
        return .other .dictComp (first :: value :: clauses)
      else r.dictRest ([first], value)
    else r.setRest first

def numberNode : NumberKind → Node
  | .whole => .constant .int
  | .floating => .constant .float
  | .imaginary => .constant .complex

def atom : Parser Node := do
  match ← peek with
  | .name id =>
    let _ ← take
    return .name id
  | .number kind =>
    let _ ← take
    return numberNode kind
  | .string .. => r.strings
  | _ =>
    if ← acceptKeyword "None" then return .constant .none
    else if (← acceptKeyword "True") || (← acceptKeyword "False") then return .constant .bool
    else if ← acceptOperator "..." then return .constant .ellipsis
    else if ← acceptOperator "(" then r.parenthesized
    else if ← acceptOperator "[" then r.bracketed
    else if ← acceptOperator "\x7b" then r.braced
    else failure

/-! ### Calls and subscripts -/

/-- Which arguments may come next: any, those given by name and starred ones, or those given by
name and dictionaries. -/
inductive ArgumentPhase where
  | any | named | spread
  deriving DecidableEq

/-- The arguments of a call that have been read, the latest first. -/
structure Arguments where
  positional : List Node := []
  keywords : List Node := []
  phase : ArgumentPhase := .any
  complete : Bool := false

/-- One argument. A generator without parentheses has to be the only one. -/
def argument (generators : Bool) (a : Arguments) : Parser Arguments := do
  if ← acceptOperator "**" then
    return { a with keywords := (← r.expression) :: a.keywords, phase := .spread }
  else if ← acceptOperator "*" then
    if a.phase = .spread then failure
    return { a with positional := .other .starred [← r.expression] :: a.positional }
  else if ← isNameBefore "=" then
    let _ ← name
    operator "="
    let phase := if a.phase = .spread then .spread else .named
    return { a with keywords := (← r.expression) :: a.keywords, phase }
  else
    if a.phase ≠ .any then failure
    let e ← r.namedExpression
    if generators && a.positional.isEmpty && (← isClauseNext) then
      let clauses ← r.comprehensionClauses
      if !(← isOperator ")") then failure
      return { a with positional := [.other .generator (e :: clauses)], complete := true }
    else if ← isOperator "=" then failure
    else return { a with positional := e :: a.positional }

/-- The arguments before a closing parenthesis: those by position, and the values of those by
name. -/
def arguments (generators : Bool) : Parser (List Node × List Node) := do
  let step (a : Arguments) : Parser (Option Arguments) := do
    if a.complete then return none
    else if ← isOperator ")" then return some { a with complete := true }
    else
      let a ← r.argument generators a
      if a.complete then return some a
      else if ← acceptOperator "," then return some a
      else return some { a with complete := true }
  let a ← iterate step (r.steps + 1) {}
  return (a.positional.reverse, a.keywords.reverse)

def slicePart : Parser (List Node) := do
  if (← isOperator ":") || (← isOperator ",") || (← isOperator "]") then return []
  else return [← r.expression]

/-- A slice whose start has been read. -/
def sliceFrom (start : List Node) : Parser Node := do
  operator ":"
  let stop ← r.slicePart
  let step ← if ← acceptOperator ":" then r.slicePart else pure []
  return .other .slice (start ++ stop ++ step)

def slice : Parser Node := do
  if ← isOperator ":" then r.sliceFrom []
  else if ← isNameBefore ":=" then r.namedExpression
  else
    let e ← r.expression
    if ← isOperator ":" then r.sliceFrom [e]
    else if ← isOperator ":=" then failure
    else return e

def sliceOrStarred : Parser Node := do
  if ← acceptOperator "*" then return .other .starred [← r.expression] else r.slice

/-- What stands between the brackets of a subscript. -/
def slices : Parser Node := do
  match ← commaList r.steps r.sliceOrStarred with
  | ([item], false) => return if isStarred item then .other .tuple [item] else item
  | (items, _) => return .other .tuple items

/-- What follows an atom: attributes, calls and subscripts. -/
def trailer (start : Nat) (object : Node) : Parser (Option Node) := do
  if ← acceptOperator "." then return some (.attribute object (← name))
  else if ← acceptOperator "(" then
    let (positional, keywords) ← r.arguments true
    let stop ← line
    operator ")"
    return some (.call start stop object positional keywords)
  else if ← acceptOperator "[" then
    let index ← r.slices
    operator "]"
    return some (.other .subscript [object, index])
  else return none

/-- An atom and what follows it. -/
def primaryExpression : Parser Node := do
  let start ← line
  iterate (r.trailer start) r.steps (← r.atom)

/-! ### Operators -/

def operation (op : Text) (left right : Node) : Node :=
  if op = ("+" : Text) then .sum left right else .other .binary [left, right]

/-- Operands with operators of one rank between them, from left to right. -/
def leftChain (ops : List Text) (operand : Parser Node) : Parser Node := do
  let step (left : Node) : Parser (Option Node) := do
    match ← acceptAmong ops with
    | some op => return some (operation op left (← operand))
    | none => return none
  iterate step r.steps (← operand)

/-- A primary expression, which can be awaited. -/
def awaitExpression : Parser Node := do
  if ← acceptKeyword "await" then return .other .await [← r.primaryExpression]
  else r.primaryExpression

def power : Parser Node := do
  let base ← r.awaitExpression
  if ← acceptOperator "**" then return .other .binary [base, ← r.factor] else return base

/-- A signed operand. -/
def factorExpression : Parser Node := do
  match ← acceptAmong ["+", "-", "~"] with
  | some _ => return .other .unary [← r.factor]
  | none => r.power

/-- Products. -/
def term : Parser Node := r.leftChain ["*", "/", "//", "%", "@"] r.factorExpression

def sum : Parser Node := r.leftChain ["+", "-"] r.term

/-- Shifts and the operators on bits. -/
def bitwiseExpression : Parser Node :=
  r.leftChain ["|"] (r.leftChain ["^"] (r.leftChain ["&"] (r.leftChain ["<<", ">>"] r.sum)))

def comparisonOperator : Parser Bool := do
  match ← acceptAmong ["==", "!=", "<=", "<", ">=", ">"] with
  | some _ => return true
  | none =>
    if ← acceptKeyword "in" then return true
    else if ← acceptKeyword "is" then
      let _ ← acceptKeyword "not"
      return true
    else if (← isKeyword "not") && (← peekSecond) = .keyword "in" then
      keyword "not"
      keyword "in"
      return true
    else return false

def comparison : Parser Node := do
  let first ← r.bitwiseExpression
  let step (found : List Node) : Parser (Option (List Node)) := do
    if ← comparisonOperator then return some ((← r.bitwiseExpression) :: found) else return none
  match (← iterate step r.steps []).reverse with
  | [] => return first
  | rest => return .other .compare (first :: rest)

/-- Negations. -/
def inversionExpression : Parser Node := do
  if ← acceptKeyword "not" then return .other .unary [← r.inversion] else r.comparison

/-- Operands with a keyword between them. -/
def junction (isOr : Bool) (word : Text) (operand : Parser Node) : Parser Node := do
  let first ← operand
  let step (found : List Node) : Parser (Option (List Node)) := do
    if ← acceptKeyword word then return some ((← operand) :: found) else return none
  match (← iterate step r.steps []).reverse with
  | [] => return first
  | second :: rest => return .junction isOr first second rest

/-- Disjunctions of conjunctions. -/
def disjunctionExpression : Parser Node :=
  r.junction true "or" (r.junction false "and" r.inversionExpression)

/-- An expression: a `lambda`, or a disjunction with a choice. -/
def anyExpression : Parser Node := do
  if ← isKeyword "lambda" then r.lambda
  else
    let body ← r.disjunctionExpression
    let choice : Parser Node := do
      keyword "if"
      let test ← r.disjunctionExpression
      keyword "else"
      return .choice test body (← r.expression)
    return (← attempt choice).getD body

end Rules

/-- The readers of expressions that are nested at most the given number of times. -/
def rules : Nat → Rules
  | 0 => ⟨0, failure, failure, failure, failure, failure, failure⟩
  | n + 1 => {
      steps := n + 1
      expression := fun s => (rules n).anyExpression s
      disjunction := fun s => (rules n).disjunctionExpression s
      inversion := fun s => (rules n).inversionExpression s
      bitwise := fun s => (rules n).bitwiseExpression s
      factor := fun s => (rules n).factorExpression s
      primary := fun s => (rules n).primaryExpression s }

end MessageCatalog.Source
