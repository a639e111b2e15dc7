import MessageCatalog.Source.Pattern

/-!
# Statements

The grammar of statements and of whole files. A statement is read for its children, in the order in
which they are visited.
-/

namespace MessageCatalog.Source

open MessageCatalog.Source.Parser

/-- The readers that statements use: those of expressions and patterns, and the one for the
blocks inside. -/
structure StatementRules where
  patterns : PatternRules
  block : Parser (List Node)

namespace StatementRules

variable (r : StatementRules)

/-- The readers of expressions. -/
def rules : Rules := r.patterns.rules

/-- The number of steps that a repetition may take. -/
def steps : Nat := r.rules.steps

def part (children : List Node) : Node := .other .part children

/-! ### Simple statements -/

/-- The operators that assign the result of an operation. -/
def augmented : List Text := List.map String.toList
  ["+=", "-=", "*=", "@=", "/=", "%=", "&=", "|=", "^=", "<<=", ">>=", "**=", "//="]

/-- The value after a sign of equality, if there is one. -/
def assigned : Parser (List Node) := do
  if ← acceptOperator "=" then return [← r.rules.yieldOrExpressions] else return []

/-- The rest of a chain of assignments, when all but the last of the expressions are targets. -/
def assignmentChain (found : List Node) : Parser (Option (List Node)) := do
  if ← isOperator "=" then
    if !((found.head?.map Node.isTarget).getD false) then failure
    operator "="
    return some ((← r.rules.yieldOrExpressions) :: found)
  else return none

def assignment : Parser Node := do
  let first ← r.rules.yieldOrExpressions
  if ← acceptOperator ":" then
    if !first.isPlace then failure
    let annotation ← r.rules.expression
    return part (first :: annotation :: (← r.assigned))
  else match ← acceptAmong augmented with
    | some _ =>
      if !first.isPlace then failure
      return part [first, ← r.rules.yieldOrExpressions]
    | none => match (← iterate r.assignmentChain r.steps [first]).reverse with
      | [only] => return only
      | nodes => return part nodes

/-- Names with commas between them. -/
def nameList : Parser Node := do
  let step (_ : Unit) : Parser (Option Unit) := do
    if ← acceptOperator "," then return some (← (name *> pure ())) else return none
  let _ ← name
  iterate step r.steps ()
  return part []

def asName : Parser Unit := do
  if ← acceptKeyword "as" then
    let _ ← name

/-- Items with commas between them and none at the end. -/
def strictList (item : Parser Unit) : Parser Unit := do
  item
  let step (_ : Unit) : Parser (Option Unit) := do
    if ← acceptOperator "," then return some (← item) else return none
  iterate step r.steps ()

def moduleName : Parser Unit := do
  let _ ← r.patterns.dottedName

def importNames : Parser Node := do
  r.strictList do
    r.moduleName
    asName
  return part []

/-- The dots before the name of a module: whether there are any. -/
def leadingDots : Parser Bool := do
  let step (_ : Bool) : Parser (Option Bool) := do
    match ← acceptAmong [".", "..."] with
    | some _ => return some true
    | none => return none
  iterate step r.steps false

def importFrom : Parser Node := do
  let dots ← r.leadingDots
  if !dots || !(← isKeyword "import") then r.moduleName
  keyword "import"
  let item : Parser Unit := do
    let _ ← name
    asName
  if ← acceptOperator "*" then return part []
  else if ← acceptOperator "(" then
    let _ ← commaList r.steps item
    operator ")"
    return part []
  else
    r.strictList item
    return part []

def raised : Parser Node := do
  match ← attempt r.rules.expression with
  | none => return part []
  | some e => if ← acceptKeyword "from" then return part [e, ← r.rules.expression] else return part [e]

def deleted : Parser Node := do
  let (nodes, _) ← commaList r.steps r.rules.primary
  if !Node.areDeletable nodes then failure
  if !((← isOperator ";") || (← isNext .newline)) then failure
  return part nodes

def asserted : Parser Node := do
  let test ← r.rules.expression
  if ← acceptOperator "," then return part [test, ← r.rules.expression] else return part [test]

/-- A statement on a part of a line. -/
def simple : Parser Node := do
  match ← peek with
  | .keyword word =>
    let begins (w : String) : Bool := word = w.toList
    if begins "pass" || begins "break" || begins "continue" then
      let _ ← take
      return part []
    else if begins "return" then
      let _ ← take
      return part (← attempt r.rules.starExpressions).toList
    else if begins "import" then
      let _ ← take
      r.importNames
    else if begins "from" then
      let _ ← take
      r.importFrom
    else if begins "raise" then
      let _ ← take
      r.raised
    else if begins "del" then
      let _ ← take
      r.deleted
    else if begins "assert" then
      let _ ← take
      r.asserted
    else if begins "global" || begins "nonlocal" then
      let _ ← take
      r.nameList
    else r.assignment
  | _ => r.assignment

/-- Statements with semicolons between them, up to the end of the line. -/
def simpleLine : Parser (List Node) := do
  let step (s : List Node × Bool) : Parser (Option (List Node × Bool)) := do
    if s.2 then return none
    else if ← accept .newline then return some (s.1, true)
    else
      operator ";"
      if ← accept .newline then return some (s.1, true)
      else return some ((← r.simple) :: s.1, false)
  let (nodes, _) ← iterate step (r.steps + 1) ([← r.simple], false)
  return nodes.reverse

/-! ### Compound statements -/

/-- A colon and a block. -/
def suite : Parser (List Node) := do
  operator ":"
  r.block

/-- The block after a keyword, if the keyword is there. -/
def suiteAfter (word : Text) : Parser (List Node) := do
  if ← acceptKeyword word then r.suite else return []

def conditional : Parser (List Node) := do
  let test ← r.rules.namedExpression
  let body ← r.suite
  let step (found : List Node) : Parser (Option (List Node)) := do
    if ← acceptKeyword "elif" then
      let test ← r.rules.namedExpression
      return some (found ++ test :: (← r.suite))
    else return none
  let nodes ← iterate step r.steps (test :: body)
  return nodes ++ (← r.suiteAfter "else")

def whileLoop : Parser (List Node) := do
  let test ← r.rules.namedExpression
  let body ← r.suite
  return test :: body ++ (← r.suiteAfter "else")

/-- What follows the keyword of a `for` statement. -/
def forLoop : Parser (List Node) := do
  let target ← r.rules.targets
  keyword "in"
  let source ← r.rules.starExpressions
  let body ← r.suite
  return target :: source :: body ++ (← r.suiteAfter "else")

def withItem : Parser (List Node) := do
  let e ← r.rules.expression
  if ← acceptKeyword "as" then
    let t ← r.rules.target
    if !((← isOperator ",") || (← isOperator ")") || (← isOperator ":")) then failure
    return [e, t]
  else return [e]

/-- What follows the keyword of a `with` statement. -/
def withBlock : Parser (List Node) := do
  let inParentheses : Parser (List (List Node)) := do
    operator "("
    let (items, _) ← commaList r.steps r.withItem
    operator ")"
    if !(← isOperator ":") then failure
    return items
  let plain : Parser (List (List Node)) := do
    let first ← r.withItem
    let step (found : List (List Node)) : Parser (Option (List (List Node))) := do
      if ← acceptOperator "," then return some ((← r.withItem) :: found) else return none
    return (← iterate step r.steps [first]).reverse
  let items ← inParentheses <|> plain
  return items.flatten ++ (← r.suite)

/-- One `except` block, and whether it is for groups. -/
def handler : Parser (Bool × List Node) := do
  keyword "except"
  let isGroup ← acceptOperator "*"
  if ← isOperator ":" then
    if isGroup then failure
    return (false, ← r.suite)
  else
    let e ← r.rules.expression
    asName
    return (isGroup, e :: (← r.suite))

def tryBlock : Parser (List Node) := do
  let body ← r.suite
  let step (found : List (Bool × List Node)) : Parser (Option (List (Bool × List Node))) := do
    if ← isKeyword "except" then return some ((← r.handler) :: found) else return none
  let handlers := (← iterate step r.steps []).reverse
  if handlers.isEmpty then
    keyword "finally"
    return body ++ (← r.suite)
  else
    if handlers.any (·.1) && handlers.any (!·.1) then failure
    let orElse ← r.suiteAfter "else"
    let final ← r.suiteAfter "finally"
    return body ++ handlers.flatMap (·.2) ++ orElse ++ final

/-- What follows the keyword of a function. -/
def function (decorators : List Node) : Parser (List Node) := do
  let _ ← name
  operator "("
  let parameters ← r.rules.parameters false ")"
  operator ")"
  let result ← if ← acceptOperator "->" then (fun e => [e]) <$> r.rules.expression else pure []
  let body ← r.suite
  return parameters ++ body ++ decorators ++ result

/-- What follows the keyword of a class. -/
def classBlock (decorators : List Node) : Parser (List Node) := do
  let _ ← name
  let bases ← if ← acceptOperator "(" then do
      let (positional, keywords) ← r.rules.arguments false
      operator ")"
      pure (positional ++ keywords)
    else pure []
  let body ← r.suite
  return bases ++ body ++ decorators

/-- The decorators before a function or a class. -/
def decorators : Parser (List Node) := do
  let step (found : List Node) : Parser (Option (List Node)) := do
    if ← acceptOperator "@" then
      let e ← r.rules.namedExpression
      expect .newline
      return some (e :: found)
    else return none
  return (← iterate step r.steps []).reverse

/-- A function or a class, with its decorators. -/
def decorated : Parser (List Node) := do
  let ds ← r.decorators
  if ← acceptKeyword "class" then r.classBlock ds
  else
    let _ ← acceptKeyword "async"
    keyword "def"
    r.function ds

def asynchronous : Parser (List Node) := do
  if ← acceptKeyword "def" then r.function []
  else if ← acceptKeyword "with" then r.withBlock
  else
    keyword "for"
    r.forLoop

/-- Take a word that is a keyword only here. -/
def softKeyword (t : Text) : Parser Unit := do
  if (← name) ≠ t then failure

def subject : Parser Node := do
  match ← commaList r.steps r.rules.starNamed with
  | ([item], false) => if Rules.isStarred item then failure else return item
  | (items, _) => return .other .tuple items

def matchCase : Parser (List Node) := do
  softKeyword "case"
  let pattern ← r.patterns.casePatterns
  let condition ← if ← acceptKeyword "if" then (fun e => [e]) <$> r.rules.namedExpression
    else pure []
  return pattern ++ condition ++ (← r.suite)

def matchLine : Parser Node := do
  softKeyword "match"
  let s ← r.subject
  operator ":"
  expect .newline
  return s

def matchCases : Parser (List Node) := do
  expect .indent
  let first ← r.matchCase
  let step (found : List Node) : Parser (Option (List Node)) := do
    if ← accept .dedent then return none else return some (found ++ (← r.matchCase))
  iterate step (r.steps + 1) first

/-- One or more statements: a compound statement, or a line of simple ones. -/
def statement : Parser (List Node) := do
  if ← acceptKeyword "if" then r.conditional
  else if ← acceptKeyword "while" then r.whileLoop
  else if ← acceptKeyword "for" then r.forLoop
  else if ← acceptKeyword "with" then r.withBlock
  else if ← acceptKeyword "try" then r.tryBlock
  else if ← acceptKeyword "async" then r.asynchronous
  else if (← isKeyword "def") || (← isKeyword "class") || (← isOperator "@") then r.decorated
  else match ← attempt r.matchLine with
    | some s => return s :: (← r.matchCases)
    | none => r.simpleLine

/-- A block: statements on lines of their own, or on the rest of the line. -/
def blockOf : Parser (List Node) := do
  if ← accept .newline then
    expect .indent
    let first ← r.statement
    let step (s : List Node × Bool) : Parser (Option (List Node × Bool)) := do
      if s.2 then return none
      else if ← accept .dedent then return some (s.1, true)
      else return some (s.1 ++ (← r.statement), false)
    return (← iterate step (r.steps + 1) (first, false)).1
  else r.simpleLine

def file : Parser (List Node) := do
  let step (found : List Node) : Parser (Option (List Node)) := do
    if ← isNext .endOfSource then return none else return some (found ++ (← r.statement))
  iterate step (r.steps + 1) []

end StatementRules

/-- The readers of statements whose blocks are nested at most the given number of times. -/
def statementRules (p : PatternRules) : Nat → StatementRules
  | 0 => ⟨p, failure⟩
  | n + 1 => { patterns := p, block := fun s => (statementRules p n).blockOf s }

/-- A source file that has been read: its tree and its comments. -/
structure Module where
  tree : Node
  comments : List Comment

/-- Read a source file. -/
def Module.ofText (t : Text) : Option Module := do
  let lexed ← lex 1 t
  let depth := 2 * t.length + 10
  let r := rules depth
  let all := statementRules (patternRules r depth) depth
  let (nodes, _) ← all.file.run lexed.lexemes
  return ⟨.other .part nodes, lexed.comments⟩

end MessageCatalog.Source
