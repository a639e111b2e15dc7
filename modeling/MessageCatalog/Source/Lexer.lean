import MessageCatalog.Source.Number

/-!
# Cutting a source file into tokens

The text is passed once, from left to right. At the start of every line outside brackets the
indentation is compared with those of the blocks that are open. Comments are no tokens; they are
kept apart with their lines.
-/

namespace MessageCatalog.Source

open Number (isNameLike isDigit)

/-! ### Strings and names -/

/-- The style that the letters before a quotation mark stand for. -/
def StringStyle.ofLetters? (letters : Text) : Option StringStyle :=
  match String.ofList (Text.lower letters) with
  | "" | "u" => some {}
  | "b" => some { isBytes := true }
  | "r" => some { isRaw := true }
  | "f" => some { isFormatted := true }
  | "br" | "rb" => some { isBytes := true, isRaw := true }
  | "fr" | "rf" => some { isFormatted := true, isRaw := true }
  | _ => none

/-- The inside of a string that ends at a mark on the same line, and what follows it. -/
def shortString (mark : Char) : Text → Option (Text × Text)
  | [] => none
  | '\\' :: c :: rest =>
    (shortString mark rest).map fun (body, after) => ('\\' :: c :: body, after)
  | c :: rest =>
    if c = mark then some ([], rest)
    else if c = '\n' then none
    else (shortString mark rest).map fun (body, after) => (c :: body, after)

/-- The inside of a string that ends at three marks, and what follows it. -/
def longString (mark : Char) : Text → Option (Text × Text)
  | [] => none
  | '\\' :: c :: rest =>
    (longString mark rest).map fun (body, after) => ('\\' :: c :: body, after)
  | c :: rest =>
    match [mark, mark, mark].isPrefixOf? (c :: rest) with
    | some after => some ([], after)
    | none => (longString mark rest).map fun (body, after) => (c :: body, after)

/-- The inside of a string whose first mark has been passed, and what follows it. -/
def stringBody (mark : Char) (t : Text) : Option (Text × Text) :=
  match [mark, mark].isPrefixOf? t with
  | some rest => longString mark rest
  | none => shortString mark t

/-- Whether a run of name characters is a name. -/
def isIdentifier : Text → Bool
  | [] => false
  | c :: rest => Text.isNameStart c && rest.all Text.isNameContinue

/-- The token of a run of name characters. A name stays as it is written: two spellings that are
compatible in Unicode, such as one with full-width letters, are two names. -/
def wordToken? (word : Text) : Option Token :=
  if word.all (·.toNat < 0x80) || isIdentifier word then
    some (if word ∈ keywords then .keyword word else .name word)
  else none

def lineBreaks (t : Text) : Nat := t.count '\n'

/-! ### Indentation -/

/-- The width of an indentation, when tabs lead to every eighth column and when they count as one;
the second width tells apart what only looks equal. -/
structure Indent where
  width : Nat
  narrow : Nat
  deriving DecidableEq

/-- What stands at the start of a line: its indentation, the rest of the line, and the number of
lines that backslashes join to it. The width before the first backslash counts. -/
structure Margin where
  indent : Indent
  fixed : Option Nat
  joined : Nat
  rest : Text

/-- Pass the white space at the start of a line. -/
def margin (m : Indent) (fixed : Option Nat) (joined : Nat) : Text → Option Margin
  | ' ' :: rest => margin ⟨m.width + 1, m.narrow + 1⟩ fixed joined rest
  | '\t' :: rest => margin ⟨(m.width / 8 + 1) * 8, m.narrow + 1⟩ fixed joined rest
  | '\x0c' :: rest => margin ⟨0, 0⟩ fixed joined rest
  | '\\' :: '\n' :: c :: rest =>
    let fixed := match fixed with
      | some w => some w
      | none => if m.width = 0 then none else some m.width
    margin m fixed (joined + 1) (c :: rest)
  | '\\' :: _ => none
  | rest => some ⟨m, fixed, joined, rest⟩

/-- The indentation that counts for a line. -/
def Margin.counted (m : Margin) : Indent :=
  match m.fixed with
  | some w => ⟨w, w⟩
  | none => m.indent

/-- The most blocks that may be open. -/
def blockLimit : Nat := 100

/-- Close the blocks that are indented more than a line: what stays open, and how many are
closed. -/
def closeBlocks (width : Nat) : List Indent → List Indent × Nat
  | top :: below :: rest =>
    if width < top.width then
      let (stay, closed) := closeBlocks width (below :: rest)
      (stay, closed + 1)
    else (top :: below :: rest, 0)
  | open' => (open', 0)

/-- The tokens of a change of indentation, and the blocks that are open afterwards. -/
def indentation (i : Indent) (blocks : List Indent) : Option (List Token × List Indent) :=
  match blocks with
  | [] => none
  | top :: _ =>
    if i.width = top.width then if i.narrow = top.narrow then some ([], blocks) else none
    else if top.width < i.width then
      if blocks.length < blockLimit && top.narrow < i.narrow then some ([.indent], i :: blocks)
      else none
    else
      let (stay, closed) := closeBlocks i.width blocks
      match stay with
      | base :: _ =>
        if base = i then some (List.replicate closed .dedent, stay) else none
      | [] => none

/-! ### The passage -/

/-- Where the passage stands: the line, the brackets and blocks that are open, whether a line
begins, whether it is blank so far, and what has been found, the latest first. -/
structure Passage where
  line : Nat
  brackets : List Char := []
  blocks : List Indent := [⟨0, 0⟩]
  begins : Bool := true
  blank : Bool := false
  lexemes : List Lexeme := []
  comments : List Comment := []

namespace Passage

/-- Add a token that begins on the line at hand. -/
def add (p : Passage) (t : Token) : Passage := { p with lexemes := ⟨t, p.line⟩ :: p.lexemes }

def beginLine (p : Passage) (t : Text) : Option (Passage × Text) := do
  let m ← margin ⟨0, 0⟩ none 0 t
  let p := { p with begins := false, line := p.line + m.joined }
  let blank := match m.rest with
    | c :: _ => c = '#' || c = '\n'
    | [] => false
  if blank || !p.brackets.isEmpty then return ({ p with blank }, m.rest)
  let (tokens, blocks) ← indentation m.counted p.blocks
  return (tokens.foldl add { p with blank := false, blocks }, m.rest)

/-- End a line. A blank line and a line inside brackets end no statement. -/
def endLine (p : Passage) : Passage :=
  let q := if p.blank || !p.brackets.isEmpty then p else p.add .newline
  { q with line := p.line + 1, begins := true, blank := false }

/-- The bracket that closes another. -/
def closing (c : Char) : Char :=
  if c = '(' then ')' else if c = '[' then ']' else '\x7d'

/-- The most brackets that may be open. -/
def bracketLimit : Nat := 200

/-- Keep account of the brackets that are open. -/
def bracket (p : Passage) (operator : Text) : Option Passage :=
  match operator with
  | [c] =>
    if c = '(' || c = '[' || c = '\x7b' then
      if p.brackets.length < bracketLimit then some { p with brackets := c :: p.brackets }
      else none
    else if c = ')' || c = ']' || c = '\x7d' then
      match p.brackets with
      | b :: rest => if closing b = c then some { p with brackets := rest } else none
      | [] => none
    else some p
  | _ => some p

def operator (p : Passage) (t : Text) : Option (Passage × Text) :=
  match operators.findSome? fun o => (o.isPrefixOf? t).map fun rest => (o, rest) with
  | some (o, rest) => (p.bracket o).map fun p => (p.add (.operator o), rest)
  | none => none

/-- Pass a string whose first mark is the head of a text. -/
def string (p : Passage) (style : StringStyle) (mark : Char) (t : Text) :
    Option (Passage × Text) :=
  (stringBody mark t).map fun (body, rest) =>
    ({ p.add (.string style body) with line := p.line + lineBreaks body }, rest)

/-- Pass a name, a keyword, or a string with letters before it. -/
def word (p : Passage) (t : Text) : Option (Passage × Text) :=
  let letters := t.takeWhile isNameLike
  let rest := t.dropWhile isNameLike
  let plain := (wordToken? letters).map fun token => (p.add token, rest)
  match rest with
  | c :: after =>
    if c = '"' || c = '\'' then
      match StringStyle.ofLetters? letters with
      | some style => p.string style c after
      | none => plain
    else plain
  | [] => plain

def beginsNumber (t : Text) : Bool :=
  match t with
  | '.' :: c :: _ => isDigit c
  | c :: _ => isDigit c
  | [] => false

/-- Pass one piece of a text that is not empty and not at the start of a line. -/
def piece (p : Passage) (c : Char) (rest : Text) : Option (Passage × Text) :=
  if c = ' ' || c = '\t' || c = '\x0c' then some (p, rest)
  else if c = '\n' then some (p.endLine, rest)
  else if c = '#' then
    let text := Text.trim (rest.takeWhile (· ≠ '\n'))
    some ({ p with comments := ⟨p.line, text⟩ :: p.comments }, rest.dropWhile (· ≠ '\n'))
  else if c = '\\' then
    match rest with
    | '\n' :: d :: after => some ({ p with line := p.line + 1 }, d :: after)
    | _ => none
  else if beginsNumber (c :: rest) then
    (Number.read (c :: rest)).map fun (kind, rest) => (p.add (.number kind), rest)
  else if isNameLike c then p.word (c :: rest)
  else if c = '"' || c = '\'' then p.string {} c rest
  else p.operator (c :: rest)

/-- End the text: all brackets are closed, and all blocks end. -/
def finish (p : Passage) : Option Passage :=
  if p.brackets.isEmpty then some (p.add .endOfSource) else none

/-- Pass a text in at most the given number of steps. -/
def run : Nat → Passage → Text → Option Passage
  | 0, _, _ => none
  | n + 1, p, t =>
    if p.begins then match p.beginLine t with
      | some (p, t) => run n p t
      | none => none
    else match t with
      | [] => p.finish
      | c :: rest => match p.piece c rest with
        | some (p, t) => run n p t
        | none => none

end Passage

/-! ### Whole texts -/

/-- The tokens and the comments of a source text. -/
structure Lexed where
  lexemes : List Lexeme
  comments : List Comment

def endWithBreak (t : Text) : Text :=
  if t.getLast? = some '\n' then t else t ++ ['\n']

/-- Cut a text, whose first line has the given number, into tokens. A carriage return ends a line
wherever it stands, also by itself and in a comment. -/
def lex (line : Nat) (t : Text) : Option Lexed :=
  let t := endWithBreak (Text.unifyLineEnds t)
  (Passage.run (2 * t.length + 2) { line } t).map fun p =>
    ⟨p.lexemes.reverse, p.comments.reverse⟩

end MessageCatalog.Source
