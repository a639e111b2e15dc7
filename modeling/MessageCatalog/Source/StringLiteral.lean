import MessageCatalog.Source.Number
import MessageCatalog.Source.Token
import MessageCatalog.Text.Name

/-!
# String literals

What a string literal stands for. Escapes are replaced, and a formatted literal is cut into
constant texts and fields; a field keeps the source text of its expression.
-/

namespace MessageCatalog.Source.StringLiteral

open Number (isHexadecimal isOctal between)

/-! ### Escapes -/

/-- The value of a digit of a base up to sixteen. -/
def digitValue (c : Char) : Nat :=
  if between c '0' '9' then c.toNat - '0'.toNat
  else if between c 'a' 'f' then c.toNat - 'a'.toNat + 10
  else c.toNat - 'A'.toNat + 10

/-- The number that digits of a base stand for. -/
def valueOf (base : Nat) (ds : Text) : Nat := ds.foldl (fun n c => base * n + digitValue c) 0

/-- The character with a code point. A surrogate is no character: all of them become the one
replacement character. -/
def charAt (code : Nat) : Char := if code.isValidChar then Char.ofNat code else '\ufffd'

def letterEscape? (c : Char) : Option Text :=
  match c with
  | '\n' => some []
  | '\\' => some ['\\']
  | '\'' => some ['\'']
  | '"' => some ['"']
  | 'a' => some ['\x07']
  | 'b' => some ['\x08']
  | 'f' => some ['\x0c']
  | 'n' => some ['\n']
  | 'r' => some ['\r']
  | 't' => some ['\t']
  | 'v' => some ['\x0b']
  | _ => none

/-- The number of digits after the letter of an escape that gives a code point. -/
def codeLength? (c : Char) : Option Nat :=
  match c with
  | 'x' => some 2
  | 'u' => some 4
  | 'U' => some 8
  | _ => none

/-- The character of a name in braces at the start of a text, and how long that is. -/
def namedCharacter? : Text → Option (Char × Nat)
  | '\x7b' :: rest => match Text.cutFirst '\x7d' rest with
    | some (name, _) => (Text.named? (Text.lower name)).map fun c => (c, name.length + 2)
    | none => none
  | _ => none

/-- Replace the escapes of a text, in at most the given number of steps. Escapes that mean nothing
stay. -/
def unescapeUpTo : Nat → Text → Option Text
  | 0, _ | _, [] => some []
  | n + 1, '\\' :: c :: rest =>
    match letterEscape? c, codeLength? c with
    | some t, _ => (unescapeUpTo n rest).map (t ++ ·)
    | none, some len =>
      let ds := rest.take len
      let code := valueOf 16 ds
      if ds.length = len && ds.all isHexadecimal && code < 0x110000 then
        (unescapeUpTo n (rest.drop len)).map (charAt code :: ·)
      else none
    | none, none =>
      if isOctal c then
        let ds := (c :: rest.take 2).takeWhile isOctal
        (unescapeUpTo n (rest.drop (ds.length - 1))).map (charAt (valueOf 8 ds) :: ·)
      else if c = 'N' then
        match namedCharacter? rest with
        | some (d, length) => (unescapeUpTo n (rest.drop length)).map (d :: ·)
        | none => none
      else (unescapeUpTo n rest).map fun t => '\\' :: c :: t
  | n + 1, c :: rest => (unescapeUpTo n rest).map (c :: ·)

/-- Replace the escapes of a text. -/
def unescape (t : Text) : Option Text := unescapeUpTo t.length t

/-- The text that the inside of a literal stands for. -/
def decode (isRaw : Bool) (t : Text) : Option Text := if isRaw then some t else unescape t

/-- Whether the inside of a literal is one of bytes: it holds no other characters, and its escapes
are complete. -/
def isByteBody (isRaw : Bool) : Text → Bool
  | [] => true
  | '\\' :: 'x' :: a :: b :: rest =>
    if isRaw then a.toNat < 0x80 && b.toNat < 0x80 && isByteBody isRaw rest
    else isHexadecimal a && isHexadecimal b && isByteBody isRaw rest
  | '\\' :: 'x' :: rest => isRaw && isByteBody isRaw rest
  | '\\' :: c :: rest => c.toNat < 0x80 && isByteBody isRaw rest
  | c :: rest => c.toNat < 0x80 && isByteBody isRaw rest

/-! ### Formatted literals -/

/-- A piece of a formatted literal. -/
inductive Piece where
  | text (t : Text)
  /-- A field: the source text of its expression, the number of line breaks before it, and the
  pieces of its format. -/
  | field (source : Text) (linesBefore : Nat) (format : List Piece)
  deriving Inhabited

/-- Where the reading of an expression in a field stands: the brackets that are open, and the mark
of the string that is open, if one is, with the number of marks that close it. -/
structure FieldScan where
  brackets : List Char := []
  mark : Option (Char × Nat) := none

/-- Whether a bracket closes another. -/
def closes (b c : Char) : Bool :=
  (b = '(' && c = ')') || (b = '[' && c = ']') || (b = '\x7b' && c = '\x7d')

/-- The expression at the start of a text, and what follows it. It ends outside brackets and
strings before a mark of conversion, format or end. -/
def expression (s : FieldScan) : Text → Option (Text × Text)
  | [] => none
  | '\\' :: _ => none
  | c :: rest =>
    let push (s : FieldScan) := (expression s rest).map fun (e, after) => (c :: e, after)
    match s.mark with
    | some (m, count) =>
      if c ≠ m then push s
      else if count = 1 then push { s with mark := none }
      else match rest with
        | a :: b :: after =>
          if a = m && b = m then
            (expression { s with mark := none } after).map fun (e, rest) => (c :: a :: b :: e, rest)
          else push s
        | _ => push s
    | none =>
      if c = '"' || c = '\'' then
        match rest with
        | a :: b :: after =>
          if a = c && b = c then
            (expression { s with mark := some (c, 3) } after).map fun (e, rest) =>
              (c :: a :: b :: e, rest)
          else push { s with mark := some (c, 1) }
        | _ => push { s with mark := some (c, 1) }
      else if c = '(' || c = '[' || c = '\x7b' then push { s with brackets := c :: s.brackets }
      else if c = '#' then none
      else if s.brackets.isEmpty &&
          (c = '!' || c = ':' || c = '\x7d' || c = '=' || c = '<' || c = '>') then
        match rest with
        | '=' :: after =>
          if c = ':' || c = '\x7d' then some ([], c :: rest)
          else (expression s after).map fun (e, rest) => (c :: '=' :: e, rest)
        | _ => if c = '<' || c = '>' then push s else some ([], c :: rest)
      else if c = ')' || c = ']' || c = '\x7d' then
        match s.brackets with
        | b :: open' => if closes b c then push { s with brackets := open' } else none
        | [] => none
      else push s

/-- White space that can stand around an expression. -/
def isFieldSpace (c : Char) : Bool := c = ' ' || c = '\t' || c = '\n' || c = '\x0c'

/-- White space that can follow an equals sign. -/
def isAsciiSpace (c : Char) : Bool := isFieldSpace c || c = '\r' || c = '\x0b'

/-- Where the reading of constant text stands: after a backslash, after a backslash and the letter
of a name, inside the braces around a name, or elsewhere. -/
inductive LiteralScan where
  | plain | escape | nameLetter | characterName
  deriving DecidableEq

/-- Constant text that has been read, whether a doubled brace ended it, and what follows. -/
structure Constant where
  written : Text
  doubled : Bool
  rest : Text

def isBrace (c : Char) : Bool := c = '\x7b' || c = '\x7d'

/-- End the constant text at a brace. A brace is doubled to stand for itself, but not inside a
format; a single closing brace ends only a format. -/
def endAtBrace (isFormat : Bool) (c : Char) (rest : Text) : Option Constant :=
  if isFormat then some ⟨[], false, c :: rest⟩
  else if rest.head? = some c then some ⟨[c], true, rest.drop 1⟩
  else if c = '\x7d' then none
  else some ⟨[], false, c :: rest⟩

/-- The constant text at the start of the inside of a formatted literal, as it is written. -/
def literal (isRaw isFormat : Bool) (scan : LiteralScan) : Text → Option Constant
  | [] => some ⟨[], false, []⟩
  | c :: rest =>
    let push (next : LiteralScan) : Option Constant :=
      (literal isRaw isFormat next rest).map fun k => { k with written := c :: k.written }
    match scan with
    | .characterName => push (if c = '\x7d' then .plain else .characterName)
    | .nameLetter => push (if c = '\x7b' then .characterName else .plain)
    | .escape =>
      if isBrace c then endAtBrace isFormat c rest
      else push (if c = 'N' then .nameLetter else .plain)
    | .plain =>
      if isBrace c then endAtBrace isFormat c rest
      else push (if c = '\\' && !isRaw then .escape else .plain)

/-- The text after a conversion, if there is one. -/
def afterConversion (t : Text) : Option Text :=
  match t with
  | '!' :: c :: rest => if c = 's' || c = 'r' || c = 'a' then some rest else none
  | '!' :: [] => none
  | _ => some t

/-- A piece that holds a text, unless the text is empty. -/
def textPiece (t : Text) : List Piece := if t.isEmpty then [] else [.text t]

/-- How deep fields can be nested in the formats of fields. -/
def depthLimit : Nat := 2

/-- The pieces of the inside of a formatted literal, or of a format, and what follows them. The
first number bounds the steps; `depth` tells how many formats are around, and `total` is the length
of the text behind the start of the whole literal. -/
def piecesUpTo (whole : Text) (isRaw : Bool) : Nat → Nat → Text → Option (List Piece × Text)
  | 0, _, _ => none
  | n + 1, depth, t => do
    let ⟨written, doubled, rest⟩ ← literal isRaw (0 < depth) .plain t
    let constant := textPiece (← decode isRaw written)
    if doubled then
      let (more, rest) ← piecesUpTo whole isRaw n depth rest
      return (constant ++ more, rest)
    match rest with
    | '\x7b' :: inside =>
      if depthLimit ≤ depth then none
      let (source, after) ← expression {} inside
      if source.all isFieldSpace then none
      let before := (whole.take (whole.length - rest.length)).count '\n'
      let (shown, after) := match after with
        | '=' :: tail =>
          let blank := tail.takeWhile isAsciiSpace
          (source ++ '=' :: blank, tail.dropWhile isAsciiSpace)
        | _ => ([], after)
      let after ← afterConversion after
      let (format, after) ← match after with
        | ':' :: tail => do
          let (pieces, after) ← piecesUpTo whole isRaw n (depth + 1) tail
          pure (pieces, after)
        | _ => pure ([], after)
      match after with
      | '\x7d' :: rest =>
        let (more, rest) ← piecesUpTo whole isRaw n depth rest
        return (constant ++ textPiece shown ++ .field source before format :: more, rest)
      | _ => none
    | _ => return (constant, rest)

def pieces (isRaw : Bool) (body : Text) : Option (List Piece) := do
  let (ps, rest) ← piecesUpTo body isRaw (2 * body.length + 2) 0 body
  if rest.isEmpty then return ps else none

end MessageCatalog.Source.StringLiteral
