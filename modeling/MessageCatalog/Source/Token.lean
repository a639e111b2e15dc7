import MessageCatalog.Text.Basic

/-!
# Tokens of a source file

The tokens that the text of a Python source file is made of, each with the lines on which it begins
and ends. Line breaks that end a statement and changes of the indentation are tokens of their own.
-/

namespace MessageCatalog.Source

/-- The kinds of number literals. -/
inductive NumberKind where
  | whole
  | floating
  | imaginary
  deriving DecidableEq, Repr

/-- What the letters before a string literal say about it. -/
structure StringStyle where
  isBytes : Bool := false
  isRaw : Bool := false
  isFormatted : Bool := false
  deriving DecidableEq, Repr

/-- A token. -/
inductive Token where
  | name (t : Text)
  | keyword (t : Text)
  | number (kind : NumberKind)
  /-- A string literal: how it is written, and what stands between its quotation marks. -/
  | string (style : StringStyle) (body : Text)
  | operator (t : Text)
  | newline
  | indent
  | dedent
  | endOfSource
  deriving DecidableEq

/-- A token and the line on which it begins. -/
structure Lexeme where
  token : Token
  line : Nat
  deriving DecidableEq

/-- A comment: the line it is on and what it says. -/
structure Comment where
  line : Nat
  text : Text
  deriving DecidableEq

/-- The words that cannot be names. -/
def keywords : List Text := List.map String.toList
  ["False", "None", "True", "and", "as", "assert", "async", "await", "break", "class", "continue",
    "def", "del", "elif", "else", "except", "finally", "for", "from", "global", "if", "import",
    "in", "is", "lambda", "nonlocal", "not", "or", "pass", "raise", "return", "try", "while",
    "with", "yield"]

/-- The operators, longer ones before those they begin with. -/
def operators : List Text := List.map String.toList
  ["**=", "//=", ">>=", "<<=", "...", "**", "//", ">>", "<<", "<=", ">=", "==", "!=", "<>", "->",
    "+=", "-=", "*=", "/=", "%=", "&=", "|=", "^=", "@=", ":=", "+", "-", "*", "/", "%", "@", "&",
    "|", "^", "~", "<", ">", "(", ")", "[", "]", "\x7b", "\x7d", ",", ":", ".", ";", "="]

end MessageCatalog.Source
