import MessageCatalog.Text.Basic

/-!
# Wrapping

A long text is cut into chunks: white space, long dashes between words, and words, which may also
end after a hyphen. Lines are then filled with chunks up to a width; a chunk that is wider stands
on a line of its own. White space counts like everything else and is kept, so the lines put
together are the text.
-/

namespace MessageCatalog.Text

/-! ### Chunks -/

/-- White space that separates chunks. -/
def isSeparator (c : Char) : Bool :=
  c = ' ' || c = '\t' || c = '\n' || c = '\x0b' || c = '\x0c' || c = '\r'

/-- Characters that can stand before a dash between words. -/
def beforeDash (c : Char) : Bool :=
  isWordChar c || c = '!' || c = '"' || c = '\'' || c = '&' || c = '.' || c = ',' || c = '?'

/-- Letters: the characters of a word that are no decimal digits. -/
def isLetter (c : Char) : Bool := isWordChar c && !isDecimal c

/-- The length of the run of hyphens at the start. -/
def hyphens (t : Text) : Nat := (t.takeWhile (· = '-')).length

/-- Whether a dash of two or more hyphens begins here and a word follows it. -/
def startsDash (t : Text) : Bool :=
  2 ≤ hyphens t && match t.drop (hyphens t) with
    | c :: _ => isWordChar c
    | [] => false

/-- Whether what was passed, latest first, ends in a character that can stand before a dash. -/
def endsBeforeDash : Text → Bool
  | c :: _ => beforeDash c
  | [] => false

/-- Whether the characters before a hyphen, latest first, are two letters, or a letter that
follows a letter and a hyphen. -/
def hyphenAfter : Text → Bool
  | a :: b :: c :: _ => isLetter a && (isLetter b || (b = '-' && isLetter c))
  | [a, b] => isLetter a && isLetter b
  | _ => false

/-- Whether a hyphen is followed by two letters, a hyphen allowed between them. -/
def hyphenBefore : Text → Bool
  | a :: b :: c :: _ => isLetter a && (isLetter b || (b = '-' && isLetter c))
  | [a, b] => isLetter a && isLetter b
  | _ => false

/-- Whether a word ends here: at white space, at the end, or before a dash. -/
def wordEnds (passed rest : Text) : Bool :=
  match rest with
  | [] => true
  | c :: _ => isSeparator c || (endsBeforeDash passed && startsDash rest)

/-- The length of the rest of a word, whose hyphen is counted if the word may be cut after it.
`passed` holds what comes before, latest first. -/
def wordRest (passed : Text) : Text → Nat
  | [] => 0
  | c :: rest =>
    if c = '-' && hyphenAfter passed && hyphenBefore rest then 1
    else if wordEnds passed (c :: rest) then 0
    else wordRest (c :: passed) rest + 1

def chunkLength (passed : Text) : Text → Nat
  | [] => 0
  | c :: rest =>
    if isSeparator c then ((c :: rest).takeWhile isSeparator).length
    else if endsBeforeDash passed && startsDash (c :: rest) then hyphens (c :: rest)
    else wordRest (c :: passed) rest + 1

/-- Cut a text into chunks; `bound` is at least its length. -/
def chunksFrom (passed : Text) : Nat → Text → List Text
  | 0, _ => []
  | _, [] => []
  | bound + 1, t =>
    let n := chunkLength passed t
    let chunk := t.take n
    chunk :: chunksFrom (chunk.reverse ++ passed) bound (t.drop n)

def chunks (t : Text) : List Text := chunksFrom [] t.length t

/-! ### Lines -/

/-- Fill lines with chunks, when `line` holds what the current line has got. -/
def fill (width : Nat) (line : Text) : List Text → List Text
  | [] => if line.isEmpty then [] else [line]
  | chunk :: rest =>
    if line.length + chunk.length ≤ width then fill width (line ++ chunk) rest
    else if line.isEmpty then chunk :: fill width [] rest
    else if chunk.length ≤ width then line :: fill width chunk rest
    else line :: chunk :: fill width [] rest

/-- The lines of a text, none wider than `width` unless it is a single chunk. -/
def wrap (width : Nat) (t : Text) : List Text := fill width [] (chunks t)

end MessageCatalog.Text
