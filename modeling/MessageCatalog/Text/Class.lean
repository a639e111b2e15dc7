import MessageCatalog.Text.ClassTable

/-!
# Classes of characters

The classes that decide how texts are trimmed, split, shown and read as identifiers or numbers.
Each class is a `Bool`-valued predicate on characters; the large ones read the tables of
`MessageCatalog.Text.ClassTable`.
-/

namespace MessageCatalog.Text

/-- Whether a code point lies in one of the half-open runs given by their boundaries. -/
def inRuns (code : Nat) : List Nat → Bool
  | first :: stop :: rest =>
    if code < first then false else if code < stop then true else inRuns code rest
  | _ => false

/-- White space: what is trimmed from the ends of a text and what separates its words. -/
def isBlank (c : Char) : Bool :=
  let n := c.toNat
  (0x09 ≤ n && n ≤ 0x0d) || (0x1c ≤ n && n ≤ 0x20) || n == 0x85 || n == 0xa0 || n == 0x1680 ||
    (0x2000 ≤ n && n ≤ 0x200a) || n == 0x2028 || n == 0x2029 || n == 0x202f || n == 0x205f ||
    n == 0x3000

/-- Line boundaries: the characters that end a line of text. -/
def endsLine (c : Char) : Bool :=
  let n := c.toNat
  (0x0a ≤ n && n ≤ 0x0d) || (0x1c ≤ n && n ≤ 0x1e) || n == 0x85 || n == 0x2028 || n == 0x2029

/-- The value of a decimal digit of any script. -/
def digitValue? (c : Char) : Option Nat :=
  if c.toNat < 0x80 then
    if 0x30 ≤ c.toNat && c.toNat ≤ 0x39 then some (c.toNat - 0x30) else none
  else
    (ClassTable.zeros.find? fun start => start ≤ c.toNat && c.toNat < start + 10).map (c.toNat - ·)

/-- Decimal digits of any script. -/
def isDecimal (c : Char) : Bool := (digitValue? c).isSome

/-- Digits in a wide sense: decimal digits, and characters that only stand for a digit. -/
def isDigitLike (c : Char) : Bool :=
  isDecimal c || inRuns c.toNat ClassTable.digitLikeRuns

/-- Characters of a word: letters, numbers and the low line. -/
def isWordChar (c : Char) : Bool := inRuns c.toNat ClassTable.wordRuns

/-- Characters that can begin an identifier. -/
def isNameStart (c : Char) : Bool := inRuns c.toNat ClassTable.nameStartRuns

/-- Characters that can follow in an identifier. -/
def isNameContinue (c : Char) : Bool := inRuns c.toNat ClassTable.nameContinueRuns

/-- Characters that are shown as they are. -/
def isPrintable (c : Char) : Bool := inRuns c.toNat ClassTable.printableRuns

/-- Every line boundary is white space, so a trimmed text has none at its ends. -/
theorem isBlank_of_endsLine {c : Char} (h : endsLine c = true) : isBlank c = true := by
  simp only [endsLine, isBlank, Bool.or_eq_true, Bool.and_eq_true, decide_eq_true_eq,
    beq_iff_eq] at h ⊢
  omega

end MessageCatalog.Text
