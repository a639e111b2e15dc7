import MessageCatalog.Text.Basic

/-!
# Decimal numbers

Whole numbers are written with the fewest digits. They are read more freely: white space around
the number, one sign, the digits of any script and single low lines between digits are accepted.
A number of more than `maxDigits` digits is refused.
-/

namespace MessageCatalog.Decimal

open Text

/-! ### Writing -/

/-- The digits of a number, most significant first. -/
def ofNat (n : Nat) : Text :=
  if n < 10 then [Nat.digitChar n] else ofNat (n / 10) ++ [Nat.digitChar (n % 10)]
termination_by n
decreasing_by omega

/-- A whole number with its sign, if it is negative. -/
def ofInt : Int → Text
  | .ofNat n => ofNat n
  | .negSucc n => '-' :: ofNat (n + 1)

/-! ### Reading -/

/-- The most digits a number may be read from. -/
def maxDigits : Nat := 4300

/-- The number that digits stand for, most significant first. -/
def value (digits : List Nat) : Nat := digits.foldl (fun n d => 10 * n + d) 0

/-- The digits of a number; a single low line may stand between two of them. -/
def digits? : Text → Option (List Nat)
  | [] => none
  | c :: rest => match digitValue? c with
    | none => none
    | some d => match rest with
      | [] => some [d]
      | '_' :: more => (digits? more).map (d :: ·)
      | next :: more => (digits? (next :: more)).map (d :: ·)

/-- White space that may surround a number: of the ASCII characters only the space and the
characters from tab to carriage return. -/
def isPadding (c : Char) : Bool :=
  if c.toNat < 0x80 then c.toNat == 0x20 || (0x09 ≤ c.toNat && c.toNat ≤ 0x0d) else isBlank c

/-- Read a number without sign. -/
def natOf? (t : Text) : Option Nat := do
  let ds ← digits? t
  if ds.length ≤ maxDigits then some (value ds) else none

/-- Read a whole number. -/
def int? (t : Text) : Option Int :=
  let core := ((t.dropWhile isPadding).reverse.dropWhile isPadding).reverse
  match core with
  | '-' :: rest => (natOf? rest).map fun n => -(n : Int)
  | '+' :: rest => (natOf? rest).map fun n => (n : Int)
  | rest => (natOf? rest).map fun n => (n : Int)

end MessageCatalog.Decimal
