import MessageCatalog.Source.Token

/-!
# Number literals

Reading a number literal from the start of a text. Single low lines may stand between digits. A
name may not follow directly, unless it is a word such as `and` or `else` that can follow a
number.
-/

namespace MessageCatalog.Source.Number

/-- Whether a code point lies between two others. -/
def between (c first last : Char) : Bool := first.toNat ≤ c.toNat && c.toNat ≤ last.toNat

def isDigit (c : Char) : Bool := between c '0' '9'

/-- Digits of base two. -/
def isBinary (c : Char) : Bool := between c '0' '1'

/-- Digits of base eight. -/
def isOctal (c : Char) : Bool := between c '0' '7'

/-- Digits of base sixteen. -/
def isHexadecimal (c : Char) : Bool := isDigit c || between c 'a' 'f' || between c 'A' 'F'

/-- Characters of names, as far as they can be told without a table. -/
def isNameLike (c : Char) : Bool :=
  isDigit c || between c 'a' 'z' || between c 'A' 'Z' || c = '_' || 0x80 ≤ c.toNat

/-- Pass digits, which low lines may separate: the digits, and what follows them. -/
def digits (isOne : Char → Bool) : Text → Option (Text × Text)
  | [] => some ([], [])
  | ['_'] => none
  | '_' :: c :: rest =>
    if isOne c then (digits isOne rest).map fun (ds, after) => (c :: ds, after) else none
  | c :: rest =>
    if isOne c then (digits isOne rest).map fun (ds, after) => (c :: ds, after)
    else some ([], c :: rest)

/-- Whether a word stands at the start of a text and no longer name does. -/
def startsWithWord (word t : Text) : Bool :=
  match word.isPrefixOf? t with
  | some (c :: _) => !isNameLike c
  | some [] => true
  | none => false

/-- Whether a number may end before a text. -/
def mayEndBefore (t : Text) : Bool :=
  match t with
  | [] => true
  | c :: rest =>
    !isNameLike c ||
      (["and", "else", "for", "or"] : List Text).any (startsWithWord · t) ||
      (c = 'i' && match rest with
        | d :: _ => d = 'f' || d = 'n' || d = 's'
        | [] => false)

def ending (kind : NumberKind) (rest : Text) : Option (NumberKind × Text) :=
  if mayEndBefore rest then some (kind, rest) else none

/-- The end of a floating-point number, with the mark of an imaginary one. -/
def suffix (kind : NumberKind) : Text → Option (NumberKind × Text)
  | 'j' :: rest | 'J' :: rest => ending .imaginary rest
  | rest => ending kind rest

def exponentDigits? (t : Text) : Option Text :=
  match t with
  | c :: rest => if isDigit c then some rest else none
  | [] => none

/-- What follows the digits of a number: an exponent, or the end. -/
def exponent (kind : NumberKind) (t : Text) : Option (NumberKind × Text) :=
  match t with
  | e :: rest =>
    if e = 'e' || e = 'E' then
      let signed := match rest with
        | '+' :: after | '-' :: after => some after
        | _ => none
      match signed with
      | some after => do
        let (_, after) ← digits isDigit (← exponentDigits? after)
        suffix .floating after
      | none => match exponentDigits? rest with
        | some after => do
          let (_, after) ← digits isDigit after
          suffix .floating after
        | none => ending kind t
    else suffix kind t
  | [] => some (kind, [])

/-- What follows a decimal point. -/
def fraction (t : Text) : Option (NumberKind × Text) :=
  match t with
  | c :: rest =>
    if isDigit c then do
      let (_, after) ← digits isDigit rest
      exponent .floating after
    else exponent .floating t
  | [] => some (.floating, [])

def digitLimit : Nat := 4300

/-- A number whose first digit is `first`. A whole number has no leading zeros, unless it is zero,
and a limited number of digits. -/
def decimal (first : Char) (t : Text) : Option (NumberKind × Text) := do
  let (ds, after) ← digits isDigit t
  let all := first :: ds
  match after with
  | '.' :: rest => fraction rest
  | _ =>
    let (kind, rest) ← exponent .whole after
    if kind = .whole then
      if first = '0' && all.any (· ≠ '0') then none
      else if digitLimit < all.length then none
      else some (kind, rest)
    else some (kind, rest)

/-- The digits of a number in another base; there is at least one. -/
def radix (isOne : Char → Bool) (t : Text) : Option (NumberKind × Text) := do
  let t := match t with
    | '_' :: rest => rest
    | _ => t
  match t with
  | c :: rest =>
    if isOne c then
      let (_, after) ← digits isOne rest
      match after with
      | d :: _ => if isDigit d then none else ending .whole after
      | [] => some (.whole, [])
    else none
  | [] => none

/-- Read the number at the start of a text: its kind and what follows it. The text begins with a
digit, or with a point and a digit. -/
def read (t : Text) : Option (NumberKind × Text) :=
  match t with
  | '0' :: 'x' :: rest | '0' :: 'X' :: rest => radix isHexadecimal rest
  | '0' :: 'o' :: rest | '0' :: 'O' :: rest => radix isOctal rest
  | '0' :: 'b' :: rest | '0' :: 'B' :: rest => radix isBinary rest
  | '.' :: rest => fraction rest
  | c :: rest => decimal c rest
  | [] => none

end MessageCatalog.Source.Number
