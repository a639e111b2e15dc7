import MessageCatalog.Value.Basic

/-!
# Reading values

The reader of JSON texts. It accepts the grammar of the standard, and besides the numbers `NaN`,
`Infinity` and `-Infinity`. A name that an object gives twice keeps its first place and its last
value. Every function takes a bound on the nesting, which the entry point sets to the length of
the text.
-/

namespace MessageCatalog.Value

open Text

/-- Why a text is no value. -/
inductive ReadError where
  /-- The text does not follow the grammar. -/
  | grammar
  /-- A whole number has too many digits. -/
  | longNumber
  deriving DecidableEq, Repr

/-- White space between the tokens. -/
def isGap (c : Char) : Bool := c = ' ' || c = '\t' || c = '\n' || c = '\r'

/-- Drop the white space at the start. -/
def skipGap (t : Text) : Text := t.dropWhile isGap

/-! ### Texts -/

/-- The value of a hexadecimal digit. -/
def hexValue? (c : Char) : Option Nat :=
  let n := c.toNat
  if 0x30 ≤ n && n ≤ 0x39 then some (n - 0x30)
  else if 0x61 ≤ n && n ≤ 0x66 then some (n - 0x57)
  else if 0x41 ≤ n && n ≤ 0x46 then some (n - 0x37)
  else none

/-- The number written by four hexadecimal digits, and the rest. -/
def fourHex? : Text → Option (Nat × Text)
  | a :: b :: c :: d :: rest => do
    let w ← hexValue? a
    let x ← hexValue? b
    let y ← hexValue? c
    let z ← hexValue? d
    some (((w * 16 + x) * 16 + y) * 16 + z, rest)
  | _ => none

/-- The character of a code unit, joined with the low half that may follow it. A half of its own
becomes the replacement character. -/
def unitChar (unit : Nat) (rest : Text) : Char × Text :=
  if 0xd800 ≤ unit ∧ unit < 0xdc00 then
    match rest with
    | '\\' :: 'u' :: more => match fourHex? more with
      | some (low, after) =>
        if 0xdc00 ≤ low ∧ low < 0xe000 then
          (Char.ofNat (0x10000 + (unit - 0xd800) * 0x400 + (low - 0xdc00)), after)
        else (Char.ofNat 0xfffd, rest)
      | none => (Char.ofNat 0xfffd, rest)
    | _ => (Char.ofNat 0xfffd, rest)
  else if 0xdc00 ≤ unit ∧ unit < 0xe000 then (Char.ofNat 0xfffd, rest)
  else (Char.ofNat unit, rest)

/-- The text up to the closing mark, and the rest; `passed` is what was read, latest first. -/
def readQuoted : Nat → Text → Text → Option (Text × Text)
  | 0, _, _ => none
  | _ + 1, _, [] => none
  | bound + 1, passed, c :: rest =>
    if c = '"' then some (passed.reverse, rest)
    else if c = '\\' then
      match rest with
      | 'u' :: more => do
        let (unit, after) ← fourHex? more
        let (ch, after) := unitChar unit after
        readQuoted bound (ch :: passed) after
      | e :: more =>
        let plain : Option Char := match e with
          | '"' => some '"'
          | '\\' => some '\\'
          | '/' => some '/'
          | 'b' => some '\x08'
          | 'f' => some '\x0c'
          | 'n' => some '\n'
          | 'r' => some '\r'
          | 't' => some '\t'
          | _ => none
        plain.bind fun ch => readQuoted bound (ch :: passed) more
      | [] => none
    else if c.toNat < 0x20 then none
    else readQuoted bound (c :: passed) rest

/-! ### Numbers -/

def isAsciiDigit (c : Char) : Bool := 0x30 ≤ c.toNat && c.toNat ≤ 0x39

/-- The number that ASCII digits stand for. -/
def digitsValue (ds : Text) : Nat := Decimal.value (ds.map fun c => c.toNat - 0x30)

/-- The fraction after a point, if at least one digit follows the point. -/
def splitFraction (t : Text) : Text × Text :=
  match t with
  | '.' :: rest =>
    let ds := rest.takeWhile isAsciiDigit
    if ds.isEmpty then ([], t) else (ds, rest.drop ds.length)
  | _ => ([], t)

/-- The exponent, if there is a complete one. -/
def splitExponent (t : Text) : Option Int × Text :=
  match t with
  | c :: rest =>
    if c = 'e' || c = 'E' then
      let (negative, tail) : Bool × Text := match rest with
        | '-' :: more => (true, more)
        | '+' :: more => (false, more)
        | _ => (false, rest)
      let ds := tail.takeWhile isAsciiDigit
      if ds.isEmpty then (none, t)
      else
        let n : Int := digitsValue ds
        (some (if negative then -n else n), tail.drop ds.length)
    else (none, t)
  | [] => (none, t)

def readNumber (t : Text) : Option (Except ReadError (Value × Text)) :=
  let (negative, body) : Bool × Text := match t with
    | '-' :: rest => (true, rest)
    | _ => (false, t)
  let whole : Text := match body with
    | '0' :: _ => ['0']
    | _ => body.takeWhile isAsciiDigit
  if whole.isEmpty then none
  else
    let rest := body.drop whole.length
    let (fraction, rest₁) := splitFraction rest
    let (exponent, rest₂) := splitExponent rest₁
    if fraction.isEmpty && exponent.isNone then
      if Decimal.maxDigits < whole.length then some (.error .longNumber)
      else
        let n : Int := digitsValue whole
        some (.ok (.int (if negative then -n else n), rest₂))
    else
      let digits := digitsValue (whole ++ fraction)
      some (.ok (.float (.ofDecimal negative digits (exponent.getD 0 - fraction.length)), rest₂))

/-! ### Values -/

def afterWord? (word : Text) (t : Text) : Option Text := word.isPrefixOf? t

mutual

/-- A value at the start of a text, and the rest. -/
def readValue : Nat → Text → Except ReadError (Value × Text)
  | 0, _ => .error .grammar
  | bound + 1, t =>
    match t with
    | '"' :: rest => match readQuoted (rest.length + 1) [] rest with
      | some (s, after) => .ok (.text s, after)
      | none => .error .grammar
    | '[' :: rest => match skipGap rest with
      | ']' :: after => .ok (.list [], after)
      | items => do
        let (vs, after) ← readItems bound items
        return (.list vs, after)
    | '\x7b' :: rest => match skipGap rest with
      | '\x7d' :: after => .ok (.object [], after)
      | fields => do
        let (fs, after) ← readFields bound fields []
        return (.object fs, after)
    | _ =>
      if let some rest := afterWord? "null" t then .ok (.null, rest)
      else if let some rest := afterWord? "true" t then .ok (.bool true, rest)
      else if let some rest := afterWord? "false" t then .ok (.bool false, rest)
      else if let some rest := afterWord? "NaN" t then .ok (.float .nan, rest)
      else if let some rest := afterWord? "Infinity" t then .ok (.float (.infinite false), rest)
      else if let some rest := afterWord? "-Infinity" t then .ok (.float (.infinite true), rest)
      else match readNumber t with
        | some result => result
        | none => .error .grammar

/-- The items of a list up to its end. -/
def readItems : Nat → Text → Except ReadError (List Value × Text)
  | 0, _ => .error .grammar
  | bound + 1, t => do
    let (v, rest) ← readValue bound t
    match skipGap rest with
    | ']' :: after => return ([v], after)
    | ',' :: more =>
      let (vs, after) ← readItems bound (skipGap more)
      return (v :: vs, after)
    | _ => .error .grammar

/-- The fields of an object up to its end; `passed` holds the fields read before. -/
def readFields : Nat → Text → List (Text × Value) →
    Except ReadError (List (Text × Value) × Text)
  | 0, _, _ => .error .grammar
  | bound + 1, t, passed =>
    match t with
    | '"' :: rest => match readQuoted (rest.length + 1) [] rest with
      | none => .error .grammar
      | some (name, after) => match skipGap after with
        | ':' :: body => do
          let (v, rest) ← readValue bound (skipGap body)
          let fields := OrderedMap.insertPair name v passed
          match skipGap rest with
          | '\x7d' :: after => return (fields, after)
          | ',' :: more => readFields bound (skipGap more) fields
          | _ => .error .grammar
        | _ => .error .grammar
    | _ => .error .grammar

end

def read (t : Text) : Except ReadError Value := do
  let (v, rest) ← readValue (t.length + 1) (skipGap t)
  if (skipGap rest).isEmpty then return v else .error .grammar

end MessageCatalog.Value
