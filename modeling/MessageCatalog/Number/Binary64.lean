import MessageCatalog.Number.Decimal

/-!
# Binary numbers of double precision

A finite number is an exact product `± mantissa · 2 ^ exponent`, so that every comparison, every
reading of a decimal and every printing is exact arithmetic on whole numbers. A number is printed
with the fewest digits that read back as the same number, the nearest such digits if there are
several.
-/

namespace MessageCatalog

/-- A number of double precision. -/
inductive Binary64 where
  | nan
  | infinite (negative : Bool)
  | finite (negative : Bool) (mantissa : Nat) (exponent : Int)
  deriving DecidableEq, Repr, Inhabited

namespace Binary64

/-- The exponent of the smallest positive number. -/
def leastExponent : Int := -1074

/-- The largest exponent of a finite number. -/
def greatestExponent : Int := 971

/-- The mantissa stays below this power of two. -/
def precision : Nat := 53

/-- A power of two; one with a negative exponent counts as one. -/
def twoTo (exponent : Int) : Nat := Nat.pow 2 exponent.toNat

/-- A power of ten; one with a negative exponent counts as one. -/
def tenTo (exponent : Int) : Nat := Nat.pow 10 exponent.toNat

/-- A quotient rounded to the nearest whole number, a half to the even neighbour. -/
def roundQuotient (num den : Nat) : Nat :=
  let q := num / den
  let rest := num % den
  if 2 * rest < den then q else if den < 2 * rest then q + 1 else q + q % 2

/-- The exponent that gives a positive quotient its full precision. -/
def fittingExponent (num den : Nat) : Int :=
  let guess : Int := (num.log2 : Int) - den.log2 - (precision - 1)
  let scaledNum := if guess < 0 then num * twoTo (-guess) else num
  let scaledDen := if guess < 0 then den else den * twoTo guess
  let exact := if scaledNum < scaledDen * twoTo (precision - 1) then guess - 1 else guess
  max exact leastExponent

/-- The nearest number to a quotient of whole numbers. -/
def ofQuotient (negative : Bool) (num den : Nat) : Binary64 :=
  if num = 0 then .finite negative 0 leastExponent
  else
    let e := fittingExponent num den
    let m :=
      if e < 0 then roundQuotient (num * twoTo (-e)) den
      else roundQuotient num (den * twoTo e)
    let (m, e) := if m = twoTo precision then (twoTo (precision - 1), e + 1) else (m, e)
    if greatestExponent < e then .infinite negative else .finite negative m e

/-- The nearest number to `digits · 10 ^ exponent`. Far outside the range the answer does not
depend on the digits, and no large power is computed. -/
def ofDecimal (negative : Bool) (digits : Nat) (exponent : Int) : Binary64 :=
  let magnitude : Int := (Decimal.ofNat digits).length + exponent
  if digits = 0 ∨ magnitude < -330 then .finite negative 0 leastExponent
  else if 320 < magnitude then .infinite negative
  else if exponent < 0 then ofQuotient negative digits (tenTo (-exponent))
  else ofQuotient negative (digits * tenTo exponent) 1

/-! ### Comparison -/

/-- The signed mantissa scaled down to the exponent `least`. -/
def scaled (negative : Bool) (mantissa : Nat) (exponent least : Int) : Int :=
  let n : Int := (mantissa * twoTo (exponent - least) : Nat)
  if negative then -n else n

/-- Whether a number is greater than another; a number that is none is never so. -/
def greater : Binary64 → Binary64 → Bool
  | .nan, _ | _, .nan => false
  | .infinite a, .infinite b => !a && b
  | .infinite a, .finite .. => !a
  | .finite .., .infinite b => b
  | .finite a m e, .finite b n f =>
    let least := min e f
    decide (scaled b n f least < scaled a m e least)

/-- A whole number in the same form; its mantissa may be of any size. -/
def ofInt (n : Int) : Binary64 := .finite (n < 0) n.natAbs 0

def isZero : Binary64 → Bool
  | .finite _ m _ => m == 0
  | _ => false

/-- Whole numbers from here on have no finite counterpart of double precision. -/
def overflowBound : Nat := twoTo 1024 - twoTo 970

/-! ### Printing -/

/-- The quotient `m · 2 ^ e / 10 ^ unit` as numerator and denominator. -/
def asQuotient (m : Nat) (e unit : Int) : Nat × Nat :=
  let num := if e < 0 then m else m * twoTo e
  let den := if e < 0 then twoTo (-e) else 1
  if unit < 0 then (num * tenTo (-unit), den) else (num, den * tenTo unit)

/-- The power of ten of the leading digit of a positive number. -/
def leadingPower (m : Nat) (e : Int) : Int :=
  let (num, den) := asQuotient m e 0
  if den ≤ num then ((Decimal.ofNat (num / den)).length : Int) - 1
  else
    -- the leading digit of `den / num` is at most one place away
    let guess : Int := -((Decimal.ofNat (den / num)).length : Int)
    let (a, b) := asQuotient m e (guess + 1)
    if b ≤ a then guess + 1 else guess

/-- The digits of the grid `10 ^ unit` next to a number that read back as the number, the nearer
first choice. -/
def gridDigits? (m : Nat) (e unit : Int) : Option Nat :=
  let (num, den) := asQuotient m e unit
  let below := num / den
  let fits (d : Nat) : Bool := ofDecimal false d unit == .finite false m e
  let nearer := if 2 * (num % den) ≤ den then below else below + 1
  let other := if nearer = below then below + 1 else below
  if fits nearer then some nearer else if fits other then some other else none

/-- Search the grids from `count` digits on for the first that holds a number reading back. -/
def shortestFrom (m : Nat) (e : Int) (power : Int) : Nat → Nat → Nat × Int
  | 0, count => ((asQuotient m e (power + 1 - count)).1, power + 1 - count)
  | tries + 1, count =>
    let unit := power + 1 - (count : Int)
    match gridDigits? m e unit with
    | some digits => (digits, unit)
    | none => shortestFrom m e power tries (count + 1)

/-- The fewest digits that read back as a positive number, and the power of ten they count. -/
def shortest (m : Nat) (e : Int) : Nat × Int := shortestFrom m e (leadingPower m e) 17 1

/-- The digits of a number without trailing zeros. -/
def trimZeros (digits : Text) : Text := (digits.reverse.dropWhile (· = '0')).reverse

/-- The layout of digits `d₁d₂…` standing for `0.d₁d₂… · 10 ^ point`: positional from `10⁻⁴` up to
below `10¹⁶`, with an exponent of at least two digits otherwise. -/
def layout (digits : Text) (point : Int) : Text :=
  if -3 ≤ point ∧ point ≤ 0 then
    "0." ++ List.replicate (-point).toNat '0' ++ digits
  else if 0 < point ∧ point ≤ 16 then
    let whole := point.toNat
    if digits.length ≤ whole then
      digits ++ List.replicate (whole - digits.length) '0' ++ ".0"
    else digits.take whole ++ "." ++ digits.drop whole
  else
    let exponent := point - 1
    let size := Decimal.ofNat exponent.natAbs
    let mantissa : Text := match digits with
      | [] => ['0']
      | [d] => [d]
      | d :: rest => d :: '.' :: rest
    mantissa ++ (if exponent < 0 then "e-" else "e+") ++
      (if size.length < 2 then '0' :: size else size)

/-- The text of a number. -/
def toText : Binary64 → Text
  | .nan => "nan"
  | .infinite negative => if negative then "-inf" else "inf"
  | .finite negative m e =>
    let sign : Text := if negative then "-" else ""
    if m = 0 then sign ++ "0.0"
    else
      let (digits, unit) := shortest m e
      let shown := Decimal.ofNat digits
      sign ++ layout (trimZeros shown) (unit + shown.length)

end Binary64

end MessageCatalog
