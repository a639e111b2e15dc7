import MessageCatalog.Value.Basic
import MessageCatalog.Failure

/-!
# Limits

An upper limit is given as a value of no fixed type. A number that is finite and not negative is a
limit; every other value means that there is none.
-/

namespace MessageCatalog

/-- An upper limit, or none. -/
inductive Limit where
  | unlimited
  | upTo (bound : Binary64)
  deriving DecidableEq

namespace Limit

def ofNumber (x : Binary64) : Limit :=
  match x with
  | .finite .. => if Binary64.greater (.ofInt 0) x then .unlimited else .upTo x
  | _ => .unlimited

/-- The limit that a value means. Truth values are no numbers here. A whole number too large for
double precision cannot be tested for being finite. -/
def ofValue : Value → Except Failure Limit
  | .int n =>
    if Binary64.overflowBound ≤ n.natAbs then .error .numberTooLarge else .ok (ofNumber (.ofInt n))
  | .float x => .ok (ofNumber x)
  | _ => .ok .unlimited

/-- Whether a number lies above a limit. -/
def isExceededBy : Limit → Binary64 → Bool
  | .unlimited, _ => false
  | .upTo bound, x => x.greater bound

/-- Whether a value lies above what another value means as a limit. -/
def exceeds (value maximum : Value) : Except Failure Bool := do
  match ← ofValue maximum with
  | .unlimited => return false
  | limit => match value.number? with
    | some x => return limit.isExceededBy x
    | none => .error .wrongType

/-- Whether a count lies above what a value means as a limit. -/
def countExceeds (n : Nat) (maximum : Value) : Except Failure Bool := do
  return (← ofValue maximum).isExceededBy (.ofInt n)

end Limit

end MessageCatalog
