import MessageCatalog.Number.Limit
import MessageCatalog.Proofs.Failure

/-!
# What limits mean

A finite number of double precision is a rational number, and numbers are compared as such. So a
limit on a count is the whole part of a number that is not negative, and there is none otherwise.
Only whole numbers beyond the range of double precision are refused.
-/

namespace MessageCatalog

namespace Binary64

variable {x y : Binary64} {p q : ℚ}

/-- The rational number that a finite number is. -/
def toRat? : Binary64 → Option ℚ
  | .finite negative m e => some ((if negative then -1 else 1) * m * 2 ^ e)
  | _ => none

lemma toRat?_ofInt (n : ℤ) : (ofInt n).toRat? = some (n : ℚ) := by
  rw [ofInt, toRat?, zpow_zero, mul_one]
  congr 1
  by_cases h : n < 0
  · rw [if_pos (by simpa using h), Nat.cast_natAbs, abs_of_neg h]
    push_cast
    ring
  · rw [if_neg (by simpa using h), Nat.cast_natAbs, abs_of_nonneg (not_lt.mp h), one_mul]

lemma scaled_mul_zpow (negative : Bool) (m : ℕ) {e least : ℤ} (h : least ≤ e) :
    (scaled negative m e least : ℚ) * 2 ^ least =
      (if negative then -1 else 1) * m * 2 ^ e := by
  have hpow : ((twoTo (e - least) : ℕ) : ℚ) * 2 ^ least = 2 ^ e := by
    rw [twoTo, show Nat.pow 2 (e - least).toNat = 2 ^ (e - least).toNat from rfl, Nat.cast_pow,
      Nat.cast_ofNat, ← zpow_natCast, Int.toNat_of_nonneg (by omega), ← zpow_add₀ two_ne_zero,
      sub_add_cancel]
  have hscaled : (scaled negative m e least : ℚ) =
      (if negative then -1 else 1) * m * (twoTo (e - least) : ℕ) := by
    cases negative <;> simp [scaled]
  rw [hscaled, mul_assoc, hpow]

/-- Finite numbers are compared as rational numbers. -/
lemma greater_iff (hx : x.toRat? = some p) (hy : y.toRat? = some q) :
    x.greater y = true ↔ q < p := by
  cases x with
  | finite a m e => cases y with
    | finite b n f =>
      obtain rfl := Option.some.inj hx
      obtain rfl := Option.some.inj hy
      rw [greater, decide_eq_true_iff, ← scaled_mul_zpow a m (min_le_left e f),
        ← scaled_mul_zpow b n (min_le_right e f), mul_lt_mul_iff_left₀ (by positivity),
        Int.cast_lt]
    | _ => cases hy
  | _ => cases hx

end Binary64

/-- The number that a value is. Truth values are no numbers, and neither is what is not finite. -/
def Value.amount? : Value → Option ℚ
  | .int n => some n
  | .float x => x.toRat?
  | _ => none

namespace Limit

variable {v : Value} {n : ℕ} {e : Failure}

/-- The value is no whole number beyond the range of double precision. -/
def IsReadable (v : Value) : Prop := ∀ n, v = .int n → n.natAbs < Binary64.overflowBound

/-- How large a count can be: up to the whole part of a number that is not negative. -/
def cap (v : Value) : ℕ∞ :=
  match v.amount? with
  | some q => if 0 ≤ q then (⌊q⌋₊ : ℕ∞) else ⊤
  | none => ⊤

lemma cap_of_amount? {q : ℚ} (h : v.amount? = some q) (hq : 0 ≤ q) : cap v = (⌊q⌋₊ : ℕ∞) := by
  simp [cap, h, hq]

@[simp] lemma cap_int (n : ℕ) : cap (.int n) = n := by
  rw [cap_of_amount? (q := n) (by simp [Value.amount?]) n.cast_nonneg, Nat.floor_natCast]

lemma cap_lt_iff : cap v < n ↔ ∃ q, v.amount? = some q ∧ 0 ≤ q ∧ q < n := by
  unfold cap
  cases v.amount? with
  | none => simp
  | some q =>
    by_cases hq : 0 ≤ q
    · simp [hq, Nat.floor_lt hq]
    · simp [hq]

lemma isExceededBy_ofNumber {x : Binary64} {q : ℚ} (hx : x.toRat? = some q) :
    (ofNumber x).isExceededBy (.ofInt n) = decide (0 ≤ q ∧ q < n) := by
  cases x with
  | finite a m e =>
    have hnegative := Binary64.greater_iff (Binary64.toRat?_ofInt 0) hx
    have hexceeds := Binary64.greater_iff (Binary64.toRat?_ofInt n) hx
    rw [ofNumber]
    by_cases hq : 0 ≤ q
    · rw [if_neg (by rw [hnegative]; simpa using hq), isExceededBy, Bool.eq_iff_iff, hexceeds]
      simp [hq]
    · rw [if_pos (hnegative.mpr (by simpa using hq)), isExceededBy]
      simp [hq]
  | _ => cases hx

lemma ofNumber_of_toRat?_eq_none {x : Binary64} (hx : x.toRat? = none) :
    ofNumber x = .unlimited := by
  cases x with
  | finite a m e => cases hx
  | _ => rfl

lemma isExceededBy_ofNumber_eq_cap {x : Binary64} (hx : v.amount? = x.toRat?) :
    (ofNumber x).isExceededBy (.ofInt n) = decide (cap v < n) := by
  rw [Bool.eq_iff_iff, decide_eq_true_iff, cap_lt_iff, hx]
  cases hrat : x.toRat? with
  | none => simp [ofNumber_of_toRat?_eq_none hrat, isExceededBy]
  | some q => simp [isExceededBy_ofNumber hrat]

/-- A count is checked against the limit if that can be read. -/
lemma countExceeds_of_isReadable (h : IsReadable v) (n : ℕ) :
    countExceeds n v = .ok (decide (cap v < n)) := by
  cases v with
  | int k =>
    have hsmall : ¬Binary64.overflowBound ≤ k.natAbs := not_le.mpr (h k rfl)
    rw [countExceeds, ofValue, if_neg hsmall]
    exact congrArg Except.ok (isExceededBy_ofNumber_eq_cap (Binary64.toRat?_ofInt k).symm)
  | float x => exact congrArg Except.ok (isExceededBy_ofNumber_eq_cap rfl)
  | _ =>
    rw [decide_eq_false (by simp [cap, Value.amount?])]
    rfl

/-- A limit that cannot be read is too large a number. -/
lemma countExceeds_of_not_isReadable (h : ¬IsReadable v) (n : ℕ) :
    countExceeds n v = .error .numberTooLarge := by
  obtain ⟨k, rfl, hk⟩ : ∃ k, v = .int k ∧ ¬k.natAbs < Binary64.overflowBound := by
    simpa [IsReadable] using h
  rw [countExceeds, ofValue, if_pos (not_lt.mp hk)]
  rfl

lemma countExceeds_eq_ok_iff {b : Bool} :
    countExceeds n v = .ok b ↔ IsReadable v ∧ decide (cap v < n) = b := by
  by_cases h : IsReadable v
  · simp [countExceeds_of_isReadable h, h]
  · simp [countExceeds_of_not_isReadable h, h]

lemma countExceeds_eq_error (h : countExceeds n v = .error e) : e = .numberTooLarge := by
  by_cases hv : IsReadable v
  · cases (countExceeds_of_isReadable hv n).symm.trans h
  · cases (countExceeds_of_not_isReadable hv n).symm.trans h
    rfl

end Limit

end MessageCatalog
