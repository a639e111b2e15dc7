import Mathlib
import MessageCatalog.Reference.Basic
import MessageCatalog.Proofs.Text.Lines

/-!
# References to lines

The number of a line is written in digits, so the last colon of a reference parts the file from the
line, and a reference tells them both.
-/

namespace MessageCatalog

namespace Decimal

lemma ofNat_eq_toDigits (n : Nat) : ofNat n = Nat.toDigits 10 n := by
  induction n using Nat.strongRecOn with
  | ind n ih =>
    rw [ofNat, Nat.toDigits_eq_if (by decide)]
    split
    · rfl
    · rw [ih (n / 10) (by omega)]

lemma isDigit_of_mem_ofNat {n : Nat} {c : Char} (h : c ∈ ofNat n) : c.isDigit = true :=
  Nat.isDigit_of_mem_toDigits (by decide) (by decide) (ofNat_eq_toDigits n ▸ h)

lemma bounds_of_isDigit {c : Char} (h : c.isDigit = true) : 0x30 ≤ c.toNat ∧ c.toNat ≤ 0x39 := by
  simpa [Char.isDigit, UInt32.le_iff_toNat_le] using h

/-- Different numbers are written differently. -/
lemma ofNat_injective : Function.Injective ofNat := by
  intro m n h
  rw [ofNat_eq_toDigits, ofNat_eq_toDigits] at h
  rw [← Nat.ofDigitChars_toDigits (b := 10) (n := m) (by decide) (by decide), h,
    Nat.ofDigitChars_toDigits (by decide) (by decide)]

end Decimal

namespace Text

variable {sep : Char} {b : Text}

lemma cutLast_eq_none (h : sep ∉ b) : cutLast sep b = none := by
  induction b with
  | nil => rfl
  | cons c b ih =>
    rw [List.mem_cons, not_or] at h
    rw [cutLast, ih h.2]
    exact if_neg (Ne.symm h.1)

/-- A text is cut at the last separator in it. -/
lemma cutLast_append (a : Text) (h : sep ∉ b) : cutLast sep (a ++ sep :: b) = some (a, b) := by
  induction a with
  | nil => simp [cutLast, cutLast_eq_none h]
  | cons c a ih => rw [List.cons_append, cutLast, ih]

end Text

namespace Reference

variable {file file' : Text} {line line' : Nat}

lemma cutLast_ofLine (file : Text) (line : Nat) :
    Text.cutLast ':' (ofLine file line) = some (file, Decimal.ofNat line) :=
  Text.cutLast_append file fun h => absurd (Decimal.isDigit_of_mem_ofNat h) (by decide)

/-- A reference holds no line boundary if the name of the file holds none. -/
lemma oneLine_ofLine (h : Text.OneLine file) (line : Nat) : Text.OneLine (ofLine file line) := by
  have hnumber : Text.OneLine (':' :: Decimal.ofNat line) := by
    intro c hc
    rcases List.mem_cons.mp hc with rfl | hc
    · decide
    · obtain ⟨hlow, hhigh⟩ := Decimal.bounds_of_isDigit (Decimal.isDigit_of_mem_ofNat hc)
      simp only [Text.endsLine, Bool.or_eq_false_iff, Bool.and_eq_false_iff,
        decide_eq_false_iff_not, beq_eq_false_iff_ne]
      omega
  exact h.append hnumber

/-- A reference tells the file and the line. -/
theorem ofLine_inj : ofLine file line = ofLine file' line' ↔ file = file' ∧ line = line' := by
  constructor
  · intro h
    have hcut := cutLast_ofLine file line
    rw [h, cutLast_ofLine file' line', Option.some.injEq, Prod.mk.injEq] at hcut
    exact ⟨hcut.1.symm, Decimal.ofNat_injective hcut.2.symm⟩
  · rintro ⟨rfl, rfl⟩
    rfl

end Reference

end MessageCatalog
