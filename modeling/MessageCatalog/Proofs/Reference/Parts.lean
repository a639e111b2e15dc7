import MessageCatalog.Proofs.Reference.Order

/-!
# References and their parts

A reference to a line is read back as the file and the line it was made of, as long as the number
of the line can be read. So references are ordered as these pairs are, by file and then by line.
What names a file and no line stands before all references to lines of the file.
-/

namespace MessageCatalog

open Std (OrientedCmp)

namespace Text

/-- The order of texts is that of lists of characters. -/
lemma compare_eq_lt_iff {s t : Text} : compare s t = .lt ↔ s < t := by
  induction s generalizing t with
  | nil => cases t <;> simp [compare]
  | cons c s ih =>
    cases t with
    | nil => simp [compare]
    | cons d t =>
      have hchar : c < d ↔ c.toNat < d.toNat := UInt32.lt_iff_toNat_lt
      rw [compare, List.cons_lt_cons_iff, ← ih, hchar]
      split_ifs with hlt hgt
      · simp [hlt]
      · have hne : c ≠ d := by
          rintro rfl
          exact hlt hgt
        simp [hlt, hne]
      · have heq : c = d := Char.toNat_inj.mp (by omega)
        simp [heq]

/-- A text stands before those that go on after it. -/
lemma compare_append_cons (s : Text) (c : Char) (t : Text) : compare s (s ++ c :: t) = .lt := by
  induction s with
  | nil => rfl
  | cons d s ih => simpa [compare] using ih

end Text

namespace Reference

variable {file : Text} {line : Nat} {p q : Text × Nat}

/-- The number of a line has no more digits than a number can be read from. -/
def IsReadable (line : Nat) : Prop := (Decimal.ofNat line).length ≤ Decimal.maxDigits

instance (line : Nat) : Decidable (IsReadable line) := inferInstanceAs (Decidable (_ ≤ _))

lemma split_of_isReadable (h : IsReadable line) (file : Text) :
    split (ofLine file line) = (file, (line : Int)) := by
  rw [split_ofLine, if_pos (Decimal.length_ofNat_le_iff.mp h)]

lemma precedes_iff : Precedes p q ↔ toLex p < toLex q := by
  rw [Precedes, Text.compare_eq_lt_iff, Prod.Lex.toLex_lt_toLex]

/-- References to lines are ordered as the pairs of file and line are. -/
lemma compare_ofLine_eq_cmp (hp : IsReadable p.2) (hq : IsReadable q.2) :
    compare (ofLine p.1 p.2) (ofLine q.1 q.2) = cmp (toLex p) (toLex q) := by
  have hlt {p q : Text × Nat} (hp : IsReadable p.2) (hq : IsReadable q.2) :
      compare (ofLine p.1 p.2) (ofLine q.1 q.2) = .lt ↔ toLex p < toLex q := by
    rw [← precedes_iff]
    exact compare_ofLine_eq_lt_iff (Decimal.length_ofNat_le_iff.mp hp)
      (Decimal.length_ofNat_le_iff.mp hq)
  rcases lt_trichotomy (toLex p) (toLex q) with h | h | h
  · rw [(hlt hp hq).mpr h, (cmp_eq_lt_iff _ _).mpr h]
  · obtain rfl : p = q := toLex.injective h
    rw [(cmp_eq_eq_iff _ _).mpr rfl]
    exact Std.ReflCmp.compare_self
  · rw [(cmp_eq_gt_iff _ _).mpr h]
    exact OrientedCmp.gt_of_lt ((hlt hq hp).mpr h)

/-- The name of a file stands before all lines of the file: those whose numbers can be read come
after no number, and the other references go on after the name. -/
lemma compare_ofLine_of_split (h : split file = (file, -1)) (line : Nat) :
    compare file (ofLine file line) = .lt := by
  rw [compare, h, split_ofLine, compareParts, compareLines_eq, Ordering.then_eq_lt]
  split
  · refine Or.inr ⟨Text.compare_eq_eq_iff.mpr rfl, Int.compare_eq_lt.mpr ?_⟩
    dsimp only
    omega
  · exact Or.inl (Text.compare_append_cons file ':' (Decimal.ofNat line))

/-- A reference to a line whose number can be read is split into the file and the line, whatever
colons the name of the file has in it. Such references are ordered like the pairs of file and line,
and only equal ones are equal in the order. A text that names no line stands before all references
to lines of the file of this name. -/
theorem split_ofLine_and_compare :
    (∀ file line, IsReadable line → split (ofLine file line) = (file, (line : Int))) ∧
      (∀ p q : Text × Nat, IsReadable p.2 → IsReadable q.2 →
        compare (ofLine p.1 p.2) (ofLine q.1 q.2) = cmp (toLex p) (toLex q) ∧
          (compare (ofLine p.1 p.2) (ofLine q.1 q.2) = .eq ↔
            ofLine p.1 p.2 = ofLine q.1 q.2)) ∧
      ∀ file, split file = (file, -1) → ∀ line, compare file (ofLine file line) = .lt := by
  refine ⟨fun file line h => split_of_isReadable h file, fun p q hp hq => ?_,
    fun file h line => compare_ofLine_of_split h line⟩
  refine ⟨compare_ofLine_eq_cmp hp hq, ofLine_eq_of_compare, fun h => ?_⟩
  rw [h]
  exact Std.ReflCmp.compare_self

/-- The name of a file with a colon in it, behind which no number stands. -/
def driveFile : Text := "c:/dir/file.py"

theorem split_ofLine_and_compare_driveFile :
    (IsReadable 9 ∧ IsReadable 10 ∧ ¬IsReadable (10 ^ Decimal.maxDigits) ∧
      split driveFile = (driveFile, -1) ∧ ofLine driveFile 9 = ("c:/dir/file.py:9" : Text)) ∧
      split (ofLine driveFile 9) = (driveFile, 9) ∧
      compare (ofLine driveFile 9) (ofLine driveFile 10) = .lt ∧
      compare driveFile (ofLine driveFile 9) = .lt ∧
      compare driveFile (ofLine driveFile (10 ^ Decimal.maxDigits)) = .lt := by
  obtain ⟨hsplit, hcompare, hfile⟩ := split_ofLine_and_compare
  have h9 : IsReadable 9 := by decide +kernel
  have h10 : IsReadable 10 := by decide +kernel
  have hlong : ¬IsReadable (10 ^ Decimal.maxDigits) :=
    fun h => lt_irrefl _ (Decimal.length_ofNat_le_iff.mp h)
  have hdrive : split driveFile = (driveFile, -1) := by decide +kernel
  refine ⟨⟨h9, h10, hlong, hdrive, by decide +kernel⟩, hsplit driveFile 9 h9, ?_,
    hfile driveFile hdrive 9, hfile driveFile hdrive _⟩
  rw [(hcompare (driveFile, 9) (driveFile, 10) h9 h10).1, cmp_eq_lt_iff, Prod.Lex.toLex_lt_toLex]
  exact Or.inr ⟨rfl, by decide⟩

end Reference

end MessageCatalog
