import MessageCatalog.Proofs.Reference.Line
import MessageCatalog.Proofs.SortOrder

/-!
# The order of references

The number of a line is read back from a reference, unless it has too many digits to be read as a
number at all. So references to different places are never equal in the order, and as long as line
numbers can be read, they are ordered by file and then by line.
-/

namespace MessageCatalog

open Std (TransCmp)

namespace Decimal

/-! ### Reading digits -/

lemma digitValue?_eq {c : Char} (h : c.isDigit = true) :
    Text.digitValue? c = some (c.toNat - '0'.toNat) := by
  have hrange := Decimal.bounds_of_isDigit h
  rw [Text.digitValue?, if_pos (by omega), if_pos (by simpa using hrange)]
  rfl

lemma digits?_eq {t : Text} (hne : t ≠ []) (h : ∀ c ∈ t, c.isDigit = true) :
    digits? t = some (t.map fun c => c.toNat - '0'.toNat) := by
  induction t with
  | nil => exact absurd rfl hne
  | cons c rest ih =>
    have hc := digitValue?_eq (h c List.mem_cons_self)
    have hrest := fun d hd => h d (List.mem_cons_of_mem c hd)
    cases rest with
    | nil => simp [digits?, hc]
    | cons d more =>
      have hd : d ≠ '_' := by
        rintro rfl
        exact absurd (hrest '_' List.mem_cons_self) (by decide)
      rw [digits?, hc]
      simp [ih (List.cons_ne_nil d more) hrest]

lemma length_ofNat_le_iff {n : Nat} : (ofNat n).length ≤ maxDigits ↔ n < 10 ^ maxDigits := by
  rw [ofNat_eq_toDigits]
  exact Nat.length_toDigits_le_iff (by decide) (by decide)

lemma natOf?_ofNat (n : Nat) :
    natOf? (ofNat n) = if n < 10 ^ maxDigits then some n else none := by
  have hne : ofNat n ≠ [] := by
    rw [ofNat_eq_toDigits]
    exact Nat.toDigits_ne_nil
  have hvalue : value ((ofNat n).map fun c => c.toNat - '0'.toNat) = n := by
    rw [value, List.foldl_map, ofNat_eq_toDigits]
    exact Nat.ofDigitChars_toDigits (by decide) (by decide)
  rw [natOf?, digits?_eq hne fun c hc => isDigit_of_mem_ofNat hc]
  simp only [Option.bind_eq_bind, Option.bind_some, List.length_map, hvalue,
    length_ofNat_le_iff]

lemma dropWhile_isPadding {t : Text} (h : ∀ c ∈ t, c.isDigit = true) :
    t.dropWhile isPadding = t := by
  have hfirst : ∀ c ∈ t, isPadding c = false := by
    intro c hc
    have hrange : 0x30 ≤ c.toNat ∧ c.toNat ≤ 0x39 := by
      simpa [Char.isDigit, UInt32.le_iff_toNat_le] using h c hc
    rw [isPadding, if_pos (by omega)]
    simp only [Bool.or_eq_false_iff, beq_eq_false_iff_ne, Bool.and_eq_false_iff,
      decide_eq_false_iff_not]
    omega
  cases t with
  | nil => rfl
  | cons c t => rw [List.dropWhile_cons_of_neg (by simp [hfirst c List.mem_cons_self])]

/-- A number is read from its digits, unless there are too many. -/
lemma int?_ofNat (n : Nat) :
    int? (ofNat n) = if n < 10 ^ maxDigits then some (n : Int) else none := by
  have hdigits : ∀ c ∈ ofNat n, c.isDigit = true := fun c hc => isDigit_of_mem_ofNat hc
  have hcore : (((ofNat n).dropWhile isPadding).reverse.dropWhile isPadding).reverse =
      ofNat n := by
    rw [dropWhile_isPadding hdigits, dropWhile_isPadding (by simpa using hdigits),
      List.reverse_reverse]
  rw [int?, hcore]
  split
  · next rest h => exact absurd (hdigits '-' (h ▸ List.mem_cons_self)) (by decide)
  · next rest h => exact absurd (hdigits '+' (h ▸ List.mem_cons_self)) (by decide)
  · rw [natOf?_ofNat]
    split <;> rfl

end Decimal

namespace Reference

variable {file file' : Text} {line line' : Nat}

/-! ### References to lines -/

lemma split_ofLine (file : Text) (line : Nat) :
    split (ofLine file line) =
      if line < 10 ^ Decimal.maxDigits then (file, (line : Int)) else (ofLine file line, -1) := by
  rw [split, cutLast_ofLine]
  dsimp only
  rw [Decimal.int?_ofNat]
  split <;> simp_all

lemma compareLines_eq (a b : Int) : compareLines a b = Ord.compare a b :=
  (Int.compare_eq_ite_lt a b).symm

/-- References to different places are not equal in the order. -/
lemma ofLine_eq_of_compare (h : compare (ofLine file line) (ofLine file' line') = .eq) :
    ofLine file line = ofLine file' line' := by
  obtain ⟨hpath, hline⟩ := Ordering.then_eq_eq.mp h
  have hpath := Text.eq_of_compare hpath
  rw [compareLines_eq] at hline
  have hline := Int.compare_eq_eq.mp hline
  rw [split_ofLine, split_ofLine] at hpath hline
  split at hpath <;> split at hpath <;> simp_all

/-- One place stands before another: in an earlier file, or on an earlier line of the same file. -/
def Precedes (p q : Text × Nat) : Prop :=
  Text.compare p.1 q.1 = .lt ∨ p.1 = q.1 ∧ p.2 < q.2

/-- References to lines whose numbers can be read are ordered by file and line. -/
lemma compare_ofLine_eq_lt_iff {p q : Text × Nat} (hp : p.2 < 10 ^ Decimal.maxDigits)
    (hq : q.2 < 10 ^ Decimal.maxDigits) :
    compare (ofLine p.1 p.2) (ofLine q.1 q.2) = .lt ↔ Precedes p q := by
  rw [compare, split_ofLine, split_ofLine, if_pos hp, if_pos hq, compareParts, compareLines_eq,
    Ordering.then_eq_lt, Int.compare_eq_lt, Int.ofNat_lt, Text.compare_eq_eq_iff, Precedes]

/-! ### Sorted references -/

lemma sort_eq (refs : List Text) : sort refs = refs.mergeSort fun a b => (compare a b).isLE := by
  rw [sort]
  congr 1
  funext a b
  cases compare a b <;> rfl

lemma mem_sort {refs : List Text} {ref : Text} : ref ∈ sort refs ↔ ref ∈ refs := List.mem_mergeSort

/-- Different references to lines are in strictly rising order when they are sorted. -/
lemma pairwise_sort {refs : List Text} (hnodup : refs.Nodup)
    (hrefs : ∀ ref ∈ refs, ∃ file line, ref = ofLine file line) :
    (sort refs).Pairwise fun a b => compare a b = .lt := by
  have hle : (sort refs).Pairwise fun a b => (compare a b).isLE = true := by
    rw [sort_eq]
    exact pairwise_mergeSort_isLE refs
  have hdistinct : (sort refs).Nodup := (List.mergeSort_perm refs _).nodup_iff.mpr hnodup
  refine (hle.and hdistinct).imp_of_mem fun {a b} ha hb h => ?_
  obtain ⟨file, line, rfl⟩ := hrefs a (mem_sort.mp ha)
  obtain ⟨file', line', rfl⟩ := hrefs b (mem_sort.mp hb)
  cases hcompare : compare (ofLine file line) (ofLine file' line') with
  | lt => rfl
  | eq => exact absurd (ofLine_eq_of_compare hcompare) h.2
  | gt => rw [hcompare] at h; exact absurd h.1 Bool.false_ne_true

/-- What a list in strictly rising order has in it decides what it is. -/
lemma eq_of_pairwise_compare {as bs : List Text}
    (has : as.Pairwise fun a b => compare a b = .lt)
    (hbs : bs.Pairwise fun a b => compare a b = .lt) (h : ∀ ref, ref ∈ as ↔ ref ∈ bs) :
    as = bs := by
  have hne {a b : Text} (hab : compare a b = .lt) : a ≠ b := by
    rintro rfl
    have hself : compare a a = .eq := Std.ReflCmp.compare_self
    rw [hself] at hab
    cases hab
  refine List.Perm.eq_of_pairwise (fun a b _ _ hab hba => ?_) has hbs
    ((List.perm_ext_iff_of_nodup (has.imp hne) (hbs.imp hne)).mpr h)
  rw [Std.OrientedCmp.gt_of_lt hab] at hba
  cases hba

end Reference

end MessageCatalog
