import Mathlib
import MessageCatalog.Text.Basic

/-!
# Searching a text

A search finds the parts of a text, and a search in small letters finds them whatever their case.
The small form of a letter does not depend on the letters around it, unless it is a capital sigma.
-/

namespace MessageCatalog.Text

/-! ### Searching -/

lemma contains_iff_isInfix {part t : Text} : contains part t = true ↔ part <:+: t := by
  induction t with
  | nil => simp [contains, List.isEmpty_iff]
  | cons c rest ih =>
    rw [contains, Bool.or_eq_true, ih, List.isPrefixOf_iff_prefix, List.infix_cons_iff]

/-! ### Small letters -/

/-- What precedes a text does not matter for its small letters, except for a capital sigma. -/
lemma lowerFrom_append_of_not_mem {t : Text} (h : Char.ofNat 0x3a3 ∉ t)
    (before before' rest : Text) :
    lowerFrom before (t ++ rest) = lowerFrom before' t ++ lowerFrom (t.reverse ++ before) rest := by
  induction t generalizing before before' with
  | nil => rfl
  | cons c t ih =>
    have hc : c.toNat ≠ 0x3a3 := fun hc => h (by
      rw [← hc, Char.ofNat_toNat]
      exact List.mem_cons_self)
    have ht : Char.ofNat 0x3a3 ∉ t := fun hmem => h (List.mem_cons_of_mem c hmem)
    simp [lowerFrom, hc, ih ht (c :: before) (c :: before'), List.append_assoc]

lemma exists_lowerFrom_append (before t rest : Text) :
    ∃ front, lowerFrom before (t ++ rest) = front ++ lowerFrom (t.reverse ++ before) rest := by
  induction t generalizing before with
  | nil => exact ⟨[], rfl⟩
  | cons c t ih =>
    obtain ⟨front, hfront⟩ := ih (c :: before)
    obtain ⟨small, hsmall⟩ : ∃ small, lowerFrom before (c :: t ++ rest) =
        small ++ lowerFrom (c :: before) (t ++ rest) := ⟨_, rfl⟩
    refine ⟨small ++ front, ?_⟩
    rw [hsmall, hfront, List.append_assoc, List.reverse_cons, List.append_assoc]
    rfl

/-- A part without a capital sigma is found whatever the case of its letters. -/
lemma lower_isInfix {part t : Text} (h : Char.ofNat 0x3a3 ∉ part) (hpart : part <:+: t) :
    lower part <:+: lower t := by
  obtain ⟨before, after, rfl⟩ := hpart
  obtain ⟨front, hfront⟩ := exists_lowerFrom_append [] before (part ++ after)
  refine ⟨front, lowerFrom (part.reverse ++ (before.reverse ++ [])) after, ?_⟩
  rw [lower, lower, List.append_assoc before, hfront, lowerFrom_append_of_not_mem h _ [],
    List.append_assoc]

lemma toNat_lowerChar_lt {c : Char} (h : c.toNat < 0x80) : (lowerChar c).toNat < 0x80 := by
  unfold lowerChar
  split
  · next r hr =>
    obtain ⟨⟨hge, hle⟩, -⟩ := by
      simpa only [Bool.and_eq_true, decide_eq_true_eq, beq_iff_eq] using List.find?_some hr
    rcases List.mem_cons.mp (List.mem_of_find?_eq_some hr) with rfl | htail
    · have hshift : ((c.toNat : Int) + 32).toNat = c.toNat + 32 := by omega
      have hvalid : (c.toNat + 32).isValidChar := Or.inl (by omega)
      have hlast : c.toNat ≤ 0x5a := hle
      rw [hshift, Char.toNat_ofNat, if_pos hvalid]
      omega
    · -- All other runs begin after ASCII.
      have hfirst : ClassTable.lowerRuns.tail.all (fun r => 0x80 ≤ r.first) = true := by decide
      exact absurd (h.trans_le (of_decide_eq_true (List.all_eq_true.mp hfirst r htail)))
        (Nat.not_lt_of_le hge)
  · exact h

/-- The small letters of ASCII are ASCII. -/
lemma toNat_lt_of_mem_lower {t : Text} (h : ∀ c ∈ t, c.toNat < 0x80) :
    ∀ c ∈ lower t, c.toNat < 0x80 := by
  have hfrom (before : Text) : ∀ c ∈ lowerFrom before t, c.toNat < 0x80 := by
    induction t generalizing before with
    | nil => simp [lowerFrom]
    | cons d t ih =>
      have hd : d.toNat < 0x80 := h d List.mem_cons_self
      have hdot : d.toNat ≠ 0x130 := by omega
      have hsigma : d.toNat ≠ 0x3a3 := by omega
      intro c hc
      simp only [lowerFrom, if_neg hdot, if_neg hsigma, List.cons_append, List.nil_append,
        List.mem_cons] at hc
      rcases hc with rfl | hc
      · exact toNat_lowerChar_lt hd
      · exact ih (fun c hc => h c (List.mem_cons_of_mem d hc)) (d :: before) c hc
  exact hfrom []

end MessageCatalog.Text
