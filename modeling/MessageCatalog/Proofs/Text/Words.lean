import Mathlib
import MessageCatalog.Text.Basic

/-!
# Words and trimming

How trimming and cutting into words act on a text that is put together from parts: white space
separates words wherever it stands, and trimming takes nothing from a text whose ends are no white
space.
-/

namespace MessageCatalog.Text

/-- A text that does not end in white space. -/
def NoTrailingBlank (t : Text) : Prop := ∀ c ∈ t.getLast?, isBlank c = false

instance (t : Text) : Decidable (NoTrailingBlank t) :=
  decidable_of_iff (t.getLast?.all fun c => !isBlank c) (by
    cases h : t.getLast? <;> simp [NoTrailingBlank, h])

/-! ### Trimming -/

lemma trimLeft_cons_of_blank {c : Char} (h : isBlank c = true) (t : Text) :
    trimLeft (c :: t) = trimLeft t := by
  simp [trimLeft, h]

lemma trimLeft_cons_of_not_blank {c : Char} (h : isBlank c = false) (t : Text) :
    trimLeft (c :: t) = c :: t := by
  simp [trimLeft, h]

lemma trimRight_eq_self {t : Text} (h : NoTrailingBlank t) : trimRight t = t := by
  apply List.rdropWhile_eq_self_iff.mpr
  intro hne
  rw [h _ (List.getLast_mem_getLast? hne)]
  exact Bool.false_ne_true

lemma noTrailingBlank_trimRight (t : Text) : NoTrailingBlank (trimRight t) := by
  intro c hc
  have hne : trimRight t ≠ [] := by
    rintro h
    simp [h] at hc
  have hlast := List.rdropWhile_last_not isBlank t hne
  rw [← List.getLast_of_getLast?_eq_some hc]
  exact (Bool.not_eq_true _).mp hlast

lemma trim_eq_self {c : Char} {t : Text} (hc : isBlank c = false) (h : NoTrailingBlank (c :: t)) :
    trim (c :: t) = c :: t := by
  rw [trim, trimLeft_cons_of_not_blank hc, trimRight_eq_self h]

lemma NoTrailingBlank.append {b : Text} (h : NoTrailingBlank b) (hb : b ≠ []) (a : Text) :
    NoTrailingBlank (a ++ b) := by
  intro c hc
  rw [List.getLast?_append_of_ne_nil a hb] at hc
  exact h c hc

lemma NoTrailingBlank.suffix {a b : Text} (h : NoTrailingBlank b) (hs : a <:+ b) :
    NoTrailingBlank a := by
  obtain ⟨u, rfl⟩ := hs
  intro c hc
  have hne : a ≠ [] := by
    rintro rfl
    simp at hc
  exact h c (by rwa [List.getLast?_append_of_ne_nil u hne])

/-- The end of a text is trimmed alone, if it holds more than white space. -/
lemma trimRight_append {b : Text} (h : trimRight b ≠ []) (a : Text) :
    trimRight (a ++ b) = a ++ trimRight b := by
  have hb : b.reverse.dropWhile isBlank ≠ [] := by
    intro h'
    exact h (by rw [trimRight, h', List.reverse_nil])
  simp only [trimRight, List.reverse_append, List.dropWhile_append]
  rw [if_neg (by simpa using hb), List.reverse_append, List.reverse_reverse]

/-- White space at the end of a text is dropped whole. -/
lemma trimRight_append_of_blank {b : Text} (h : trimRight b = []) (a : Text) :
    trimRight (a ++ b) = trimRight a := by
  have hb : b.reverse.dropWhile isBlank = [] := List.reverse_eq_nil_iff.mp h
  simp only [trimRight, List.reverse_append, List.dropWhile_append]
  rw [if_pos (by simp [hb])]

lemma trimRight_eq_nil_iff {t : Text} : trimRight t = [] ↔ ∀ c ∈ t, isBlank c = true := by
  simp [trimRight]

@[simp] lemma trimLeft_trimLeft (t : Text) : trimLeft (trimLeft t) = trimLeft t :=
  List.dropWhile_idempotent _ t

/-- It does not matter which end is trimmed first. -/
lemma trimLeft_trimRight (t : Text) : trimLeft (trimRight t) = trim t := by
  rw [trim]
  induction t with
  | nil => rfl
  | cons c t ih =>
    cases hc : isBlank c with
    | true =>
      rw [trimLeft_cons_of_blank hc, ← ih, ← List.singleton_append]
      by_cases ht : trimRight t = []
      · rw [trimRight_append_of_blank ht, ht]
        simp [trimRight, hc]
      · rw [trimRight_append ht, List.singleton_append, trimLeft_cons_of_blank hc]
    | false =>
      have hc' : trimRight [c] = [c] := trimRight_eq_self (by simp [NoTrailingBlank, hc])
      rw [trimLeft_cons_of_not_blank hc, ← List.singleton_append]
      by_cases ht : trimRight t = []
      · rw [trimRight_append_of_blank ht, hc', trimLeft_cons_of_not_blank hc]
      · rw [trimRight_append ht, List.singleton_append, trimLeft_cons_of_not_blank hc]

@[simp] lemma trim_trim (t : Text) : trim (trim t) = trim t := by
  rw [← trimLeft_trimRight t, trim, trimLeft_trimLeft, trimLeft_trimRight, trim,
    trimRight_eq_self (noTrailingBlank_trimRight _)]

lemma noTrailingBlank_of_trim {t : Text} (h : trim t = t) : NoTrailingBlank t := by
  rw [← h, trim]
  exact noTrailingBlank_trimRight _

lemma trimLeft_of_trim {t : Text} (h : trim t = t) : trimLeft t = t := by
  rw [← h, ← trimLeft_trimRight, trimLeft_trimLeft]

lemma trim_sublist (t : Text) : (trim t).Sublist t := by
  have hright : (trimRight (trimLeft t)).Sublist (trimLeft t) := by
    have h := (List.dropWhile_sublist (p := isBlank) (l := (trimLeft t).reverse)).reverse
    rwa [List.reverse_reverse] at h
  exact hright.trans (List.dropWhile_sublist isBlank)

/-! ### Words -/

@[simp] lemma words_nil : words [] = [] := rfl

lemma words_cons_of_blank {c : Char} (h : isBlank c = true) (t : Text) :
    words (c :: t) = words t :=
  if_pos h

lemma words_singleton {c : Char} (h : isBlank c = false) : words [c] = [[c]] :=
  if_neg (by simp [h])

/-- A character before white space is a word. -/
lemma words_cons_of_blank_next {x d : Char} (hx : isBlank x = false) (hd : isBlank d = true)
    (t : Text) : words (x :: d :: t) = [x] :: words (d :: t) := by
  unfold words
  simp only [hx, hd, Bool.false_eq_true, ↓reduceIte]
  exact congrArg _ (words_cons_of_blank hd t)

lemma words_cons_ne_nil {c : Char} (h : isBlank c = false) (t : Text) : words (c :: t) ≠ [] := by
  unfold words
  simp only [h, Bool.false_eq_true, ↓reduceIte]
  split
  · simp
  · split
    · simp
    · split <;> simp

/-- A character before a word joins it. -/
lemma words_cons_cons {x d : Char} {t w : Text} {ws : List Text} (hx : isBlank x = false)
    (hd : isBlank d = false) (h : words (d :: t) = w :: ws) :
    words (x :: d :: t) = (x :: w) :: ws := by
  unfold words
  simp only [hx, hd, Bool.false_eq_true, ↓reduceIte, h]

/-- White space separates words wherever it stands. -/
lemma words_append_blank (a b : Text) {c : Char} (h : isBlank c = true) :
    words (a ++ c :: b) = words a ++ words b := by
  induction a with
  | nil => exact words_cons_of_blank h b
  | cons x a ih =>
    cases hx : isBlank x with
    | true => rw [List.cons_append, words_cons_of_blank hx, words_cons_of_blank hx, ih]
    | false =>
      -- Whether `x` is a word of its own depends on the character behind it.
      cases a with
      | nil =>
        rw [List.singleton_append, words_cons_of_blank_next hx h, words_cons_of_blank h,
          words_singleton hx, List.singleton_append]
      | cons d a =>
        rw [List.cons_append] at ih
        cases hd : isBlank d with
        | true =>
          rw [List.cons_append, List.cons_append, words_cons_of_blank_next hx hd, ih,
            words_cons_of_blank_next hx hd, List.cons_append]
        | false =>
          obtain ⟨w, ws, hw⟩ := List.exists_cons_of_ne_nil (words_cons_ne_nil hd a)
          rw [hw, List.cons_append] at ih
          rw [List.cons_append, List.cons_append, words_cons_cons hx hd ih,
            words_cons_cons hx hd hw, List.cons_append]

/-- Only white space has no words. -/
lemma words_eq_nil_iff {t : Text} : words t = [] ↔ ∀ c ∈ t, isBlank c = true := by
  induction t with
  | nil => simp
  | cons c t ih =>
    cases hc : isBlank c with
    | true => rw [words_cons_of_blank hc, ih]; simp [hc]
    | false => simp [words_cons_ne_nil hc t, hc]

/-- Trimming the end of a text leaves its words alone. -/
lemma words_trimRight (t : Text) : words (trimRight t) = words t := by
  induction t using List.reverseRecOn with
  | nil => rfl
  | append_singleton t c ih =>
    by_cases hc : isBlank c = true
    · rw [trimRight_append_of_blank (by simp [trimRight, hc]), ih, words_append_blank t [] hc]
      simp
    · rw [trimRight_eq_self]
      simpa [NoTrailingBlank] using hc

/-- A text that is one word. -/
def IsWord (w : Text) : Prop := w ≠ [] ∧ ∀ c ∈ w, isBlank c = false

lemma isWord_of_mem_words {t w : Text} (h : w ∈ words t) : IsWord w := by
  induction t generalizing w with
  | nil => exact absurd h List.not_mem_nil
  | cons c t ih =>
    cases hc : isBlank c with
    | true =>
      rw [words_cons_of_blank hc] at h
      exact ih h
    | false =>
      have hone : IsWord [c] := ⟨by simp, by simpa using hc⟩
      cases t with
      | nil =>
        obtain rfl : w = [c] := by simpa [words_singleton hc] using h
        exact hone
      | cons d t =>
        cases hd : isBlank d with
        | true =>
          rw [words_cons_of_blank_next hc hd] at h
          rcases List.mem_cons.mp h with rfl | h
          · exact hone
          · exact ih h
        | false =>
          -- The character joins the first word of the rest.
          obtain ⟨v, vs, hv⟩ := List.exists_cons_of_ne_nil (words_cons_ne_nil hd t)
          rw [words_cons_cons hc hd hv] at h
          rcases List.mem_cons.mp h with rfl | h
          · have hfirst : IsWord v := ih (by rw [hv]; exact List.mem_cons_self)
            exact ⟨List.cons_ne_nil c v, List.forall_mem_cons.mpr ⟨hc, hfirst.2⟩⟩
          · exact ih (by rw [hv]; exact List.mem_cons_of_mem v h)

lemma words_of_isWord {w : Text} (h : IsWord w) : words w = [w] := by
  obtain ⟨hne, hblank⟩ := h
  induction w with
  | nil => exact absurd rfl hne
  | cons c w ih =>
    have hc := hblank c List.mem_cons_self
    cases w with
    | nil => exact words_singleton hc
    | cons d w =>
      have hrest := ih (List.cons_ne_nil d w) fun x hx => hblank x (List.mem_cons_of_mem c hx)
      exact words_cons_cons hc (hblank d (by simp)) hrest

/-! ### Leading words -/

/-- The first word ends at the first white space. -/
lemma leadingWords_append_space {w : Text} (hw : w ≠ []) (h : ∀ c ∈ w, isBlank c = false)
    (n : Nat) (t : Text) :
    leadingWords (n + 1) (w ++ ' ' :: t) = w :: leadingWords n t := by
  have hspace : isBlank ' ' = true := by decide
  have htake : (w ++ ' ' :: t).takeWhile (fun c => !isBlank c) = w := by
    rw [List.takeWhile_append_of_pos (by simpa using h)]
    simp [hspace]
  have hdrop : (w ++ ' ' :: t).dropWhile (fun c => !isBlank c) = ' ' :: t := by
    rw [List.dropWhile_append_of_pos (by simpa using h)]
    simp [hspace]
  have hrest : leadingWords n (' ' :: t) = leadingWords n t := by
    cases n <;> simp [leadingWords, trimLeft_cons_of_blank hspace]
  cases w with
  | nil => exact absurd rfl hw
  | cons c w =>
    rw [List.cons_append] at htake hdrop ⊢
    rw [leadingWords, trimLeft_cons_of_not_blank (h c List.mem_cons_self)]
    simp only [htake, hdrop, hrest]

/-- What begins with a character that is no white space has a first word with that beginning. -/
lemma leadingWords_cons {c : Char} (h : isBlank c = false) (n : Nat) (t : Text) :
    ∃ w ws, leadingWords n (c :: t) = (c :: w) :: ws := by
  cases n with
  | zero => exact ⟨t, [], by simp [leadingWords, trimLeft_cons_of_not_blank h]⟩
  | succ n =>
    refine ⟨t.takeWhile (fun d => !isBlank d), leadingWords n (t.dropWhile fun d => !isBlank d), ?_⟩
    rw [leadingWords, trimLeft_cons_of_not_blank h]
    simp [h]

/-- What holds more than white space has a first word. -/
lemma leadingWords_ne_nil {t : Text} (h : trimRight t ≠ []) (n : Nat) : leadingWords n t ≠ [] := by
  induction t with
  | nil => exact absurd rfl h
  | cons c t ih =>
    cases hc : isBlank c with
    | true =>
      have ht : trimRight t ≠ [] := by
        simpa [trimRight_eq_nil_iff, hc] using h
      have heq : leadingWords n (c :: t) = leadingWords n t := by
        cases n <;> simp [leadingWords, trimLeft_cons_of_blank hc]
      rw [heq]
      exact ih ht
    | false =>
      obtain ⟨w, ws, hw⟩ := leadingWords_cons hc n t
      rw [hw]
      exact List.cons_ne_nil _ _

/-- If a trimmed text has a second leading word, white space stands behind the first one. -/
lemma exists_of_leadingWords {n : Nat} {t first : Text} {more : List Text} (ht : trim t = t)
    (h : leadingWords (n + 1) t = first :: more) (hmore : more ≠ []) :
    ∃ b rest, t = first ++ b :: rest ∧ isBlank b = true ∧ trimRight rest ≠ [] ∧
      more = leadingWords n rest := by
  have hblank : ∀ {u : Text}, trimRight u = [] → leadingWords n u = [] := by
    intro u hu
    have hleft : trimLeft u = [] := by
      simpa [trimLeft, trimRight_eq_nil_iff] using hu
    cases n <;> simp [leadingWords, hleft]
  cases t with
  | nil => simp [leadingWords, trimLeft] at h
  | cons c t =>
    rw [leadingWords, trimLeft_of_trim ht] at h
    obtain ⟨hfirst, hrest⟩ := List.cons.inj h
    have hsplit := List.takeWhile_append_dropWhile (p := fun c => !isBlank c) (l := c :: t)
    cases hdrop : (c :: t).dropWhile fun c => !isBlank c with
    | nil =>
      rw [hdrop, hblank rfl] at hrest
      exact absurd hrest.symm hmore
    | cons b rest =>
      have hb : isBlank b = true := by
        have hnot := List.head?_dropWhile_not (fun c => !isBlank c) (c :: t)
        rw [hdrop] at hnot
        simpa using hnot
      have hskip : leadingWords n (b :: rest) = leadingWords n rest := by
        cases n <;> simp [leadingWords, trimLeft_cons_of_blank hb]
      rw [hdrop, hskip] at hrest
      refine ⟨b, rest, ?_, hb, ?_, hrest.symm⟩
      · rw [← hfirst, ← hdrop, hsplit]
      · intro hnil
        rw [hblank hnil] at hrest
        exact hmore hrest.symm

lemma leadingWords_trim {t : Text} (h : NoTrailingBlank t) (n : Nat) :
    leadingWords n (trim t) = leadingWords n t := by
  have htrim : trim t = trimLeft t := by rw [← trimLeft_trimRight, trimRight_eq_self h]
  rw [htrim]
  cases n <;> simp only [leadingWords, trimLeft_trimLeft]

/-- A text of one word is its only leading word. -/
lemma leadingWords_word {w : Text} (hw : w ≠ []) (h : ∀ c ∈ w, isBlank c = false) (n : Nat) :
    leadingWords n w = [w] := by
  cases w with
  | nil => exact absurd rfl hw
  | cons c w =>
    have hc := h c List.mem_cons_self
    cases n with
    | zero => simp [leadingWords, trimLeft_cons_of_not_blank hc]
    | succ n =>
      have htail : ∀ d ∈ w, (!isBlank d) = true := by
        simpa using fun d hd => h d (List.mem_cons_of_mem c hd)
      have hnil : leadingWords n [] = [] := by cases n <;> rfl
      rw [leadingWords, trimLeft_cons_of_not_blank hc]
      simp only [List.takeWhile_cons, List.dropWhile_cons, hc, Bool.not_false, ↓reduceIte,
        List.takeWhile_eq_self_iff.mpr htail, List.dropWhile_eq_nil_iff.mpr htail, hnil]

end MessageCatalog.Text
