import Mathlib
import MessageCatalog.Text.Escape
import MessageCatalog.Text.Wrap
import MessageCatalog.Proofs.Text.Lines

/-!
# Wrapping of escaped texts

A text is escaped before it is wrapped. An escape is a backslash and one more character; neither
is white space or a hyphen, and so no line ends between them. The lines of a wrapped escaped text
are therefore themselves escaped texts, which put together are the whole.
-/

namespace MessageCatalog.Text

/-! ### Escapes -/

@[simp] lemma escape_nil : escape [] = [] := rfl

lemma escape_cons_of_some {c letter : Char} (h : escapeLetter? c = some letter) (t : Text) :
    escape (c :: t) = '\\' :: letter :: escape t := by
  simp [escape, h]

lemma escape_cons_of_none {c : Char} (h : escapeLetter? c = none) (t : Text) :
    escape (c :: t) = c :: escape t := by
  simp [escape, h]

@[simp] lemma escape_append (a b : Text) : escape (a ++ b) = escape a ++ escape b := by
  induction a with
  | nil => rfl
  | cons c a ih =>
    cases h : escapeLetter? c with
    | some letter => simp [escape_cons_of_some h, ih]
    | none => simp [escape_cons_of_none h, ih]

@[simp] lemma escape_eq_nil {t : Text} : escape t = [] ↔ t = [] := by
  cases t with
  | nil => simp
  | cons c t =>
    cases h : escapeLetter? c with
    | some letter => simp [escape_cons_of_some h]
    | none => simp [escape_cons_of_none h]

/-- The letters of escapes. -/
lemma mem_of_escapeLetter? {c letter : Char} (h : escapeLetter? c = some letter) :
    letter ∈ ['\\', '"', 't', 'r', 'n', 'v', 'b', 'f'] := by
  unfold escapeLetter? at h
  split at h <;> simp_all [eq_comm]

/-- A quotation mark of an escaped text always stands behind a backslash. -/
lemma hasBareMark_escape (before : Option Char) (t : Text) :
    hasBareMark before (escape t) = false := by
  induction t generalizing before with
  | nil => rfl
  | cons c t ih =>
    cases h : escapeLetter? c with
    | some letter =>
      rw [escape_cons_of_some h]
      simp [hasBareMark, ih]
    | none =>
      have hc : c ≠ '"' := by
        rintro rfl
        simp [escapeLetter?] at h
      rw [escape_cons_of_none h]
      simp [hasBareMark, ih, hc]

/-- A text whose only line boundaries are line feeds and carriage returns. -/
def Quotable (t : Text) : Prop := ∀ c ∈ t, endsLine c = true → c = '\n' ∨ c = '\r'

instance (t : Text) : Decidable (Quotable t) :=
  decidable_of_iff (t.all fun c => !endsLine c || c == '\n' || c == '\r') (by
    simp only [Quotable, List.all_eq_true, Bool.or_eq_true, Bool.not_eq_true', beq_iff_eq]
    grind)

/-- A text whose line boundaries are all written as escapes. -/
def Escapable (t : Text) : Prop := ∀ c ∈ t, endsLine c = true → (escapeLetter? c).isSome = true

instance (t : Text) : Decidable (Escapable t) := inferInstanceAs (Decidable (∀ c ∈ t, _))

lemma Quotable.escapable {t : Text} (h : Quotable t) : Escapable t := by
  intro c hc hend
  rcases h c hc hend with rfl | rfl <;> rfl

lemma OneLine.escapable {t : Text} (h : OneLine t) : Escapable t := by
  intro c hc hend
  exact absurd hend (by simp [h c hc])

lemma escapable_append {a b : Text} : Escapable (a ++ b) ↔ Escapable a ∧ Escapable b := by
  simp [Escapable, or_imp, forall_and]

/-- The line boundaries that no escape stands for: separators of files, groups and records, the next
line, and the separators of lines and of paragraphs. -/
def bareEnds : List Char := ['\x1c', '\x1d', '\x1e', '\x85', '\u2028', '\u2029']

lemma escapable_iff {t : Text} : Escapable t ↔ ∀ c ∈ t, c ∉ bareEnds := by
  refine forall₂_congr fun c _ => ?_
  constructor
  · intro h hbare
    simp only [bareEnds, List.mem_cons, List.not_mem_nil, or_false] at hbare
    rcases hbare with rfl | rfl | rfl | rfl | rfl | rfl
    all_goals exact absurd (h (by decide)) (by decide)
  · intro hbare hend
    have hother : ∀ d ∈ bareEnds, c.toNat ≠ d.toNat := fun d hd heq =>
      hbare (Char.toNat_inj.mp heq ▸ hd)
    have hcodes : c.toNat ≠ 0x1c ∧ c.toNat ≠ 0x1d ∧ c.toNat ≠ 0x1e ∧ c.toNat ≠ 0x85 ∧
        c.toNat ≠ 0x2028 ∧ c.toNat ≠ 0x2029 := by simpa [bareEnds] using hother
    have hends : (((0x0a ≤ c.toNat ∧ c.toNat ≤ 0x0d ∨ 0x1c ≤ c.toNat ∧ c.toNat ≤ 0x1e) ∨
        c.toNat = 0x85) ∨ c.toNat = 0x2028) ∨ c.toNat = 0x2029 := by simpa [endsLine] using hend
    have hfour : c.toNat = '\n'.toNat ∨ c.toNat = '\x0b'.toNat ∨ c.toNat = '\x0c'.toNat ∨
        c.toNat = '\r'.toNat := by
      show c.toNat = 0x0a ∨ c.toNat = 0x0b ∨ c.toNat = 0x0c ∨ c.toNat = 0x0d
      omega
    simp only [Char.toNat_inj] at hfour
    rcases hfour with rfl | rfl | rfl | rfl
    all_goals rfl

lemma escapedChar?_escapable {letter c : Char} (h : escapedChar? letter = some c) :
    (escapeLetter? c).isSome = true := by
  unfold escapedChar? at h
  split at h <;> simp_all <;> (subst h; rfl)

/-- Reading escapes makes no other line boundaries. -/
lemma Escapable.unescape {t : Text} (h : Escapable t) : Escapable (unescape t) := by
  fun_induction Text.unescape t with
  | case1 => exact h
  | case2 letter rest c hc ih =>
    intro d hd hend
    rcases List.mem_cons.mp hd with rfl | hd
    · exact escapedChar?_escapable hc
    · exact ih (fun x hx => h x (by simp [hx])) d hd hend
  | case3 letter rest hnone ih =>
    intro d hd hend
    rcases List.mem_cons.mp hd with rfl | hd
    · exact h _ List.mem_cons_self hend
    · exact ih (fun x hx => h x (List.mem_cons_of_mem _ hx)) d hd hend
  | case4 c rest _ ih =>
    intro d hd hend
    rcases List.mem_cons.mp hd with rfl | hd
    · exact h _ List.mem_cons_self hend
    · exact ih (fun x hx => h x (List.mem_cons_of_mem _ hx)) d hd hend

lemma Escapable.oneLine_escape {t : Text} (h : Escapable t) : OneLine (escape t) := by
  induction t with
  | nil => simp [OneLine]
  | cons c t ih =>
    have hc := h c List.mem_cons_self
    have ht : OneLine (escape t) := ih fun d hd => h d (List.mem_cons_of_mem c hd)
    cases he : escapeLetter? c with
    | some letter =>
      have hletter : endsLine letter = false := by
        have hmem := mem_of_escapeLetter? he
        revert hmem
        simp only [List.mem_cons, List.not_mem_nil, or_false]
        rintro (rfl | rfl | rfl | rfl | rfl | rfl | rfl | rfl) <;> decide
      rw [escape_cons_of_some he]
      exact OneLine.append (a := ['\\', letter]) (by simp [OneLine, hletter]; decide) ht
    | none =>
      have hend : endsLine c = false := by
        by_contra hne
        simpa [he] using hc (by simpa using hne)
      rw [escape_cons_of_none he]
      exact OneLine.append (a := [c]) (by simp [OneLine, hend]) ht

/-! ### Places where an escaped text can be cut -/

/-- A place between two characters of an escaped text, none of them inside an escape. -/
def IsCut (t : Text) (n : Nat) : Prop := ∃ a b, t = a ++ b ∧ (escape a).length = n

lemma isCut_zero (t : Text) : IsCut t 0 := ⟨[], t, rfl, rfl⟩

/-- A cut behind a character that is not escaped. -/
lemma IsCut.cons {t : Text} {n : Nat} (h : IsCut t n) {c : Char} (hc : escapeLetter? c = none) :
    IsCut (c :: t) (n + 1) := by
  obtain ⟨a, b, rfl, rfl⟩ := h
  exact ⟨c :: a, b, rfl, by simp [escape_cons_of_none hc]⟩

/-- A cut behind an escape. -/
lemma IsCut.cons_cons {t : Text} {n : Nat} (h : IsCut t n) {c letter : Char}
    (hc : escapeLetter? c = some letter) : IsCut (c :: t) (n + 2) := by
  obtain ⟨a, b, rfl, rfl⟩ := h
  exact ⟨c :: a, b, rfl, by simp [escape_cons_of_some hc]⟩

/-- A run of characters other than the backslash ends at a cut. -/
lemma isCut_takeWhile {p : Char → Bool} (hp : p '\\' = false) (t : Text) :
    IsCut t ((escape t).takeWhile p).length := by
  induction t with
  | nil => exact isCut_zero []
  | cons c t ih =>
    cases h : escapeLetter? c with
    | some letter =>
      rw [escape_cons_of_some h, List.takeWhile_cons_of_neg (by simp [hp])]
      exact isCut_zero _
    | none =>
      rw [escape_cons_of_none h]
      by_cases hc : p c = true
      · rw [List.takeWhile_cons_of_pos hc]
        exact ih.cons h
      · rw [List.takeWhile_cons_of_neg hc]
        exact isCut_zero _

/-- What a character of an escape lacks: it neither is a hyphen nor ends a word. -/
lemma wordRest_cons_of_escape {c : Char} (h : c ∈ ['\\', '"', 't', 'r', 'n', 'v', 'b', 'f'])
    (passed t : Text) : wordRest passed (c :: t) = wordRest (c :: passed) t + 1 := by
  have hc : c ≠ '-' ∧ isSeparator c = false := by
    revert h
    simp only [List.mem_cons, List.not_mem_nil, or_false]
    rintro (rfl | rfl | rfl | rfl | rfl | rfl | rfl | rfl) <;> decide
  have hends : wordEnds passed (c :: t) = false := by
    simp [wordEnds, startsDash, hyphens, hc.1, hc.2]
  simp [wordRest, hc.1, hends]

/-- The rest of a word ends at a cut. -/
lemma isCut_wordRest (passed t : Text) : IsCut t (wordRest passed (escape t)) := by
  induction t generalizing passed with
  | nil => exact isCut_zero []
  | cons c t ih =>
    cases h : escapeLetter? c with
    | some letter =>
      rw [escape_cons_of_some h, wordRest_cons_of_escape (by simp),
        wordRest_cons_of_escape (mem_of_escapeLetter? h)]
      exact (ih _).cons_cons h
    | none =>
      rw [escape_cons_of_none h, wordRest]
      split
      · exact (isCut_zero t).cons h
      · split
        · exact isCut_zero _
        · exact (ih _).cons h

/-- Chunks end at cuts. -/
lemma isCut_chunkLength (passed t : Text) : IsCut t (chunkLength passed (escape t)) := by
  cases t with
  | nil => exact isCut_zero []
  | cons c t =>
    cases h : escapeLetter? c with
    | some letter =>
      -- A backslash begins a word: it is neither a separator nor the start of a dash.
      have hdash : startsDash ('\\' :: letter :: escape t) = false := by
        simp [startsDash, hyphens]
      rw [escape_cons_of_some h, chunkLength, hdash,
        wordRest_cons_of_escape (mem_of_escapeLetter? h)]
      simp only [show isSeparator '\\' = false by decide, Bool.false_eq_true, ↓reduceIte,
        Bool.and_false]
      exact (isCut_wordRest _ t).cons_cons h
    | none =>
      rw [escape_cons_of_none h, chunkLength, ← escape_cons_of_none h, hyphens]
      split
      · exact isCut_takeWhile (by decide) _
      · split
        · exact isCut_takeWhile (by decide) _
        · exact (isCut_wordRest _ t).cons h

lemma chunkLength_pos (passed : Text) {t : Text} (h : t ≠ []) : 0 < chunkLength passed t := by
  cases t with
  | nil => exact absurd rfl h
  | cons c t =>
    rw [chunkLength]
    split
    · rename_i hc
      simp [hc]
    · split
      · rename_i hdash
        simp only [startsDash, Bool.and_eq_true, decide_eq_true_eq] at hdash
        omega
      · omega

/-! ### Chunks and lines -/

/-- The chunks of an escaped text are escaped texts. -/
lemma exists_chunksFrom_escape (passed : Text) {bound : Nat} {t : Text}
    (h : (escape t).length ≤ bound) :
    ∃ ts : List Text, chunksFrom passed bound (escape t) = ts.map escape ∧ ts.flatten = t := by
  -- A chunk is never empty, so what is left after it is shorter than the bound.
  induction bound generalizing passed t with
  | zero => exact ⟨[], rfl, (escape_eq_nil.mp (List.length_eq_zero_iff.mp (by omega))).symm⟩
  | succ bound ih =>
    by_cases hnil : t = []
    · exact ⟨[], by rw [hnil]; rfl, hnil.symm⟩
    · obtain ⟨a, b, rfl, hcut⟩ := isCut_chunkLength passed t
      have hne : escape (a ++ b) ≠ [] := fun h => hnil (escape_eq_nil.mp h)
      have hpos := chunkLength_pos passed hne
      have hlen : (escape (a ++ b)).length = (escape a).length + (escape b).length := by simp
      obtain ⟨ts, hts, rfl⟩ := ih ((escape a).reverse ++ passed) (t := b) (by omega)
      refine ⟨a :: ts, ?_, rfl⟩
      have htake : (escape (a ++ ts.flatten)).take (escape a).length = escape a := by simp
      have hdrop : (escape (a ++ ts.flatten)).drop (escape a).length = escape ts.flatten := by simp
      rw [chunksFrom, ← hcut, htake, hdrop, hts, List.map_cons]
      exact hne

/-- Filling lines keeps chunks whole, in their order. -/
lemma exists_fill_escape (width : Nat) (line : Text) (ts : List Text) :
    ∃ ls : List Text, fill width (escape line) (ts.map escape) = ls.map escape ∧
      ls.flatten = line ++ ts.flatten := by
  -- The line that is being filled has been escaped too, so it is general in the induction.
  induction ts generalizing line with
  | nil =>
    rw [List.map_nil, fill]
    split
    · rename_i hline
      exact ⟨[], rfl, by rw [escape_eq_nil.mp (List.isEmpty_iff.mp hline)]; rfl⟩
    · exact ⟨[line], rfl, by simp⟩
  | cons t ts ih =>
    rw [List.map_cons, fill]
    split
    · obtain ⟨ls, hls, hflat⟩ := ih (line ++ t)
      exact ⟨ls, by rw [← escape_append, hls], by simp [hflat]⟩
    · split
      · rename_i hline
        have hnil : line = [] := by simpa using hline
        obtain ⟨ls, hls, hflat⟩ := ih []
        exact ⟨t :: ls, by rw [List.map_cons, ← hls, escape_nil], by simp [hflat, hnil]⟩
      · split
        · obtain ⟨ls, hls, hflat⟩ := ih t
          exact ⟨line :: ls, by rw [List.map_cons, hls], by simp [hflat]⟩
        · obtain ⟨ls, hls, hflat⟩ := ih []
          exact ⟨line :: t :: ls, by rw [List.map_cons, List.map_cons, ← hls, escape_nil],
            by simp [hflat]⟩

/-- The lines of a wrapped escaped text are escaped texts that make up the whole. -/
theorem exists_wrap_escape (width : Nat) (t : Text) :
    ∃ ls : List Text, wrap width (escape t) = ls.map escape ∧ ls.flatten = t := by
  obtain ⟨ts, hts, rfl⟩ := exists_chunksFrom_escape [] (le_refl (escape t).length)
  obtain ⟨ls, hls, hflat⟩ := exists_fill_escape width [] ts
  exact ⟨ls, by rw [wrap, chunks, hts, ← escape_nil, hls], by rw [hflat, List.nil_append]⟩

end MessageCatalog.Text
