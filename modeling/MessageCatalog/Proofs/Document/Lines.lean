import Mathlib
import MessageCatalog.Document.Line
import MessageCatalog.Document.Printer
import MessageCatalog.Proofs.Text.Wrapping

/-!
# Reading the lines of a written file

Every kind of line that is written, with what is read from it: the start of a field, the further
lines of a field, the comments and the flags. The lines of obsolete entries are read like those of
live ones, with the mark taken off.
-/

namespace MessageCatalog.Document

open Text

/-! ### Quoted texts -/

lemma inner_quotedPiece (p : Text) : Text.inner (quotedPiece p) = escape p := by
  simp [Text.inner, quotedPiece]

lemma unquoted_quotedPiece (p : Text) : Line.unquoted (quotedPiece p) = p := by
  rw [Line.unquoted, inner_quotedPiece, unescape_escape]

lemma noTrailingBlank_append_quotedPiece (a p : Text) : NoTrailingBlank (a ++ quotedPiece p) := by
  refine NoTrailingBlank.append ?_ (by simp [quotedPiece]) a
  intro c hc
  rw [quotedPiece, List.cons_append, ← List.cons_append, List.getLast?_append] at hc
  obtain rfl : '"' = c := by simpa using hc
  decide

lemma trimLeft_quotedPiece (p : Text) : trimLeft (quotedPiece p) = quotedPiece p :=
  trimLeft_cons_of_not_blank (by decide) _

/-- The leading words of a quoted text begin with the quotation mark. -/
lemma leadingWords_quotedPiece (n : Nat) (p : Text) :
    ∃ w ws, leadingWords n (quotedPiece p) = ('"' :: w) :: ws :=
  leadingWords_cons (by decide) n _

/-! ### The mark of obsolete entries -/

/-- What stands before the lines of an entry. -/
def entryMark (obsolete : Bool) : Text := if obsolete then "#~ " else ""

lemma entryMark_false : entryMark false = [] := rfl

lemma entryMark_true : entryMark true = ['#', '~', ' '] := rfl

/-- The number of words that are looked for behind the mark. -/
def wordsBehind (obsolete : Bool) : Nat := if obsolete then 1 else 2

/-- The content of a line is told by what stands behind the mark. -/
lemma ofText?_entryMark (obsolete : Bool) {c : Char} {t first : Text} {more : List Text}
    (hc : isBlank c = false) (hmark : c ≠ '#') (ht : NoTrailingBlank (c :: t))
    (hwords : leadingWords (wordsBehind obsolete) (c :: t) = (c :: first) :: more) :
    Line.ofText? (trim (entryMark obsolete ++ c :: t)) =
      some ⟨c :: first, obsolete, Line.contentOf (c :: t) (c :: first) more⟩ := by
  cases obsolete with
  | false =>
    rw [wordsBehind, if_neg Bool.false_ne_true] at hwords
    rw [entryMark_false, List.nil_append, trim_eq_self hc ht, Line.ofText?, hwords]
    simp [hmark]
  | true =>
    rw [wordsBehind, if_pos rfl] at hwords
    have htrim : trim (['#', '~', ' '] ++ c :: t) = ['#', '~', ' '] ++ c :: t :=
      trim_eq_self (by decide) (ht.append (List.cons_ne_nil c t) ['#', '~', ' '])
    have hlead : leadingWords 2 (['#', '~', ' '] ++ c :: t) =
        ['#', '~'] :: (c :: first) :: more := by
      rw [← hwords]
      exact leadingWords_append_space (w := ['#', '~']) (by simp) (by simp; decide) 1 (c :: t)
    rw [entryMark_true, htrim, Line.ofText?, hlead]
    simp [trim_eq_self hc ht]

/-! ### Fields -/

/-- A keyword is one word, and its first letter is no mark. -/
lemma label_shape {label : Text} {name : Field} (h : Line.fieldOf? label = some name) :
    ∃ t, label = 'm' :: t ∧ ∀ c ∈ label, isBlank c = false := by
  unfold Line.fieldOf? at h
  split_ifs at h with hlabel hlabel hlabel hlabel
  all_goals
    rw [hlabel]
    simp only [String.reduceToList]
    exact ⟨_, rfl, by simp; decide⟩

lemma contentOf_label {label : Text} {name : Field} (h : Line.fieldOf? label = some name)
    (p : Text) {more : List Text} (hmore : more ≠ []) :
    Line.contentOf (label ++ ' ' :: quotedPiece p) label more = .ok (some (.field name p)) := by
  have hvalue : trimLeft ((label ++ ' ' :: quotedPiece p).drop label.length) = quotedPiece p := by
    rw [List.drop_left, trimLeft_cons_of_blank (by decide), trimLeft_quotedPiece]
  rw [Line.contentOf, hvalue]
  simp [hmore, h, Line.keywordOf, inner_quotedPiece, hasBareMark_escape, unquoted_quotedPiece]

/-- The first line of a field. -/
lemma ofText?_label (obsolete : Bool) {label : Text} {name : Field}
    (h : Line.fieldOf? label = some name) (p : Text) :
    Line.ofText? (trim (entryMark obsolete ++ (label ++ ' ' :: quotedPiece p))) =
      some ⟨label, obsolete, .ok (some (.field name p))⟩ := by
  obtain ⟨t, rfl, hblank⟩ := label_shape h
  have hwords : ∃ more, more ≠ [] ∧ leadingWords (wordsBehind obsolete)
      ('m' :: t ++ ' ' :: quotedPiece p) = ('m' :: t) :: more := by
    cases obsolete with
    | false =>
      obtain ⟨w, ws, hw⟩ := leadingWords_quotedPiece 1 p
      exact ⟨_, by simp [hw], leadingWords_append_space (by simp) hblank 1 _⟩
    | true =>
      obtain ⟨w, ws, hw⟩ := leadingWords_quotedPiece 0 p
      exact ⟨_, by simp [hw], leadingWords_append_space (by simp) hblank 0 _⟩
  obtain ⟨more, hmore, hlead⟩ := hwords
  have hlast : NoTrailingBlank ('m' :: t ++ ' ' :: quotedPiece p) := by
    rw [show 'm' :: t ++ ' ' :: quotedPiece p = 'm' :: t ++ [' '] ++ quotedPiece p by simp]
    exact noTrailingBlank_append_quotedPiece _ p
  rw [List.cons_append] at hlead hlast ⊢
  rw [ofText?_entryMark obsolete (by decide) (by decide) hlast hlead, ← List.cons_append,
    contentOf_label h p hmore]

/-- A further line of a field. -/
lemma ofText?_continuation (obsolete : Bool) (p : Text) :
    ∃ w, Line.ofText? (trim (entryMark obsolete ++ quotedPiece p)) =
      some ⟨'"' :: w, obsolete, .ok (some (.continuation p))⟩ := by
  obtain ⟨w, ws, hw⟩ := leadingWords_quotedPiece (wordsBehind obsolete) p
  refine ⟨w, ?_⟩
  have hlast : NoTrailingBlank (quotedPiece p) := noTrailingBlank_append_quotedPiece [] p
  have hcontent : Line.contentOf (quotedPiece p) ('"' :: w) ws =
      .ok (some (.continuation p)) := by
    have hfield : Line.fieldOf? ('"' :: w) = none := by simp [Line.fieldOf?]
    have hstart : startsWith (quotedPiece p) ['"'] = true := by simp [startsWith, quotedPiece]
    simp [Line.contentOf, hfield, hstart, inner_quotedPiece, hasBareMark_escape,
      unquoted_quotedPiece]
  rw [← hcontent]
  exact ofText?_entryMark obsolete (by decide) (by decide) hlast hw

/-- The first line of one of several translations. -/
lemma ofText?_indexed (obsolete : Bool) {i : Nat} (hi : i < 10) (p : Text) :
    ∃ w, Line.ofText? (trim (entryMark obsolete ++
        (("msgstr[" ++ Decimal.ofNat i ++ "]" : Text) ++ ' ' :: quotedPiece p))) =
      some ⟨'m' :: w, obsolete, .ok (some (.indexed i p))⟩ := by
  have hdigit : Decimal.ofNat i = [Nat.digitChar i] := by
    rw [Decimal.ofNat, if_pos hi]
  have hvalue : digitValue? (Nat.digitChar i) = some i := by
    interval_cases i <;> decide
  have hblank : isBlank (Nat.digitChar i) = false := by
    interval_cases i <;> decide
  have hquote : Nat.digitChar i ≠ '"' := by
    interval_cases i <;> decide
  have hlabel : ("msgstr[" ++ Decimal.ofNat i ++ "]" : Text) =
      ['m', 's', 'g', 's', 't', 'r', '[', Nat.digitChar i, ']'] := by
    rw [hdigit]
    rfl
  rw [hlabel]
  -- Of the digit only its value counts from here on, and that it is no blank and no quotation
  -- mark.
  generalize Nat.digitChar i = d at hvalue hblank hquote
  have hlead : ∃ more, leadingWords (wordsBehind obsolete)
      (['m', 's', 'g', 's', 't', 'r', '[', d, ']'] ++ ' ' :: quotedPiece p) =
        ['m', 's', 'g', 's', 't', 'r', '[', d, ']'] :: more := by
    have hword : ∀ c ∈ ['m', 's', 'g', 's', 't', 'r', '[', d, ']'], isBlank c = false := by
      simp [hblank]
      decide
    cases obsolete with
    | false => exact ⟨_, leadingWords_append_space (by simp) hword 1 _⟩
    | true => exact ⟨_, leadingWords_append_space (by simp) hword 0 _⟩
  obtain ⟨more, hmore⟩ := hlead
  have hlast : NoTrailingBlank
      (['m', 's', 'g', 's', 't', 'r', '[', d, ']'] ++ ' ' :: quotedPiece p) := by
    have := noTrailingBlank_append_quotedPiece ['m', 's', 'g', 's', 't', 'r', '[', d, ']', ' '] p
    simpa using this
  refine ⟨['s', 'g', 's', 't', 'r', '[', d, ']'], ?_⟩
  -- The label goes up to the first quotation mark, and the digit is found in it.
  have hcut : cutFirst '"' (['m', 's', 'g', 's', 't', 'r', '[', d, ']'] ++ ' ' :: quotedPiece p) =
      some (['m', 's', 'g', 's', 't', 'r', '[', d, ']', ' '], escape p ++ ['"']) := by
    have hnot : '"' ∉ ['m', 's', 'g', 's', 't', 'r', '[', d, ']', ' '] := by simp [hquote.symm]
    have hfirst := cutFirst_append hnot (escape p ++ ['"'])
    simpa [quotedPiece] using hfirst
  have hindexed : Line.indexedOf
      (['m', 's', 'g', 's', 't', 'r', '[', d, ']'] ++ ' ' :: quotedPiece p) =
        .ok (.indexed i p) := by
    rw [Line.indexedOf, hcut]
    simp [hvalue, unescape_escape]
  have hcontent : Line.contentOf
      (['m', 's', 'g', 's', 't', 'r', '[', d, ']'] ++ ' ' :: quotedPiece p)
      ['m', 's', 'g', 's', 't', 'r', '[', d, ']'] more = .ok (some (.indexed i p)) := by
    have hfield : Line.fieldOf? ['m', 's', 'g', 's', 't', 'r', '[', d, ']'] = none := by
      simp [Line.fieldOf?]
    rw [Line.contentOf, hfield, hindexed]
    simp [startsWith, Except.map]
  rw [List.cons_append] at hcontent hlast hmore ⊢
  rw [ofText?_entryMark obsolete (by decide) (by decide) hlast hmore, hcontent]

/-! ### Lines with a mark of two characters -/

/-- Trimming such a line trims what stands behind its mark. -/
lemma trim_mark {m : Char} (hm : isBlank m = false) (l : Text) :
    trim ('#' :: m :: ' ' :: l) =
      if trimRight l = [] then ['#', m] else '#' :: m :: ' ' :: trimRight l := by
  rw [trim, trimLeft_cons_of_not_blank (by decide),
    show '#' :: m :: ' ' :: l = ['#', m, ' '] ++ l from rfl]
  split
  · rename_i hl
    rw [trimRight_append_of_blank hl]
    simp [trimRight, hm, show isBlank ' ' = true by decide]
  · rename_i hl
    rw [trimRight_append hl]
    rfl

lemma drop_trim_mark {m : Char} (hm : isBlank m = false) (l : Text) :
    (trim ('#' :: m :: ' ' :: l)).drop 3 = trimRight l := by
  rw [trim_mark hm]
  split
  · rename_i hl
    rw [hl]
    rfl
  · rfl

lemma ofText?_mark {m : Char} (hm : isBlank m = false) (hne : m ≠ '~') (l : Text) :
    Line.ofText? (trim ('#' :: m :: ' ' :: l)) =
      some ⟨['#', m], false, Line.contentOf (trim ('#' :: m :: ' ' :: l)) ['#', m]
        (leadingWords 1 (trimRight l))⟩ := by
  have hword : ∀ c ∈ ['#', m], isBlank c = false := by
    simp [hm]
    decide
  have hlead : leadingWords 2 (trim ('#' :: m :: ' ' :: l)) =
      ['#', m] :: leadingWords 1 (trimRight l) := by
    rw [trim_mark hm]
    split
    · rename_i hl
      rw [hl, leadingWords_word (by simp) hword]
      rfl
    · exact leadingWords_append_space (by simp) hword 1 _
  rw [Line.ofText?, hlead]
  simp [hne]

lemma fieldOf?_mark (t : Text) : Line.fieldOf? ('#' :: t) = none := by
  simp [Line.fieldOf?]

/-- What a line that begins with a mark holds is told by the second character of the mark. -/
lemma contentOf_mark (m : Char) (t : Text) (more : List Text) :
    Line.contentOf ('#' :: t) ['#', m] more =
      if m = ':' then .ok (if more.isEmpty then none
        else some (.occurrences ((words (('#' :: t).drop 3)).map Line.occurrenceOf)))
      else if m = ',' then .ok (if more.isEmpty then none
        else some (.flags (Line.flagsOf (('#' :: t).drop 3))))
      else if m = '#' then .ok (some (.comment ('#' :: t)))
      else if m = '.' then .ok (if more.isEmpty then none
        else some (.extracted (('#' :: t).drop 3)))
      else if m = '|' then Line.previousOf ('#' :: t) more
      else .error .misplaced := by
  have hquote : startsWith ('#' :: t) ['"'] = false := rfl
  have hindexed : startsWith ('#' :: t) ['m', 's', 'g', 's', 't', 'r', '['] = false := rfl
  have hcomment : startsWith ['#', m] ['#', '#'] = decide (m = '#') := by
    simp [startsWith, List.isPrefixOf, Bool.beq_eq_decide_eq, eq_comm]
  simp only [Line.contentOf, fieldOf?_mark, hquote, hindexed, hcomment, ite_self,
    Bool.false_eq_true, ↓reduceIte, String.reduceToList, List.cons.injEq, and_true, true_and,
    List.cons_ne_nil, Bool.false_or, decide_eq_true_eq, and_false, decide_false]

lemma exists_trim_mark {m : Char} (hm : isBlank m = false) (l : Text) :
    ∃ t, trim ('#' :: m :: ' ' :: l) = '#' :: t := by
  rw [trim_mark hm]
  split
  · exact ⟨_, rfl⟩
  · exact ⟨_, rfl⟩

lemma leadingWords_isEmpty (l : Text) :
    (leadingWords 1 (trimRight l)).isEmpty = decide (trimRight l = []) := by
  by_cases hl : trimRight l = []
  · rw [hl]
    rfl
  · have hne : trimRight (trimRight l) ≠ [] := by
      rwa [trimRight_eq_self (noTrailingBlank_trimRight l)]
    simp [hl, leadingWords_ne_nil hne]

/-- A line of an extracted comment. -/
lemma ofText?_extracted {l : Text} (hl : l ≠ []) (h : NoTrailingBlank l) :
    Line.ofText? (trim ('#' :: '.' :: ' ' :: l)) =
      some ⟨['#', '.'], false, .ok (some (.extracted l))⟩ := by
  rw [ofText?_mark (by decide) (by decide)]
  have hdrop := drop_trim_mark (m := '.') (by decide) l
  rw [trimRight_eq_self h] at hdrop
  have hempty := leadingWords_isEmpty l
  rw [trimRight_eq_self h] at hempty ⊢
  obtain ⟨t, ht⟩ := exists_trim_mark (m := '.') (by decide) l
  rw [ht] at hdrop ⊢
  simp [contentOf_mark, hdrop, hempty, hl]

/-- A line of places of use, which says nothing if it holds no word. -/
lemma ofText?_occurrences (l : Text) :
    Line.ofText? (trim ('#' :: ':' :: ' ' :: l)) =
      some ⟨['#', ':'], false, .ok (if words l = [] then none
        else some (.occurrences ((words l).map Line.occurrenceOf)))⟩ := by
  rw [ofText?_mark (by decide) (by decide)]
  have hempty : (leadingWords 1 (trimRight l)).isEmpty = decide (words l = []) := by
    rw [leadingWords_isEmpty, decide_eq_decide, trimRight_eq_nil_iff, words_eq_nil_iff]
  have hdrop := drop_trim_mark (m := ':') (by decide) l
  obtain ⟨t, ht⟩ := exists_trim_mark (m := ':') (by decide) l
  rw [ht] at hdrop ⊢
  simp [contentOf_mark, hdrop, hempty, words_trimRight]

/-- A line of flags. -/
lemma flagsOf_join {fs : List Text} (hne : fs ≠ []) (h : ∀ f ∈ fs, ',' ∉ f ∧ trim f = f) :
    Line.flagsOf (join ", " fs) = fs := by
  have htrim : ∀ t : Text, trim (' ' :: t) = trim t := by
    intro t
    rw [trim, trimLeft_cons_of_blank (by decide), trim]
  -- the pieces behind the first comma begin with the blank that was written after it
  have hsplit : ∀ t : Text, (splitOn ',' (' ' :: t)).map trim = (splitOn ',' t).map trim := by
    intro t
    rw [splitOn, if_neg (by decide)]
    cases ht : splitOn ',' t with
    | nil => exact absurd ht (splitOn_ne_nil ',' t)
    | cons p ps => simp [htrim]
  rw [Line.flagsOf]
  induction fs with
  | nil => exact absurd rfl hne
  | cons f fs ih =>
    obtain ⟨hcomma, hf⟩ := h f List.mem_cons_self
    cases fs with
    | nil => simp [splitOn_of_not_mem hcomma, hf]
    | cons g fs =>
      have hrest := ih (by simp) fun k hk => h k (List.mem_cons_of_mem f hk)
      rw [join_cons_cons, List.append_assoc, show ((", " : Text) ++ join ", " (g :: fs)) =
        ',' :: ' ' :: join ", " (g :: fs) from rfl, splitOn_append_sep hcomma, List.map_cons, hf,
        hsplit, hrest]

/-- White space at the end of a line of flags belongs to no flag. -/
lemma flagsOf_trimRight (t : Text) : Line.flagsOf (trimRight t) = Line.flagsOf t := by
  have hcons : ∀ (d : Char) {p q : Text}, trimRight p = trimRight q →
      trimRight (d :: p) = trimRight (d :: q) := by
    intro d p q h
    rw [← List.singleton_append, ← List.singleton_append (l := q)]
    by_cases hq : trimRight q = []
    · rw [trimRight_append_of_blank (h.trans hq), trimRight_append_of_blank hq]
    · rw [trimRight_append (h ▸ hq), trimRight_append hq, h]
  -- A blank at the end goes to the last flag, which is trimmed anyway.
  have hblank : ∀ (t : Text) {c : Char}, isBlank c = true →
      (splitOn ',' (t ++ [c])).map trimRight = (splitOn ',' t).map trimRight := by
    intro t c hc
    have hcomma : c ≠ ',' := by
      rintro rfl
      exact absurd hc (by decide)
    induction t with
    | nil => simp [splitOn, hcomma, trimRight, hc]
    | cons d t ih =>
      rw [List.cons_append, splitOn, splitOn]
      split
      · rw [List.map_cons, List.map_cons, ih]
      · cases hs : splitOn ',' (t ++ [c]) with
        | nil => exact absurd hs (splitOn_ne_nil ',' _)
        | cons p ps =>
          cases hs' : splitOn ',' t with
          | nil => exact absurd hs' (splitOn_ne_nil ',' _)
          | cons q qs =>
            rw [hs, hs', List.map_cons, List.map_cons, List.cons.injEq] at ih
            rw [List.map_cons, List.map_cons, hcons d ih.1, ih.2]
  have hflags : ∀ u : Text,
      Line.flagsOf u = ((splitOn ',' u).map trimRight).map trimLeft := by
    intro u
    rw [Line.flagsOf, List.map_map]
    exact List.map_congr_left fun p _ => (trimLeft_trimRight p).symm
  -- The white space is taken off from the end, character by character.
  induction t using List.reverseRecOn with
  | nil => rfl
  | append_singleton t c ih =>
    by_cases hc : isBlank c = true
    · rw [trimRight_append_of_blank (by simp [trimRight, hc]), ih, hflags, hflags, hblank t hc]
    · rw [trimRight_eq_self]
      simpa [NoTrailingBlank] using hc

/-- Only no flag at all and a single empty one leave nothing to be written behind the mark. -/
lemma trimRight_join_ne_nil {fs : List Text} (hne : fs ≠ []) (hempty : fs ≠ [[]])
    (h : ∀ f ∈ fs, trim f = f) : trimRight (join ", " fs) ≠ [] := by
  obtain ⟨f, fs, rfl⟩ := List.exists_cons_of_ne_nil hne
  cases fs with
  | nil =>
    have hf : NoTrailingBlank f := noTrailingBlank_of_trim (h f List.mem_cons_self)
    rw [join_singleton, trimRight_eq_self hf]
    simpa using hempty
  | cons g fs =>
    rw [Ne, trimRight_eq_nil_iff]
    intro hblank
    exact absurd (hblank ',' (by simp)) (by decide)

lemma ofText?_flags {fs : List Text} (hne : fs ≠ []) (hempty : fs ≠ [[]])
    (h : ∀ f ∈ fs, ',' ∉ f ∧ trim f = f) :
    Line.ofText? (trim ('#' :: ',' :: ' ' :: join ", " fs)) =
      some ⟨['#', ','], false, .ok (some (.flags fs))⟩ := by
  have hjoin := trimRight_join_ne_nil hne hempty fun f hf => (h f hf).2
  rw [ofText?_mark (by decide) (by decide)]
  have hdrop := drop_trim_mark (m := ',') (by decide) (join ", " fs)
  have hwords := leadingWords_isEmpty (join ", " fs)
  obtain ⟨t, ht⟩ := exists_trim_mark (m := ',') (by decide) (join ", " fs)
  rw [ht] at hdrop ⊢
  rw [contentOf_mark, if_neg (by decide), if_pos rfl, hdrop, hwords, decide_eq_false hjoin,
    flagsOf_trimRight, flagsOf_join hne h]
  rfl

/-! ### Lines about the previous text -/

lemma previousLabel_shape {label : Text} {name : Field}
    (h : Line.previousFieldOf? label = some name) :
    ∃ t, label = 'm' :: t ∧ ∀ c ∈ label, isBlank c = false := by
  unfold Line.previousFieldOf? at h
  split_ifs at h with hlabel hlabel hlabel
  all_goals
    rw [hlabel]
    simp only [String.reduceToList]
    exact ⟨_, rfl, by simp; decide⟩

lemma contentOf_previous {l : Text} (h : NoTrailingBlank l) (hl : l ≠ []) (more : List Text) :
    Line.contentOf (trim ('#' :: '|' :: ' ' :: l)) ['#', '|'] more =
      Line.previousOf ('#' :: '|' :: ' ' :: l) more := by
  have htrim : trim ('#' :: '|' :: ' ' :: l) = '#' :: '|' :: ' ' :: l := by
    rw [trim_mark (by decide), trimRight_eq_self h, if_neg hl]
  rw [htrim, contentOf_mark]
  rfl

/-- The first line of a previous text. -/
lemma ofText?_previous {label : Text} {name : Field} (h : Line.previousFieldOf? label = some name)
    (p : Text) :
    Line.ofText? (trim ('#' :: '|' :: ' ' :: (label ++ ' ' :: quotedPiece p))) =
      some ⟨['#', '|'], false, .ok (some (.field name p))⟩ := by
  obtain ⟨t, hshape, hblank⟩ := previousLabel_shape h
  have hne : label ≠ [] := by simp [hshape]
  have hlast : NoTrailingBlank (label ++ ' ' :: quotedPiece p) := by
    have := noTrailingBlank_append_quotedPiece (label ++ [' ']) p
    simpa using this
  rw [ofText?_mark (by decide) (by decide), trimRight_eq_self hlast,
    contentOf_previous hlast (by simp [hne]), leadingWords_append_space hne hblank]
  obtain ⟨w, ws, hw⟩ := leadingWords_quotedPiece 0 p
  have hstart : startsWith label ['"'] = false := by
    rw [hshape]
    rfl
  have hbody : trimLeft (' ' :: (label ++ ' ' :: quotedPiece p)) = label ++ ' ' :: quotedPiece p := by
    rw [trimLeft_cons_of_blank (by decide), hshape, List.cons_append,
      trimLeft_cons_of_not_blank (by decide)]
  have hvalue : trimLeft ((label ++ ' ' :: quotedPiece p).drop label.length) = quotedPiece p := by
    rw [List.drop_left, trimLeft_cons_of_blank (by decide), trimLeft_quotedPiece]
  have hdrop : ('#' :: '|' :: ' ' :: (label ++ ' ' :: quotedPiece p)).drop 2 =
      ' ' :: (label ++ ' ' :: quotedPiece p) := rfl
  rw [Line.previousOf, hw, hdrop, hbody, hvalue, unquoted_quotedPiece]
  simp [hstart, h]

/-- A further line of a previous text. -/
lemma ofText?_previousContinuation (p : Text) :
    Line.ofText? (trim ('#' :: '|' :: ' ' :: quotedPiece p)) =
      some ⟨['#', '|'], false, .ok (some (.continuation p))⟩ := by
  have hlast : NoTrailingBlank (quotedPiece p) := noTrailingBlank_append_quotedPiece [] p
  rw [ofText?_mark (by decide) (by decide), trimRight_eq_self hlast,
    contentOf_previous hlast (by simp [quotedPiece])]
  obtain ⟨w, ws, hw⟩ := leadingWords_quotedPiece 1 p
  have hbody : trimLeft (' ' :: quotedPiece p) = quotedPiece p := by
    rw [trimLeft_cons_of_blank (by decide), trimLeft_quotedPiece]
  simp [Line.previousOf, hw, startsWith, hbody, unquoted_quotedPiece]

/-- A line about the previous text of an obsolete entry is passed over. -/
lemma ofText?_obsoletePrevious {l : Text} (hl : l ≠ []) (h : NoTrailingBlank l) :
    Line.ofText? (trim ('#' :: '~' :: '|' :: ' ' :: l)) =
      some ⟨['#', '~', '|'], false, .ok none⟩ := by
  have htrim : trim ('#' :: '~' :: '|' :: ' ' :: l) = '#' :: '~' :: '|' :: ' ' :: l :=
    trim_eq_self (by decide) (h.append hl ['#', '~', '|', ' '])
  have hlead : leadingWords 2 ('#' :: '~' :: '|' :: ' ' :: l) =
      ['#', '~', '|'] :: leadingWords 1 l :=
    leadingWords_append_space (w := ['#', '~', '|']) (by simp) (by simp; decide) 1 l
  rw [htrim, Line.ofText?, hlead]
  rfl

/-! ### Comments of the translator -/

/-- The line of a comment as it is read: an empty comment leaves the mark alone. -/
def commentLine (l : Text) : Text := if l.isEmpty then ['#'] else '#' :: ' ' :: l

lemma ofText?_commentLine {l : Text} (h : NoTrailingBlank l) :
    Line.ofText? (trim (commentLine l)) =
      some ⟨['#'], false, .ok (some (.comment (commentLine l)))⟩ := by
  cases l with
  | nil => rfl
  | cons c l =>
    have hline : commentLine (c :: l) = '#' :: ' ' :: c :: l := rfl
    have htrim : trim ('#' :: ' ' :: c :: l) = '#' :: ' ' :: c :: l :=
      trim_eq_self (by decide) (h.append (List.cons_ne_nil c l) ['#', ' '])
    have hlead : leadingWords 2 ('#' :: ' ' :: c :: l) = ['#'] :: leadingWords 1 (c :: l) :=
      leadingWords_append_space (w := ['#']) (by simp) (by simp; decide) 1 (c :: l)
    have hcontent : Line.contentOf ('#' :: ' ' :: c :: l) ['#'] (leadingWords 1 (c :: l)) =
        .ok (some (.comment ('#' :: ' ' :: c :: l))) := by
      simp only [Line.contentOf, fieldOf?_mark, ite_self]
      rfl
    rw [hline, htrim, Line.ofText?, hlead, ← hcontent]
    rfl

lemma trim_comment {l : Text} (h : NoTrailingBlank l) :
    trim ('#' :: ' ' :: l) = trim (commentLine l) := by
  cases l with
  | nil => rfl
  | cons c l => rfl

end MessageCatalog.Document
