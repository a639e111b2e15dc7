import Mathlib
import MessageCatalog.Proofs.Text.Words

/-!
# Lines and pieces

Cutting undoes putting together: a text made of lines is cut into these lines again, and a text
made of pieces around a separator into these pieces, as long as no line holds a line boundary and
no piece the separator.
-/

namespace MessageCatalog.Text

/-- A text without any line boundary. -/
def OneLine (t : Text) : Prop := ∀ c ∈ t, endsLine c = false

instance (t : Text) : Decidable (OneLine t) :=
  decidable_of_iff (t.all fun c => !endsLine c) (by simp [OneLine])

lemma OneLine.append {a b : Text} (ha : OneLine a) (hb : OneLine b) : OneLine (a ++ b) := by
  intro c hc
  rcases List.mem_append.mp hc with h | h
  · exact ha c h
  · exact hb c h

lemma OneLine.sublist {a b : Text} (hb : OneLine b) (h : a.Sublist b) : OneLine a :=
  fun c hc => hb c (h.subset hc)

lemma OneLine.newline_not_mem {t : Text} (h : OneLine t) : '\n' ∉ t := by
  intro hmem
  exact absurd (h _ hmem) (by decide)

/-- A word holds no line boundary. -/
lemma IsWord.oneLine {w : Text} (h : IsWord w) : OneLine w := by
  intro c hc
  by_contra hend
  have hblank := isBlank_of_endsLine (by simpa using hend)
  rw [h.2 c hc] at hblank
  exact Bool.false_ne_true hblank

/-- The text of lines, each ended by a line feed. -/
def unlines (ls : List Text) : Text := ls.flatMap fun l => l ++ ['\n']

@[simp] lemma unlines_nil : unlines [] = [] := rfl

@[simp] lemma unlines_cons (l : Text) (ls : List Text) :
    unlines (l :: ls) = l ++ '\n' :: unlines ls := by
  simp [unlines]

@[simp] lemma unlines_append (as bs : List Text) :
    unlines (as ++ bs) = unlines as ++ unlines bs := by
  simp [unlines]

/-! ### Lines -/

lemma linesWithEnds_append_newline {l : Text} (h : OneLine l) (t : Text) :
    linesWithEnds (l ++ '\n' :: t) = (l ++ ['\n']) :: linesWithEnds t := by
  induction l with
  | nil => simp [linesWithEnds, show endsLine '\n' = true by decide]
  | cons c l ih =>
    have hc : endsLine c = false := h c List.mem_cons_self
    have hl : OneLine l := fun d hd => h d (List.mem_cons_of_mem c hd)
    have hcr : c ≠ '\r' := by
      rintro rfl
      exact absurd hc (by decide)
    rw [List.cons_append, linesWithEnds, ih hl]
    · simp [hc]
    · intro _ hc' _
      exact hcr hc'

/-- Lines that are put together are found again. -/
lemma lines_unlines {ls : List Text} (h : ∀ l ∈ ls, OneLine l) : lines (unlines ls) = ls := by
  induction ls with
  | nil => rfl
  | cons l ls ih =>
    have hl : OneLine l := h l List.mem_cons_self
    have hls := ih fun m hm => h m (List.mem_cons_of_mem l hm)
    have htake : (l ++ ['\n']).takeWhile (fun c => !endsLine c) = l := by
      rw [List.takeWhile_append_of_pos fun c hc => by simp [hl c hc]]
      simp [show endsLine '\n' = true by decide]
    rw [unlines_cons, lines, linesWithEnds_append_newline hl, List.map_cons, htake]
    exact congrArg (l :: ·) hls

lemma oneLine_of_mem_lines {t l : Text} (h : l ∈ lines t) : OneLine l := by
  obtain ⟨m, -, rfl⟩ := List.mem_map.mp h
  intro c hc
  simpa using List.mem_takeWhile_imp hc

/-! ### Joining -/

@[simp] lemma join_nil (sep : Text) : join sep [] = [] := by
  simp [join, List.intercalate]

@[simp] lemma join_singleton (sep t : Text) : join sep [t] = t := by
  simp [join, List.intercalate]

@[simp] lemma join_cons_cons (sep t u : Text) (us : List Text) :
    join sep (t :: u :: us) = t ++ sep ++ join sep (u :: us) := by
  simp [join, List.intercalate]

lemma join_ne_nil {sep t : Text} {ts : List Text} (ht : t ∈ ts) (hne : t ≠ []) :
    join sep ts ≠ [] := by
  induction ts with
  | nil => exact absurd ht List.not_mem_nil
  | cons u us ih =>
    cases us with
    | nil =>
      obtain rfl := List.mem_singleton.mp ht
      rwa [join_singleton]
    | cons v us =>
      rw [join_cons_cons]
      rcases List.mem_cons.mp ht with rfl | ht
      · simp [hne]
      · simp [ih ht]

lemma mem_join {sep : Text} {ts : List Text} {x : Char} (h : x ∈ join sep ts) :
    x ∈ sep ∨ ∃ t ∈ ts, x ∈ t := by
  induction ts with
  | nil => simp at h
  | cons t ts ih =>
    cases ts with
    | nil => exact Or.inr ⟨t, List.mem_cons_self, by simpa using h⟩
    | cons u ts =>
      rw [join_cons_cons, List.mem_append, List.mem_append] at h
      rcases h with (h | h) | h
      · exact Or.inr ⟨t, List.mem_cons_self, h⟩
      · exact Or.inl h
      · exact (ih h).imp_right fun ⟨v, hv, hx⟩ => ⟨v, List.mem_cons_of_mem t hv, hx⟩

lemma subset_join (sep : Text) {t : Text} {ts : List Text} (h : t ∈ ts) : t ⊆ join sep ts := by
  induction ts with
  | nil => exact absurd h List.not_mem_nil
  | cons u ts ih =>
    cases ts with
    | nil =>
      rw [List.mem_singleton.mp h, join_singleton]
      exact List.Subset.refl u
    | cons v ts =>
      rw [join_cons_cons]
      rcases List.mem_cons.mp h with rfl | h
      · exact fun x hx => List.mem_append_left _ (List.mem_append_left _ hx)
      · exact fun x hx => List.mem_append_right _ (ih h hx)

/-- One more piece comes after the others, with a separator before it. -/
lemma join_concat (sep t : Text) {ts : List Text} (h : ts ≠ []) :
    join sep (ts ++ [t]) = join sep ts ++ sep ++ t := by
  induction ts with
  | nil => exact absurd rfl h
  | cons u us ih =>
    cases us with
    | nil => simp
    | cons v us =>
      rw [List.cons_append] at ih
      rw [List.cons_append, List.cons_append, join_cons_cons, ih (List.cons_ne_nil v us),
        join_cons_cons]
      simp only [List.append_assoc]

lemma join_concat_append (sep t u : Text) (ts : List Text) :
    join sep (ts ++ [t ++ u]) = join sep (ts ++ [t]) ++ u := by
  by_cases h : ts = []
  · simp [h]
  · rw [join_concat sep _ h, join_concat sep _ h, List.append_assoc _ t]

/-- Two pieces that stand together are joined first. -/
lemma join_glue (sep t u : Text) (us : List Text) :
    join sep ((t ++ sep ++ u) :: us) = join sep (t :: u :: us) := by
  cases us <;> simp

/-- Lines before an empty one are each ended by a line feed. -/
lemma join_append_nil (ls : List Text) : join "\n" (ls ++ [[]]) = unlines ls := by
  induction ls with
  | nil => simp
  | cons l ls ih =>
    cases ls with
    | nil => simp
    | cons m ls =>
      rw [List.cons_append] at ih
      rw [List.cons_append, List.cons_append, join_cons_cons, ih]
      simp

/-- Blocks of lines with line feeds between them are one text of lines, in which empty lines stand
between the blocks. -/
lemma join_map_unlines (blocks : List (List Text)) :
    join "\n" (blocks.map unlines) = unlines ([[]].intercalate blocks) := by
  induction blocks with
  | nil => simp [List.intercalate]
  | cons b blocks ih =>
    cases blocks with
    | nil => simp [List.intercalate]
    | cons b' blocks =>
      rw [List.map_cons] at ih
      rw [List.map_cons, List.map_cons, join_cons_cons, ih]
      simp [List.intercalate]

lemma unlines_splitOn (t : Text) : unlines (splitOn '\n' t) = t ++ ['\n'] := by
  have hjoin : ∀ ls : List Text, ls ≠ [] → unlines ls = join ['\n'] ls ++ ['\n'] := by
    intro ls hls
    induction ls with
    | nil => exact absurd rfl hls
    | cons l ls ih =>
      cases ls with
      | nil => simp
      | cons m ls =>
        rw [unlines_cons, ih (by simp), join_cons_cons]
        simp
  rw [hjoin _ (splitOn_ne_nil '\n' t), join_splitOn]

/-! ### Splitting -/

lemma splitOn_append_sep {sep : Char} {a : Text} (h : sep ∉ a) (b : Text) :
    splitOn sep (a ++ sep :: b) = a :: splitOn sep b := by
  induction a with
  | nil => simp [splitOn]
  | cons c a ih =>
    have hc : c ≠ sep := fun e => h (e ▸ List.mem_cons_self)
    have ha : sep ∉ a := fun m => h (List.mem_cons_of_mem c m)
    simp [splitOn, hc, ih ha]

lemma splitOn_append {sep : Char} {a : Text} (h : sep ∉ a) {t p : Text} {ps : List Text}
    (ht : splitOn sep t = p :: ps) : splitOn sep (a ++ t) = (a ++ p) :: ps := by
  induction a with
  | nil => exact ht
  | cons c a ih =>
    have hc : c ≠ sep := fun e => h (e ▸ List.mem_cons_self)
    have ha : sep ∉ a := fun m => h (List.mem_cons_of_mem c m)
    simp [splitOn, hc, ih ha]

lemma splitOn_of_not_mem {sep : Char} {a : Text} (h : sep ∉ a) : splitOn sep a = [a] := by
  induction a with
  | nil => rfl
  | cons c a ih =>
    have hc : c ≠ sep := fun e => h (e ▸ List.mem_cons_self)
    have ha : sep ∉ a := fun m => h (List.mem_cons_of_mem c m)
    simp [splitOn, hc, ih ha]

/-- A text that is cut where the separator stands is cut on both sides of it. -/
lemma splitOn_append_splitOn (sep : Char) (a b : Text) :
    splitOn sep (a ++ sep :: b) = splitOn sep a ++ splitOn sep b := by
  induction a with
  | nil => simp [splitOn]
  | cons c a ih =>
    rw [List.cons_append, splitOn, splitOn]
    split
    · rw [ih, List.cons_append]
    · cases hs : splitOn sep a with
      | nil => exact absurd hs (splitOn_ne_nil sep a)
      | cons p ps => rw [ih, hs, List.cons_append, List.cons_append]

/-- Texts that are joined by the separator are cut each for itself. -/
lemma splitOn_join (sep : Char) {ts : List Text} (h : ts ≠ []) :
    splitOn sep (join [sep] ts) = ts.flatMap (splitOn sep) := by
  induction ts with
  | nil => exact absurd rfl h
  | cons t ts ih =>
    cases ts with
    | nil => simp
    | cons u ts =>
      rw [join_cons_cons, List.append_assoc, List.singleton_append, splitOn_append_splitOn,
        ih (by simp), List.flatMap_cons (x := t)]

/-- A piece is a part of the text, and the separator is not in it. -/
lemma of_mem_splitOn {sep : Char} {t p : Text} (h : p ∈ splitOn sep t) :
    sep ∉ p ∧ p.Sublist t := by
  induction t generalizing p with
  | nil =>
    obtain rfl : p = [] := by simpa [splitOn] using h
    exact ⟨List.not_mem_nil, List.Sublist.refl _⟩
  | cons c t ih =>
    rw [splitOn] at h
    split at h
    · rcases List.mem_cons.mp h with rfl | h
      · exact ⟨List.not_mem_nil, List.nil_sublist _⟩
      · exact ⟨(ih h).1, (ih h).2.cons c⟩
    · rename_i hc
      cases hs : splitOn sep t with
      | nil => exact absurd hs (splitOn_ne_nil sep t)
      | cons q qs =>
        rw [hs] at h
        rcases List.mem_cons.mp h with rfl | h
        · obtain ⟨hq, hsub⟩ := ih (by rw [hs]; exact List.mem_cons_self)
          refine ⟨?_, hsub.cons_cons c⟩
          rw [List.mem_cons, not_or]
          exact ⟨Ne.symm hc, hq⟩
        · obtain ⟨hp, hsub⟩ := ih (by rw [hs]; exact List.mem_cons_of_mem q h)
          exact ⟨hp, hsub.cons c⟩

/-- White space between texts separates their words. -/
lemma words_join_blank {sep : Char} (h : isBlank sep = true) (ts : List Text) :
    words (join [sep] ts) = ts.flatMap words := by
  induction ts with
  | nil => simp
  | cons t ts ih =>
    cases ts with
    | nil => simp
    | cons u ts =>
      rw [join_cons_cons, List.append_assoc, List.singleton_append, words_append_blank _ _ h, ih]
      rfl

/-- The words of a text are those of its lines. -/
lemma words_eq_flatMap_splitOn (t : Text) : words t = (splitOn '\n' t).flatMap words := by
  have hend : isBlank '\n' = true := by decide
  rw [← words_join_blank hend, join_splitOn]

/-! ### Cutting once -/

lemma cutFirst_append {sep : Char} {a : Text} (h : sep ∉ a) (b : Text) :
    cutFirst sep (a ++ sep :: b) = some (a, b) := by
  induction a with
  | nil => simp [cutFirst]
  | cons c a ih =>
    have hc : c ≠ sep := fun e => h (e ▸ List.mem_cons_self)
    have ha : sep ∉ a := fun m => h (List.mem_cons_of_mem c m)
    simp [cutFirst, hc, ih ha]

/-- What stands before the first separator does not hold it. -/
lemma of_cutFirst_eq_some {sep : Char} {t a b : Text} (h : cutFirst sep t = some (a, b)) :
    sep ∉ a ∧ t = a ++ sep :: b := by
  induction t generalizing a with
  | nil => simp [cutFirst] at h
  | cons c t ih =>
    rw [cutFirst] at h
    split at h
    · rename_i hc
      simp only [Option.some.injEq, Prod.mk.injEq] at h
      obtain ⟨rfl, rfl⟩ := h
      exact ⟨List.not_mem_nil, by rw [hc, List.nil_append]⟩
    · rename_i hc
      cases hcut : cutFirst sep t with
      | none => simp [hcut] at h
      | some p =>
        obtain ⟨a', b'⟩ := p
        simp only [hcut, Option.map_some, Option.some.injEq, Prod.mk.injEq] at h
        obtain ⟨rfl, rfl⟩ := h
        obtain ⟨ha, rfl⟩ := ih hcut
        refine ⟨?_, rfl⟩
        rw [List.mem_cons, not_or]
        exact ⟨Ne.symm hc, ha⟩

lemma not_mem_of_cutFirst_eq_none {sep : Char} {t : Text} (h : cutFirst sep t = none) :
    sep ∉ t := by
  intro hmem
  obtain ⟨a, b, rfl, ha⟩ := List.eq_append_cons_of_mem hmem
  rw [cutFirst_append ha] at h
  cases h

lemma cutFirst_eq_none {sep : Char} {a : Text} (h : sep ∉ a) : cutFirst sep a = none := by
  induction a with
  | nil => rfl
  | cons c a ih =>
    have hc : c ≠ sep := fun e => h (e ▸ List.mem_cons_self)
    have ha : sep ∉ a := fun m => h (List.mem_cons_of_mem c m)
    simp [cutFirst, hc, ih ha]

lemma eq_append_of_cutLast {sep : Char} {t a b : Text} (h : cutLast sep t = some (a, b)) :
    t = a ++ sep :: b := by
  induction t generalizing a with
  | nil => simp [cutLast] at h
  | cons c t ih =>
    rw [cutLast] at h
    cases hc : cutLast sep t with
    | some p =>
      obtain ⟨a', b'⟩ := p
      simp only [hc, Option.some.injEq, Prod.mk.injEq] at h
      obtain ⟨rfl, rfl⟩ := h
      rw [ih hc, List.cons_append]
    | none =>
      simp only [hc] at h
      split at h
      · rename_i hsep
        simp only [Option.some.injEq, Prod.mk.injEq] at h
        obtain ⟨rfl, rfl⟩ := h
        rw [hsep, List.nil_append]
      · exact absurd h (by simp)

end MessageCatalog.Text
