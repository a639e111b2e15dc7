import Mathlib
import MessageCatalog.Proofs.Document.Fields

/-!
# Reading written comments and flags

Comments, places of use and flags come before the fields of an entry. Each of their lines adds to
the record that is being built; the first of them begins that record, if the one before is
complete. What all of them keep is stated as `State.Collects`.
-/

namespace MessageCatalog

open Text

/-! ### Comments as they are written -/

/-- The comments of an entry that are written: an obsolete entry keeps those of the translator. -/
def Entry.writtenComments (e : Entry) : EntryComments :=
  let c := e.comments.getD {}
  if e.obsolete then { translator := c.translator } else c

namespace Document

/-- The lines of a comment, if there is one. -/
def textLines (t : Option Text) : List Text := if isGiven t then splitOn '\n' (t.getD []) else []

lemma textLines_none : textLines none = [] := rfl

lemma textLines_eq_of_ne_nil {t : Option Text} (h : t.getD [] ≠ []) :
    textLines t = splitOn '\n' (t.getD []) := by
  match t with
  | none => exact absurd rfl h
  | some [] => exact absurd rfl h
  | some (_ :: _) => rfl

lemma textLines_eq_nil {t : Option Text} (h : t.getD [] = []) : textLines t = [] := by
  match t with
  | none => rfl
  | some [] => rfl
  | some (_ :: _) => exact absurd h (List.cons_ne_nil _ _)

lemma mem_textLines {t : Option Text} {l : Text} (h : l ∈ textLines t) :
    ∃ u ∈ t, l ∈ splitOn '\n' u := by
  match t with
  | none => exact absurd h List.not_mem_nil
  | some [] => exact absurd h List.not_mem_nil
  | some (c :: u) => exact ⟨c :: u, rfl, h⟩

lemma commentLines_eq (e : Entry) :
    commentLines e =
      (textLines e.writtenComments.extracted).map (fun l => '#' :: '.' :: ' ' :: l) ++
      (textLines e.writtenComments.translator).map (fun l => '#' :: ' ' :: l) ++
      ((textLines e.writtenComments.reference).filter fun l => !l.isEmpty).map
        (fun l => '#' :: ':' :: ' ' :: l) := by
  have hblock : ∀ (mark : Text) (t : Option Text),
      (if isGiven t then (splitOn '\n' (t.getD [])).map fun l => mark ++ l else []) =
        (textLines t).map fun l => mark ++ l := by
    intro mark t
    rw [textLines]
    split <;> rfl
  have hreferences : ∀ t : Option Text,
      (if isGiven t then ((splitOn '\n' (t.getD [])).filter fun l => !l.isEmpty).map
        fun l => ("#: " : Text) ++ l else []) =
        ((textLines t).filter fun l => !l.isEmpty).map fun l => '#' :: ':' :: ' ' :: l := by
    intro t
    rw [textLines]
    split <;> rfl
  cases ho : e.obsolete with
  | true =>
    simp only [commentLines, Entry.writtenComments, ho, hblock, if_true, textLines_none]
    simp
  | false =>
    simp only [commentLines, Entry.writtenComments, ho, hblock, hreferences, Bool.false_eq_true,
      if_false]
    simp

/-- Adding the lines of a comment one after another gives the comment. -/
lemma foldl_addLine {t : Text} (h : t.head? ≠ some '\n') :
    (splitOn '\n' t).foldl Record.addLine [] = t := by
  have hrest : ∀ (ls : List Text) (c : Text), c ≠ [] →
      ls.foldl Record.addLine c = join ['\n'] (c :: ls) := by
    intro ls
    induction ls with
    | nil => simp
    | cons l ls ih =>
      intro c hc
      have hadd : Record.addLine c l = c ++ '\n' :: l := by
        simp [Record.addLine, hc]
      rw [List.foldl_cons, hadd, ih _ (by simp), ← join_glue ['\n'] c l ls]
      simp
  have hjoin := join_splitOn '\n' t
  cases hs : splitOn '\n' t with
  | nil => exact absurd hs (splitOn_ne_nil '\n' t)
  | cons l ls =>
    rw [hs] at hjoin
    have hfirst : Record.addLine [] l = l := rfl
    rw [List.foldl_cons, hfirst]
    by_cases hl : l = []
    · cases ls with
      | nil =>
        rw [hl] at hjoin ⊢
        simpa using hjoin
      | cons m ls =>
        rw [hl] at hjoin
        rw [← hjoin] at h
        simp at h
    · rw [hrest ls l hl, hjoin]

lemma foldl_addLine_textLines {t : Option Text} (h : ∀ u ∈ t, u.head? ≠ some '\n') :
    (textLines t).foldl Record.addLine [] = t.getD [] := by
  by_cases ht : t.getD [] = []
  · rw [textLines_eq_nil ht, ht]
    rfl
  · rw [textLines_eq_of_ne_nil ht]
    apply foldl_addLine
    cases t with
    | none => exact absurd rfl ht
    | some u => exact h u rfl

/-! ### What a state collects -/

/-- The state builds the record `r`, when `D` are the complete ones, and a field may begin. -/
structure State.Collects (s : State) (h : Text) (D : List Record) (r : Record) : Prop where
  header : s.header = h
  done : s.turnOver.done = D
  current : s.turnOver.current = r
  free : State.allows s.position .context = true

/-- The state is past the comment at the top. -/
def State.InBody (s : State) : Prop := s.position ≠ .start ∧ s.position ≠ .header

lemma State.turnOver_header (s : State) : s.turnOver.header = s.header := by
  rw [State.turnOver]
  split <;> rfl

/-- A line that adds to the record that is being built. -/
def Adds (l : Text) (g : Record → Record) : Prop :=
  ∀ (s : State) (h : Text) (D : List Record) (r : Record), s.Collects h D r → s.InBody →
    ∃ s', Passes s [l] s' ∧ s'.Collects h D (g r) ∧ s'.InBody

/-- Where comments and flags leave the reader. -/
def Position.IsComment (p : Position) : Prop :=
  p = .comment ∨ p = .extracted ∨ p = .occurrences ∨ p = .flags

/-- A state that is reached by such a line collects what the line adds. -/
lemma State.Collects.of_turnOver {s : State} {h : Text} {D : List Record} {r : Record}
    (hs : s.Collects h D r) {p : Position} (hp : p.IsComment) (g : Record → Record) :
    ({ s.turnOver with position := p, current := g s.turnOver.current } : State).Collects h D
        (g r) ∧
      ({ s.turnOver with position := p, current := g s.turnOver.current } : State).InBody := by
  obtain ⟨hheader, hdone, hcurrent, -⟩ := hs
  rcases hp with rfl | rfl | rfl | rfl
  all_goals
    refine ⟨⟨?_, hdone, ?_, rfl⟩, ?_, ?_⟩
    · exact (State.turnOver_header s).trans hheader
    · exact congrArg g hcurrent
    · exact Position.noConfusion
    · exact Position.noConfusion

/-- Several such lines add what each of them adds. -/
lemma exists_passes_of_adds {α : Type} {f : α → Text} {g : α → Record → Record} {xs : List α}
    (hadd : ∀ x ∈ xs, Adds (f x) (g x)) {s : State} {h : Text} {D : List Record} {r : Record}
    (hs : s.Collects h D r) (hbody : s.InBody) :
    ∃ s', Passes s (xs.map f) s' ∧ s'.Collects h D (xs.foldl (fun r x => g x r) r) ∧
      s'.InBody := by
  induction xs generalizing s r with
  | nil => exact ⟨s, Passes.refl s, hs, hbody⟩
  | cons x xs ih =>
    obtain ⟨s₁, hpass, hs₁, hbody₁⟩ := hadd x List.mem_cons_self s h D r hs hbody
    obtain ⟨s₂, hpass', hs₂, hbody₂⟩ :=
      ih (fun y hy => hadd y (List.mem_cons_of_mem x hy)) hs₁ hbody₁
    exact ⟨s₂, hpass.trans hpass', hs₂, hbody₂⟩

/-! ### One line -/

lemma adds_extracted {l : Text} (hl : l ≠ []) (hlast : NoTrailingBlank l) :
    Adds ('#' :: '.' :: ' ' :: l)
      (fun r => { r with extractedComment := Record.addLine r.extractedComment l }) := by
  intro s h D r hs _
  obtain ⟨hcollects, hbody⟩ := hs.of_turnOver (p := .extracted) (by simp [Position.IsComment])
    (fun r => { r with extractedComment := Record.addLine r.extractedComment l })
  exact ⟨_, passes_line (ofText?_extracted hl hlast) rfl, hcollects, hbody⟩

lemma adds_occurrences (l : Text) :
    Adds ('#' :: ':' :: ' ' :: l)
      (fun r => { r with occurrences := r.occurrences ++ (words l).map Line.occurrenceOf }) := by
  intro s h D r hs hbody
  by_cases hl : words l = []
  · have hread := ofText?_occurrences l
    rw [if_pos hl] at hread
    exact ⟨s, passes_silent hread s, by simpa [hl] using hs, hbody⟩
  · have hread := ofText?_occurrences l
    rw [if_neg hl] at hread
    obtain ⟨hcollects, hbody⟩ := hs.of_turnOver (p := .occurrences)
      (by simp [Position.IsComment])
      (fun r => { r with occurrences := r.occurrences ++ (words l).map Line.occurrenceOf })
    exact ⟨_, passes_line hread rfl, hcollects, hbody⟩

lemma adds_translator {l : Text} (hlast : NoTrailingBlank l) :
    Adds ('#' :: ' ' :: l)
      (fun r => { r with translatorComment := Record.addLine r.translatorComment l }) := by
  intro s h D r hs hin
  obtain ⟨hcollects, hbody⟩ := hs.of_turnOver (p := .comment) (by simp [Position.IsComment])
    (fun r => { r with translatorComment := Record.addLine r.translatorComment l })
  refine ⟨_, passes_line (by rw [trim_comment hlast, ofText?_commentLine hlast]) ?_, hcollects,
    hbody⟩
  have hcontext : s.position ≠ .field .context := by
    intro hpos
    have hfree := hs.free
    rw [hpos] at hfree
    exact Bool.false_ne_true hfree
  rw [State.step]
  split
  · exact absurd ‹_› hin.1
  · exact absurd ‹_› hin.2
  · exact absurd ‹_› hcontext
  · -- the mark and one blank are taken off again
    cases l with
    | nil => rfl
    | cons c l => rfl

/-! ### All comments of an entry -/

/-- The lines of a comment hold no line boundary and do not end in white space. -/
def IsCommentText (t : Text) : Prop := ∀ l ∈ splitOn '\n' t, OneLine l ∧ NoTrailingBlank l

instance (t : Text) : Decidable (IsCommentText t) :=
  inferInstanceAs (Decidable (∀ l ∈ splitOn '\n' t, OneLine l ∧ NoTrailingBlank l))

instance (t : Text) : Decidable ([] ∈ splitOn '\n' t) :=
  decidable_of_iff ((splitOn '\n' t).any List.isEmpty = true) (by simp)

/-- Comments that can be written and read again. -/
@[mk_iff]
structure WritableComments (c : EntryComments) : Prop where
  extracted : ∀ t ∈ c.extracted, IsCommentText t ∧ [] ∉ splitOn '\n' t
  translator : ∀ t ∈ c.translator, IsCommentText t ∧ t.head? ≠ some '\n'
  reference : ∀ t ∈ c.reference, ∀ l ∈ splitOn '\n' t, OneLine l

instance (c : EntryComments) : Decidable (WritableComments c) :=
  decidable_of_iff' _ (writableComments_iff c)

lemma head?_ne_of_not_mem_splitOn {t : Text} (h : [] ∉ splitOn '\n' t) :
    t.head? ≠ some '\n' := by
  cases t with
  | nil => simp
  | cons c t =>
    intro hc
    obtain rfl : c = '\n' := by simpa using hc
    exact h (by simp [splitOn])

lemma oneLine_commentLines {e : Entry} (h : WritableComments e.writtenComments) :
    ∀ l ∈ commentLines e, OneLine l := by
  have hmark : OneLine ['#', '.', ' '] ∧ OneLine ['#', ' '] ∧ OneLine ['#', ':', ' '] := by
    simp [OneLine]
    decide
  intro l hl
  rw [commentLines_eq] at hl
  rcases List.mem_append.mp hl with hl | hl
  · rcases List.mem_append.mp hl with hl | hl
    · obtain ⟨m, hm, rfl⟩ := List.mem_map.mp hl
      obtain ⟨t, ht, hm⟩ := mem_textLines hm
      exact hmark.1.append ((h.extracted t ht).1 m hm).1
    · obtain ⟨m, hm, rfl⟩ := List.mem_map.mp hl
      obtain ⟨t, ht, hm⟩ := mem_textLines hm
      exact hmark.2.1.append ((h.translator t ht).1 m hm).1
  · obtain ⟨m, hm, rfl⟩ := List.mem_map.mp hl
    obtain ⟨t, ht, hm⟩ := mem_textLines (List.mem_filter.mp hm).1
    exact hmark.2.2.append (h.reference t ht m hm)

/-- The places of use of a reference comment. -/
def occurrencesOf (t : Option Text) : List Occurrence :=
  (words (t.getD [])).map Line.occurrenceOf

lemma foldl_occurrences (t : Option Text) (r : Record) :
    ((textLines t).filter fun l => !l.isEmpty).foldl
        (fun r l => { r with occurrences := r.occurrences ++ (words l).map Line.occurrenceOf }) r =
      { r with occurrences := r.occurrences ++ occurrencesOf t } := by
  have hfold : ∀ (ls : List Text) (r : Record),
      (ls.filter fun l => !l.isEmpty).foldl
        (fun r l => { r with occurrences := r.occurrences ++ (words l).map Line.occurrenceOf }) r =
      { r with occurrences := r.occurrences ++ (ls.flatMap words).map Line.occurrenceOf } := by
    intro ls
    induction ls with
    | nil => simp
    | cons l ls ih =>
      intro r
      cases l with
      | nil => simp [ih]
      | cons c l =>
        rw [List.filter_cons_of_pos (by simp), List.foldl_cons, ih]
        simp
  rw [hfold, occurrencesOf]
  by_cases ht : t.getD [] = []
  · rw [textLines_eq_nil ht, ht]
    simp
  · rw [textLines_eq_of_ne_nil ht, ← words_eq_flatMap_splitOn]

lemma foldl_translator (ls : List Text) (r : Record) :
    ls.foldl (fun r l => { r with translatorComment := Record.addLine r.translatorComment l }) r =
      { r with translatorComment := ls.foldl Record.addLine r.translatorComment } := by
  induction ls generalizing r with
  | nil => rfl
  | cons l ls ih => rw [List.foldl_cons, ih, List.foldl_cons]

lemma foldl_extracted (ls : List Text) (r : Record) :
    ls.foldl (fun r l => { r with extractedComment := Record.addLine r.extractedComment l }) r =
      { r with extractedComment := ls.foldl Record.addLine r.extractedComment } := by
  induction ls generalizing r with
  | nil => rfl
  | cons l ls ih => rw [List.foldl_cons, ih, List.foldl_cons]

/-- Reading the comments of an entry puts them into its record. -/
theorem exists_passes_commentLines {e : Entry} (h : WritableComments e.writtenComments)
    {s : State} {top : Text} {D : List Record} (hs : s.Collects top D {}) (hbody : s.InBody) :
    ∃ s', Passes s (commentLines e) s' ∧ s'.InBody ∧ s'.Collects top D
      { extractedComment := e.writtenComments.extracted.getD []
        translatorComment := e.writtenComments.translator.getD []
        occurrences := occurrencesOf e.writtenComments.reference } := by
  rw [commentLines_eq]
  have hextracted : ∀ l ∈ textLines e.writtenComments.extracted, Adds ('#' :: '.' :: ' ' :: l)
      (fun r => { r with extractedComment := Record.addLine r.extractedComment l }) := by
    intro l hl
    obtain ⟨t, ht, hl⟩ := mem_textLines hl
    have hne : l ≠ [] := fun hnil => (h.extracted t ht).2 (hnil ▸ hl)
    exact adds_extracted hne ((h.extracted t ht).1 l hl).2
  have htranslator : ∀ l ∈ textLines e.writtenComments.translator, Adds ('#' :: ' ' :: l)
      (fun r => { r with translatorComment := Record.addLine r.translatorComment l }) := by
    intro l hl
    obtain ⟨t, ht, hl⟩ := mem_textLines hl
    exact adds_translator ((h.translator t ht).1 l hl).2
  have hreference : ∀ l ∈ (textLines e.writtenComments.reference).filter fun l => !l.isEmpty,
      Adds ('#' :: ':' :: ' ' :: l)
        (fun r => { r with occurrences := r.occurrences ++ (words l).map Line.occurrenceOf }) :=
    fun l _ => adds_occurrences l
  obtain ⟨s₁, hpass₁, hs₁, hbody₁⟩ := exists_passes_of_adds hextracted hs hbody
  obtain ⟨s₂, hpass₂, hs₂, hbody₂⟩ := exists_passes_of_adds htranslator hs₁ hbody₁
  obtain ⟨s₃, hpass₃, hs₃, hbody₃⟩ := exists_passes_of_adds hreference hs₂ hbody₂
  refine ⟨s₃, (hpass₁.trans hpass₂).trans hpass₃, hbody₃, ?_⟩
  rw [foldl_occurrences, foldl_translator, foldl_extracted,
    foldl_addLine_textLines fun t ht => (h.translator t ht).2,
    foldl_addLine_textLines fun t ht => head?_ne_of_not_mem_splitOn (h.extracted t ht).2] at hs₃
  simpa using hs₃

/-! ### Flags -/

/-- A flag that can be written and read again. -/
@[mk_iff]
structure WritableFlag (f : Text) : Prop where
  ne_nil : f ≠ []
  comma : ',' ∉ f
  oneLine : OneLine f
  trim : trim f = f

instance (f : Text) : Decidable (WritableFlag f) := decidable_of_iff' _ (writableFlag_iff f)

/-- Flags that are read again as they are written. Of a single empty flag nothing would be left. -/
@[mk_iff]
structure LegibleFlags (fs : List Text) : Prop where
  empty : fs ≠ [[]]
  flag : ∀ f ∈ fs, ',' ∉ f ∧ OneLine f ∧ trim f = f

lemma legibleFlags_of_writable {fs : List Text} (h : ∀ f ∈ fs, WritableFlag f) :
    LegibleFlags fs where
  empty := by
    rintro rfl
    exact (h [] List.mem_cons_self).ne_nil rfl
  flag f hf := ⟨(h f hf).comma, (h f hf).oneLine, (h f hf).trim⟩

lemma oneLine_join {sep : Text} (hsep : OneLine sep) {ps : List Text}
    (h : ∀ p ∈ ps, OneLine p) : OneLine (join sep ps) := by
  induction ps with
  | nil => simp [OneLine]
  | cons p ps ih =>
    have hp := h p List.mem_cons_self
    cases ps with
    | nil => simpa using hp
    | cons q ps =>
      rw [join_cons_cons]
      exact (hp.append hsep).append (ih fun r hr => h r (List.mem_cons_of_mem p hr))

lemma LegibleFlags.oneLine_flagLines {fs : List Text} (h : LegibleFlags fs) :
    ∀ l ∈ flagLines fs, OneLine l := by
  intro l hl
  rw [flagLines] at hl
  split at hl
  · exact absurd hl List.not_mem_nil
  · have hsep : OneLine (", " : Text) ∧ OneLine ("#, " : Text) := by
      simp [OneLine]
      decide
    rw [List.mem_singleton.mp hl]
    exact hsep.2.append (oneLine_join hsep.1 fun f hf => (h.flag f hf).2.1)

/-- Reading the line of the flags puts them into the record. -/
lemma LegibleFlags.exists_passes_flagLines {fs : List Text} (h : LegibleFlags fs) {s : State}
    {top : Text} {D : List Record} {r : Record} (hs : s.Collects top D r) :
    ∃ s', Passes s (flagLines fs) s' ∧ s'.Collects top D { r with flags := r.flags ++ fs } := by
  cases fs with
  | nil => exact ⟨s, Passes.refl s, by simpa using hs⟩
  | cons f fs =>
    have hread := ofText?_flags (List.cons_ne_nil f fs) h.empty
      fun g hg => ⟨(h.flag g hg).1, (h.flag g hg).2.2⟩
    obtain ⟨hcollects, -⟩ := hs.of_turnOver (p := .flags) (by simp [Position.IsComment])
      (fun r => { r with flags := r.flags ++ f :: fs })
    exact ⟨_, passes_line hread rfl, hcollects⟩

end Document

end MessageCatalog
