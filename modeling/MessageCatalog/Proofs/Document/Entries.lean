import Mathlib
import MessageCatalog.Proofs.Document.Comments

/-!
# Reading written entries

An entry is written as its comments and flags, its previous texts and its fields. The main
statement is that an entry whose texts can be quoted is written at every admissible width, and that
reading its lines completes exactly one record, the record of the entry.
-/

namespace MessageCatalog

open Text

/-- An entry that can be written and read again. -/
@[mk_iff]
structure Entry.Writable (e : Entry) : Prop where
  comments : Document.WritableComments e.writtenComments
  flags : ∀ f ∈ e.flags, Document.WritableFlag f
  previousMsgctxt : ∀ t ∈ e.previousMsgctxt, Quotable t
  previousMsgid : ∀ t ∈ e.previousMsgid, Quotable t
  msgctxt : ∀ t ∈ e.msgctxt, Quotable t
  msgid : Quotable e.msgid
  msgidPlural : ∀ t ∈ e.msgidPlural, Quotable t
  msgstr : ∀ t ∈ e.msgstr, Quotable t
  single : isGiven e.msgidPlural = false → e.msgstr.length = 1
  several : isGiven e.msgidPlural = true → e.msgstr ≠ [] ∧ e.msgstr.length ≤ 10

instance (e : Entry) : Decidable e.Writable := decidable_of_iff' _ (Entry.writable_iff e)

/-- An entry that is read again where it is written. Its texts may hold every line boundary that is
written as an escape, and its flags may be empty. -/
structure Entry.Legible (e : Entry) : Prop where
  comments : Document.WritableComments e.writtenComments
  flags : Document.LegibleFlags e.flags
  previousMsgctxt : ∀ t ∈ e.previousMsgctxt, Escapable t
  previousMsgid : ∀ t ∈ e.previousMsgid, Escapable t
  msgctxt : ∀ t ∈ e.msgctxt, Escapable t
  msgid : Escapable e.msgid
  msgidPlural : ∀ t ∈ e.msgidPlural, Escapable t
  msgstr : ∀ t ∈ e.msgstr, Escapable t
  single : isGiven e.msgidPlural = false → e.msgstr.length = 1
  several : isGiven e.msgidPlural = true → e.msgstr ≠ [] ∧ e.msgstr.length ≤ 10

lemma Entry.Writable.legible {e : Entry} (h : e.Writable) : e.Legible where
  comments := h.comments
  flags := Document.legibleFlags_of_writable h.flags
  previousMsgctxt t ht := (h.previousMsgctxt t ht).escapable
  previousMsgid t ht := (h.previousMsgid t ht).escapable
  msgctxt t ht := (h.msgctxt t ht).escapable
  msgid := h.msgid.escapable
  msgidPlural t ht := (h.msgidPlural t ht).escapable
  msgstr t ht := (h.msgstr t ht).escapable
  single := h.single
  several := h.several

namespace Document

/-- The record that is read from the lines of an entry. -/
def recordOf (e : Entry) : Record where
  msgid := e.msgid
  msgstr := if isGiven e.msgidPlural then [] else e.msgstr.head?.getD []
  msgstrPlural := if isGiven e.msgidPlural then e.msgstr.zipIdx.map Prod.swap else []
  msgctxt := e.msgctxt
  msgidPlural := e.msgidPlural.getD []
  occurrences := occurrencesOf e.writtenComments.reference
  translatorComment := e.writtenComments.translator.getD []
  extractedComment := e.writtenComments.extracted.getD []
  flags := e.flags
  previousMsgctxt := if e.obsolete then none else e.previousMsgctxt
  previousMsgid := if e.obsolete then none else e.previousMsgid
  obsolete := e.obsolete

/-! ### Previous texts -/

/-- What stands before the lines of a previous text. -/
def previousMark (obsolete : Bool) : Text := if obsolete then "#~| " else "#| "

lemma oneLine_previousMark (obsolete : Bool) : OneLine (previousMark obsolete) := by
  cases obsolete
  all_goals
    simp [previousMark, OneLine]
    decide

lemma oneLine_previousLabel {label : Text} {name : Field}
    (h : Line.previousFieldOf? label = some name) : OneLine label := by
  unfold Line.previousFieldOf? at h
  split_ifs at h with hl hl hl
  all_goals
    rw [hl]
    simp [OneLine]
    decide

/-- A previous text may begin wherever comments may stand. -/
lemma State.Collects.previous {s : State} {top : Text} {D : List Record} {r : Record}
    (hs : s.Collects top D r) {label : Text} {name : Field}
    (hlabel : Line.previousFieldOf? label = some name) (p : Text) :
    ∃ s', s.step false (.field name p) = some s' ∧ s'.position = .field name ∧
      s'.current = r.setField name p ∧
      ∀ t, State.Collects { s' with current := r.setField name t } top D (r.setField name t) := by
  have hname : name = .previousContext ∨ name = .previousId ∨ name = .previousIdPlural := by
    unfold Line.previousFieldOf? at hlabel
    split_ifs at hlabel <;> simp_all
  have hheader := (State.turnOver_header s).trans hs.header
  rcases hname with rfl | rfl | rfl
  all_goals
    refine ⟨_, rfl, rfl, ?_, fun t => ⟨hheader, ?_, rfl, rfl⟩⟩
    · rw [← hs.current]
      rfl
    · exact hs.done

/-- Reading a previous text of a live entry sets it, and of an obsolete one passes it over. -/
lemma exists_passes_previous {width : Int} (h : width ≤ 0 ∨ 3 ≤ width) (obsolete : Bool)
    (label : Text) {name : Field} (hlabel : Line.previousFieldOf? label = some name)
    {t : Option Text} (ht : ∀ u ∈ t, Escapable u) :
    ∃ ls, optionalLines width (previousMark obsolete) label 9 t = .ok ls ∧
      (∀ l ∈ ls, OneLine l) ∧
      ∀ {s top D r}, s.Collects top D r → ∃ s', Passes s ls s' ∧
        s'.Collects top D (if obsolete then r else t.elim r (r.setField name)) := by
  cases t with
  | none => exact ⟨[], rfl, by simp, fun {s _ _ _} hs => ⟨s, Passes.refl s, by simpa using hs⟩⟩
  | some u =>
    obtain ⟨p, ps, hls, rfl⟩ := exists_fieldLines h (previousMark obsolete) label 9 u
    refine ⟨_, hls, oneLine_pieceLines (oneLine_previousMark obsolete)
      (oneLine_previousLabel hlabel) (ht _ rfl), ?_⟩
    intro s top D r hs
    cases obsolete with
    | true =>
      refine ⟨s, ?_, by simpa using hs⟩
      -- Each of the lines is passed over without any change of the state.
      have hsilent : ∀ l ∈ pieceLines (previousMark true) label p ps, Passes s [l] s := by
        intro l hl
        rcases List.mem_cons.mp hl with rfl | hl
        · refine passes_silent (ofText?_obsoletePrevious (by simp) ?_) s
          have := noTrailingBlank_append_quotedPiece (label ++ [' ']) p
          simpa using this
        · obtain ⟨q, -, rfl⟩ := List.mem_map.mp hl
          exact passes_silent (ofText?_obsoletePrevious (by simp [quotedPiece])
            (noTrailingBlank_append_quotedPiece [] q)) s
      generalize pieceLines (previousMark true) label p ps = ls at hsilent
      induction ls with
      | nil => exact Passes.refl s
      | cons l ls ih =>
        exact (hsilent l List.mem_cons_self).trans
          (ih fun m hm => hsilent m (List.mem_cons_of_mem l hm))
    | false =>
      obtain ⟨s', hstep, hpos, hcurrent, hcollects⟩ := hs.previous hlabel p
      have hfirst := passes_line (ofText?_previous hlabel p) hstep
      have hrest := passes_continuations ['#', '|', ' '] ps
        (fun q => ⟨_, _, ofText?_previousContinuation q⟩) hpos
      rw [hcurrent, foldl_extendField] at hrest
      exact ⟨_, hfirst.trans hrest, by simpa using hcollects (p ++ ps.flatten)⟩

/-! ### The fields of an entry -/

/-- The state builds the record `r`, and its message id may begin. -/
structure State.AwaitsId (s : State) (top : Text) (D : List Record) (r : Record) : Prop where
  header : s.header = top
  done : s.turnOver.done = D
  current : s.turnOver.current = r
  free : State.allows s.position .id = true

/-- The last line of the state belongs to the record `r`, which is being built. -/
structure State.Holds (s : State) (p : Position) (top : Text) (D : List Record) (r : Record) :
    Prop where
  position : s.position = p
  header : s.header = top
  done : s.done = D
  current : s.current = r

/-- The record `r` of the state is complete. -/
structure State.Completes (s : State) (top : Text) (D : List Record) (r : Record) : Prop where
  header : s.header = top
  done : s.done = D
  current : s.current = r
  complete : s.isComplete = true

/-- Behind a complete record the next one may begin. -/
lemma State.Completes.collects {s : State} {top : Text} {D : List Record} {r : Record}
    (hs : s.Completes top D r) : s.Collects top (r :: D) {} ∧ s.InBody := by
  obtain ⟨hheader, hdone, hcurrent, hcomplete⟩ := hs
  have hturn : s.turnOver = { s with done := s.current :: s.done, current := {} } := by
    rw [State.turnOver, if_pos hcomplete]
  have hpos : s.position = .field .str ∨ s.position = .indexed := by
    rw [State.isComplete] at hcomplete
    split at hcomplete
    · exact Or.inl ‹_›
    · exact Or.inr ‹_›
    · exact absurd hcomplete Bool.false_ne_true
  refine ⟨⟨hheader, ?_, ?_, ?_⟩, ?_⟩
  · rw [hturn, ← hcurrent, ← hdone]
  · rw [hturn]
  · rcases hpos with hpos | hpos <;> rw [hpos] <;> rfl
  · rcases hpos with hpos | hpos <;> simp [State.InBody, hpos]

lemma exists_passes_context {width : Int} (h : width ≤ 0 ∨ 3 ≤ width) (obsolete : Bool)
    {t : Option Text} (ht : ∀ u ∈ t, Escapable u) :
    ∃ ls, optionalLines width (entryMark obsolete) "msgctxt" 0 t = .ok ls ∧
      (∀ l ∈ ls, OneLine l) ∧
      ∀ {s top D r}, s.Collects top D r → r.msgctxt = none →
        ∃ s', Passes s ls s' ∧ s'.AwaitsId top D { r with msgctxt := t } := by
  cases t with
  | none =>
    refine ⟨[], rfl, by simp, fun {s top D r} hs hr => ⟨s, Passes.refl s, hs.header, hs.done, ?_, ?_⟩⟩
    · rw [hs.current, ← hr]
    · have hfree := hs.free
      revert hfree
      generalize s.position = p
      cases p with
      | field name => cases name <;> simp [State.allows]
      | _ => simp [State.allows]
  | some u =>
    obtain ⟨ls, hls, hone, hclose⟩ := closes_field h obsolete "msgctxt" rfl (ht u rfl)
    refine ⟨ls, hls, hone, fun {s top D r} hs hr => ?_⟩
    have hstep : ∀ p, s.step obsolete (.field .context p) =
        some { { s.turnOver with position := .field .context } with
          current := r.setField .context p } := by
      intro p
      rw [← hs.current]
      simp only [State.step, hs.free, if_true]
      rfl
    refine ⟨_, (hclose s _ r rfl hstep).passes, ?_, hs.done, rfl, rfl⟩
    exact (State.turnOver_header s).trans hs.header

lemma exists_closes_id {width : Int} (h : width ≤ 0 ∨ 3 ≤ width) (obsolete : Bool) {t : Text}
    (ht : Escapable t) :
    ∃ ls, fieldLines width (entryMark obsolete) "msgid" 0 t = .ok ls ∧ (∀ l ∈ ls, OneLine l) ∧
      ∀ {s top D r}, s.AwaitsId top D r → ∃ s', Closes s ls s' ∧
        s'.Holds (.field .id) top D { r with msgid := t, obsolete := obsolete } := by
  obtain ⟨ls, hls, hone, hclose⟩ := closes_field h obsolete "msgid" rfl ht
  refine ⟨ls, hls, hone, fun {s top D r} hs => ?_⟩
  have hstep : ∀ p, s.step obsolete (.field .id p) =
      some { { s.turnOver with position := .field .id } with
        current := ({ r with obsolete := obsolete } : Record).setField .id p } := by
    intro p
    rw [← hs.current]
    simp only [State.step, hs.free, if_true]
    rfl
  refine ⟨_, hclose s _ _ rfl hstep, rfl, ?_, hs.done, rfl⟩
  exact (State.turnOver_header s).trans hs.header

lemma exists_passes_plural {width : Int} (h : width ≤ 0 ∨ 3 ≤ width) (obsolete : Bool)
    {t : Option Text} (ht : ∀ u ∈ t, Escapable u) :
    ∃ ls, (if isGiven t then optionalLines width (entryMark obsolete) "msgid_plural" 0 t
        else .ok []) = .ok ls ∧ (∀ l ∈ ls, OneLine l) ∧
      ∀ {s top D r}, s.Holds (.field .id) top D r → r.msgidPlural = [] →
        ∃ s' p, Passes s ls s' ∧ (p = .field .id ∨ p = .field .idPlural) ∧
          s'.Holds p top D { r with msgidPlural := t.getD [] } := by
  cases hgiven : isGiven t with
  | false =>
    have hnil : t.getD [] = [] := by
      match t with
      | none => rfl
      | some [] => rfl
      | some (_ :: _) => exact absurd hgiven.symm Bool.false_ne_true
    refine ⟨[], rfl, by simp, fun {s top D r} hs hr => ?_⟩
    refine ⟨s, .field .id, Passes.refl s, Or.inl rfl, hs.position, hs.header, hs.done, ?_⟩
    rw [hs.current, hnil, ← hr]
  | true =>
    obtain ⟨u, rfl⟩ : ∃ u, t = some u := by
      cases t with
      | none => exact absurd hgiven Bool.false_ne_true
      | some u => exact ⟨u, rfl⟩
    obtain ⟨ls, hls, hone, hclose⟩ :=
      closes_field h obsolete "msgid_plural" rfl (ht u rfl)
    refine ⟨ls, hls, hone, fun {s top D r} hs hr => ?_⟩
    have hstep : ∀ p, s.step obsolete (.field .idPlural p) =
        some { { s with position := .field .idPlural } with
          current := r.setField .idPlural p } := by
      intro p
      rw [← hs.current]
      simp only [State.step, hs.position]
      rfl
    exact ⟨_, _, (hclose s _ r rfl hstep).passes, Or.inr rfl, rfl, hs.header, hs.done, rfl⟩

/-! ### Translations -/

/-- Reading translations with their indices puts them behind those that are there. -/
lemma exists_closes_indexedLines {width : Int} (h : width ≤ 0 ∨ 3 ≤ width) (obsolete : Bool)
    {ts : List Text} (ht : ∀ t ∈ ts, Escapable t) {i : Nat} (hi : i + ts.length ≤ 10)
    (hne : ts ≠ []) :
    ∃ ls, indexedLines width (entryMark obsolete) i ts = .ok ls ∧ (∀ l ∈ ls, OneLine l) ∧
      ∀ s : State, s.AllowsIndexed → (∀ x ∈ s.current.msgstrPlural, x.1 < i) →
        ∃ s', Closes s ls s' ∧ s'.Completes s.header s.done
          { s.current with
            msgstrPlural := s.current.msgstrPlural ++ (ts.zipIdx i).map Prod.swap } := by
  induction ts generalizing i with
  | nil => exact absurd rfl hne
  | cons t ts ih =>
    rw [List.length_cons] at hi
    obtain ⟨ls, hls, hone, hclose⟩ := closes_indexed h obsolete (i := i) (by omega)
      (ht t List.mem_cons_self)
    -- All indices so far are below `i`, so the translation is put behind them.
    have hfresh : ∀ s : State, (∀ x ∈ s.current.msgstrPlural, x.1 < i) →
        ∀ x ∈ s.current.msgstrPlural, x.1 ≠ i := fun s hs x hx => (hs x hx).ne
    cases ts with
    | nil =>
      refine ⟨ls, ?_, hone, fun s hs hlt => ⟨_, hclose s hs (hfresh s hlt), ?_⟩⟩
      · simp only [indexedLines, hls]
        exact congrArg Except.ok (List.append_nil ls)
      · exact ⟨rfl, rfl, rfl, rfl⟩
    | cons u us =>
      obtain ⟨ls', hls', hone', hclose'⟩ := ih (fun v hv => ht v (List.mem_cons_of_mem t hv))
        (i := i + 1) (by omega) (List.cons_ne_nil u us)
      refine ⟨ls ++ ls', ?_, ?_, fun s hs hlt => ?_⟩
      · rw [indexedLines, hls, hls']
        rfl
      · intro l hl
        rcases List.mem_append.mp hl with hl | hl
        · exact hone l hl
        · exact hone' l hl
      · have hlt' : ∀ x ∈ (s.withIndexed i t).current.msgstrPlural, x.1 < i + 1 := by
          intro x hx
          rcases List.mem_append.mp hx with hx | hx
          · exact (hlt x hx).trans (Nat.lt_succ_self i)
          · rw [List.mem_singleton.mp hx]
            exact Nat.lt_succ_self i
        obtain ⟨s', hclosed, hcompletes⟩ :=
          hclose' (s.withIndexed i t) (Or.inr (Or.inr rfl)) hlt'
        refine ⟨s', (hclose s hs (hfresh s hlt)).passes.closes hclosed, ?_⟩
        simpa [State.withIndexed, List.append_assoc] using hcompletes

lemma exists_closes_translations {width : Int} (h : width ≤ 0 ∨ 3 ≤ width) {e : Entry}
    (he : e.Legible) :
    ∃ ls, translationLines width (entryMark e.obsolete) e = .ok ls ∧ (∀ l ∈ ls, OneLine l) ∧
      ∀ {s p top D r}, (p = .field .id ∨ p = .field .idPlural) → s.Holds p top D r →
        r.msgstr = [] → r.msgstrPlural = [] → ∃ s', Closes s ls s' ∧ s'.Completes top D
          { r with
            msgstr := (recordOf e).msgstr
            msgstrPlural := (recordOf e).msgstrPlural } := by
  cases hgiven : isGiven e.msgidPlural with
  | false =>
    -- Without a plural there is one translation, in a field of its own.
    obtain ⟨t, ht⟩ : ∃ t, e.msgstr = [t] := List.length_eq_one_iff.mp (he.single hgiven)
    obtain ⟨ls, hls, hone, hclose⟩ := closes_field h e.obsolete "msgstr" rfl
      (he.msgstr t (by simp [ht]))
    refine ⟨ls, ?_, hone, fun {s p top D r} hp hs hr hr' => ?_⟩
    · simp only [translationLines, hgiven, ht]
      exact hls
    · have hstep : ∀ q, s.step e.obsolete (.field .str q) =
          some { { s with position := .field .str } with current := r.setField .str q } := by
        intro q
        rw [← hs.current]
        rcases hp with rfl | rfl
        all_goals
          simp only [State.step, hs.position]
          rfl
      refine ⟨_, hclose s _ r rfl hstep, hs.header, hs.done, ?_, rfl⟩
      simp [recordOf, hgiven, ht, Record.setField, hr']
  | true =>
    -- With a plural every translation has an index, and ten of them have one of one digit.
    obtain ⟨hne, hlen⟩ := he.several hgiven
    obtain ⟨ls, hls, hone, hclose⟩ := exists_closes_indexedLines h e.obsolete he.msgstr
      (i := 0) (by omega) hne
    refine ⟨ls, ?_, hone, fun {s p top D r} hp hs hr hr' => ?_⟩
    · have hempty : e.msgstr.isEmpty = false := by simpa using hne
      simp only [translationLines, hgiven, hempty]
      exact hls
    · have hallows : s.AllowsIndexed := by
        rcases hp with rfl | rfl
        · exact Or.inl hs.position
        · exact Or.inr (Or.inl hs.position)
      obtain ⟨s', hclosed, hcompletes⟩ := hclose s hallows (by simp [hs.current, hr'])
      refine ⟨s', hclosed, ?_⟩
      rw [hs.header, hs.done, hs.current, hr'] at hcompletes
      simpa [recordOf, hgiven, hr] using hcompletes

/-! ### The whole entry -/

/-- The comment lines of an entry are read into the record. They may not stand at the start of a
file, where lines like these belong to the comment at the top. -/
lemma exists_passes_entryComments {e : Entry} (he : e.Legible) {s : State} {top : Text}
    {D : List Record} (hs : s.Collects top D {}) (hbody : e.comments = none ∨ s.InBody) :
    ∃ s', Passes s (commentLines e) s' ∧ s'.Collects top D
      { extractedComment := e.writtenComments.extracted.getD []
        translatorComment := e.writtenComments.translator.getD []
        occurrences := occurrencesOf e.writtenComments.reference } := by
  rcases hbody with hnone | hbody
  · have hwritten : e.writtenComments = {} := by simp [Entry.writtenComments, hnone]
    refine ⟨s, ?_, ?_⟩
    · rw [commentLines_eq, hwritten]
      exact Passes.refl s
    · rw [hwritten]
      exact hs
  · obtain ⟨s', hpass, -, hcollects⟩ := exists_passes_commentLines he.comments hs hbody
    exact ⟨s', hpass, hcollects⟩

/-- Reading the lines of an entry completes the record of the entry. -/
theorem exists_closes_entryLines {width : Int} (h : width ≤ 0 ∨ 3 ≤ width) {e : Entry}
    (he : e.Legible) :
    ∃ ls, entryLines width e = .ok (ls ++ [[]]) ∧ (∀ l ∈ ls, OneLine l) ∧
      ∀ {s top D}, s.Collects top D {} → (e.comments = none ∨ s.InBody) →
        ∃ s', Closes s ls s' ∧ s'.Completes top D (recordOf e) := by
  obtain ⟨pc, hpc, hpcOne, hpcPass⟩ :=
    exists_passes_previous h e.obsolete "msgctxt" rfl he.previousMsgctxt
  obtain ⟨pm, hpm, hpmOne, hpmPass⟩ :=
    exists_passes_previous h e.obsolete "msgid" rfl he.previousMsgid
  obtain ⟨ct, hct, hctOne, hctPass⟩ := exists_passes_context h e.obsolete he.msgctxt
  obtain ⟨mi, hmi, hmiOne, hmiClose⟩ := exists_closes_id h e.obsolete he.msgid
  obtain ⟨mp, hmp, hmpOne, hmpPass⟩ := exists_passes_plural h e.obsolete he.msgidPlural
  obtain ⟨ms, hms, hmsOne, hmsClose⟩ := exists_closes_translations h he
  -- The parts stand in the order in which the printer puts them.
  refine ⟨commentLines e ++ flagLines e.flags ++ pc ++ pm ++ ct ++ mi ++ mp ++ ms, ?_, ?_, ?_⟩
  · rw [previousMark] at hpc hpm
    rw [entryMark] at hct hmi hmp hms
    cases hgiven : isGiven e.msgidPlural
    all_goals
      simp only [hgiven, if_true, Bool.false_eq_true, if_false] at hmp
      simp only [entryLines, hgiven, if_true, Bool.false_eq_true, if_false, hpc, hpm, hct, hmi,
        hmp, hms]
      rfl
  · intro l hl
    simp only [List.mem_append] at hl
    rcases hl with ((((((hl | hl) | hl) | hl) | hl) | hl) | hl) | hl
    · exact oneLine_commentLines he.comments l hl
    · exact he.flags.oneLine_flagLines l hl
    · exact hpcOne l hl
    · exact hpmOne l hl
    · exact hctOne l hl
    · exact hmiOne l hl
    · exact hmpOne l hl
    · exact hmsOne l hl
  · intro s top D hs hbody
    obtain ⟨s₁, hpass₁, hs₁⟩ := exists_passes_entryComments he hs hbody
    obtain ⟨s₂, hpass₂, hs₂⟩ := he.flags.exists_passes_flagLines hs₁
    obtain ⟨s₃, hpass₃, hs₃⟩ := hpcPass hs₂
    obtain ⟨s₄, hpass₄, hs₄⟩ := hpmPass hs₃
    -- Previous texts of an obsolete entry stand behind a mark that the reader passes over, so
    -- the record has them only if the entry is live.
    have hs₄' : s₄.Collects top D
        { extractedComment := e.writtenComments.extracted.getD []
          translatorComment := e.writtenComments.translator.getD []
          occurrences := occurrencesOf e.writtenComments.reference
          flags := e.flags
          previousMsgctxt := if e.obsolete then none else e.previousMsgctxt
          previousMsgid := if e.obsolete then none else e.previousMsgid } := by
      revert hs₄
      cases e.obsolete <;> cases e.previousMsgctxt <;> cases e.previousMsgid <;> exact id
    obtain ⟨s₅, hpass₅, hs₅⟩ := hctPass hs₄' rfl
    obtain ⟨s₆, hclose₆, hs₆⟩ := hmiClose hs₅
    obtain ⟨s₇, p, hpass₇, hp, hs₇⟩ := hmpPass hs₆ rfl
    obtain ⟨s₈, hclose₈, hs₈⟩ := hmsClose hp hs₇ rfl rfl
    refine ⟨s₈, ?_, hs₈⟩
    exact ((((((hpass₁.trans hpass₂).trans hpass₃).trans hpass₄).trans hpass₅).trans
      hclose₆.passes).trans hpass₇).closes hclose₈

end Document

end MessageCatalog
