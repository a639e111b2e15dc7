import Mathlib
import MessageCatalog.Proofs.Merge.Reread

/-!
# What a report says has changed

A report lists the changes of every message id that is found. They are the differences between the
entry in the catalog and the one that takes its place: other words in the reference comment, and
another extracted comment, where an empty one is as good as none.
-/

namespace MessageCatalog

open Text Catalog Failure

namespace Entry

variable {e x y : Entry}

/-! ### Differences -/

/-- The extracted comment that a change tells as the old one, when the places of use have been set.
An empty one is told only beside another comment. -/
def oldExtracted (e : Entry) (reference : Option Text) : Option Text :=
  if isGiven e.translator || isGiven reference then e.extracted else givenText e.extracted

/-- The comments that differ between two entries, the references before the extracted comment. -/
def differences (e x : Entry) : List Change :=
  (if commentWords e.reference ≠ commentWords x.reference then
    [⟨.reference, e.reference, x.reference⟩] else []) ++
  (if givenText e.extracted ≠ givenText x.extracted then
    [⟨.extracted, e.oldExtracted x.reference, x.extracted⟩] else [])

lemma differences_eq_nil_iff : e.differences x = [] ↔
    commentWords e.reference = commentWords x.reference ∧
      givenText e.extracted = givenText x.extracted := by
  rw [differences, List.append_eq_nil_iff]
  apply and_congr
  · by_cases h : commentWords e.reference = commentWords x.reference <;> simp [h]
  · by_cases h : givenText e.extracted = givenText x.extracted <;> simp [h]

/-- The extracted comment that counts is the one that a change would tell. -/
lemma countedExtracted_eq (e : Entry) : e.countedExtracted = e.oldExtracted e.reference := by
  rw [countedExtracted, oldExtracted, translator, extracted, reference]
  cases e.comments with
  | none => rfl
  | some c =>
    show (if c.isGiven then c.extracted else none) =
      if isGiven c.translator || isGiven c.reference then c.extracted else givenText c.extracted
    cases hextracted : isGiven c.extracted with
    | true =>
      rw [givenText_of_isGiven hextracted]
      simp [EntryComments.isGiven, hextracted]
    | false =>
      rw [givenText_of_not_isGiven hextracted]
      simp [EntryComments.isGiven, hextracted]

/-! ### Changes that are told -/

lemma change_of_setReference {o : ReferenceOptions} {refs : List Text} {change : Option Change}
    (h : e.setReference o refs = .ok (x, change)) :
    change.toList = if commentWords e.reference ≠ commentWords x.reference then
      [⟨.reference, e.reference, x.reference⟩] else [] := by
  obtain ⟨text, -, h⟩ := bind_eq_ok_iff.mp h
  obtain ⟨hentry, hchange⟩ := Prod.mk.inj (pure_eq_ok_iff.mp h)
  have hreference : x.reference = if text.isEmpty then none else some text := by
    rw [← hentry]
    rfl
  rw [← hchange, hreference]
  generalize (if text.isEmpty then none else some text) = new
  by_cases hwords : commentWords e.reference = commentWords new <;> simp [hwords]

lemma change_of_setExtracted {lines : List Text} {change : Option Change}
    (h : e.setExtracted lines = (y, change)) :
    change.toList = if givenText e.extracted ≠ givenText y.extracted then
      [⟨.extracted, e.countedExtracted, y.extracted⟩] else [] := by
  have hcounted := givenText_countedExtracted e
  rw [setExtracted] at h
  split_ifs at h with hempty hold hsame
  · obtain ⟨rfl, rfl⟩ := Prod.mk.inj h
    rw [if_pos]
    · rfl
    · intro hnone
      rw [isGiven_congr (hcounted.trans hnone)] at hold
      exact Bool.false_ne_true hold
  · obtain ⟨rfl, rfl⟩ := Prod.mk.inj h
    simp
  · obtain ⟨rfl, rfl⟩ := Prod.mk.inj h
    simp
  · obtain ⟨rfl, rfl⟩ := Prod.mk.inj h
    rw [if_pos]
    · rfl
    · intro heq
      have htext : givenText (some (join "\n" lines)) = some (join "\n" lines) := by
        simpa [givenText] using hempty
      rw [← hcounted] at heq
      have hold := heq.trans htext
      rw [givenText, Option.filter_eq_some_iff] at hold
      exact hsame hold.1

end Entry

namespace Merge

variable {o : ReferenceOptions} {context : Text} {source : Bucket} {m : Message} {e x : Entry}
  {s : Step} {change : Option Change}

lemma change_of_mergeReference (h : mergeReference o m e = .ok (x, change)) :
    change.toList = if Entry.commentWords e.reference ≠ Entry.commentWords x.reference then
      [⟨.reference, e.reference, x.reference⟩] else [] := by
  rw [mergeReference] at h
  split at h
  · exact Entry.change_of_setReference h
  · obtain ⟨rfl, rfl⟩ := Prod.mk.inj (Except.ok.inj h)
    simp

/-- The changes of a message id that is found are the differences between the entry in the catalog
and the merged one. -/
lemma changes_of_mergeFound (h : mergeFound o m e = .ok s) :
    s.tracked.changes = e.differences s.tracked.entry := by
  cases href : mergeReference o m e with
  | error f =>
    rw [mergeFound, href] at h
    cases h
  | ok p =>
    obtain ⟨x, change⟩ := p
    rw [mergeFound_eq href] at h
    obtain rfl := Except.ok.inj h
    -- The extracted comment is compared after the references have been set.
    have hold : x.oldExtracted x.reference = e.oldExtracted x.reference := by
      rw [Entry.oldExtracted, Entry.oldExtracted, (sameTranslation_mergeReference href).translator,
        extracted_mergeReference href]
    show change.toList ++ (x.setExtracted m.comments).2.toList = _
    rw [change_of_mergeReference href, Entry.change_of_setExtracted Prod.mk.eta.symm,
      Entry.countedExtracted_eq, hold, extracted_mergeReference href, Entry.differences,
      Entry.reference_setExtracted]

/-! ### Message ids that are found -/

variable {ms : List Message} {steps : List (Text × Step)} {c : Catalog} {order : SortOrder}

/-- A message id has one step. -/
lemma Run.step_unique (h : Run o context source ms steps) {k : Text} {s s' : Step}
    (hs : (k, s) ∈ steps) (hs' : (k, s') ∈ steps) : s = s' := by
  have hnodup : (steps.map Prod.fst).Nodup := by
    rw [h.keys]
    exact h.distinct
  exact (Prod.mk.inj (List.inj_on_of_nodup_map hnodup hs hs' rfl)).2

/-- A message id that is found has an entry in the source, into which its message is merged. -/
lemma Run.exists_found (h : Run o context source ms steps) {k : Text} {s : Step}
    (hs : (k, s) ∈ steps) (hfound : s.events.contains .found = true) :
    ∃ m ∈ ms, ∃ e, m.key = k ∧ source.get? k = some e ∧ mergeFound o m e = .ok s := by
  obtain ⟨m, hm, hkey, hmerge⟩ := h.exists_message hs
  have hnew := h.isNew hs
  rw [contains_found, hnew, Bool.not_not] at hfound
  obtain ⟨e, he⟩ := OrderedMap.mem_keys_iff.mp (OrderedMap.contains_iff.mp hfound)
  rw [mergeOne_of_get? (hkey ▸ he)] at hmerge
  exact ⟨m, hm, e, hkey.symm, he, hmerge⟩

end Merge

/-- What a report says about a message whose id is found, when `e` is the entry in the catalog and
`x` the one that takes its place. -/
structure MergeReport.IsExactAbout (r : MergeReport) (o : ReferenceOptions) (m : Message)
    (e x : Entry) : Prop where
  changed : m.key ∈ r.ids .changed ↔
    Entry.commentWords e.reference ≠ Entry.commentWords x.reference ∨
      givenText e.extracted ≠ givenText x.extracted
  changes : ∀ t, (m.key, t) ∈ r.track .found ∨ (m.key, t) ∈ r.track .changed →
    t.entry = x ∧ t.changes = e.differences x
  others : e.SameTranslation x
  kept : o.enabled.truthy = false ∨ m.refs = [] → x.reference = e.reference

namespace Merge

variable {o : ReferenceOptions} {context : Text} {source : Bucket} {ms : List Message}
  {steps : List (Text × Step)} {c : Catalog} {order : SortOrder}

/-- The report is exact about every message whose id is found. -/
lemma Run.isExactAbout (h : Run o context source ms steps) {m : Message} {e : Entry} {s : Step}
    (hs : (m.key, s) ∈ steps) (hmerge : mergeFound o m e = .ok s)
    (he : source.get? m.key = some e) (c : Catalog) (order : SortOrder) :
    (report c context order source steps).IsExactAbout o m e s.tracked.entry := by
  have hchanges := changes_of_mergeFound hmerge
  obtain ⟨hnew, -, hsame, -⟩ := mergeFound_spec hmerge
  refine ⟨?_, ?_, hsame, ?_⟩
  · rw [MergeReport.mem_ids_iff Event.noConfusion, ← not_and_or, ← Entry.differences_eq_nil_iff,
      ← hchanges]
    constructor
    · rintro ⟨s', hs', hevent⟩
      obtain rfl := h.step_unique hs hs'
      exact ((contains_changed_iff s).mp hevent).2
    · intro hsome
      exact ⟨s, hs, (contains_changed_iff s).mpr ⟨hnew, hsome⟩⟩
  · rintro t (hmem | hmem)
    all_goals
      obtain ⟨s', hs', -, rfl⟩ := (MergeReport.mem_track_iff Event.noConfusion).mp hmem
      obtain rfl := h.step_unique hs hs'
      exact ⟨rfl, hchanges⟩
  · intro hoff
    have hone := (mergeOne_of_get? he context).trans hmerge
    rcases reference_of_mergeOne hone with ⟨-, hkept⟩ | ⟨hon, -⟩
    · rw [hkept, base, he, Option.getD_some]
    · rcases hoff with hoff | hoff <;> simp [hoff] at hon

/-- Every message id that is found is said to be changed just when the words of its reference
comment or its extracted comment have become others, with one change for each of them, and nothing
else of its entry differs. -/
theorem merge_reports_changes {c : Catalog} (hc : c.WellFormed) {messages : Value}
    {o : MergeOptions} {d : Detail} (hms : Reads messages ms) (hadmits : Admits o order d)
    (hsource : c.translations.get? o.context = .some source) :
    (o.references.Readable → ∃ r, (c.merge messages o).result = .ok r) ∧
      ∀ r, (c.merge messages o).result = .ok r →
        ∃ patch, r.patch.translations.get? o.context = some patch ∧
          ∀ k ∈ r.ids .found, ∃ m ∈ ms, ∃ e x, m.key = k ∧ source.get? k = some e ∧
            patch.get? k = some x ∧ r.IsExactAbout o.references m e x := by
  refine ⟨exists_merge hms hadmits hsource, ?_⟩
  intro r hr
  obtain ⟨steps, hrun, rfl⟩ := exists_run_of_merge hms hadmits hsource hr
  have hwell := hc.get? hsource
  obtain ⟨hpatch, -⟩ := report_catalogs hrun hwell c order
  rw [hpatch, Catalog.get?_withContext]
  refine ⟨_, rfl, ?_⟩
  intro k hk
  obtain ⟨s, hs, hfound⟩ := (MergeReport.mem_ids_iff Event.noConfusion).mp hk
  obtain ⟨m, hm, e, rfl, he, hmerge⟩ := hrun.exists_found hs hfound
  refine ⟨m, hm, e, s.tracked.entry, rfl, he, ?_, hrun.isExactAbout hs hmerge he c order⟩
  exact hrun.get?_merged hwell (hrun.nodup_msgids hwell) (List.subset_append_left _ _) order _ hs

/-! ### A sample -/

/-- Two labels with an empty extracted comment, one of them beside another comment. -/
def labels : Bucket := .ofList <| keyed [
  { msgid := "Open", comments := some { extracted := some "" } },
  { msgid := "Save", comments := some { translator := some "by hand", extracted := some "" } }]

def labelCatalog : Catalog where
  translations := .ofList [("", labels)]

/-- Messages that describe the labels. -/
def labelMessages : List Message :=
  [{ key := "Open", comments := ["a verb"] }, { key := "Save", comments := ["a verb"] }]

def labelValues : Value := .list (labelMessages.map Message.toValue)

def labelOptions : MergeOptions := { baseDir := default }

/-- What a merge tells about the labels: only the second one has an empty comment as the old one. -/
def labelChanges : List (List Change) :=
  [[⟨.extracted, none, some "a verb"⟩], [⟨.extracted, some [], some "a verb"⟩]]

/-- An empty extracted comment is not always told as the old one. -/
theorem merge_omits_empty_extracted : (∀ p ∈ labels.entries, p.2.extracted = some []) ∧
    ∃ r, (labelCatalog.merge labelValues labelOptions).result = .ok r ∧
      r.ids .changed = labels.keys ∧
      (r.track .changed).map (fun p => p.2.changes) = labelChanges := by
  have hmerge : (match (labelCatalog.merge labelValues labelOptions).result with
    | .ok r => decide (r.ids .changed = labels.keys ∧
        (r.track .changed).map (fun p => p.2.changes) = labelChanges)
    | .error _ => false) = true := by decide +kernel
  split at hmerge
  · next r hr => exact ⟨by decide, r, hr, of_decide_eq_true hmerge⟩
  · cases hmerge

theorem merge_reports_changes_labels :
    ∃ r, (labelCatalog.merge labelValues labelOptions).result = .ok r ∧
      ∃ m ∈ labelMessages, ∃ e x, labels.get? m.key = some e ∧ e.extracted = some [] ∧
        r.IsExactAbout labelOptions.references m e x := by
  have hwell : labelCatalog.WellFormed := by
    simp only [Catalog.WellFormed, Bucket.WellFormed]
    decide +kernel
  have hms : Reads labelValues labelMessages := ⟨⟨_, rfl, rfl⟩, by decide⟩
  have hadmits : Admits labelOptions .source ⟨false, false⟩ := ⟨rfl, rfl, rfl⟩
  have hsource : labelCatalog.translations.get? labelOptions.context = some labels := rfl
  have hempty : ∀ p ∈ labels.entries, p.2.extracted = some [] := by decide
  obtain ⟨hmerges, hreport⟩ := merge_reports_changes hwell hms hadmits hsource
  obtain ⟨r, hr⟩ := hmerges readable_menuOptions
  obtain ⟨steps, hrun, rfl⟩ := exists_run_of_merge hms hadmits hsource hr
  obtain ⟨patch, -, hfound⟩ := hreport _ hr
  have hopen : ("Open" : Text) ∈
      (report labelCatalog labelOptions.context .source labels steps).ids .found := by
    rw [hrun.ids_found]
    decide
  obtain ⟨m, hm, e, x, hkey, he, -, hexact⟩ := hfound _ hopen
  have hold := hempty _ (OrderedMap.get?_eq_some_iff.mp he)
  exact ⟨_, hr, m, hm, e, x, hkey ▸ he, hold, hexact⟩

end Merge

end MessageCatalog
