import Mathlib
import MessageCatalog.Merge.Basic
import MessageCatalog.Proofs.Bucket
import MessageCatalog.Proofs.Failure

/-!
# Merging one message

What a merge does to one entry: it sets comments that belong to places in the source and leaves
the translation alone, and doing it again changes nothing.
-/

namespace MessageCatalog

namespace Entry

/-- The comment of the translator, if the entry has one. -/
def translator (e : Entry) : Option Text := e.comments.bind (·.translator)

/-- Two entries that differ at most in the comments that belong to places in the source. -/
structure SameTranslation (e e' : Entry) : Prop where
  msgid : e'.msgid = e.msgid
  msgstr : e'.msgstr = e.msgstr
  msgctxt : e'.msgctxt = e.msgctxt
  msgidPlural : e'.msgidPlural = e.msgidPlural
  flags : e'.flags = e.flags
  previousMsgid : e'.previousMsgid = e.previousMsgid
  previousMsgctxt : e'.previousMsgctxt = e.previousMsgctxt
  obsolete : e'.obsolete = e.obsolete
  translator : e'.translator = e.translator

lemma SameTranslation.refl (e : Entry) : e.SameTranslation e :=
  ⟨rfl, rfl, rfl, rfl, rfl, rfl, rfl, rfl, rfl⟩

lemma SameTranslation.trans {e e' e'' : Entry} (h : e.SameTranslation e')
    (h' : e'.SameTranslation e'') : e.SameTranslation e'' where
  msgid := h'.msgid.trans h.msgid
  msgstr := h'.msgstr.trans h.msgstr
  msgctxt := h'.msgctxt.trans h.msgctxt
  msgidPlural := h'.msgidPlural.trans h.msgidPlural
  flags := h'.flags.trans h.flags
  previousMsgid := h'.previousMsgid.trans h.previousMsgid
  previousMsgctxt := h'.previousMsgctxt.trans h.previousMsgctxt
  obsolete := h'.obsolete.trans h.obsolete
  translator := h'.translator.trans h.translator

/-- The entry with another reference comment. -/
def withReference (e : Entry) (new : Option Text) : Entry :=
  { e with comments := some { e.comments.getD {} with reference := new } }

/-- The entry with another extracted comment. -/
def withExtracted (e : Entry) (new : Option Text) : Entry :=
  { e with comments := some { e.comments.getD {} with extracted := new } }

lemma sameTranslation_withReference (e : Entry) (new : Option Text) :
    e.SameTranslation (e.withReference new) :=
  ⟨rfl, rfl, rfl, rfl, rfl, rfl, rfl, rfl, by cases h : e.comments <;> simp [translator, withReference, h]⟩

lemma sameTranslation_withExtracted (e : Entry) (new : Option Text) :
    e.SameTranslation (e.withExtracted new) :=
  ⟨rfl, rfl, rfl, rfl, rfl, rfl, rfl, rfl, by cases h : e.comments <;> simp [translator, withExtracted, h]⟩

lemma sameTranslation_clearPlaces (e : Entry) : e.SameTranslation e.clearPlaces :=
  ⟨rfl, rfl, rfl, rfl, rfl, rfl, rfl, rfl, by cases h : e.comments <;> simp [translator, clearPlaces, h]⟩

lemma clearPlaces_clearPlaces (e : Entry) : e.clearPlaces.clearPlaces = e.clearPlaces := by
  cases h : e.comments <;> simp [clearPlaces, h]

lemma firstReference_eq (e : Entry) :
    SortOrder.firstReference e = (commentWords e.reference).head? := by
  rw [SortOrder.firstReference, commentWords]
  cases e.reference <;> rfl

lemma commentWords_ite (t : Text) :
    commentWords (if t.isEmpty then none else some t) = Text.words t := by
  cases t <;> rfl

/-! ### The extracted comment -/

/-- The extracted comment is left alone or set. -/
lemma setExtracted_cases (lines : List Text) (e : Entry) :
    (e.setExtracted lines = (e, none)) ∨
      ∃ new change, e.setExtracted lines = (e.withExtracted new, some change) := by
  rw [setExtracted]
  split_ifs
  · exact Or.inr ⟨_, _, rfl⟩
  · exact Or.inl rfl
  · exact Or.inl rfl
  · exact Or.inr ⟨_, _, rfl⟩

lemma sameTranslation_setExtracted (lines : List Text) (e : Entry) :
    e.SameTranslation (e.setExtracted lines).1 := by
  rcases setExtracted_cases lines e with h | ⟨new, change, h⟩
  · rw [h]
    exact SameTranslation.refl e
  · rw [h]
    exact sameTranslation_withExtracted e new

/-- Setting the extracted comment to the same lines again is no change. -/
lemma setExtracted_again (lines : List Text) (e : Entry) :
    (e.setExtracted lines).1.setExtracted lines = ((e.setExtracted lines).1, none) := by
  unfold setExtracted
  generalize Text.join "\n" lines = text
  cases text with
  | nil =>
    by_cases hold : isGiven e.countedExtracted = true
    · have hgone : isGiven (e.withExtracted none).countedExtracted = false := by
        simp only [countedExtracted, withExtracted]
        split <;> rfl
      have hagain : ¬isGiven (e.withExtracted none).countedExtracted = true := by
        rw [hgone]
        exact Bool.false_ne_true
      simp only [hold]
      exact if_neg hagain
    · simp [hold]
  | cons c text =>
    by_cases hold : e.countedExtracted = some (c :: text)
    · simp [hold]
    · have hthere : (e.withExtracted (some (c :: text))).countedExtracted = some (c :: text) := by
        simp [countedExtracted, withExtracted, EntryComments.isGiven, isGiven]
      simp only [hold]
      exact if_pos hthere

/-- The extracted comment does not depend on the context of the entry. -/
lemma setExtracted_withContext (lines : List Text) (e : Entry) (context : Option Text) :
    ({ e with msgctxt := context } : Entry).setExtracted lines =
      ({ (e.setExtracted lines).1 with msgctxt := context }, (e.setExtracted lines).2) := by
  have hcounted : ({ e with msgctxt := context } : Entry).countedExtracted = e.countedExtracted := rfl
  simp only [setExtracted, hcounted]
  split_ifs <;> rfl

end Entry

namespace Merge

variable {o : ReferenceOptions} {m : Message} {e e' : Entry}

/-! ### The reference comment -/

/-- The reference comment is left alone, or set to the text of the references. -/
lemma mergeReference_cases {change : Option Change}
    (h : mergeReference o m e = .ok (e', change)) :
    ((o.enabled.truthy && !m.refs.isEmpty) = false ∧ e' = e ∧ change = none) ∨
      ((o.enabled.truthy && !m.refs.isEmpty) = true ∧ ∃ text,
        Reference.comment o m.refs = .ok text ∧
          e' = e.withReference (if text.isEmpty then none else some text)) := by
  rw [mergeReference] at h
  split at h
  · rename_i hon
    refine Or.inr ⟨hon, ?_⟩
    cases htext : Reference.comment o m.refs with
    | error f => rw [Entry.setReference, htext] at h; cases h
    | ok text =>
      rw [Entry.setReference, htext] at h
      cases h
      exact ⟨text, rfl, rfl⟩
  · rename_i hoff
    cases h
    exact Or.inl ⟨by simpa using hoff, rfl, rfl⟩

lemma sameTranslation_mergeReference {change : Option Change}
    (h : mergeReference o m e = .ok (e', change)) : e.SameTranslation e' := by
  rcases mergeReference_cases h with ⟨-, rfl, -⟩ | ⟨-, text, -, rfl⟩
  · exact Entry.SameTranslation.refl _
  · exact Entry.sameTranslation_withReference e _

/-- References with the words that are there already are set without a change. -/
lemma mergeReference_of_words {text : Text} (hon : (o.enabled.truthy && !m.refs.isEmpty) = true)
    (htext : Reference.comment o m.refs = .ok text)
    (hwords : Entry.commentWords e.reference = Text.words text) :
    mergeReference o m e =
      .ok (e.withReference (if text.isEmpty then none else some text), none) := by
  rw [mergeReference, if_pos hon, Entry.setReference, htext]
  show Except.ok (e.withReference _, if _ then _ else none) = _
  rw [if_neg (not_not_intro (hwords.trans (Entry.commentWords_ite text).symm))]

/-- The reference comment does not depend on the context of the entry. -/
lemma mergeReference_withContext {change : Option Change}
    (h : mergeReference o m e = .ok (e', change)) (context : Option Text) :
    mergeReference o m { e with msgctxt := context } =
      .ok ({ e' with msgctxt := context }, change) := by
  rw [mergeReference] at h ⊢
  split at h
  · rename_i hon
    obtain ⟨text, htext, h⟩ := Failure.bind_eq_ok_iff.mp h
    obtain ⟨rfl, rfl⟩ := Prod.mk.inj (Failure.pure_eq_ok_iff.mp h)
    rw [if_pos hon, Entry.setReference, htext]
    rfl
  · rename_i hoff
    obtain ⟨rfl, rfl⟩ := Prod.mk.inj (Except.ok.inj h)
    rw [if_neg hoff]

/-- The reference comment of an entry is the one that the message sets, if it sets any. -/
def HasReference (o : ReferenceOptions) (m : Message) (e : Entry) : Prop :=
  (o.enabled.truthy && !m.refs.isEmpty) = true → ∃ text c, Reference.comment o m.refs = .ok text ∧
    e.comments = some c ∧ c.reference = if text.isEmpty then none else some text

lemma HasReference.mergeReference (h : HasReference o m e) :
    mergeReference o m e = .ok (e, none) := by
  by_cases hon : (o.enabled.truthy && !m.refs.isEmpty) = true
  · obtain ⟨text, c, htext, hc, hreference⟩ := h hon
    have hthere : e.reference = if text.isEmpty then none else some text := by
      rw [Entry.reference, hc, ← hreference]
      rfl
    have hsame : e.withReference (if text.isEmpty then none else some text) = e := by
      rw [← hreference, Entry.withReference]
      obtain ⟨⟩ := e
      simp only at hc
      simp [hc]
    have hwords : Entry.commentWords e.reference = Text.words text := by
      rw [hthere, Entry.commentWords_ite]
    rw [mergeReference_of_words hon htext hwords, hsame]
  · rw [Merge.mergeReference, if_neg hon]

lemma hasReference_mergeReference {change : Option Change}
    (h : Merge.mergeReference o m e = .ok (e', change)) : HasReference o m e' := by
  intro hon
  rcases mergeReference_cases h with ⟨hoff, -, -⟩ | ⟨-, text, htext, rfl⟩
  · rw [hon] at hoff
    exact absurd hoff.symm Bool.false_ne_true
  · exact ⟨text, _, htext, rfl, rfl⟩

lemma HasReference.setExtracted (h : HasReference o m e) (lines : List Text) :
    HasReference o m (e.setExtracted lines).1 := by
  intro hon
  obtain ⟨text, c, htext, hc, hreference⟩ := h hon
  rcases Entry.setExtracted_cases lines e with hset | ⟨new, change, hset⟩
  · rw [hset]
    exact ⟨text, c, htext, hc, hreference⟩
  · rw [hset]
    refine ⟨text, _, htext, rfl, ?_⟩
    rw [hc]
    exact hreference

/-! ### Whole messages -/

/-- The entry of a message id that the catalog lacks, before its comments are set. -/
def freshEntry (context msgid : Text) : Entry where
  msgid := msgid
  msgctxt := if context.isEmpty then none else some context

/-- Merging the message into the entry changes nothing. -/
def Carries (o : ReferenceOptions) (m : Message) (e : Entry) : Prop :=
  mergeFound o m e = .ok ⟨⟨e, some m, []⟩, false⟩

lemma mergeFound_eq {x : Entry} {change : Option Change}
    (h : mergeReference o m e = .ok (x, change)) :
    mergeFound o m e = .ok ⟨⟨(x.setExtracted m.comments).1, some m,
      change.toList ++ (x.setExtracted m.comments).2.toList⟩, false⟩ := by
  rw [mergeFound, h]
  rfl

lemma mergeNew_eq {context : Text} {x : Entry} {change : Option Change}
    (h : mergeReference o m { msgid := m.key } = .ok (x, change)) :
    mergeNew o context m = .ok ⟨⟨if context.isEmpty then (x.setExtracted m.comments).1
      else { (x.setExtracted m.comments).1 with msgctxt := some context }, some m, []⟩, true⟩ := by
  rw [mergeNew, h]
  rfl

lemma carries_of {e : Entry} (h : HasReference o m e)
    (hextracted : e.setExtracted m.comments = (e, none)) : Carries o m e := by
  rw [Carries, mergeFound_eq h.mergeReference, hextracted]
  rfl

/-- What merging a message into an entry of the catalog makes of the entry. -/
lemma mergeFound_spec {s : Step} (h : mergeFound o m e = .ok s) :
    s.isNew = false ∧ s.tracked.message = some m ∧ e.SameTranslation s.tracked.entry ∧
      Carries o m s.tracked.entry := by
  cases href : mergeReference o m e with
  | error f =>
    rw [mergeFound, href] at h
    cases h
  | ok x =>
    obtain ⟨x, change⟩ := x
    rw [mergeFound_eq href] at h
    obtain rfl := Except.ok.inj h
    refine ⟨rfl, rfl, ?_, ?_⟩
    · exact (sameTranslation_mergeReference href).trans
        (Entry.sameTranslation_setExtracted m.comments x)
    · exact carries_of ((hasReference_mergeReference href).setExtracted m.comments)
        (Entry.setExtracted_again m.comments x)

/-- What is made of a message that the catalog lacks. -/
lemma mergeNew_spec {context : Text} {s : Step} (h : mergeNew o context m = .ok s) :
    s.isNew = true ∧ s.tracked.message = some m ∧ s.tracked.changes = [] ∧
      (freshEntry context m.key).SameTranslation s.tracked.entry ∧ Carries o m s.tracked.entry := by
  cases href : mergeReference o m { msgid := m.key } with
  | error f =>
    rw [mergeNew, href] at h
    cases h
  | ok x =>
    obtain ⟨x, change⟩ := x
    rw [mergeNew_eq href] at h
    obtain rfl := Except.ok.inj h
    have hsame := (sameTranslation_mergeReference href).trans
      (Entry.sameTranslation_setExtracted m.comments x)
    have hhas := (hasReference_mergeReference href).setExtracted m.comments
    have hagain := Entry.setExtracted_again m.comments x
    refine ⟨rfl, rfl, rfl, ?_⟩
    cases context with
    | nil => exact ⟨hsame, carries_of hhas hagain⟩
    | cons c context =>
      refine ⟨⟨hsame.msgid, hsame.msgstr, rfl, hsame.msgidPlural, hsame.flags,
        hsame.previousMsgid, hsame.previousMsgctxt, hsame.obsolete, hsame.translator⟩, ?_⟩
      have hcontext := Entry.setExtracted_withContext m.comments (x.setExtracted m.comments).1
        (some (c :: context))
      rw [hagain] at hcontext
      exact carries_of hhas hcontext

lemma mergeOne_of_get? {source : Bucket} (h : source.get? m.key = some e) (context : Text) :
    mergeOne o context source m = mergeFound o m e := by
  rw [mergeOne, h]

/-- The entry that a message is merged into. -/
def base (context : Text) (source : Bucket) (msgid : Text) : Entry :=
  (source.get? msgid).getD (freshEntry context msgid)

/-- How an entry is merged: its references are set, and then its extracted comment. -/
lemma mergeOne_entry {context : Text} {source : Bucket} {s : Step}
    (h : mergeOne o context source m = .ok s) :
    ∃ x change, mergeReference o m (base context source m.key) = .ok (x, change) ∧
      s.tracked.entry = (x.setExtracted m.comments).1 := by
  rw [mergeOne] at h
  rw [base]
  cases hget : source.get? m.key with
  | some found =>
    rw [hget] at h
    change mergeFound o m found = .ok s at h
    cases href : mergeReference o m found with
    | error f =>
      rw [mergeFound, href] at h
      cases h
    | ok x =>
      rw [mergeFound_eq href] at h
      obtain rfl := Except.ok.inj h
      exact ⟨x.1, x.2, href, rfl⟩
  | none =>
    rw [hget] at h
    change mergeNew o context m = .ok s at h
    cases href : mergeReference o m { msgid := m.key } with
    | error f =>
      rw [mergeNew, href] at h
      cases h
    | ok x =>
      rw [mergeNew_eq href] at h
      obtain rfl := Except.ok.inj h
      cases context with
      | nil => exact ⟨x.1, x.2, href, rfl⟩
      | cons c context =>
        have hcontext := Entry.setExtracted_withContext m.comments x.1 (some (c :: context))
        exact ⟨_, x.2, mergeReference_withContext href _, (congrArg Prod.fst hcontext).symm⟩

/-- What merging a message into the entries of a context makes of it. -/
theorem mergeOne_spec {context : Text} {source : Bucket} {s : Step}
    (h : mergeOne o context source m = .ok s) :
    s.isNew = !source.contains m.key ∧ (s.isNew = true → s.tracked.changes = []) ∧
      (base context source m.key).SameTranslation s.tracked.entry ∧
      Carries o m s.tracked.entry := by
  rw [mergeOne] at h
  cases hget : source.get? m.key with
  | some found =>
    rw [hget] at h
    obtain ⟨hnew, -, hsame, hcarries⟩ := mergeFound_spec h
    have hmem : source.contains m.key = true :=
      OrderedMap.contains_iff.mpr (OrderedMap.mem_keys_iff.mpr ⟨found, hget⟩)
    refine ⟨by rw [hnew, hmem]; rfl, fun hnew' => ?_, ?_, hcarries⟩
    · rw [hnew] at hnew'
      exact absurd hnew' Bool.false_ne_true
    · rw [base, hget]
      exact hsame
  | none =>
    rw [hget] at h
    obtain ⟨hnew, -, hchanges, hsame, hcarries⟩ := mergeNew_spec h
    have hmem : source.contains m.key = false :=
      OrderedMap.contains_eq_false_iff.mpr (OrderedMap.get?_eq_none_iff.mp hget)
    refine ⟨by rw [hnew, hmem]; rfl, fun _ => hchanges, ?_, hcarries⟩
    rw [base, hget]
    exact hsame

end Merge

end MessageCatalog
