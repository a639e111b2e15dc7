import Mathlib
import MessageCatalog.Proofs.Catalog.Parsed
import MessageCatalog.Proofs.Merge.Report

/-!
# Merging into catalogs that were read

When the texts of the messages can be written and read again, so can the entries that a merge makes
of them. A merge into a catalog that was read from a file therefore gives catalogs that can be
written and read again.
-/

namespace MessageCatalog

open Text

/-- A message whose texts can be written and read again. -/
structure Message.Legible (m : Message) : Prop where
  key : Escapable m.key
  refs : ∀ ref ∈ m.refs, OneLine ref
  comments : ∀ t ∈ m.comments, Document.IsCommentText t ∧ [] ∉ splitOn '\n' t

namespace Entry

/-! ### Comments that a merge sets -/

/-- All comments of a live entry are written. -/
lemma writtenComments_of_live {e : Entry} (h : e.obsolete = false) :
    e.writtenComments = ⟨e.translator, e.extracted, e.reference⟩ := by
  rw [writtenComments, h, translator, extracted, reference]
  cases e.comments <;> rfl

@[simp] lemma reference_withReference (e : Entry) (new : Option Text) :
    (e.withReference new).reference = new := rfl

@[simp] lemma extracted_withReference (e : Entry) (new : Option Text) :
    (e.withReference new).extracted = e.extracted := by
  rw [extracted, extracted, withReference]
  cases e.comments <;> rfl

@[simp] lemma reference_withExtracted (e : Entry) (new : Option Text) :
    (e.withExtracted new).reference = e.reference := by
  rw [reference, reference, withExtracted]
  cases e.comments <;> rfl

lemma reference_setExtracted (lines : List Text) (e : Entry) :
    (e.setExtracted lines).1.reference = e.reference := by
  rcases setExtracted_cases lines e with h | ⟨new, change, h⟩
  · rw [h]
  · rw [h, reference_withExtracted]

/-- The extracted comment is the one before, or it holds the lines. -/
lemma mem_extracted_setExtracted {lines : List Text} {e : Entry} {t : Text}
    (h : t ∈ (e.setExtracted lines).1.extracted) :
    t ∈ e.extracted ∨ t = join "\n" lines ∧ t ≠ [] := by
  rw [setExtracted] at h
  split_ifs at h with hempty _ _
  · exact absurd h (Option.not_mem_none t)
  · exact Or.inl h
  · exact Or.inl h
  · obtain rfl : t = join "\n" lines := (Option.some.inj h).symm
    exact Or.inr ⟨rfl, by simpa using hempty⟩

/-- An entry with the translation of one that can be written and read again can be, too, if its
comments that belong to places can. -/
lemma LegibleIn.of_sameTranslation {e x : Entry} {context : Text} (he : e.LegibleIn context)
    (h : e.SameTranslation x)
    (hextracted : ∀ t ∈ x.extracted, Document.IsCommentText t ∧ [] ∉ splitOn '\n' t)
    (hreference : ∀ t ∈ x.reference, ∀ l ∈ splitOn '\n' t, OneLine l) : x.LegibleIn context where
  live := h.obsolete.trans he.live
  context := h.msgctxt ▸ he.context
  legible := by
    have hwritten := writtenComments_of_live (h.obsolete.trans he.live)
    have hcomments := he.legible.comments
    rw [writtenComments_of_live he.live] at hcomments
    refine ⟨?_, h.flags ▸ he.legible.flags, h.previousMsgctxt ▸ he.legible.previousMsgctxt,
      h.previousMsgid ▸ he.legible.previousMsgid, h.msgctxt ▸ he.legible.msgctxt,
      h.msgid ▸ he.legible.msgid, h.msgidPlural ▸ he.legible.msgidPlural,
      h.msgstr ▸ he.legible.msgstr, ?_, ?_⟩
    · rw [hwritten]
      exact ⟨hextracted, h.translator ▸ hcomments.translator, hreference⟩
    · rw [h.msgidPlural, h.msgstr]
      exact he.legible.single
    · rw [h.msgidPlural, h.msgstr]
      exact he.legible.several

lemma LegibleIn.clearPlaces {e : Entry} {context : Text} (he : e.LegibleIn context) :
    e.clearPlaces.LegibleIn context := by
  refine he.of_sameTranslation (sameTranslation_clearPlaces e) ?_ ?_
  · rw [extracted, Entry.clearPlaces]
    cases e.comments <;> simp
  · rw [reference, Entry.clearPlaces]
    cases e.comments <;> simp

end Entry

/-- Other entries of one context that can be written and read again may take the place of those
there are. -/
lemma Catalog.Legible.withContext {c : Catalog} (hc : c.Legible) {context : Text} {b : Bucket}
    (hmem : context ∈ c.translations.keys) (hb : b.WellFormed)
    (hentries : ∀ e ∈ b.values, e.LegibleIn context) : (c.withContext context b).Legible := by
  have hkeys : (c.withContext context b).translations.keys = c.translations.keys :=
    OrderedMap.keys_insert_of_mem hmem b
  refine ⟨hc.headers, hc.headerComment, ?_, ?_, hc.wellFormed.withContext hb context, ?_,
    hc.obsolete⟩
  · rw [hkeys]
    exact hc.first
  · rw [hkeys]
    exact hc.contexts
  · intro p hp e he
    rcases OrderedMap.mem_entries_insert.mp hp with rfl | ⟨-, hp⟩
    · exact hentries e he
    · exact hc.buckets p hp e he

namespace Merge

variable {o : ReferenceOptions} {context : Text} {source : Bucket} {m : Message} {s : Step}

/-! ### Merged entries -/

lemma extracted_mergeReference {e x : Entry} {change : Option Change}
    (h : mergeReference o m e = .ok (x, change)) : x.extracted = e.extracted := by
  rcases mergeReference_cases h with ⟨-, rfl, -⟩ | ⟨-, text, -, rfl⟩
  · rfl
  · exact Entry.extracted_withReference e _

lemma mem_extracted_of_mergeOne (h : mergeOne o context source m = .ok s) {t : Text}
    (ht : t ∈ s.tracked.entry.extracted) :
    t ∈ (base context source m.key).extracted ∨ t = join "\n" m.comments ∧ t ≠ [] := by
  obtain ⟨x, change, href, hentry⟩ := mergeOne_entry h
  rw [hentry] at ht
  rw [← extracted_mergeReference href]
  exact Entry.mem_extracted_setExtracted ht

/-- The places of use are those of the message, if it sets any, or those before. -/
lemma reference_of_mergeOne (h : mergeOne o context source m = .ok s) :
    ((o.enabled.truthy && !m.refs.isEmpty) = false ∧
        s.tracked.entry.reference = (base context source m.key).reference) ∨
      ((o.enabled.truthy && !m.refs.isEmpty) = true ∧ ∃ text,
        Reference.comment o m.refs = .ok text ∧
          s.tracked.entry.reference = if text.isEmpty then none else some text) := by
  obtain ⟨x, change, href, hentry⟩ := mergeOne_entry h
  rw [hentry, Entry.reference_setExtracted]
  rcases mergeReference_cases href with ⟨hoff, rfl, -⟩ | ⟨hon, text, htext, rfl⟩
  · exact Or.inl ⟨hoff, rfl⟩
  · exact Or.inr ⟨hon, text, htext, rfl⟩

lemma legible_comments (h : m.Legible) (hne : join "\n" m.comments ≠ []) :
    Document.IsCommentText (join "\n" m.comments) ∧ [] ∉ splitOn '\n' (join "\n" m.comments) := by
  have hnil : m.comments ≠ [] := by
    intro hnil
    exact hne (by rw [hnil]; rfl)
  have hlines : ∀ l ∈ splitOn '\n' (join "\n" m.comments), ∃ t ∈ m.comments, l ∈ splitOn '\n' t := by
    intro l hl
    rw [show ("\n" : Text) = ['\n'] from rfl, splitOn_join '\n' hnil] at hl
    exact List.mem_flatMap.mp hl
  constructor
  · intro l hl
    obtain ⟨t, ht, hl⟩ := hlines l hl
    exact (h.comments t ht).1 l hl
  · intro hmem
    obtain ⟨t, ht, hmem⟩ := hlines [] hmem
    exact (h.comments t ht).2 hmem

/-- The entry that a message is merged into can be written and read again. -/
lemma legibleIn_base (hsource : ∀ e ∈ source.values, e.LegibleIn context)
    (hcontext : Escapable context) {msgid : Text} (hmsgid : Escapable msgid) :
    (base context source msgid).LegibleIn context := by
  rw [base]
  cases hget : source.get? msgid with
  | some e => exact hsource e (List.mem_map_of_mem (OrderedMap.get?_eq_some_iff.mp hget))
  | none =>
    refine ⟨⟨?_, ?_, ?_, ?_, ?_, hmsgid, ?_, ?_, ?_, ?_⟩, rfl, ?_⟩
    · constructor <;> simp [freshEntry, Entry.writtenComments]
    · exact ⟨by simp [freshEntry], by simp [freshEntry]⟩
    · simp [freshEntry]
    · simp [freshEntry]
    · intro t ht
      rw [Option.getD_none, freshEntry] at ht
      split at ht
      · exact absurd ht (Option.not_mem_none t)
      · obtain rfl : context = t := Option.some.inj ht
        exact hcontext
    · simp [freshEntry]
    · intro t ht
      obtain rfl : t = [] := List.mem_singleton.mp ht
      exact Document.escapable_nil
    · exact fun _ => rfl
    · exact fun hgiven => absurd hgiven Bool.false_ne_true
    · rw [Option.getD_none, freshEntry]
      cases context <;> rfl

/-- What a message is merged into can be written and read again. -/
theorem legibleIn_mergeOne (h : mergeOne o context source m = .ok s)
    (hsource : ∀ e ∈ source.values, e.LegibleIn context) (hcontext : Escapable context)
    (hm : m.Legible) : s.tracked.entry.LegibleIn context := by
  have hbase := legibleIn_base hsource hcontext hm.key
  have hcomments := hbase.legible.comments
  rw [Entry.writtenComments_of_live hbase.live] at hcomments
  obtain ⟨-, -, hsame, -⟩ := mergeOne_spec h
  refine hbase.of_sameTranslation hsame ?_ ?_
  · intro t ht
    rcases mem_extracted_of_mergeOne h ht with ht | ⟨rfl, hne⟩
    · exact hcomments.extracted t ht
    · exact legible_comments hm hne
  · intro t ht
    rcases reference_of_mergeOne h with ⟨-, hsame⟩ | ⟨-, text, htext, hset⟩
    · rw [hsame] at ht
      exact hcomments.reference t ht
    · rw [hset] at ht
      split at ht
      · exact absurd ht (Option.not_mem_none t)
      · obtain rfl : text = t := Option.some.inj ht
        exact Reference.oneLine_of_comment htext hm.refs

/-! ### Entries that come out of a merge -/

variable {ms : List Message} {steps : List (Text × Step)}

lemma Run.legibleIn_merged (h : Run o context source ms steps)
    (hsource : ∀ e ∈ source.values, e.LegibleIn context) (hcontext : Escapable context)
    (hms : ∀ m ∈ ms, m.Legible) : ∀ e ∈ mergedEntries steps, e.LegibleIn context := by
  intro e he
  obtain ⟨s, hs, rfl⟩ := List.mem_map.mp he
  obtain ⟨m, hm, -, hmerge⟩ := h.exists_message hs
  exact legibleIn_mergeOne hmerge hsource hcontext (hms m hm)

lemma legibleIn_missing (hsource : ∀ e ∈ source.values, e.LegibleIn context) (keys : List Text) :
    ∀ e ∈ missingEntries source keys, e.LegibleIn context := by
  intro e he
  obtain ⟨x, hx, rfl⟩ := List.mem_map.mp he
  exact (hsource x (List.mem_of_mem_filter hx)).clearPlaces

end Merge

end MessageCatalog
