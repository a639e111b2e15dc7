import MessageCatalog.Proofs.Merge.Twice

/-!
# Entries that are put into a file

A catalog in UTF-8 that can be written is read again under every name of this charset, each of its
entries as a file can hold it. So an entry that is put into the catalog is read with the comment
that it was written with, if and only if no line of the comment is empty.
-/

namespace MessageCatalog

open Text

namespace Catalog

variable {c c' : Catalog} {e : Entry} {context name : Text} {hs : List (Text × Text)} {width : Int}

/-! ### Catalogs in UTF-8 -/

/-- A catalog in UTF-8 that can be written and read again. -/
structure IsRewritable (c : Catalog) : Prop where
  legible : c.Legible
  plainTop : c.HasPlainTop
  charset : Charset.ofName c.charset = .ok .utf8
  headers : ∃ hs, Document.orderedHeaders c.headers = .ok hs

/-- A catalog in UTF-8 is read from what it is written as. -/
theorem IsRewritable.exists_isReadBack (hc : c.IsRewritable) (hwidth : width ≤ 0 ∨ 3 ≤ width)
    (hname : Charset.ofName name = .ok .utf8) :
    ∃ bytes c' hs, c.render width = .ok bytes ∧ parseBytes bytes name = .ok c' ∧
      c.IsReadBack c' hs := by
  obtain ⟨hs, horder⟩ := hc.headers
  obtain ⟨t, d, hprint, ht, hread, hback⟩ :=
    Catalog.exists_isReadBack hc.legible hc.plainTop horder hwidth name
  have hencode : Charset.encode .utf8 t = some (String.ofList t).toByteArray := rfl
  have hsame : Charset.utf8.Rereads .utf8 (String.ofList t).toByteArray := Or.inl (Or.inl rfl)
  exact ⟨_, _, hs,
    render_eq_ok_iff.mpr ⟨t, hprint, Charset.encodeNamed_eq_ok_iff.mpr ⟨_, hc.charset, hencode⟩⟩,
    parseBytes_eq_ok_iff.mpr ⟨t, d, hsame.decodeNamed hname ht hencode, hread, rfl⟩, hback⟩

/-- A catalog in UTF-8 that was written can be written and read again. -/
lemma IsRewritable.of_render {bytes : ByteArray} (hc : c.Legible) (htop : c.HasPlainTop)
    (hutf8 : Charset.ofName c.charset = .ok .utf8) (h : c.render width = .ok bytes) :
    c.IsRewritable := by
  obtain ⟨t, hprint, -⟩ := render_eq_ok_iff.mp h
  exact ⟨hc, htop, hutf8, exists_orderedHeaders_of_print hprint⟩

/-- So can the catalog that is read then. -/
lemma IsRewritable.of_isReadBack (hc : c.IsRewritable) (hback : c.IsReadBack c' hs)
    (horder : Document.orderedHeaders c.headers = .ok hs) (hc' : c'.Legible)
    (hcharset : Charset.ofName c'.charset = Charset.ofName c.charset) : c'.IsRewritable where
  legible := hc'
  plainTop := by
    rw [HasPlainTop, hback.headerComment]
    exact hc.plainTop
  charset := hcharset.trans hc.charset
  headers := ⟨hs, Document.orderedHeaders_self horder hback.headers⟩

/-- Other entries change nothing about headers and charset. -/
lemma IsRewritable.withContext (hc : c.IsRewritable) {b : Bucket}
    (h : (c.withContext context b).Legible) : (c.withContext context b).IsRewritable :=
  ⟨h, hc.plainTop, hc.charset, hc.headers⟩

/-- An entry that was written is read as a file can hold it. -/
lemma IsReadBack.get?_bucketAt (h : c.IsReadBack c' hs)
    (he : e ∈ messageEntries (bucketAt c.translations context)) :
    (bucketAt c'.translations context).get? e.msgid = some e.canonical := by
  rw [OrderedMap.get?_eq_some_iff, h.buckets]
  exact List.mem_append_right _ (mem_keyed.mpr ⟨List.mem_map_of_mem he, rfl⟩)

/-! ### One more entry -/

lemma addEntry_of_live (hlive : e.obsolete = false) :
    addEntry c e = c.withContext (e.msgctxt.getD [])
      ((bucketAt c.translations (e.msgctxt.getD [])).insert e.msgid e) := by
  rw [addEntry, hlive]
  rfl

lemma mem_messageEntries_addEntry (c : Catalog) (hlive : e.obsolete = false)
    (hid : e.msgid ≠ []) :
    e ∈ messageEntries (bucketAt (addEntry c e).translations (e.msgctxt.getD [])) := by
  rw [addEntry_of_live hlive, messageEntries_withContext, if_pos rfl, messageEntries,
    List.mem_filter]
  refine ⟨List.mem_map.mpr ⟨(e.msgid, e), ?_, rfl⟩, by simpa using hid⟩
  exact OrderedMap.mem_entries_insert.mpr (Or.inl rfl)

/-- An entry of a catalog that was read. -/
lemma Legible.of_get?_bucketAt (hc : c.Legible) {msgid : Text}
    (h : (bucketAt c.translations context).get? msgid = some e) :
    e.LegibleIn context ∧ e.msgid = msgid := by
  by_cases hmem : context ∈ c.translations.keys
  · obtain ⟨p, hp, rfl⟩ := List.mem_map.mp hmem
    rw [bucketAt_of_mem hp, OrderedMap.get?_eq_some_iff] at h
    exact ⟨hc.buckets p hp e (List.mem_map_of_mem h), hc.wellFormed p hp _ h⟩
  · rw [bucketAt_of_not_mem hmem] at h
    cases h

/-- The entry is read with its extracted comment where the catalog is written with it. -/
def KeepsExtracted (c : Catalog) (width : Int) (e : Entry) : Prop :=
  ∃ bytes c' x, (addEntry c e).render width = .ok bytes ∧ parseBytes bytes c.charset = .ok c' ∧
    (bucketAt c'.translations (e.msgctxt.getD [])).get? e.msgid = some x ∧ x.extracted = e.extracted

/-- The extracted comment of an entry is kept if and only if none of its lines is empty. -/
theorem keepsExtracted_iff (hc : c.IsRewritable) (hwidth : width ≤ 0 ∨ 3 ≤ width)
    (he : e.Legible) (hlive : e.obsolete = false) (hid : e.msgid ≠ []) {t : Text}
    (ht : Document.IsCommentText t) :
    c.KeepsExtracted width (e.withExtracted (some t)) ↔ [] ∉ splitOn '\n' t := by
  constructor
  · rintro ⟨bytes, c', x, -, hparse, hget, hextracted⟩
    obtain ⟨⟨hlegible, hlive', -⟩, -⟩ := (legible_parseBytes hparse).1.of_get?_bucketAt hget
    have hcomments := hlegible.comments
    rw [Entry.writtenComments_of_live hlive'] at hcomments
    exact (hcomments.extracted t hextracted).2
  · intro hlines
    have hne : t ≠ [] := by
      rintro rfl
      exact hlines (by simp [splitOn])
    have hcomments := he.comments
    rw [Entry.writtenComments_of_live hlive] at hcomments
    have hin : (e.withExtracted (some t)).LegibleIn (e.msgctxt.getD []) := by
      refine Entry.LegibleIn.of_sameTranslation ⟨he, hlive, rfl⟩
        (Entry.sameTranslation_withExtracted e _) ?_ ?_
      · intro u hu
        obtain rfl := Option.some.inj hu
        exact ⟨ht, hlines⟩
      · rw [Entry.reference_withExtracted]
        exact hcomments.reference
    -- Without empty lines the entry can be written, so it is read back with its comment.
    have hadded : (addEntry c (e.withExtracted (some t))).IsRewritable := by
      have hlegible := hc.legible.addEntry hin.legible
      rw [addEntry_of_live hin.live] at hlegible ⊢
      exact hc.withContext hlegible
    obtain ⟨bytes, c', hs, hrender, hparse, hback⟩ := hadded.exists_isReadBack hwidth hc.charset
    refine ⟨bytes, c', _, hrender, hparse,
      hback.get?_bucketAt (mem_messageEntries_addEntry c hin.live hid), ?_⟩
    have hgiven := (Entry.given_canonical_of_live hin.live).2.1
    have hsome : givenText (e.withExtracted (some t)).extracted = some t := by
      show givenText (some t) = some t
      simpa [givenText] using hne
    rw [hsome, givenText, Option.filter_eq_some_iff] at hgiven
    exact hgiven.1

end Catalog

namespace Merge

variable {c : Catalog} {o : MergeOptions} {messages : Value} {ms : List Message} {r : MergeReport}

/-- What a merge makes of a catalog can be written and read again, too. -/
lemma isRewritable_written (hc : c.IsRewritable) (hms : Reads messages ms)
    (hlegible : ∀ m ∈ ms, m.Legible) (hr : (c.merge messages o).result = .ok r) (replace : Bool) :
    (r.written replace).IsRewritable := by
  obtain ⟨hwritten, b, hb⟩ := written_of_merge hc.legible hms hlegible hr replace
  rw [hb] at hwritten ⊢
  exact hc.withContext hwritten

/-- A catalog can be written just when what a merge makes of it can. -/
lemma render_written_iff (hc : c.Legible) (htop : c.HasPlainTop)
    (hutf8 : Charset.ofName c.charset = .ok .utf8) {width : Int} (hwidth : width ≤ 0 ∨ 3 ≤ width)
    (hms : Reads messages ms) (hlegible : ∀ m ∈ ms, m.Legible)
    (hr : (c.merge messages o).result = .ok r) (replace : Bool) :
    (∃ bytes, (r.written replace).render width = .ok bytes) ↔
      ∃ bytes, c.render width = .ok bytes := by
  constructor
  · rintro ⟨bytes, hrender⟩
    obtain ⟨t, hprint, -⟩ := Catalog.render_eq_ok_iff.mp hrender
    obtain ⟨-, b, hb⟩ := written_of_merge hc hms hlegible hr replace
    rw [hb] at hprint
    have hheaders := Catalog.exists_orderedHeaders_of_print (c := c.withContext o.context b) hprint
    obtain ⟨content, -, -, hcontent, -⟩ :=
      Catalog.IsRewritable.exists_isReadBack ⟨hc, htop, hutf8, hheaders⟩ hwidth hutf8
    exact ⟨content, hcontent⟩
  · rintro ⟨content, hcontent⟩
    obtain ⟨bytes, -, -, hrender, -⟩ := (isRewritable_written
      (.of_render hc htop hutf8 hcontent) hms hlegible hr replace).exists_isReadBack hwidth hutf8
    exact ⟨bytes, hrender⟩

end Merge

end MessageCatalog
