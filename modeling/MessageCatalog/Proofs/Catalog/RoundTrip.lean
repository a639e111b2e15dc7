import MessageCatalog.Proofs.Catalog.Grouping
import MessageCatalog.Proofs.Text.Charset

/-!
# Writing and reading catalogs

A catalog that is written in UTF-8 and read again is the same catalog, up to what its file cannot
tell: headers come back in the order in which they are written, the context without name comes
first, and a comment without text is none.
-/

namespace MessageCatalog

open Text

/-- An entry that can be written and read again in its context, under its message id. -/
@[mk_iff]
structure Entry.WritableIn (e : Entry) (context : Text) : Prop where
  writable : e.Writable
  live : e.obsolete = false
  msgid : e.msgid ≠ []
  context : e.msgctxt.getD [] = context

instance (e : Entry) (context : Text) : Decidable (e.WritableIn context) :=
  decidable_of_iff' _ (Entry.writableIn_iff e context)

namespace Catalog

lemma entryOf_recordOf {e : Entry} (he : e.Writable) :
    entryOf (Document.recordOf e) = e.canonical :=
  entryOf_recordOf_of_legible he.legible

/-! ### The whole catalog -/

/-- A catalog that can be written and read again. The context without name may hold a repetition
of the headers besides its entries. -/
structure Writable (c : Catalog) : Prop where
  charset : Charset.ofName c.charset = .ok .utf8
  headers : ∀ p ∈ c.headers.entries, Document.WritableHeader p
  charsets : ∀ p ∈ c.headers.entries, lower p.1 = ("content-type" : Text) →
    ∀ name ∈ charsetIn? p.2, isPlaceholder name = true ∨ name = c.charset
  headerComment : Document.WritableTopComment c.headerComment
  buckets : ∀ p ∈ c.translations.entries, ∀ q ∈ p.2.entries,
    (p.1 = [] ∧ q.1 = [] ∧ q.2.msgid = []) ∨ (q.1 = q.2.msgid ∧ q.2.WritableIn p.1)
  named : ∀ p ∈ c.translations.entries, p.1 ≠ [] → p.2.entries ≠ []
  obsolete : ∀ e ∈ c.obsolete, e.Writable ∧ e.obsolete = true ∧ e.msgid ≠ []

/-- The second catalog is what a file of the first one is read as. -/
structure ReadsAs (c c' : Catalog) : Prop where
  headers : c'.headers.entries.Perm c.headers.entries
  headerComment : c'.headerComment = c.headerComment
  headerFuzzy : c'.headerFuzzy = c.headerFuzzy
  charset : c'.charset = c.charset
  obsolete : c'.obsolete = c.obsolete.map Entry.canonical
  contexts : c'.translations.keys = [] :: c.translations.keys.filter (· ≠ [])
  buckets : ∀ context ∈ c'.translations.keys,
    (bucketAt c'.translations context).entries =
      (if context = [] then [([], c'.headerEcho)] else []) ++
        keyed (readEntries (bucketAt c.translations context))

lemma Writable.mem_values {c : Catalog} (hc : c.Writable) {p : Text × Bucket}
    (hp : p ∈ c.translations.entries) {e : Entry}
    (he : e ∈ p.2.values.filter fun e => !e.msgid.isEmpty) : e.WritableIn p.1 := by
  obtain ⟨hmem, hid⟩ := List.mem_filter.mp he
  obtain ⟨q, hq, rfl⟩ := List.mem_map.mp hmem
  rcases hc.buckets p hp q hq with ⟨-, -, hnil⟩ | ⟨-, hin⟩
  · exact absurd hnil (by simpa using hid)
  · exact hin

lemma Writable.grouped {c : Catalog} (hc : c.Writable) : c.Grouped where
  wellFormed := by
    intro p hp q hq
    rcases hc.buckets p hp q hq with ⟨-, hkey, hid⟩ | ⟨hkey, -⟩
    · rw [hkey, hid]
    · exact hkey.symm
  live := by
    intro p hp q hq hne
    rcases hc.buckets p hp q hq with ⟨-, -, hid⟩ | ⟨-, hin⟩
    · exact absurd hid hne
    · exact ⟨hin.live, hin.context⟩
  obsolete e he := (hc.obsolete e he).2.1

lemma Writable.of_mem_writtenEntries {c : Catalog} (hc : c.Writable) {e : Entry}
    (he : e ∈ Document.writtenEntries c) :
    e.Writable ∧ (e.obsolete = true ∨ e.msgid ≠ []) := by
  rw [hc.grouped.writtenEntries] at he
  rcases List.mem_append.mp he with he | he
  · obtain ⟨bucket, hbucket, he⟩ := List.mem_flatMap.mp he
    obtain ⟨p, hp, rfl⟩ := List.mem_map.mp hbucket
    exact ⟨(hc.mem_values hp he).writable, Or.inr (hc.mem_values hp he).msgid⟩
  · exact ⟨(hc.obsolete e he).1, Or.inl (hc.obsolete e he).2.1⟩

/-- Something is written of every context with a name. -/
lemma Writable.readEntries_ne_nil {c : Catalog} (hc : c.Writable) {p : Text × Bucket}
    (hp : p ∈ c.translations.entries) (hname : p.1 ≠ []) : readEntries p.2 ≠ [] := by
  intro hnil
  obtain ⟨q, hq⟩ := List.exists_mem_of_ne_nil _ (hc.named p hp hname)
  rcases hc.buckets p hp q hq with ⟨hnone, -, -⟩ | ⟨hid, hin⟩
  · exact hname hnone
  · have hmem : q.1 ∈ p.2.keys.filter (· ≠ []) :=
      List.mem_filter.mpr ⟨List.mem_map_of_mem hq, by simpa [hid] using hin.msgid⟩
    rw [← hc.grouped.keys_readEntries hp, hnil] at hmem
    exact List.not_mem_nil hmem

/-- No context with a name is lost, since something is written of each of them. -/
lemma Writable.filter_keys {c : Catalog} (hc : c.Writable) :
    (c.translations.keys.filter fun k =>
      k ≠ [] ∧ readEntries (bucketAt c.translations k) ≠ []) =
        c.translations.keys.filter (· ≠ []) := by
  apply List.filter_congr
  intro k hk
  obtain ⟨p, hp, rfl⟩ := List.mem_map.mp hk
  by_cases hname : p.1 = []
  · simp [hname]
  · simp [hname, bucketAt_of_mem hp, hc.readEntries_ne_nil hp hname]

lemma charsetOf_eq {c : Catalog} (hc : c.Writable) {headers : OrderedMap Text}
    (hperm : headers.entries.Perm c.headers.entries) : charsetOf headers c.charset = c.charset := by
  rw [charsetOf]
  split
  · rename_i name hname
    obtain ⟨p, hp, hin⟩ := List.exists_of_findSome?_eq_some hname
    split_ifs at hin with htype
    rcases hc.charsets p (hperm.mem_iff.mp hp) htype name hin with hplace | rfl
    · rw [if_pos hplace]
    · split <;> rfl
  · rfl

/-- Texts in UTF-8 are read as they were written. -/
lemma decodeNamed_encodeNamed {name t : Text} (h : Charset.ofName name = .ok .utf8) (ht : t ≠ []) :
    ∃ bytes, Charset.encodeNamed name t = .ok bytes ∧ Charset.decodeNamed name bytes = .ok t := by
  have hencode : Charset.encode .utf8 t = some (String.ofList t).toByteArray := rfl
  exact ⟨_, Charset.encodeNamed_eq_ok_iff.mpr ⟨.utf8, h, hencode⟩, Charset.decodeNamed_of_decode h
    (Charset.isEmpty_of_encode ht hencode) (Charset.ReadBy.decode (Or.inl rfl) hencode)⟩

/-- A catalog is written at every width but one and two, and what is written is read as the same
catalog. -/
theorem exists_parseBytes_render {c : Catalog} (hc : c.Writable) {width : Int}
    (h : width ≤ 0 ∨ 3 ≤ width) :
    ∃ bytes c', c.render width = .ok bytes ∧ parseBytes bytes c.charset = .ok c' ∧
      c.ReadsAs c' := by
  obtain ⟨t, d, hprint, ht, hread, hheader, hperm, hflagged, hrecords⟩ :=
    Document.exists_ofText_print h hc.headers hc.headerComment
      fun e he => hc.of_mem_writtenEntries he
  obtain ⟨bytes, hencode, hdecode⟩ := decodeNamed_encodeNamed hc.charset ht
  have hrender : c.render width = .ok bytes := by
    rw [render, hprint]
    exact hencode
  have hparse : parseBytes bytes c.charset = .ok (ofDocument d c.charset) := by
    rw [parseBytes, hdecode]
    show parse t c.charset = _
    rw [parse, hread]
    rfl
  refine ⟨bytes, _, hrender, hparse, ?_⟩
  obtain ⟨translations, hcatalog, hkeys, hbuckets⟩ := hc.grouped.exists_ofDocument
    (fun e he => entryOf_recordOf (hc.of_mem_writtenEntries he).1) hrecords c.charset
  rw [hcatalog]
  exact ⟨hperm, hheader, hflagged, charsetOf_eq hc hperm, rfl, hkeys.trans (by rw [hc.filter_keys]),
    fun context _ => hbuckets context⟩

/-- A catalog with two contexts, of which the first holds a text of two lines, and the other a
message with a plural whose translation waits for a review. -/
def sampleCatalog : Catalog where
  headers := OrderedMap.ofList
    [("X-Part-10", "ui"), ("Language", "de"), ("Content-Type", "text/plain; charset=utf-8")]
  translations := OrderedMap.ofList
    [("menu", OrderedMap.ofList
        [("One file", {
            msgid := "One file"
            msgstr := ["Eine Datei", "{n} Dateien"]
            msgctxt := some "menu".toList
            msgidPlural := some "{n} files".toList
            comments := some {
              extracted := some "for buttons".toList
              reference := some "a.py:1 b.py:2\nc.py:3".toList }
            flags := ["fuzzy"]
            previousMsgid := some "A file".toList })]),
      ("", OrderedMap.ofList
        [("Say \"hi\"\n", {
            msgid := "Say \"hi\"\n"
            msgstr := ["Sag \"hallo\"\n"]
            comments := some { translator := some "note".toList } })])]
  headerComment := "Translations"
  obsolete := [{ msgid := "Old", msgstr := ["Alt"], obsolete := true }]

theorem exists_parseBytes_render_sampleCatalog :
    ∃ bytes c', sampleCatalog.render 20 = .ok bytes ∧
      parseBytes bytes sampleCatalog.charset = .ok c' ∧ sampleCatalog.ReadsAs c' := by
  refine exists_parseBytes_render ⟨rfl, ?_, ?_, ?_, ?_, ?_, ?_⟩ (by decide)
  all_goals decide +kernel

end Catalog

end MessageCatalog
