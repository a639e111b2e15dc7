import Mathlib
import MessageCatalog.Proofs.Text.Charset
import MessageCatalog.Proofs.Catalog.Parsed

/-!
# Reading written files again

A catalog that was read from a file is written in its own charset and read again with the charset
that is assumed by default. What is read is the same catalog, up to what a file cannot tell, when
the bytes stand for the same text in both charsets and no line of the comment at the top begins
with the mark of another comment.
-/

namespace MessageCatalog

open Text Failure

namespace Catalog

variable {c c' : Catalog} {hs : List (Text × Text)}

/-! ### What is written -/

/-- No line of the comment at the top begins with a mark that makes another comment of it. -/
def HasPlainTop (c : Catalog) : Prop :=
  ∀ l ∈ splitOn '\n' c.headerComment, l.head? ≠ some ',' ∧ l.head? ≠ some ':'

instance (c : Catalog) : Decidable c.HasPlainTop :=
  inferInstanceAs (Decidable (∀ l ∈ splitOn '\n' c.headerComment, _ ∧ _))

lemma Legible.grouped (hc : c.Legible) : c.Grouped where
  wellFormed := hc.wellFormed
  live p hp q hq _ :=
    have hin := hc.buckets p hp q.2 (List.mem_map_of_mem hq)
    ⟨hin.live, hin.context⟩
  obsolete e he := (hc.obsolete e he).2

lemma Legible.of_mem_writtenEntries (hc : c.Legible) {e : Entry}
    (he : e ∈ Document.writtenEntries c) : e.Legible ∧ (e.obsolete = true ∨ e.msgid ≠ []) := by
  rw [hc.grouped.writtenEntries] at he
  rcases List.mem_append.mp he with he | he
  · obtain ⟨bucket, hbucket, he⟩ := List.mem_flatMap.mp he
    obtain ⟨p, hp, rfl⟩ := List.mem_map.mp hbucket
    obtain ⟨hmem, hid⟩ := List.mem_filter.mp he
    exact ⟨(hc.buckets p hp e hmem).legible, Or.inr (by simpa using hid)⟩
  · exact ⟨(hc.obsolete e he).1, Or.inl (hc.obsolete e he).2⟩

lemma render_eq_ok_iff {width : Int} {bytes : ByteArray} :
    c.render width = .ok bytes ↔
      ∃ t, Document.print width c = .ok t ∧ Charset.encodeNamed c.charset t = .ok bytes := by
  rw [render, bind_eq_ok_iff]

/-- The headers of a catalog that is written can be put in order. -/
lemma exists_orderedHeaders_of_print {width : Int} {t : Text}
    (h : Document.print width c = .ok t) :
    ∃ hs, Document.orderedHeaders c.headers = .ok hs := by
  rw [Document.print, bind_eq_ok_iff] at h
  obtain ⟨header, hheader, -⟩ := h
  rw [Document.headerEntry, bind_eq_ok_iff] at hheader
  obtain ⟨hs, horder, -⟩ := hheader
  exact ⟨hs, horder⟩

/-! ### What is read -/

/-- The second catalog is read from a file of the first one, whose headers are written as `hs`. -/
structure IsReadBack (c c' : Catalog) (hs : List (Text × Text)) : Prop where
  headers : c'.headers.entries = hs
  headerComment : c'.headerComment = c.headerComment
  headerFuzzy : c'.headerFuzzy = c.headerFuzzy
  obsolete : c'.obsolete = c.obsolete.map Entry.canonical
  contexts : c'.translations.keys = [] :: c.translations.keys.filter fun k =>
    k ≠ [] ∧ readEntries (bucketAt c.translations k) ≠ []
  buckets : ∀ context, (bucketAt c'.translations context).entries =
    (if context = [] then [([], c'.headerEcho)] else []) ++
      keyed (readEntries (bucketAt c.translations context))

/-- The text of a catalog is read as the catalog. -/
theorem exists_isReadBack (hc : c.Legible) (htop : c.HasPlainTop)
    (horder : Document.orderedHeaders c.headers = .ok hs) {width : Int}
    (hwidth : width ≤ 0 ∨ 3 ≤ width) (charset : Text) :
    ∃ t d, Document.print width c = .ok t ∧ t ≠ [] ∧ Document.ofText t = .ok d ∧
      c.IsReadBack (ofDocument d charset) hs := by
  have hcomment : Document.WritableTopComment c.headerComment :=
    ⟨hc.headerComment.1, htop, hc.headerComment.2⟩
  obtain ⟨t, d, hprint, ht, hread, hheader, hentries, hflagged, hrecords⟩ :=
    Document.exists_ofText_print_of_order hwidth horder hc.headers hcomment
      fun e he => hc.of_mem_writtenEntries he
  refine ⟨t, d, hprint, ht, hread, ?_⟩
  obtain ⟨translations, hcatalog, hkeys, hbuckets⟩ := hc.grouped.exists_ofDocument
    (fun e he => entryOf_recordOf_of_legible (hc.of_mem_writtenEntries he).1) hrecords charset
  rw [hcatalog]
  exact ⟨hentries, hheader, hflagged, rfl, hkeys, hbuckets⟩

/-! ### Charsets -/

/-- A header of the catalog names the charset. -/
def NamesCharset (c : Catalog) (name : Text) : Prop :=
  ∃ p ∈ c.headers.entries, lower p.1 = ("content-type" : Text) ∧ charsetIn? p.2 = some name

/-- The charset of the catalog is the only one that its headers name; the placeholder of a
template stands for the default. -/
structure HasOneCharset (c : Catalog) (default : Text) : Prop where
  charset : c.charset = charsetOf c.headers default
  named : ∀ name, c.NamesCharset name →
    Charset.ofName (if isPlaceholder name then default else name) = Charset.ofName c.charset

/-- Entries that are put in leave headers and charset alone. -/
lemma foldl_addEntry_headers (es : List Entry) (c : Catalog) :
    (es.foldl addEntry c).headers = c.headers ∧ (es.foldl addEntry c).charset = c.charset := by
  induction es generalizing c with
  | nil => exact ⟨rfl, rfl⟩
  | cons e es ih =>
    have hkept : (addEntry c e).headers = c.headers ∧ (addEntry c e).charset = c.charset := by
      rw [addEntry]
      split <;> exact ⟨rfl, rfl⟩
    exact ⟨(ih _).1.trans hkept.1, (ih _).2.trans hkept.2⟩

/-- A catalog that is read has the charset that its headers name. -/
lemma charset_ofDocument (d : Document) (default : Text) :
    (ofDocument d default).charset = charsetOf (ofDocument d default).headers default := by
  obtain ⟨hheaders, hcharset⟩ := foldl_addEntry_headers (d.records.map entryOf) _
  exact hcharset.trans (congrArg (charsetOf · default) hheaders.symm)

lemma charset_parseBytes {bytes : ByteArray} {default : Text}
    (h : parseBytes bytes default = .ok c) : c.charset = charsetOf c.headers default := by
  obtain ⟨-, d, -, -, rfl⟩ := parseBytes_eq_ok_iff.mp h
  exact charset_ofDocument d default

/-- The charset of headers is the default, or one of them names it. -/
lemma charsetOf_cases (headers : OrderedMap Text) (default : Text) :
    (charsetOf headers default = default ∧ ∀ p ∈ headers.entries,
      lower p.1 = ("content-type" : Text) → charsetIn? p.2 = none) ∨
    ∃ name, (∃ p ∈ headers.entries, lower p.1 = ("content-type" : Text) ∧
      charsetIn? p.2 = some name) ∧
        charsetOf headers default = if isPlaceholder name then default else name := by
  rw [charsetOf]
  cases hfirst : headers.entries.findSome? fun p =>
      if lower p.1 = ("content-type" : Text) then charsetIn? p.2 else none with
  | some name =>
    obtain ⟨p, hp, hin⟩ := List.exists_of_findSome?_eq_some hfirst
    split_ifs at hin with htype
    exact Or.inr ⟨name, ⟨p, hp, htype, hin⟩, rfl⟩
  | none =>
    refine Or.inl ⟨rfl, fun p hp htype => ?_⟩
    have hnone := List.findSome?_eq_none_iff.mp hfirst p hp
    rwa [if_pos htype] at hnone

/-- A catalog whose headers name no other charset than the default one has this charset. -/
lemma hasOneCharset_of_names {bytes : ByteArray} {default : Text} {cs : Charset}
    (h : parseBytes bytes default = .ok c) (hdefault : Charset.ofName default = .ok cs)
    (hnames : ∀ name, c.NamesCharset name →
      isPlaceholder name = true ∨ Charset.ofName name = .ok cs) :
    Charset.ofName c.charset = .ok cs ∧ c.HasOneCharset default := by
  have hall : ∀ name, c.NamesCharset name →
      Charset.ofName (if isPlaceholder name then default else name) = .ok cs := by
    intro name hname
    split_ifs with hplaceholder
    · exact hdefault
    · exact (hnames name hname).resolve_left hplaceholder
  have hcharset := charset_parseBytes h
  have hname : Charset.ofName c.charset = .ok cs := by
    rcases charsetOf_cases c.headers default with ⟨hother, -⟩ | ⟨name, hname, hother⟩
    · rw [hcharset, hother, hdefault]
    · rw [hcharset, hother, hall name hname]
  exact ⟨hname, hcharset, fun name hin => (hall name hin).trans hname.symm⟩

/-- A file is read by the name of a charset that is known, or it has no headers. -/
lemma exists_ofName_of_parseBytes {bytes : ByteArray} {default : Text}
    (h : parseBytes bytes default = .ok c) :
    (∃ cs, Charset.ofName default = .ok cs) ∨ c.charset = default := by
  obtain ⟨t, d, hdecode, hread, rfl⟩ := parseBytes_eq_ok_iff.mp h
  rw [Charset.decodeNamed] at hdecode
  split_ifs at hdecode
  · right
    obtain rfl := Except.ok.inj hdecode
    obtain rfl : _ = d := Except.ok.inj hread
    rfl
  · obtain ⟨cs, hcs, -⟩ := bind_eq_ok_iff.mp hdecode
    exact Or.inl ⟨cs, hcs⟩

/-- A permutation of the headers names the same charset. -/
lemma HasOneCharset.ofName_charsetOf {default : Text} (h : c.HasOneCharset default)
    {headers : OrderedMap Text} (hperm : headers.entries.Perm c.headers.entries) :
    Charset.ofName (charsetOf headers default) = Charset.ofName c.charset := by
  rcases charsetOf_cases headers default with ⟨hdefault, hnone⟩ | ⟨name, ⟨p, hp, hnames⟩, hcharset⟩
  · rw [hdefault, h.charset]
    rcases charsetOf_cases c.headers default with ⟨hdefault', -⟩ | ⟨name, ⟨p, hp, htype, hin⟩, -⟩
    · rw [hdefault']
    · rw [hnone p (hperm.mem_iff.mpr hp) htype] at hin
      cases hin
  · rw [hcharset, h.named name ⟨p, hperm.mem_iff.mp hp, hnames⟩]

/-- A catalog is read from the bytes that it is written as, if they stand for the same text in the
default charset. -/
theorem exists_parseBytes_of_render (hc : c.Legible) (htop : c.HasPlainTop) {default : Text}
    (hone : c.HasOneCharset default) {width : Int} (hwidth : width ≤ 0 ∨ 3 ≤ width)
    {bytes : ByteArray} (hrender : c.render width = .ok bytes)
    (hdecode : ∀ t ≠ [], Charset.encodeNamed c.charset t = .ok bytes →
      Charset.decodeNamed default bytes = .ok t) :
    ∃ hs c', Document.orderedHeaders c.headers = .ok hs ∧ parseBytes bytes default = .ok c' ∧
      c.IsReadBack c' hs ∧ Charset.ofName c'.charset = Charset.ofName c.charset := by
  obtain ⟨t, hprint, hencode⟩ := render_eq_ok_iff.mp hrender
  obtain ⟨hs, horder⟩ := exists_orderedHeaders_of_print hprint
  obtain ⟨t', d, hprint', ht, hread, hback⟩ := exists_isReadBack hc htop horder hwidth default
  obtain rfl : t = t' := Except.ok.inj (hprint.symm.trans hprint')
  refine ⟨hs, _, horder, parseBytes_eq_ok_iff.mpr ⟨t, d, hdecode t ht hencode, hread, rfl⟩, hback,
    ?_⟩
  rw [charset_ofDocument]
  exact hone.ofName_charsetOf (hback.headers ▸ Document.orderedHeaders_perm horder)

end Catalog

end MessageCatalog
