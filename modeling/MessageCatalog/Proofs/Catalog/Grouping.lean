import Mathlib
import MessageCatalog.Catalog.Codec
import MessageCatalog.Proofs.Bucket
import MessageCatalog.Proofs.Document.Files

/-!
# Reading what a catalog is written as

The entries of a file are put into their contexts one after another. When they stand in the file
as a catalog is written, every context comes out as it was, the context without name first, and
contexts of which nothing is written are gone.
-/

namespace MessageCatalog

open Text

/-! ### What is read for an entry -/

/-- A text that is there and not empty. -/
def givenText (t : Option Text) : Option Text := t.filter fun u => !u.isEmpty

/-- Comments without empty texts; places of use stand with single spaces between them. -/
def EntryComments.canonical (c : EntryComments) : EntryComments where
  translator := givenText c.translator
  extracted := givenText c.extracted
  reference := Catalog.nonempty (join " " (words (c.reference.getD [])))

/-- The entry that is read where an entry is written. -/
def Entry.canonical (e : Entry) : Entry where
  msgid := e.msgid
  msgstr := e.msgstr
  msgctxt := e.msgctxt
  msgidPlural := givenText e.msgidPlural
  comments :=
    if e.writtenComments.canonical.isGiven then some e.writtenComments.canonical else none
  flags := e.flags
  previousMsgid := if e.obsolete then none else e.previousMsgid
  previousMsgctxt := if e.obsolete then none else e.previousMsgctxt
  obsolete := e.obsolete

namespace Catalog

lemma nonempty_getD (t : Option Text) : nonempty (t.getD []) = givenText t := by
  match t with
  | none => rfl
  | some [] => rfl
  | some (_ :: _) => rfl

@[simp] lemma getD_nonempty (t : Text) : (nonempty t).getD [] = t := by
  cases t <;> rfl

lemma occurrenceText_occurrenceOf (w : Text) :
    occurrenceText (Document.Line.occurrenceOf w) = w := by
  unfold Document.Line.occurrenceOf
  split
  · rename_i file line hcut
    split
    · rename_i hline
      have hne : line ≠ [] := by
        rintro rfl
        exact absurd hline (by simp)
      rw [occurrenceText, if_neg (by simpa using hne)]
      exact (eq_append_of_cutLast hcut).symm
    · rfl
  · rfl

lemma translationsOf_recordOf {e : Entry} (he : e.Legible) :
    translationsOf (Document.recordOf e) = e.msgstr := by
  cases hgiven : isGiven e.msgidPlural with
  | false =>
    obtain ⟨t, ht⟩ : ∃ t, e.msgstr = [t] := List.length_eq_one_iff.mp (he.single hgiven)
    have hnil : e.msgidPlural.getD [] = [] := by
      match hp : e.msgidPlural with
      | none => rfl
      | some [] => rfl
      | some (_ :: _) => rw [hp] at hgiven; exact absurd hgiven.symm Bool.false_ne_true
    simp [translationsOf, Document.recordOf, hnil, hgiven, ht]
  | true =>
    obtain ⟨hne, -⟩ := he.several hgiven
    have hplural : e.msgidPlural.getD [] ≠ [] := by
      match hp : e.msgidPlural with
      | none => rw [hp] at hgiven; exact absurd hgiven Bool.false_ne_true
      | some [] => rw [hp] at hgiven; exact absurd hgiven Bool.false_ne_true
      | some (_ :: _) => exact List.cons_ne_nil _ _
    have hsorted : (e.msgstr.zipIdx.map Prod.swap).Pairwise
        fun a b => decide (a.1 ≤ b.1) = true := by
      rw [List.pairwise_iff_getElem]
      intro i j hi hj hij
      simpa using hij.le
    have hsnd : (e.msgstr.zipIdx.map Prod.swap).map Prod.snd = e.msgstr := by
      rw [List.map_map]
      exact List.zipIdx_map_fst 0 e.msgstr
    simp only [translationsOf, Document.recordOf, hgiven]
    rw [if_neg (by simpa using hplural)]
    simp only [if_true]
    rw [List.mergeSort_of_pairwise hsorted, hsnd]
    cases hm : e.msgstr with
    | nil => exact absurd hm hne
    | cons t ts => rfl

/-- The record of an entry is read as the entry. -/
lemma entryOf_recordOf_of_legible {e : Entry} (he : e.Legible) :
    entryOf (Document.recordOf e) = e.canonical := by
  have hreference : (Document.occurrencesOf e.writtenComments.reference).map occurrenceText =
      words (e.writtenComments.reference.getD []) := by
    rw [Document.occurrencesOf, List.map_map]
    exact List.map_id'' occurrenceText_occurrenceOf _
  have hcomments : ({
      translator := nonempty (Document.recordOf e).translatorComment
      extracted := nonempty (Document.recordOf e).extractedComment
      reference := nonempty (join " " ((Document.recordOf e).occurrences.map occurrenceText)) } :
        EntryComments) = e.writtenComments.canonical := by
    simp only [Document.recordOf, nonempty_getD, hreference]
    rfl
  simp only [entryOf, hcomments, translationsOf_recordOf he]
  rw [Entry.canonical, ← nonempty_getD]
  rfl

/-! ### Grouping by context -/

lemma foldl_addEntry_obsolete {es : List Entry} (h : ∀ e ∈ es, e.obsolete = true) (c : Catalog) :
    es.foldl addEntry c = { c with obsolete := c.obsolete ++ es } := by
  induction es generalizing c with
  | nil => simp
  | cons e es ih =>
    have he : addEntry c e = { c with obsolete := c.obsolete ++ [e] } := by
      rw [addEntry, if_pos (h e List.mem_cons_self)]
    rw [List.foldl_cons, he, ih fun x hx => h x (List.mem_cons_of_mem e hx)]
    simp

/-- Live entries of one context are put into its bucket one after another. -/
lemma foldl_addEntry_bucket {context : Text} {es : List Entry}
    (h : ∀ e ∈ es, e.obsolete = false ∧ e.msgctxt.getD [] = context) (hne : es ≠ [])
    (c : Catalog) :
    es.foldl addEntry c = { c with
      translations := c.translations.insert context
        ((keyed es).foldl (fun b p => b.insert p.1 p.2) (bucketAt c.translations context)) } := by
  induction es generalizing c with
  | nil => exact absurd rfl hne
  | cons e es ih =>
    obtain ⟨hlive, hcontext⟩ := h e List.mem_cons_self
    have he : addEntry c e = { c with
        translations := c.translations.insert context
          ((bucketAt c.translations context).insert e.msgid e) } := by
      rw [addEntry, hlive, hcontext]
      rfl
    rw [List.foldl_cons, he]
    by_cases hes : es = []
    · rw [hes]
      rfl
    · rw [ih (fun x hx => h x (List.mem_cons_of_mem e hx)) hes]
      simp [OrderedMap.insert_insert, bucketAt, OrderedMap.get?_insert, keyed]

/-- Live entries of one context change no bucket but its own, and come behind what is there. -/
lemma exists_foldl_addEntry_context {context : Text} {es : List Entry}
    (h : ∀ e ∈ es, e.obsolete = false ∧ e.msgctxt.getD [] = context) {c : Catalog}
    (hempty : es = [] → context ∈ c.translations.keys)
    (hids : (((bucketAt c.translations context).entries ++ keyed es).map Prod.fst).Nodup) :
    ∃ translations, es.foldl addEntry c = { c with translations } ∧
      translations.keys = c.translations.keys ++ [context].filter (· ∉ c.translations.keys) ∧
      (bucketAt translations context).entries =
        (bucketAt c.translations context).entries ++ keyed es ∧
      ∀ other, other ≠ context → translations.get? other = c.translations.get? other := by
  by_cases hes : es = []
  · subst hes
    have hmem := hempty rfl
    exact ⟨c.translations, rfl, by simp [hmem], by simp [keyed], fun _ _ => rfl⟩
  · refine ⟨_, foldl_addEntry_bucket h hes c, ?_, ?_, ?_⟩
    · by_cases hmem : context ∈ c.translations.keys
      · rw [OrderedMap.keys_insert_of_mem hmem]
        simp [hmem]
      · rw [OrderedMap.keys_insert_of_not_mem hmem]
        simp [hmem]
    · rw [bucketAt, OrderedMap.get?_insert, if_pos rfl, Option.getD_some]
      exact OrderedMap.entries_foldl_insert hids
    · intro other hother
      rw [OrderedMap.get?_insert, if_neg hother]

/-- Live entries that stand context by context are put into a bucket each, in their order. -/
lemma exists_foldl_addEntry {ps : List (Text × List Entry)} (hnames : (ps.map Prod.fst).Nodup)
    (h : ∀ p ∈ ps, ∀ e ∈ p.2, e.obsolete = false ∧ e.msgctxt.getD [] = p.1) {c : Catalog}
    (hempty : ∀ p ∈ ps, p.2 = [] → p.1 ∈ c.translations.keys)
    (hids : ∀ p ∈ ps,
      (((bucketAt c.translations p.1).entries ++ keyed p.2).map Prod.fst).Nodup) :
    ∃ translations, (ps.flatMap Prod.snd).foldl addEntry c = { c with translations } ∧
      translations.keys =
        c.translations.keys ++ (ps.map Prod.fst).filter (· ∉ c.translations.keys) ∧
      (∀ p ∈ ps, (bucketAt translations p.1).entries =
        (bucketAt c.translations p.1).entries ++ keyed p.2) ∧
      ∀ context ∉ ps.map Prod.fst, translations.get? context = c.translations.get? context := by
  induction ps generalizing c with
  | nil => exact ⟨c.translations, rfl, by simp, by simp, fun _ _ => rfl⟩
  | cons p ps ih =>
    obtain ⟨context, es⟩ := p
    rw [List.map_cons, List.nodup_cons] at hnames
    obtain ⟨first, hfirst, hkeys, hbucket, hothers⟩ := exists_foldl_addEntry_context
      (h _ List.mem_cons_self) (hempty _ List.mem_cons_self) (hids _ List.mem_cons_self)
    have hother : ∀ q ∈ ps, first.get? q.1 = c.translations.get? q.1 := by
      intro q hq
      exact hothers q.1 fun heq => hnames.1 (List.mem_map.mpr ⟨q, hq, heq⟩)
    -- The other contexts come after the first one and leave it as it is.
    obtain ⟨last, hlast, hkeys', hbucket', hothers'⟩ :=
      ih hnames.2 (fun q hq => h q (List.mem_cons_of_mem _ hq)) (c := { c with translations := first })
        (fun q hq hnil => by
          rw [hkeys]
          exact List.mem_append_left _ (hempty q (List.mem_cons_of_mem _ hq) hnil))
        (fun q hq => by
          rw [bucketAt, hother q hq]
          exact hids q (List.mem_cons_of_mem _ hq))
    refine ⟨last, ?_, ?_, ?_, ?_⟩
    · rw [List.flatMap_cons, List.foldl_append, hfirst, hlast]
    · have hnew : (ps.map Prod.fst).filter (· ∉ first.keys) =
          (ps.map Prod.fst).filter (· ∉ c.translations.keys) := by
        apply List.filter_congr
        intro k hk
        have hne : k ≠ context := fun heq => hnames.1 (heq ▸ hk)
        simp [hkeys, hne]
      rw [hkeys', hnew, hkeys, List.append_assoc, ← List.filter_append]
      rfl
    · refine List.forall_mem_cons.mpr ⟨?_, fun q hq => ?_⟩
      · rw [bucketAt, hothers' context hnames.1]
        exact hbucket
      · rw [hbucket' q hq, bucketAt, hother q hq]
        rfl
    · intro other hmem
      rw [List.map_cons, List.mem_cons, not_or] at hmem
      rw [hothers' other hmem.2, hothers other hmem.1]

/-! ### Grouped catalogs -/

/-- The entries with a message id of a bucket, as they are read. -/
def readEntries (bucket : Bucket) : List Entry :=
  (bucket.values.filter fun e => !e.msgid.isEmpty).map Entry.canonical

/-- The entry that repeats the headers of a catalog. -/
def headerEcho (c : Catalog) : Entry where
  msgid := []
  msgstr := [Document.headerText c.headers.entries]

/-- The contexts with the entries that are read for them. -/
def readContexts (c : Catalog) : List (Text × List Entry) :=
  c.translations.entries.map fun p => (p.1, readEntries p.2)

/-- The contexts of which something is written, with the entries that are read for them. -/
def filledContexts (c : Catalog) : List (Text × List Entry) :=
  c.readContexts.filter fun p => !p.2.isEmpty

lemma flatMap_filledContexts (c : Catalog) :
    c.filledContexts.flatMap Prod.snd = c.readContexts.flatMap Prod.snd := by
  have hall : ∀ ps : List (Text × List Entry),
      (ps.filter fun p => !p.2.isEmpty).flatMap Prod.snd = ps.flatMap Prod.snd := by
    intro ps
    induction ps with
    | nil => rfl
    | cons p ps ih =>
      by_cases hp : p.2 = []
      · rw [List.filter_cons_of_neg (by simp [hp]), ih, List.flatMap_cons, hp, List.nil_append]
      · rw [List.filter_cons_of_pos (by simp [hp]), List.flatMap_cons, List.flatMap_cons, ih]
  exact hall _

lemma fst_filledContexts (c : Catalog) :
    c.filledContexts.map Prod.fst =
      c.translations.keys.filter fun k => readEntries (bucketAt c.translations k) ≠ [] := by
  rw [filledContexts, readContexts, OrderedMap.keys, List.filter_map, List.filter_map, List.map_map]
  have hfilter : c.translations.entries.filter
      ((fun p => !p.2.isEmpty) ∘ fun p => (p.1, readEntries p.2)) =
        c.translations.entries.filter
          ((fun k => decide (readEntries (bucketAt c.translations k) ≠ [])) ∘ Prod.fst) :=
    List.filter_congr fun p hp => by
      simp only [Function.comp_apply, bucketAt_of_mem hp]
      cases readEntries p.2 <;> rfl
  rw [hfilter]
  rfl

/-- Every entry stands under its message id, in its context if it has one, and among the obsolete
entries if it is one. -/
structure Grouped (c : Catalog) : Prop where
  wellFormed : c.WellFormed
  live : ∀ p ∈ c.translations.entries, ∀ q ∈ p.2.entries, q.2.msgid ≠ [] →
    q.2.obsolete = false ∧ q.2.msgctxt.getD [] = p.1
  obsolete : ∀ e ∈ c.obsolete, e.obsolete = true

namespace Grouped

variable {c : Catalog}

lemma mem_values (hc : c.Grouped) {p : Text × Bucket} (hp : p ∈ c.translations.entries)
    {e : Entry} (he : e ∈ p.2.values.filter fun e => !e.msgid.isEmpty) :
    e.obsolete = false ∧ e.msgctxt.getD [] = p.1 := by
  obtain ⟨hmem, hid⟩ := List.mem_filter.mp he
  obtain ⟨q, hq, rfl⟩ := List.mem_map.mp hmem
  exact hc.live p hp q hq (by simpa using hid)

/-- The entries are written context by context, and the obsolete ones behind them. -/
lemma writtenEntries (hc : c.Grouped) :
    Document.writtenEntries c =
      (c.translations.values.flatMap fun bucket =>
        bucket.values.filter fun e => !e.msgid.isEmpty) ++ c.obsolete := by
  have hlive : ∀ e ∈ c.translations.values.flatMap fun bucket =>
      bucket.values.filter fun e => !e.msgid.isEmpty, e.obsolete = false := by
    intro e he
    obtain ⟨bucket, hbucket, he⟩ := List.mem_flatMap.mp he
    obtain ⟨p, hp, rfl⟩ := List.mem_map.mp hbucket
    exact (hc.mem_values hp he).1
  simp only [Document.writtenEntries, List.filter_append]
  rw [List.filter_eq_self.mpr (by simpa using hlive),
    List.filter_eq_nil_iff.mpr (by simpa using hc.obsolete),
    List.filter_eq_nil_iff.mpr (by simpa using hlive), List.filter_eq_self.mpr hc.obsolete]
  simp

lemma keys_readEntries (hc : c.Grouped) {p : Text × Bucket} (hp : p ∈ c.translations.entries) :
    (keyed (readEntries p.2)).map Prod.fst = p.2.keys.filter (· ≠ []) := by
  have hwell : p.2.WellFormed := hc.wellFormed p hp
  have hfilter : p.2.entries.filter (fun q => !q.2.msgid.isEmpty) =
      p.2.entries.filter fun q => decide (q.1 ≠ []) :=
    List.filter_congr fun q hq => by rw [← hwell q hq]; cases q.2.msgid <;> simp
  have hread : (keyed (readEntries p.2)).map Prod.fst =
      (p.2.entries.filter fun q => !q.2.msgid.isEmpty).map fun q => q.2.msgid := by
    simp [keyed, readEntries, OrderedMap.values, List.filter_map, Function.comp_def,
      Entry.canonical]
  rw [hread, hfilter, OrderedMap.keys, List.filter_map]
  exact List.map_congr_left fun q hq => hwell q (List.mem_of_mem_filter hq)

lemma mem_readContexts (hc : c.Grouped) {p' : Text × List Entry} (hp' : p' ∈ c.readContexts)
    {e' : Entry} (he' : e' ∈ p'.2) : e'.obsolete = false ∧ e'.msgctxt.getD [] = p'.1 := by
  obtain ⟨p, hp, rfl⟩ := List.mem_map.mp hp'
  obtain ⟨e, he, rfl⟩ := List.mem_map.mp he'
  have hin : e.obsolete = false ∧ e.msgctxt.getD [] = p.1 := hc.mem_values hp he
  exact hin

/-- The entries that are read are grouped into the contexts in which they were written. -/
lemma exists_foldl_readContexts (hc : c.Grouped) (start : Catalog) {echo : Entry}
    (hstart : start.translations = OrderedMap.empty.insert [] (OrderedMap.empty.insert [] echo)) :
    ∃ translations, (c.readContexts.flatMap Prod.snd).foldl addEntry start =
        { start with translations } ∧
      (translations.keys = [] :: c.translations.keys.filter fun k =>
        k ≠ [] ∧ readEntries (bucketAt c.translations k) ≠ []) ∧
      ∀ context, (bucketAt translations context).entries =
        (if context = [] then [([], echo)] else []) ++
          keyed (readEntries (bucketAt c.translations context)) := by
  have hkeys : start.translations.keys = [[]] := by rw [hstart]; rfl
  have hbucket : ∀ context, (bucketAt start.translations context).entries =
      if context = [] then [([], echo)] else [] := by
    intro context
    rw [bucketAt, hstart, OrderedMap.get?_insert]
    split <;> rfl
  have hmem : ∀ {p}, p ∈ c.filledContexts → p ∈ c.readContexts := List.mem_of_mem_filter
  have hdistinct : (c.filledContexts.map Prod.fst).Nodup := by
    rw [fst_filledContexts]
    exact c.translations.distinct.filter _
  have hids : ∀ p ∈ c.filledContexts,
      (((bucketAt start.translations p.1).entries ++ keyed p.2).map Prod.fst).Nodup := by
    intro p' hp'
    obtain ⟨p, hp, rfl⟩ := List.mem_map.mp (hmem hp')
    have hkept : (p.2.keys.filter (· ≠ [])).Nodup := p.2.distinct.filter _
    rw [List.map_append, hc.keys_readEntries hp, hbucket]
    split
    · exact List.nodup_cons.mpr ⟨by simp, hkept⟩
    · exact hkept
  -- Of an empty context nothing is put in, so it leaves no key behind.
  obtain ⟨translations, hfold, hkeys', hbucket', hothers⟩ :=
    exists_foldl_addEntry hdistinct (fun _ hp _ he => hc.mem_readContexts (hmem hp) he)
      (fun p hp hnil => absurd hnil (by simpa using (List.mem_filter.mp hp).2)) hids
  refine ⟨translations, by rw [← flatMap_filledContexts, hfold], ?_, ?_⟩
  · rw [hkeys', hkeys, fst_filledContexts, List.filter_filter]
    simp
  · intro context
    rw [← hbucket context]
    by_cases hfilled : context ∈ c.filledContexts.map Prod.fst
    · obtain ⟨p', hp', rfl⟩ := List.mem_map.mp hfilled
      obtain ⟨p, hp, rfl⟩ := List.mem_map.mp (hmem hp')
      rw [hbucket' _ hp', bucketAt_of_mem hp]
    · -- Nothing is read for a context that is not among them.
      have hnone : readEntries (bucketAt c.translations context) = [] := by
        by_cases hkey : context ∈ c.translations.keys
        · by_contra hne
          exact hfilled (by rw [fst_filledContexts]; simp [hkey, hne])
        · rw [bucketAt_of_not_mem hkey]
          rfl
      rw [hnone, bucketAt, hothers context hfilled]
      exact (List.append_nil _).symm

/-- A document with the records of what a catalog writes is a catalog with the same entries. -/
lemma exists_ofDocument (hc : c.Grouped) {d : Document}
    (hcanonical : ∀ e ∈ Document.writtenEntries c,
      entryOf (Document.recordOf e) = e.canonical)
    (hrecords : d.records = (Document.writtenEntries c).map Document.recordOf) (charset : Text) :
    ∃ translations, ofDocument d charset = {
        headers := d.headers
        translations
        headerComment := d.header
        headerFuzzy := d.headersFlagged
        obsolete := c.obsolete.map Entry.canonical
        charset := charsetOf d.headers charset } ∧
      (translations.keys = [] :: c.translations.keys.filter fun k =>
        k ≠ [] ∧ readEntries (bucketAt c.translations k) ≠ []) ∧
      ∀ context, (bucketAt translations context).entries =
        (if context = [] then
          [([], { msgid := [], msgstr := [Document.headerText d.headers.entries] })] else []) ++
          keyed (readEntries (bucketAt c.translations context)) := by
  have hentries : d.records.map entryOf =
      c.readContexts.flatMap Prod.snd ++ c.obsolete.map Entry.canonical := by
    have hcanonical' : (Document.writtenEntries c).map (entryOf ∘ Document.recordOf) =
        (Document.writtenEntries c).map Entry.canonical := List.map_congr_left hcanonical
    rw [hrecords, List.map_map, hcanonical', hc.writtenEntries, List.map_append]
    simp [readContexts, readEntries, OrderedMap.values, List.flatMap_map, List.map_flatMap]
  have hobsolete : ∀ e ∈ c.obsolete.map Entry.canonical, e.obsolete = true := by
    intro e' he'
    obtain ⟨e, he, rfl⟩ := List.mem_map.mp he'
    exact hc.obsolete e he
  -- Reading begins with the context without name, which repeats the headers.
  obtain ⟨translations, hfold, hkeys, hbuckets⟩ := hc.exists_foldl_readContexts
    { headers := d.headers
      translations := OrderedMap.empty.insert [] (OrderedMap.empty.insert []
        { msgid := [], msgstr := [Document.headerText d.headers.entries] })
      headerComment := d.header
      headerFuzzy := d.headersFlagged
      charset := charsetOf d.headers charset } rfl
  refine ⟨translations, ?_, hkeys, hbuckets⟩
  rw [ofDocument, hentries, List.foldl_append, hfold, foldl_addEntry_obsolete hobsolete]
  rfl

end Grouped

end Catalog

end MessageCatalog
