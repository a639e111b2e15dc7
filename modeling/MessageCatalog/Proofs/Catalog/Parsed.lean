import Mathlib
import MessageCatalog.Proofs.Document.Parsed
import MessageCatalog.Proofs.Catalog.Grouping

/-!
# Catalogs that are read from files

Every catalog that is read from a file can be written and read again: each of its entries can, and
stands under its message id in its own context or among the obsolete entries.
-/

namespace MessageCatalog

open Text Failure

/-- A live entry of a context that can be written and read again. -/
structure Entry.LegibleIn (e : Entry) (context : Text) : Prop where
  legible : e.Legible
  live : e.obsolete = false
  context : e.msgctxt.getD [] = context

/-- A catalog that can be written and read again, apart from the charset and from marks in the
comment at the top. -/
structure Catalog.Legible (c : Catalog) : Prop where
  headers : ∀ p ∈ c.headers.entries, Document.LegibleHeader p
  headerComment : Document.IsWhole c.headerComment
  first : c.translations.keys.head? = some []
  contexts : ∀ k ∈ c.translations.keys, Escapable k
  wellFormed : c.WellFormed
  buckets : ∀ p ∈ c.translations.entries, ∀ e ∈ p.2.values, e.LegibleIn p.1
  obsolete : ∀ e ∈ c.obsolete, e.Legible ∧ e.obsolete = true

namespace Catalog

/-! ### Entries -/

lemma mem_nonempty {t u : Text} (h : u ∈ nonempty t) : u = t ∧ t ≠ [] := by
  unfold nonempty at h
  split at h
  · exact absurd h (Option.not_mem_none u)
  · rename_i hne
    exact ⟨(Option.some.inj h).symm, by simpa using hne⟩

lemma isGiven_nonempty (t : Text) : isGiven (nonempty t) = !t.isEmpty := by
  cases t <;> rfl

lemma occurrenceText_of_legible {o : Document.Occurrence} (h : o.Legible) :
    IsWord (occurrenceText o) := by
  obtain ⟨w, hw, rfl⟩ := h
  rwa [occurrenceText_occurrenceOf]

/-- The comments of a record. -/
def commentsOf (r : Document.Record) : EntryComments where
  translator := nonempty r.translatorComment
  extracted := nonempty r.extractedComment
  reference := nonempty (join " " (r.occurrences.map occurrenceText))

lemma commentsOf_eq_empty {r : Document.Record} (h : (commentsOf r).isGiven = false) :
    commentsOf r = {} := by
  simp only [EntryComments.isGiven, commentsOf, isGiven_nonempty, Bool.or_eq_false_iff,
    Bool.not_eq_false', List.isEmpty_iff] at h
  obtain ⟨⟨htranslator, hextracted⟩, hreference⟩ := h
  rw [commentsOf, htranslator, hextracted, hreference]
  rfl

lemma comments_entryOf (r : Document.Record) : (entryOf r).comments.getD {} = commentsOf r := by
  show (if (commentsOf r).isGiven then some (commentsOf r) else none).getD {} = commentsOf r
  cases hgiven : (commentsOf r).isGiven with
  | true => rfl
  | false => exact (commentsOf_eq_empty hgiven).symm

/-- An entry has the comments of its record, of which an obsolete one keeps the translator's. -/
lemma writtenComments_entryOf (r : Document.Record) :
    (entryOf r).writtenComments =
      if r.obsolete then { translator := (commentsOf r).translator } else commentsOf r := by
  rw [Entry.writtenComments, comments_entryOf]
  rfl

lemma writableComments_commentsOf {r : Document.Record} (h : r.Legible) :
    Document.WritableComments (commentsOf r) where
  extracted t ht := by
    obtain ⟨rfl, hne⟩ := mem_nonempty ht
    exact ⟨h.extractedComment.1, h.extractedComment.2 hne⟩
  translator t ht := by
    obtain ⟨rfl, -⟩ := mem_nonempty ht
    exact h.translatorComment
  reference t ht l hl := by
    obtain ⟨rfl, -⟩ := mem_nonempty ht
    have hjoin : OneLine (join " " (r.occurrences.map occurrenceText)) := by
      refine Document.oneLine_join (by simp [OneLine]; decide) ?_
      intro w hw
      obtain ⟨o, ho, rfl⟩ := List.mem_map.mp hw
      exact (occurrenceText_of_legible (h.occurrences o ho)).oneLine
    exact hjoin.sublist (of_mem_splitOn hl).2

lemma length_plural_le {r : Document.Record} (h : r.Legible) : r.msgstrPlural.length ≤ 10 := by
  have hsub : r.msgstrPlural.map Prod.fst ⊆ List.range 10 := by
    intro i hi
    obtain ⟨x, hx, rfl⟩ := List.mem_map.mp hi
    exact List.mem_range.mpr (h.plural x hx).1
  simpa using (h.indices.subperm hsub).length_le

lemma legible_translationsOf {r : Document.Record} (h : r.Legible) :
    (∀ t ∈ translationsOf r, Escapable t) ∧
      (r.msgidPlural = [] → (translationsOf r).length = 1) ∧
      translationsOf r ≠ [] ∧ (translationsOf r).length ≤ 10 := by
  unfold translationsOf
  split
  · simpa using h.msgstr
  · rename_i hplural
    have hlen := length_plural_le h
    have hsorted : ∀ x ∈ r.msgstrPlural.mergeSort (fun a b => decide (a.1 ≤ b.1)),
        Escapable x.2 := fun x hx => (h.plural x (List.mem_mergeSort.mp hx)).2
    refine ⟨?_, fun hnil => absurd hnil (by simpa using hplural), ?_, ?_⟩
    · split
      · simpa using Document.escapable_nil
      · intro t ht
        obtain ⟨x, hx, rfl⟩ := List.mem_map.mp ht
        exact hsorted x hx
    · split
      · simp
      · assumption
    · split
      · simp
      · rw [List.length_map, List.length_mergeSort]
        exact hlen

/-- The entry of a record that can be written and read again can be, too. -/
theorem legible_entryOf {r : Document.Record} (h : r.Legible) : (entryOf r).Legible := by
  obtain ⟨htexts, hsingle, hne, hlen⟩ := legible_translationsOf h
  have hcomments := writableComments_commentsOf h
  refine ⟨?_, h.flags, h.previousMsgctxt, h.previousMsgid, h.msgctxt, h.msgid, ?_, htexts, ?_,
    fun _ => ⟨hne, hlen⟩⟩
  · rw [writtenComments_entryOf]
    split
    · exact ⟨by simp, hcomments.translator, by simp⟩
    · exact hcomments
  · intro t ht
    obtain ⟨rfl, -⟩ := mem_nonempty ht
    exact h.msgidPlural
  · intro hgiven
    have hplural : isGiven (nonempty r.msgidPlural) = false := hgiven
    rw [isGiven_nonempty] at hplural
    exact hsingle (by simpa using hplural)

/-! ### Catalogs -/

/-- An entry that stands in a catalog was put in last, or it was there before. -/
lemma mem_addEntry {c : Catalog} {e : Entry} {p : Text × Bucket} {q : Text × Entry}
    (hp : p ∈ (addEntry c e).translations.entries) (hq : q ∈ p.2.entries) :
    (e.obsolete = false ∧ p.1 = e.msgctxt.getD [] ∧ q = (e.msgid, e)) ∨
      ∃ b, (p.1, b) ∈ c.translations.entries ∧ q ∈ b.entries := by
  rw [addEntry] at hp
  split at hp
  · exact Or.inr ⟨p.2, hp, hq⟩
  · rename_i hlive
    rcases OrderedMap.mem_entries_insert.mp hp with rfl | ⟨-, hp⟩
    · rcases OrderedMap.mem_entries_insert.mp hq with rfl | ⟨-, hq⟩
      · exact Or.inl ⟨by simpa using hlive, rfl, rfl⟩
      · cases hb : c.translations.get? (e.msgctxt.getD []) with
        | none =>
          rw [hb] at hq
          exact absurd hq List.not_mem_nil
        | some b =>
          rw [hb] at hq
          exact Or.inr ⟨b, OrderedMap.get?_eq_some_iff.mp hb, hq⟩
    · exact Or.inr ⟨p.2, hp, hq⟩

/-- The contexts of a catalog stay, and the one of a live entry comes behind them if it is new. -/
lemma keys_addEntry (c : Catalog) (e : Entry) :
    ∃ new, (addEntry c e).translations.keys = c.translations.keys ++ new ∧
      ∀ k ∈ new, k = e.msgctxt.getD [] := by
  rw [addEntry]
  split
  · exact ⟨[], (List.append_nil _).symm, by simp⟩
  · by_cases hmem : e.msgctxt.getD [] ∈ c.translations.keys
    · exact ⟨[], by rw [OrderedMap.keys_insert_of_mem hmem, List.append_nil], by simp⟩
    · exact ⟨[e.msgctxt.getD []], OrderedMap.keys_insert_of_not_mem hmem _, by simp⟩

/-- Putting in an entry that can be written and read again keeps that the catalog can. -/
lemma Legible.addEntry {c : Catalog} (h : c.Legible) {e : Entry} (he : e.Legible) :
    (addEntry c e).Legible := by
  obtain ⟨new, hkeys, hnew⟩ := keys_addEntry c e
  have hcontext : Escapable (e.msgctxt.getD []) := by
    cases hc : e.msgctxt with
    | none => exact Document.escapable_nil
    | some t => exact he.msgctxt t hc
  -- Only the contexts or the obsolete entries change.
  have hsame : ∃ translations obsolete,
      Catalog.addEntry c e = { c with translations, obsolete } := by
    rw [Catalog.addEntry]
    split
    · exact ⟨c.translations, _, rfl⟩
    · exact ⟨_, c.obsolete, rfl⟩
  obtain ⟨translations, obsolete, heq⟩ := hsame
  refine ⟨by rw [heq]; exact h.headers, by rw [heq]; exact h.headerComment, ?_, ?_, ?_, ?_, ?_⟩
  · rw [hkeys, List.head?_append, h.first]
    rfl
  · intro k hk
    rw [hkeys] at hk
    rcases List.mem_append.mp hk with hk | hk
    · exact h.contexts k hk
    · rw [hnew k hk]
      exact hcontext
  · intro p hp q hq
    rcases mem_addEntry hp hq with ⟨-, -, rfl⟩ | ⟨b, hb, hq⟩
    · rfl
    · exact h.wellFormed _ hb q hq
  · intro p hp x hx
    obtain ⟨q, hq, rfl⟩ := List.mem_map.mp hx
    rcases mem_addEntry hp hq with ⟨hlive, hk, rfl⟩ | ⟨b, hb, hq⟩
    · exact ⟨he, hlive, hk.symm⟩
    · exact h.buckets _ hb _ (List.mem_map_of_mem hq)
  · rw [Catalog.addEntry]
    split
    · rename_i hobsolete
      intro x hx
      rcases List.mem_append.mp hx with hx | hx
      · exact h.obsolete x hx
      · rw [List.mem_singleton.mp hx]
        exact ⟨he, hobsolete⟩
    · exact h.obsolete

lemma Legible.foldl_addEntry {c : Catalog} (h : c.Legible) {es : List Entry}
    (hes : ∀ e ∈ es, e.Legible) : (es.foldl Catalog.addEntry c).Legible := by
  induction es generalizing c with
  | nil => exact h
  | cons e es ih =>
    exact ih (h.addEntry (hes e List.mem_cons_self)) fun x hx => hes x (List.mem_cons_of_mem e hx)

/-- The catalog of a file that has been read can be written and read again. -/
theorem legible_ofDocument {d : Document} (hd : d.Legible) (charset : Text) :
    (ofDocument d charset).Legible := by
  have hecho : ({ msgid := [], msgstr := [Document.headerText d.headers.entries] } :
      Entry).LegibleIn [] :=
    ⟨Document.legible_entryOfHeaders hd.headers false, rfl, rfl⟩
  refine Legible.foldl_addEntry ?_ ?_
  · refine ⟨hd.headers, hd.header, rfl, ?_, ?_, ?_, by simp⟩
    · intro k hk
      obtain rfl : k = [] := List.mem_singleton.mp hk
      exact Document.escapable_nil
    · intro p hp q hq
      obtain rfl := List.mem_singleton.mp hp
      obtain rfl := List.mem_singleton.mp hq
      rfl
    · intro p hp e he
      obtain rfl := List.mem_singleton.mp hp
      obtain rfl := List.mem_singleton.mp he
      exact hecho
  · intro e he
    obtain ⟨r, hr, rfl⟩ := List.mem_map.mp he
    exact legible_entryOf (hd.records r hr)

/-! ### Places of use -/

/-- The words of a text stand with single spaces between them, as they are read. -/
def IsJoined (t : Option Text) : Prop := nonempty (join " " (words (t.getD []))) = givenText t

lemma isJoined_none : IsJoined none := rfl

lemma words_join {ws : List Text} (h : ∀ w ∈ ws, IsWord w) : words (join " " ws) = ws := by
  have hspace : isBlank ' ' = true := by decide
  calc words (join " " ws) = ws.flatMap words := words_join_blank hspace ws
    _ = ws.flatMap fun w => [w] := List.flatMap_congr fun w hw => words_of_isWord (h w hw)
    _ = ws := by simp

lemma givenText_nonempty (t : Text) : givenText (nonempty t) = nonempty t := by
  cases t <;> rfl

lemma isJoined_commentsOf {r : Document.Record} (h : r.Legible) :
    IsJoined (commentsOf r).reference := by
  have hwords : words (join " " (r.occurrences.map occurrenceText)) =
      r.occurrences.map occurrenceText := by
    apply words_join
    intro w hw
    obtain ⟨o, ho, rfl⟩ := List.mem_map.mp hw
    exact occurrenceText_of_legible (h.occurrences o ho)
  rw [IsJoined, commentsOf, getD_nonempty, hwords, givenText_nonempty]

/-- The places of use of every live entry are written as they are read. -/
def HasJoined (c : Catalog) : Prop :=
  ∀ p ∈ c.translations.entries, ∀ e ∈ p.2.values, IsJoined e.writtenComments.reference

theorem hasJoined_ofDocument {d : Document} (hd : d.Legible) (charset : Text) :
    (ofDocument d charset).HasJoined := by
  have hfold : ∀ (es : List Entry) (c : Catalog), c.HasJoined →
      (∀ e ∈ es, IsJoined e.writtenComments.reference) → (es.foldl addEntry c).HasJoined := by
    intro es
    induction es with
    | nil => exact fun c hc _ => hc
    | cons e es ih =>
      intro c hc hes
      refine ih _ ?_ fun x hx => hes x (List.mem_cons_of_mem e hx)
      intro p hp x hx
      obtain ⟨q, hq, rfl⟩ := List.mem_map.mp hx
      rcases mem_addEntry hp hq with ⟨-, -, rfl⟩ | ⟨b, hb, hq⟩
      · exact hes e List.mem_cons_self
      · exact hc _ hb _ (List.mem_map_of_mem hq)
  refine hfold _ _ ?_ ?_
  · intro p hp e he
    obtain rfl := List.mem_singleton.mp hp
    obtain rfl := List.mem_singleton.mp he
    exact isJoined_none
  · intro e he
    obtain ⟨r, hr, rfl⟩ := List.mem_map.mp he
    rw [writtenComments_entryOf]
    split
    · exact isJoined_none
    · exact isJoined_commentsOf (hd.records r hr)

/-! ### Files -/

lemma parseBytes_eq_ok_iff {bytes : ByteArray} {charset : Text} {c : Catalog} :
    parseBytes bytes charset = .ok c ↔ ∃ t d, Charset.decodeNamed charset bytes = .ok t ∧
      Document.ofText t = .ok d ∧ c = ofDocument d charset := by
  rw [parseBytes, bind_eq_ok_iff]
  refine ⟨?_, ?_⟩
  · rintro ⟨t, ht, h⟩
    obtain ⟨d, hd, h⟩ := bind_eq_ok_iff.mp h
    exact ⟨t, d, ht, hd, (pure_eq_ok_iff.mp h).symm⟩
  · rintro ⟨t, d, ht, hd, rfl⟩
    exact ⟨t, ht, bind_eq_ok_iff.mpr ⟨d, hd, rfl⟩⟩

/-- A catalog that is read from a text can be written and read again. -/
lemma legible_parse {t assumed : Text} {c : Catalog} (h : parse t assumed = .ok c) :
    c.Legible ∧ c.HasJoined := by
  obtain ⟨d, hd, h⟩ := bind_eq_ok_iff.mp h
  obtain rfl := pure_eq_ok_iff.mp h
  have hlegible := Document.legible_ofText hd
  exact ⟨legible_ofDocument hlegible assumed, hasJoined_ofDocument hlegible assumed⟩

/-- A catalog that is read from a file can be written and read again. -/
theorem legible_parseBytes {bytes : ByteArray} {charset : Text} {c : Catalog}
    (h : parseBytes bytes charset = .ok c) : c.Legible ∧ c.HasJoined := by
  obtain ⟨t, d, -, hd, rfl⟩ := parseBytes_eq_ok_iff.mp h
  have hlegible := Document.legible_ofText hd
  exact ⟨legible_ofDocument hlegible charset, hasJoined_ofDocument hlegible charset⟩

end Catalog

end MessageCatalog
