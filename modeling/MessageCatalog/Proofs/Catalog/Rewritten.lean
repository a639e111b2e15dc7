import Mathlib
import MessageCatalog.Proofs.Catalog.Alike
import MessageCatalog.Proofs.Document.HeaderOrder
import MessageCatalog.Proofs.Catalog.Reread

/-!
# Writing again what was read

A catalog that is read from a written file, with other entries in one context, is compared with
the catalog that was written: their texts are the same if the entries of the context are written
alike, and no text holds new characters if the entries only lose lines.
-/

namespace MessageCatalog

open Text Failure

namespace Catalog

variable {c c' : Catalog} {hs : List (Text × Text)} {context : Text} {b : Bucket}

/-! ### Entries context by context -/

/-- The entries with a message id of a bucket. -/
def messageEntries (bucket : Bucket) : List Entry :=
  bucket.values.filter fun e => !e.msgid.isEmpty

lemma Grouped.writtenEntries_eq (hc : c.Grouped) :
    Document.writtenEntries c =
      (c.translations.keys.flatMap fun k => messageEntries (bucketAt c.translations k)) ++
        c.obsolete := by
  have hvalues : c.translations.values = c.translations.keys.map (bucketAt c.translations) := by
    rw [OrderedMap.values, OrderedMap.keys, List.map_map]
    exact List.map_congr_left fun p hp => (bucketAt_of_mem hp).symm
  rw [hc.writtenEntries, hvalues, List.flatMap_map]
  rfl

/-- What is read for a context are the entries that were written for it. -/
lemma IsReadBack.messageEntries_eq (h : c.IsReadBack c' hs) (k : Text) :
    messageEntries (bucketAt c'.translations k) =
      (messageEntries (bucketAt c.translations k)).map Entry.canonical := by
  have hread : (readEntries (bucketAt c.translations k)).filter (fun e => !e.msgid.isEmpty) =
      readEntries (bucketAt c.translations k) := by
    rw [List.filter_eq_self]
    intro e he
    obtain ⟨x, hx, rfl⟩ := List.mem_map.mp he
    exact (List.mem_filter.mp hx).2
  rw [messageEntries, OrderedMap.values, h.buckets, List.map_append, map_snd_keyed,
    List.filter_append, hread]
  split <;> rfl

/-- Contexts of which nothing is written do not count. -/
lemma IsReadBack.flatMap_keys (h : c.IsReadBack c' hs)
    (hfirst : c.translations.keys.head? = some []) :
    (c.translations.keys.flatMap fun k => messageEntries (bucketAt c.translations k)) =
      c'.translations.keys.flatMap fun k => messageEntries (bucketAt c.translations k) := by
  obtain ⟨rest, hkeys⟩ := List.head?_eq_some_iff.mp hfirst
  have hrest : [] ∉ rest := by
    have hnodup : c.translations.keys.Nodup := c.translations.distinct
    rw [hkeys] at hnodup
    exact (List.nodup_cons.mp hnodup).1
  -- A context that is not read again has no entries to contribute.
  have hdrop : ∀ ks : List Text, [] ∉ ks →
      (ks.flatMap fun k => messageEntries (bucketAt c.translations k)) =
        (ks.filter fun k => k ≠ [] ∧ readEntries (bucketAt c.translations k) ≠ []).flatMap
          fun k => messageEntries (bucketAt c.translations k) := by
    intro ks
    induction ks with
    | nil => exact fun _ => rfl
    | cons k ks ih =>
      intro hks
      rw [List.mem_cons, not_or] at hks
      have hk : k ≠ [] := Ne.symm hks.1
      by_cases hnone : readEntries (bucketAt c.translations k) = []
      · have hempty : messageEntries (bucketAt c.translations k) = [] := List.map_eq_nil_iff.mp hnone
        rw [List.filter_cons_of_neg (by simp [hnone]), List.flatMap_cons, hempty, ih hks.2,
          List.nil_append]
      · rw [List.filter_cons_of_pos (by simp [hnone, hk]), List.flatMap_cons, List.flatMap_cons,
          ih hks.2]
  have hself : ([] :: rest).filter (fun k =>
      k ≠ [] ∧ readEntries (bucketAt c.translations k) ≠ []) =
        rest.filter fun k => k ≠ [] ∧ readEntries (bucketAt c.translations k) ≠ [] :=
    List.filter_cons_of_neg (by simp)
  rw [h.contexts, hkeys, hself, List.flatMap_cons, List.flatMap_cons, hdrop rest hrest]

lemma messageEntries_withContext (c : Catalog) (context : Text) (b : Bucket) (k : Text) :
    messageEntries (bucketAt (c.withContext context b).translations k) =
      if k = context then messageEntries b else messageEntries (bucketAt c.translations k) := by
  rw [bucketAt, withContext, OrderedMap.get?_insert]
  split <;> rfl

/-! ### Entries that are written alike -/

lemma forall₂_flatMap {R : Entry → Entry → Prop} {f g : Text → List Entry} {ks : List Text}
    (h : ∀ k ∈ ks, List.Forall₂ R (f k) (g k)) :
    List.Forall₂ R (ks.flatMap f) (ks.flatMap g) := by
  induction ks with
  | nil => exact .nil
  | cons k ks ih =>
    obtain ⟨hk, hks⟩ := List.forall_mem_cons.mp h
    exact List.rel_append hk (ih hks)

/-- When the entries of one context are exchanged for others that are written alike, so are all
entries of the catalog that was read. -/
theorem IsReadBack.alike_writtenEntries (h : c.IsReadBack c' hs) (hc : c.Legible)
    (hgrouped : (c'.withContext context b).Grouped) (hmem : context ∈ c'.translations.keys)
    (hb : List.Forall₂ Entry.Alike (messageEntries (bucketAt c.translations context))
      (messageEntries b))
    (hjoined : ∀ k ≠ context, ∀ e ∈ messageEntries (bucketAt c.translations k),
      e.obsolete = false ∧ IsJoined e.writtenComments.reference)
    (hprevious : ∀ e ∈ c.obsolete, e.previousMsgid = none ∧ e.previousMsgctxt = none) :
    List.Forall₂ Entry.Alike (Document.writtenEntries c)
      (Document.writtenEntries (c'.withContext context b)) := by
  have hkeys : (c'.withContext context b).translations.keys = c'.translations.keys :=
    OrderedMap.keys_insert_of_mem hmem b
  rw [hc.grouped.writtenEntries_eq, hgrouped.writtenEntries_eq, hkeys, h.flatMap_keys hc.first]
  refine List.rel_append (forall₂_flatMap fun k _ => ?_) ?_
  · rw [messageEntries_withContext]
    split
    · rename_i hk
      exact hk ▸ hb
    · rename_i hk
      rw [h.messageEntries_eq, List.forall₂_map_right_iff, List.forall₂_same]
      intro e he
      obtain ⟨hlive, hreference⟩ := hjoined k hk e he
      exact Entry.alike_canonical hreference fun hobsolete =>
        absurd (hlive.symm.trans hobsolete) Bool.noConfusion
  · show List.Forall₂ Entry.Alike c.obsolete c'.obsolete
    rw [h.obsolete, List.forall₂_map_right_iff, List.forall₂_same]
    intro e he
    refine Entry.alike_canonical ?_ fun _ => hprevious e he
    rw [Entry.writtenComments, (hc.obsolete e he).2]
    exact isJoined_none

/-- The catalog that was read has the text of the one that was written, when the entries of one
context are exchanged for others that are written alike. -/
theorem IsReadBack.print_eq (h : c.IsReadBack c' hs) (hc : c.Legible)
    (horder : Document.orderedHeaders c.headers = .ok hs)
    (hgrouped : (c'.withContext context b).Grouped) (hmem : context ∈ c'.translations.keys)
    (hb : List.Forall₂ Entry.Alike (messageEntries (bucketAt c.translations context))
      (messageEntries b))
    (hjoined : ∀ k ≠ context, ∀ e ∈ messageEntries (bucketAt c.translations k),
      e.obsolete = false ∧ IsJoined e.writtenComments.reference)
    (hprevious : ∀ e ∈ c.obsolete, e.previousMsgid = none ∧ e.previousMsgctxt = none)
    (width : Int) :
    Document.print width (c'.withContext context b) = Document.print width c := by
  have halike := h.alike_writtenEntries hc hgrouped hmem hb hjoined hprevious
  have horder' : Document.orderedHeaders (c'.withContext context b).headers = .ok hs :=
    Document.orderedHeaders_self horder h.headers
  exact Document.print_of_alike horder horder' h.headerComment h.headerFuzzy halike width

/-! ### Entries that lose lines -/

lemma Grouped.mem_writtenEntries (hc : c.Grouped) {k : Text} {e : Entry}
    (he : e ∈ messageEntries (bucketAt c.translations k)) : e ∈ Document.writtenEntries c := by
  rw [hc.writtenEntries_eq]
  by_cases hk : k ∈ c.translations.keys
  · exact List.mem_append_left _ (List.mem_flatMap.mpr ⟨k, hk, he⟩)
  · rw [bucketAt_of_not_mem hk] at he
    exact absurd he List.not_mem_nil

/-- What is read for an obsolete entry is written with its lines, but for the previous texts. -/
lemma covers_canonical_of_obsolete {e : Entry} (h : e.obsolete = true) (width : Int) :
    Document.Covers width e e.canonical := by
  have halike : ({ e with previousMsgid := none, previousMsgctxt := none } : Entry).Alike
      e.canonical := by
    have hsame : ({ e with previousMsgid := none, previousMsgctxt := none } : Entry).canonical =
        e.canonical := by
      simp only [Entry.canonical, Entry.writtenComments, h, if_true]
    rw [← hsame]
    refine Entry.alike_canonical ?_ fun _ => ⟨rfl, rfl⟩
    rw [Entry.writtenComments, h]
    exact isJoined_none
  intro ls hls
  obtain ⟨ls', hls', hsub⟩ := Document.covers_of_no_previous width e ls hls
  exact ⟨ls', (Document.entryLines_of_alike halike width).trans hls', hsub⟩

/-- When the entries of one context are exchanged for others of which each is written like one of
them, the catalog that was read has no new characters. -/
theorem IsReadBack.exists_print_subset (h : c.IsReadBack c' hs) (hc : c.Legible)
    (horder : Document.orderedHeaders c.headers = .ok hs)
    (hgrouped : (c'.withContext context b).Grouped)
    (hb : ∀ x ∈ messageEntries b, ∃ e ∈ messageEntries (bucketAt c.translations context), e.Alike x)
    (hjoined : ∀ k ≠ context, ∀ e ∈ messageEntries (bucketAt c.translations k),
      e.obsolete = false ∧ IsJoined e.writtenComments.reference)
    {width : Int} {t : Text} (hprint : Document.print width c = .ok t) :
    ∃ t', Document.print width (c'.withContext context b) = .ok t' ∧ t' ⊆ t := by
  refine Document.exists_print_subset horder (Document.orderedHeaders_self horder h.headers)
    h.headerComment h.headerFuzzy ?_ hprint
  intro x hx
  rw [hgrouped.writtenEntries_eq] at hx
  rcases List.mem_append.mp hx with hx | hx
  · obtain ⟨k, -, hx⟩ := List.mem_flatMap.mp hx
    rw [messageEntries_withContext] at hx
    split at hx
    · obtain ⟨e, he, halike⟩ := hb x hx
      exact ⟨e, hc.grouped.mem_writtenEntries he, Document.covers_of_alike halike width⟩
    · rename_i hk
      rw [h.messageEntries_eq] at hx
      obtain ⟨e, he, rfl⟩ := List.mem_map.mp hx
      obtain ⟨hlive, hreference⟩ := hjoined k hk e he
      have halike := Entry.alike_canonical hreference fun hobsolete =>
        absurd (hlive.symm.trans hobsolete) Bool.noConfusion
      exact ⟨e, hc.grouped.mem_writtenEntries he, Document.covers_of_alike halike width⟩
  · have hx' : x ∈ c'.obsolete := hx
    rw [h.obsolete] at hx'
    obtain ⟨e, he, rfl⟩ := List.mem_map.mp hx'
    refine ⟨e, ?_, covers_canonical_of_obsolete (hc.obsolete e he).2 width⟩
    rw [hc.grouped.writtenEntries]
    exact List.mem_append_right _ he

end Catalog

end MessageCatalog
