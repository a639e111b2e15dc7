import Mathlib
import MessageCatalog.Catalog
import MessageCatalog.Proofs.OrderedMap

/-!
# Buckets of entries

In a well-formed catalog every entry is found under its own message id, so a bucket is nothing but
the list of its entries.
-/

namespace MessageCatalog

/-- Entries under their message ids. -/
def keyed (es : List Entry) : List (Text × Entry) := es.map fun e => (e.msgid, e)

@[simp] lemma map_fst_keyed (es : List Entry) : (keyed es).map Prod.fst = es.map Entry.msgid := by
  simp [keyed]

@[simp] lemma map_snd_keyed (es : List Entry) : (keyed es).map Prod.snd = es := by
  simp [keyed, Function.comp_def]

lemma mem_keyed {es : List Entry} {p : Text × Entry} :
    p ∈ keyed es ↔ p.2 ∈ es ∧ p.1 = p.2.msgid := by
  obtain ⟨k, e⟩ := p
  simp only [keyed, List.mem_map, Prod.mk.injEq]
  constructor
  · rintro ⟨e', he, rfl, rfl⟩
    exact ⟨he, rfl⟩
  · rintro ⟨he, rfl⟩
    exact ⟨e, he, rfl, rfl⟩

lemma filter_keyed (p : Text → Bool) (es : List Entry) :
    (keyed es).filter (fun q => p q.1) = keyed (es.filter fun e => p e.msgid) := by
  simp [keyed, List.filter_map, Function.comp_def]

lemma entries_ofList_keyed {es : List Entry} (h : (es.map Entry.msgid).Nodup) :
    (OrderedMap.ofList (keyed es)).entries = keyed es :=
  OrderedMap.entries_ofList (by rwa [map_fst_keyed])

/-- Every key of a bucket is the message id of its entry. -/
def Bucket.WellFormed (b : Bucket) : Prop := ∀ p ∈ b.entries, p.2.msgid = p.1

/-- Every bucket of a catalog is well-formed. -/
def Catalog.WellFormed (c : Catalog) : Prop :=
  ∀ p ∈ c.translations.entries, Bucket.WellFormed p.2

lemma Catalog.WellFormed.get? {c : Catalog} (hc : c.WellFormed) {context : Text} {b : Bucket}
    (h : c.translations.get? context = some b) : Bucket.WellFormed b :=
  hc (context, b) (OrderedMap.get?_eq_some_iff.mp h)

lemma Bucket.WellFormed.entries_eq {b : Bucket} (h : b.WellFormed) :
    b.entries = keyed b.values := by
  rw [OrderedMap.values, keyed, List.map_map]
  conv_lhs => rw [← List.map_id b.entries]
  apply List.map_congr_left
  intro p hp
  exact Prod.ext (h p hp).symm rfl

lemma Bucket.WellFormed.keys_eq {b : Bucket} (h : b.WellFormed) :
    b.keys = b.values.map Entry.msgid := by
  rw [OrderedMap.keys, h.entries_eq, map_fst_keyed]

lemma Bucket.WellFormed.nodup_msgids {b : Bucket} (h : b.WellFormed) :
    (b.values.map Entry.msgid).Nodup :=
  h.keys_eq ▸ b.distinct

lemma Bucket.wellFormed_of_entries {b : Bucket} {es : List Entry} (h : b.entries = keyed es) :
    b.WellFormed := by
  intro p hp
  rw [h, mem_keyed] at hp
  exact hp.2.symm

lemma Catalog.WellFormed.withContext {c : Catalog} (hc : c.WellFormed) {b : Bucket}
    (hb : b.WellFormed) (context : Text) : (c.withContext context b).WellFormed := by
  intro p hp
  rcases OrderedMap.mem_entries_insert.mp hp with rfl | ⟨-, hp⟩
  · exact hb
  · exact hc p hp

/-- Of two buckets put in a context the later one counts. -/
lemma Catalog.withContext_withContext (c : Catalog) (context : Text) (b b' : Bucket) :
    (c.withContext context b).withContext context b' = c.withContext context b' := by
  simp [Catalog.withContext, OrderedMap.insert_insert]

lemma Catalog.get?_withContext (c : Catalog) (context : Text) (b : Bucket) :
    (c.withContext context b).translations.get? context = some b := by
  rw [Catalog.withContext, OrderedMap.get?_insert, if_pos rfl]

/-- The entries of a context, of which there are none if the context is missing. -/
def bucketAt (translations : OrderedMap Bucket) (context : Text) : Bucket :=
  (translations.get? context).getD .empty

lemma bucketAt_of_mem {translations : OrderedMap Bucket} {p : Text × Bucket}
    (hp : p ∈ translations.entries) : bucketAt translations p.1 = p.2 := by
  rw [bucketAt, OrderedMap.get?_eq_some_iff.mpr (show (p.1, p.2) ∈ _ from hp)]
  rfl

lemma get?_of_mem_keys {translations : OrderedMap Bucket} {context : Text}
    (h : context ∈ translations.keys) :
    translations.get? context = some (bucketAt translations context) := by
  obtain ⟨b, hb⟩ := OrderedMap.mem_keys_iff.mp h
  rw [bucketAt, hb, Option.getD_some]

lemma bucketAt_of_not_mem {translations : OrderedMap Bucket} {context : Text}
    (h : context ∉ translations.keys) : bucketAt translations context = .empty := by
  rw [bucketAt, OrderedMap.get?_eq_none_iff.mpr h]
  rfl

end MessageCatalog
