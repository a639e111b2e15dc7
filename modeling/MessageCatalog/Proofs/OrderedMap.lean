import Mathlib
import MessageCatalog.OrderedMap

/-!
# Laws of ordered maps

Looking up a key answers with the pair that stands in the list, putting a value in changes the
answer at one key only, and pairs with distinct keys make up the map in their order.
-/

namespace MessageCatalog.OrderedMap

variable {α : Type}

@[ext] lemma ext {m m' : OrderedMap α} (h : m.entries = m'.entries) : m = m' := by
  cases m
  cases m'
  cases h
  rfl

/-! ### Looking up -/

lemma lookup_cons_eq (k k' : Text) (v : α) (pairs : List (Text × α)) :
    ((k', v) :: pairs).lookup k = if k = k' then some v else pairs.lookup k := by
  rw [List.lookup_cons]
  by_cases hk : k = k'
  · simp [hk]
  · rw [show (k == k') = false by simpa using hk, if_neg hk]

lemma lookup_eq_some_iff {pairs : List (Text × α)} (h : (pairs.map Prod.fst).Nodup) {k : Text}
    {v : α} : pairs.lookup k = some v ↔ (k, v) ∈ pairs := by
  induction pairs with
  | nil => simp
  | cons p pairs ih =>
    obtain ⟨k', v'⟩ := p
    rw [List.map_cons, List.nodup_cons] at h
    rw [lookup_cons_eq]
    by_cases hk : k = k'
    · subst hk
      have hnot : ∀ w, (k, w) ∉ pairs := fun w hmem => h.1 (List.mem_map.mpr ⟨_, hmem, rfl⟩)
      simp [hnot, eq_comm]
    · simpa [hk] using ih h.2

lemma get?_eq_some_iff {m : OrderedMap α} {k : Text} {v : α} :
    m.get? k = some v ↔ (k, v) ∈ m.entries :=
  lookup_eq_some_iff m.distinct

lemma mem_keys_iff {m : OrderedMap α} {k : Text} : k ∈ m.keys ↔ ∃ v, m.get? k = some v := by
  simp [keys, get?_eq_some_iff]

lemma get?_eq_none_iff {m : OrderedMap α} {k : Text} : m.get? k = none ↔ k ∉ m.keys := by
  rw [mem_keys_iff, Option.eq_none_iff_forall_ne_some]
  simp

lemma contains_iff {m : OrderedMap α} {k : Text} : m.contains k = true ↔ k ∈ m.keys := by
  simp [contains]

lemma contains_eq_false_iff {m : OrderedMap α} {k : Text} : m.contains k = false ↔ k ∉ m.keys := by
  rw [Bool.eq_false_iff, Ne, contains_iff]

@[simp] lemma keys_empty : (empty : OrderedMap α).keys = [] := rfl

@[simp] lemma get?_empty (k : Text) : (empty : OrderedMap α).get? k = none := rfl

/-! ### Putting in -/

/-- Of pairs with distinct keys, none has the key of a later one. -/
lemma fst_not_mem_of_nodup {a b : List (Text × α)} {p : Text × α}
    (h : ((a ++ p :: b).map Prod.fst).Nodup) : p.1 ∉ a.map Prod.fst := by
  rw [List.map_append, List.map_cons] at h
  intro hmem
  exact (List.nodup_append.mp h).2.2 p.1 hmem p.1 List.mem_cons_self rfl

lemma mem_keys_insert {m : OrderedMap α} {k k' : Text} {v : α} :
    k' ∈ (m.insert k v).keys ↔ k' = k ∨ k' ∈ m.keys := fst_mem_insertPair

lemma insertPair_of_not_mem {k : Text} {pairs : List (Text × α)}
    (h : k ∉ pairs.map Prod.fst) (v : α) : insertPair k v pairs = pairs ++ [(k, v)] := by
  induction pairs with
  | nil => rfl
  | cons p pairs ih =>
    rw [List.map_cons, List.mem_cons, not_or] at h
    rw [insertPair, if_neg (Ne.symm h.1), ih h.2, List.cons_append]

lemma entries_insert_of_not_mem {m : OrderedMap α} {k : Text} (h : k ∉ m.keys) (v : α) :
    (m.insert k v).entries = m.entries ++ [(k, v)] :=
  insertPair_of_not_mem h v

lemma keys_insert_of_not_mem {m : OrderedMap α} {k : Text} (h : k ∉ m.keys) (v : α) :
    (m.insert k v).keys = m.keys ++ [k] := by
  rw [keys, entries_insert_of_not_mem h, List.map_append]
  rfl

lemma insertPair_append {k : Text} {a : List (Text × α)} (h : k ∉ a.map Prod.fst) (v w : α)
    (b : List (Text × α)) : insertPair k v (a ++ (k, w) :: b) = a ++ (k, v) :: b := by
  induction a with
  | nil => simp [insertPair]
  | cons p a ih =>
    rw [List.map_cons, List.mem_cons, not_or] at h
    rw [List.cons_append, insertPair, if_neg (Ne.symm h.1), ih h.2, List.cons_append]

lemma keys_insert_of_mem {m : OrderedMap α} {k : Text} (h : k ∈ m.keys) (v : α) :
    (m.insert k v).keys = m.keys := by
  obtain ⟨w, hw⟩ := mem_keys_iff.mp h
  obtain ⟨a, b, hab⟩ := List.append_of_mem (get?_eq_some_iff.mp hw)
  have hnot : k ∉ a.map Prod.fst := fst_not_mem_of_nodup (hab ▸ m.distinct)
  simp only [keys, insert, hab, insertPair_append hnot, List.map_append, List.map_cons]

lemma keys_insert (m : OrderedMap α) (k : Text) (v : α) :
    (m.insert k v).keys = if k ∈ m.keys then m.keys else m.keys ++ [k] := by
  split
  · next h => exact keys_insert_of_mem h v
  · next h => exact keys_insert_of_not_mem h v

/-- A pair put in is found at its key, and another key is looked up as before. -/
lemma lookup_insertPair (k k' : Text) (v : α) (pairs : List (Text × α)) :
    (insertPair k v pairs).lookup k' = if k' = k then some v else pairs.lookup k' := by
  induction pairs with
  | nil => exact lookup_cons_eq k' k v []
  | cons p pairs ih =>
    obtain ⟨l, w⟩ := p
    rw [insertPair]
    by_cases hl : l = k
    · rw [if_pos hl, lookup_cons_eq, lookup_cons_eq, hl]
      split <;> rfl
    · rw [if_neg hl, lookup_cons_eq, ih, lookup_cons_eq]
      by_cases hk : k' = k
      · rw [if_neg (hk ▸ Ne.symm hl), if_pos hk, if_pos hk]
      · rw [if_neg hk, if_neg hk]

lemma get?_insert (m : OrderedMap α) (k k' : Text) (v : α) :
    (m.insert k v).get? k' = if k' = k then some v else m.get? k' :=
  lookup_insertPair k k' v m.entries

/-- A pair of a map was put in last, or it was there before with another key. -/
lemma mem_entries_insert {m : OrderedMap α} {k : Text} {v : α} {p : Text × α} :
    p ∈ (m.insert k v).entries ↔ p = (k, v) ∨ p.1 ≠ k ∧ p ∈ m.entries := by
  obtain ⟨k', w⟩ := p
  rw [← get?_eq_some_iff, ← get?_eq_some_iff, get?_insert]
  by_cases hk : k' = k
  · simp [hk, eq_comm]
  · simp [hk]

lemma insertPair_insertPair (k : Text) (v w : α) (pairs : List (Text × α)) :
    insertPair k w (insertPair k v pairs) = insertPair k w pairs := by
  induction pairs with
  | nil => simp [insertPair]
  | cons p pairs ih =>
    obtain ⟨l, u⟩ := p
    by_cases hl : l = k
    · simp [insertPair, hl]
    · simp [insertPair, hl, ih]

/-- Of two values put in at a key the later one counts. -/
lemma insert_insert (m : OrderedMap α) (k : Text) (v w : α) :
    (m.insert k v).insert k w = m.insert k w :=
  OrderedMap.ext (insertPair_insertPair k v w m.entries)

lemma insert_eq_self {m : OrderedMap α} {k : Text} {v : α} (h : m.get? k = some v) :
    m.insert k v = m := by
  obtain ⟨a, b, hab⟩ := List.append_of_mem (get?_eq_some_iff.mp h)
  have hnot : k ∉ a.map Prod.fst := fst_not_mem_of_nodup (hab ▸ m.distinct)
  apply OrderedMap.ext
  simp only [insert, hab, insertPair_append hnot]

/-! ### Maps from lists -/

lemma entries_foldl_insert {pairs : List (Text × α)} {m : OrderedMap α}
    (h : ((m.entries ++ pairs).map Prod.fst).Nodup) :
    (pairs.foldl (fun m p => m.insert p.1 p.2) m).entries = m.entries ++ pairs := by
  induction pairs generalizing m with
  | nil => simp
  | cons p pairs ih =>
    have hnot : p.1 ∉ m.keys := fst_not_mem_of_nodup h
    have hentries := entries_insert_of_not_mem hnot p.2
    rw [List.foldl_cons, ih (by rwa [hentries, List.append_assoc, List.singleton_append]), hentries,
      List.append_assoc, List.singleton_append]

/-- Pairs with distinct keys make up the map in their order. -/
lemma entries_ofList {pairs : List (Text × α)} (h : (pairs.map Prod.fst).Nodup) :
    (ofList pairs).entries = pairs :=
  entries_foldl_insert (m := empty) h

end MessageCatalog.OrderedMap
