import MessageCatalog.Text.Basic

/-!
# Ordered maps

Maps from texts that remember the order in which their keys were first put in. A key that is put
in again keeps its place and takes the new value. No key stands twice, and that is part of the
type.
-/

namespace MessageCatalog

/-- A map from texts, in the order of first insertion. -/
structure OrderedMap (α : Type) where
  entries : List (Text × α)
  distinct : (entries.map Prod.fst).Nodup

namespace OrderedMap

variable {α : Type}

/-- The map without entries. -/
def empty : OrderedMap α := ⟨[], List.nodup_nil⟩

instance : Inhabited (OrderedMap α) := ⟨empty⟩

def keys (m : OrderedMap α) : List Text := m.entries.map Prod.fst

/-- The values in the order of their keys. -/
def values (m : OrderedMap α) : List α := m.entries.map Prod.snd

/-- The number of keys. -/
def size (m : OrderedMap α) : Nat := m.entries.length

/-- The value at a key. -/
def get? (m : OrderedMap α) (key : Text) : Option α := m.entries.lookup key

/-- Whether a key is present. -/
def contains (m : OrderedMap α) (key : Text) : Bool := m.keys.any (· = key)

/-- Put a value at a key of a list of pairs: in the place of the key, or else at the end. -/
def insertPair (key : Text) (value : α) : List (Text × α) → List (Text × α)
  | [] => [(key, value)]
  | (k, v) :: rest =>
    if k = key then (key, value) :: rest else (k, v) :: insertPair key value rest

theorem fst_mem_insertPair {key k : Text} {value : α} {pairs : List (Text × α)} :
    k ∈ (insertPair key value pairs).map Prod.fst ↔ k = key ∨ k ∈ pairs.map Prod.fst := by
  induction pairs with
  | nil => simp [insertPair]
  | cons p rest ih =>
    obtain ⟨k', v'⟩ := p
    by_cases h : k' = key
    · subst h; simp [insertPair]
    · simp only [insertPair, if_neg h, List.map_cons, List.mem_cons, ih]
      grind

theorem nodup_insertPair {key : Text} {value : α} {pairs : List (Text × α)}
    (h : (pairs.map Prod.fst).Nodup) : ((insertPair key value pairs).map Prod.fst).Nodup := by
  induction pairs with
  | nil => simp [insertPair]
  | cons p rest ih =>
    obtain ⟨k', v'⟩ := p
    rw [List.map_cons, List.nodup_cons] at h
    by_cases hk : k' = key
    · subst hk; simp [insertPair, h]
    · rw [insertPair, if_neg hk, List.map_cons, List.nodup_cons]
      exact ⟨fun hmem => (fst_mem_insertPair.mp hmem).elim hk h.1, ih h.2⟩

/-- Put a value at a key. -/
def insert (m : OrderedMap α) (key : Text) (value : α) : OrderedMap α :=
  ⟨insertPair key value m.entries, nodup_insertPair m.distinct⟩

/-- The map that results from putting in the pairs one after another. -/
def ofList (pairs : List (Text × α)) : OrderedMap α :=
  pairs.foldl (fun m p => m.insert p.1 p.2) empty

end OrderedMap

end MessageCatalog
