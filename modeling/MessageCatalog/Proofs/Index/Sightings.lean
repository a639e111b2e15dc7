import MessageCatalog.Proofs.Failure
import MessageCatalog.Proofs.Index
import MessageCatalog.Proofs.Reference.Line

/-!
# What an index says about the keys that were seen

An index that is filled with sightings of keys holds the keys that were seen, each with the
references to the places and with the comments beside it. The order of the sightings shows in the
order of the keys, and nowhere else.
-/

namespace MessageCatalog

/-- A key seen on a line of a file, with the comment that belongs to it. -/
structure Sighting where
  file : Text
  line : Nat
  key : Text
  comment : Option Text
  deriving DecidableEq

namespace Sighting

def reference (p : Sighting) : Text := Reference.ofLine p.file p.line

/-- Of the keys seen at one place only the first has a comment. -/
def FirstOnly (seen : List Sighting) : Prop :=
  seen.Pairwise fun p q => p.reference = q.reference → q.comment = none

end Sighting

namespace Index

variable {i j : Index} {context key reference text : Text} {comment : Option Text}

/-! ### Looking up -/

/-- The references of a key with their comments; an unknown key has none. -/
def placesOf (i : Index) (context key : Text) : OrderedMap (Option Text) :=
  (((i.contexts.get? context).getD .empty).get? key).getD .empty

lemma stored_eq (i : Index) (context key reference : Text) :
    i.stored context key reference =
      nonempty (((i.placesOf context key).get? reference).getD none) := rfl

lemma keys_eq (i : Index) (context : Text) :
    i.keys context = ((i.contexts.get? context).getD .empty).keys := by
  unfold keys
  cases i.contexts.get? context <;> rfl

lemma places?_eq (h : key ∈ i.keys context) :
    i.places? context key = .ok (i.placesOf context key) := by
  unfold keys at h
  unfold places? placesOf
  cases hcontext : i.contexts.get? context with
  | none => simp [hcontext] at h
  | some keys =>
    rw [hcontext] at h
    obtain ⟨places, hplaces⟩ := OrderedMap.mem_keys_iff.mp h
    simp [hplaces]

lemma refs_eq (h : key ∈ i.keys context) :
    i.refs context key = .ok (Reference.sort (i.placesOf context key).keys) := by
  rw [refs, places?_eq h]
  rfl

lemma comments_eq (h : key ∈ i.keys context) :
    i.comments context key = .ok ((Reference.sort (i.placesOf context key).keys).filterMap
      (i.stored context key)) := by
  rw [comments, places?_eq h]
  rfl

/-! ### Putting in -/

lemma mem_keys_store {key' : Text} :
    key' ∈ (i.store context key reference comment).keys context ↔
      key' = key ∨ key' ∈ i.keys context := by
  rw [keys_eq, keys_eq, store]
  dsimp only
  rw [OrderedMap.get?_insert, if_pos rfl]
  exact OrderedMap.mem_keys_insert

lemma placesOf_store (i : Index) (context key reference : Text) (comment : Option Text)
    (key' : Text) :
    (i.store context key reference comment).placesOf context key' =
      if key' = key then (i.placesOf context key).insert reference comment
      else i.placesOf context key' := by
  unfold store placesOf
  dsimp only
  rw [OrderedMap.get?_insert, if_pos rfl, Option.getD_some, OrderedMap.get?_insert]
  split <;> rfl

lemma mem_placesOf_store {key' ref : Text} :
    ref ∈ ((i.store context key reference comment).placesOf context key').keys ↔
      key' = key ∧ ref = reference ∨ ref ∈ (i.placesOf context key').keys := by
  rw [placesOf_store]
  by_cases h : key' = key
  · subst h
    rw [if_pos rfl]
    simpa using OrderedMap.mem_keys_insert
  · simp [h]

/-- Adding succeeds unless there is another comment, and never changes a comment that is there. -/
lemma add_eq_ok_iff :
    i.add context key reference comment = .ok j ↔
      (∀ old new, i.stored context key reference = some old → nonempty comment = some new →
        old = new) ∧
      j = i.store context key reference
        ((i.stored context key reference).or (nonempty comment)) := by
  rw [add_eq]
  cases hstored : i.stored context key reference with
  | none => simp [eq_comm]
  | some old =>
    cases hnew : nonempty comment with
    | none => simp [eq_comm]
    | some new =>
      by_cases h : old = new <;> simp [h, eq_comm]

lemma nonempty_stored_or (i : Index) (context key reference : Text) (comment : Option Text) :
    nonempty ((i.stored context key reference).or (nonempty comment)) =
      (i.stored context key reference).or (nonempty comment) := by
  cases h : i.stored context key reference with
  | none => simp
  | some old =>
    have hold : nonempty (some old) = some old := by
      rw [← h, stored_eq, nonempty_nonempty]
    simpa using hold

/-- Where two comments agree, it does not matter which is taken first. -/
lemma or_eq_some_iff {old new : Option Text}
    (h : ∀ a b, old = some a → new = some b → a = b) :
    old.or new = some text ↔ old = some text ∨ new = some text := by
  cases old with
  | none => simp
  | some a => cases new with
    | none => simp
    | some b => simp [h a b rfl rfl]

/-! ### Filling -/

/-- Add what was seen, one sighting after another. -/
def addAll (context : Text) (seen : List Sighting) (i : Index) : Except Failure Index :=
  seen.foldlM (fun i p => i.add context p.key p.reference p.comment) i

lemma addAll_append (context : Text) (seen more : List Sighting) (i : Index) :
    i.addAll context (seen ++ more) = (do
      let j ← i.addAll context seen
      j.addAll context more) := List.foldlM_append

/-- Under a context the index holds what was seen, and nothing else. -/
structure Describes (context : Text) (seen : List Sighting) (i : Index) : Prop where
  keys : ∀ key, key ∈ i.keys context ↔ ∃ p ∈ seen, p.key = key
  places : ∀ key ref, ref ∈ (i.placesOf context key).keys ↔
    ∃ p ∈ seen, p.key = key ∧ p.reference = ref
  comments : ∀ key ref text, i.stored context key ref = some text ↔
    ∃ p ∈ seen, p.key = key ∧ p.reference = ref ∧ nonempty p.comment = some text

variable {seen more : List Sighting} {p : Sighting}

lemma describes_empty (context : Text) : empty.Describes context [] where
  keys key := by simp [empty, Index.keys, OrderedMap.get?, OrderedMap.empty]
  places key ref := by
    simp [empty, placesOf, OrderedMap.get?, OrderedMap.empty, OrderedMap.keys]
  comments key ref text := by
    simp [empty, stored, OrderedMap.get?, OrderedMap.empty, nonempty]

lemma Describes.add (h : i.Describes context seen)
    (hj : i.add context p.key p.reference p.comment = .ok j) :
    j.Describes context (seen ++ [p]) := by
  obtain ⟨hagree, rfl⟩ := add_eq_ok_iff.mp hj
  constructor
  · intro key
    rw [mem_keys_store, h.keys]
    simp only [List.mem_append, List.mem_singleton]
    grind
  · intro key ref
    rw [mem_placesOf_store, h.places]
    grind
  · intro key ref text
    rw [stored_store]
    by_cases hplace : key = p.key ∧ ref = p.reference
    · obtain ⟨rfl, rfl⟩ := hplace
      rw [if_pos ⟨rfl, rfl, rfl⟩, nonempty_stored_or, or_eq_some_iff hagree, h.comments]
      grind
    · rw [if_neg fun heq => hplace heq.2, h.comments]
      grind

/-- Nothing that was seen is in the way of a place's first comment. -/
lemma Describes.exists_add (h : i.Describes context seen)
    (hfirst : ∀ q ∈ seen, q.reference = p.reference → p.comment = none) :
    ∃ j, i.add context p.key p.reference p.comment = .ok j := by
  refine ⟨_, add_eq_ok_iff.mpr ⟨fun old new hold hnew => ?_, rfl⟩⟩
  obtain ⟨q, hq, -, hplace, -⟩ := (h.comments _ _ _).mp hold
  rw [hfirst q hq hplace] at hnew
  cases hnew

lemma Describes.addAll (h : i.Describes context seen) (hj : i.addAll context more = .ok j) :
    j.Describes context (seen ++ more) := by
  induction more generalizing i seen with
  | nil =>
    obtain rfl := Failure.pure_eq_ok_iff.mp hj
    simpa using h
  | cons p more ih =>
    obtain ⟨k, hk, hj⟩ := Failure.bind_eq_ok_iff.mp hj
    simpa using ih (h.add hk) hj

/-- Sightings of which only the first at a place has a comment can be added. -/
lemma Describes.exists_addAll (h : i.Describes context seen)
    (hfirst : Sighting.FirstOnly (seen ++ more)) : ∃ j, i.addAll context more = .ok j := by
  induction more generalizing i seen with
  | nil => exact ⟨i, rfl⟩
  | cons p more ih =>
    have hp := (List.pairwise_append.mp hfirst).2.2
    obtain ⟨k, hk⟩ := h.exists_add fun q hq => hp q hq p List.mem_cons_self
    obtain ⟨j, hj⟩ := ih (h.add hk) (by simpa using hfirst)
    exact ⟨j, Failure.bind_eq_ok_iff.mpr ⟨k, hk, hj⟩⟩

end Index

end MessageCatalog
