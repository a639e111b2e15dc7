import MessageCatalog.Proofs.Index.Sightings
import MessageCatalog.Proofs.Reference.Order

/-!
# An index and its history

What an index answers can be read off the list of what has been added to it since it was last
cleared. An index that is changed in place makes room for a key before it compares the comments;
when they conflict the room was there already, so a failure leaves no trace.
-/

namespace MessageCatalog

namespace Index

variable {i : Index} {context key reference : Text} {comment : Option Text}

/-! ### Requests -/

/-- A comment for a key at a reference. -/
structure Addition where
  context : Text
  key : Text
  reference : Text
  comment : Option Text
  deriving DecidableEq

/-- What changes an index. -/
inductive Request where
  | add (a : Addition)
  | clear

/-- Make room for a key; a new key has no references. -/
def reserve (i : Index) (context key : Text) : Index :=
  let keys := (i.contexts.get? context).getD .empty
  ⟨i.contexts.insert context (keys.insert key ((keys.get? key).getD .empty))⟩

/-- Change an index in place: the failure, if there is one, and the index afterwards. The room for
a key is made first and stays there when the addition fails. -/
def serve (i : Index) : Request → Option Failure × Index
  | .add a =>
    let i := i.reserve a.context a.key
    match i.add a.context a.key a.reference a.comment with
    | .ok j => (none, j)
    | .error f => (some f, i)
  | .clear => (none, empty)

/-- The index after requests, whether they have failed or not. -/
def after (requests : List Request) : Index := requests.foldl (fun i r => (i.serve r).2) empty

/-! ### Room for a key -/

lemma places_eq_self {places : OrderedMap (Option Text)} (hkey : key ∈ i.keys context)
    (hplaces : i.placesOf context key = places) :
    (⟨i.contexts.insert context
      (((i.contexts.get? context).getD .empty).insert key places)⟩ : Index) = i := by
  rw [keys_eq] at hkey
  obtain ⟨p, hp⟩ := OrderedMap.mem_keys_iff.mp hkey
  have hsame : ((i.contexts.get? context).getD .empty).insert key places =
      (i.contexts.get? context).getD .empty := by
    apply OrderedMap.insert_eq_self
    rw [hp, ← hplaces, placesOf, hp, Option.getD_some]
  have hcontext : i.contexts.get? context = some ((i.contexts.get? context).getD .empty) := by
    cases h : i.contexts.get? context with
    | none => simp [h] at hkey
    | some keys => rfl
  rw [hsame, OrderedMap.insert_eq_self hcontext]

lemma reserve_eq_self (hkey : key ∈ i.keys context) : i.reserve context key = i :=
  places_eq_self hkey rfl

lemma placesOf_reserve (i : Index) (context key : Text) :
    (i.reserve context key).placesOf context key = i.placesOf context key := by
  unfold reserve placesOf
  simp [OrderedMap.get?_insert]

lemma store_reserve (i : Index) (context key reference : Text) (comment : Option Text) :
    (i.reserve context key).store context key reference comment =
      i.store context key reference comment := by
  unfold reserve store
  simp [OrderedMap.get?_insert, OrderedMap.insert_insert]

/-- It makes no difference to an addition whether room has been made. -/
lemma add_reserve (i : Index) (context key reference : Text) (comment : Option Text) :
    (i.reserve context key).add context key reference comment =
      i.add context key reference comment := by
  have hstored : (i.reserve context key).stored context key reference =
      i.stored context key reference := by
    rw [stored_eq, stored_eq, placesOf_reserve]
  simp only [add_eq, hstored, store_reserve]

/-- An addition fails if there is another comment, and in no other way. -/
lemma add_eq_error_iff {f : Failure} :
    i.add context key reference comment = .error f ↔
      ∃ old new, i.stored context key reference = some old ∧ nonempty comment = some new ∧
        old ≠ new ∧ f = .conflict key reference old new := by
  rw [add_eq]
  cases i.stored context key reference with
  | none => simp
  | some old =>
    cases nonempty comment with
    | none => simp
    | some new => by_cases h : old = new <;> simp [h, eq_comm]

lemma mem_placesOf_of_stored {old : Text} (h : i.stored context key reference = some old) :
    reference ∈ (i.placesOf context key).keys := by
  rw [OrderedMap.mem_keys_iff]
  cases hget : (i.placesOf context key).get? reference with
  | none => simp [stored_eq, hget, nonempty] at h
  | some c => exact ⟨c, rfl⟩

lemma mem_keys_of_mem_placesOf (h : reference ∈ (i.placesOf context key).keys) :
    key ∈ i.keys context := by
  rw [keys_eq, OrderedMap.mem_keys_iff]
  cases hkey : ((i.contexts.get? context).getD .empty).get? key with
  | none => simp [placesOf, hkey] at h
  | some places => exact ⟨places, rfl⟩

/-- A failure leaves the index as it was. -/
lemma serve_add (i : Index) (a : Addition) :
    i.serve (.add a) = match i.add a.context a.key a.reference a.comment with
      | .ok j => (none, j)
      | .error f => (some f, i) := by
  rw [serve, add_reserve]
  cases h : i.add a.context a.key a.reference a.comment with
  | ok j => rfl
  | error f =>
    obtain ⟨old, new, hold, -⟩ := add_eq_error_iff.mp h
    rw [reserve_eq_self (mem_keys_of_mem_placesOf (mem_placesOf_of_stored hold))]

/-! ### The log -/

/-- The log is emptied where the index is cleared. -/
def note (log : List Addition) : Request → List Addition
  | .add a => log ++ [a]
  | .clear => []

/-- The additions since the index was last cleared, those that have failed among them. -/
def log (requests : List Request) : List Addition := requests.foldl note []

namespace Log

variable {log : List Addition} {a : Addition}

/-- The contexts in the order of their first addition. -/
def contexts (log : List Addition) : List Text := (log.map (·.context)).eraseDups

/-- The keys of a context in the order of their first addition. -/
def keys (log : List Addition) (context : Text) : List Text :=
  ((log.filter fun a => a.context = context).map (·.key)).eraseDups

/-- The references of a key in the order of their first addition. -/
def places (log : List Addition) (context key : Text) : List Text :=
  ((log.filter fun a => a.context = context ∧ a.key = key).map (·.reference)).eraseDups

/-- The first comment of a key at a reference that is not empty. -/
def firstComment (log : List Addition) (context key reference : Text) : Option Text :=
  log.findSome? fun a =>
    if a.context = context ∧ a.key = key ∧ a.reference = reference then nonempty a.comment
    else none

lemma eraseDups_concat {α : Type} [BEq α] [LawfulBEq α] (l : List α) (a : α) :
    (l ++ [a]).eraseDups = if a ∈ l then l.eraseDups else l.eraseDups ++ [a] := by
  have hsingle : [a].eraseDups = [a] := rfl
  rw [List.eraseDups_append, List.removeAll]
  split <;> simp_all

lemma nodup_eraseDups {α : Type} [BEq α] [LawfulBEq α] (l : List α) : l.eraseDups.Nodup := by
  induction l using List.reverseRecOn with
  | nil => simp
  | append_singleton l a ih =>
    rw [eraseDups_concat]
    split
    · exact ih
    · next h =>
      rw [← List.concat_eq_append]
      exact ih.concat (by simpa using h)

lemma mem_keys : key ∈ keys log context ↔ ∃ a ∈ log, a.context = context ∧ a.key = key := by
  simp [keys, and_assoc]

lemma mem_places : reference ∈ places log context key ↔
    ∃ a ∈ log, (a.context = context ∧ a.key = key) ∧ a.reference = reference := by
  simp [places, and_assoc]

lemma contexts_concat (log : List Addition) (a : Addition) :
    contexts (log ++ [a]) = if a.context ∈ contexts log then contexts log
      else contexts log ++ [a.context] := by
  rw [contexts, List.map_append, List.map_singleton, eraseDups_concat]
  simp only [contexts, List.mem_eraseDups]

lemma keys_concat (log : List Addition) (a : Addition) (context : Text) :
    keys (log ++ [a]) context =
      if a.context = context then
        if a.key ∈ keys log context then keys log context else keys log context ++ [a.key]
      else keys log context := by
  rw [keys, List.filter_append]
  by_cases h : a.context = context
  · rw [List.filter_cons_of_pos (by simpa using h), List.filter_nil, List.map_append,
      List.map_singleton, eraseDups_concat, if_pos h]
    simp only [keys, List.mem_eraseDups]
  · rw [List.filter_cons_of_neg (by simpa using h), List.filter_nil, List.append_nil, if_neg h]
    rfl

lemma places_concat (log : List Addition) (a : Addition) (context key : Text) :
    places (log ++ [a]) context key =
      if a.context = context ∧ a.key = key then
        if a.reference ∈ places log context key then places log context key
        else places log context key ++ [a.reference]
      else places log context key := by
  rw [places, List.filter_append]
  by_cases h : a.context = context ∧ a.key = key
  · rw [List.filter_cons_of_pos (by simpa using h), List.filter_nil, List.map_append,
      List.map_singleton, eraseDups_concat, if_pos h]
    simp only [places, List.mem_eraseDups]
  · rw [List.filter_cons_of_neg (by simpa using h), List.filter_nil, List.append_nil, if_neg h]
    rfl

lemma firstComment_concat (log : List Addition) (a : Addition) (context key reference : Text) :
    firstComment (log ++ [a]) context key reference =
      if a.context = context ∧ a.key = key ∧ a.reference = reference then
        (firstComment log context key reference).or (nonempty a.comment)
      else firstComment log context key reference := by
  rw [firstComment, List.findSome?_append, List.findSome?_singleton]
  split
  · rfl
  · exact Option.or_none

lemma nonempty_firstComment (log : List Addition) (context key reference : Text) :
    nonempty (firstComment log context key reference) =
      firstComment log context key reference := by
  cases h : firstComment log context key reference with
  | none => rfl
  | some t =>
    obtain ⟨a, -, ha⟩ := List.exists_of_findSome?_eq_some h
    split at ha
    · rw [← ha, nonempty_nonempty]
    · cases ha

end Log

/-! ### What an index records -/

variable {l : List Addition}

/-- The index holds what the log says, each thing in the order of its first addition. -/
structure Records (i : Index) (l : List Addition) : Prop where
  contexts : i.contextNames = Log.contexts l
  keys : ∀ context, i.keys context = Log.keys l context
  places : ∀ context key, (i.placesOf context key).keys = Log.places l context key
  comments : ∀ context key reference, reference ∈ Log.places l context key →
    (i.placesOf context key).get? reference = some (Log.firstComment l context key reference)

lemma records_empty : empty.Records [] := ⟨rfl, fun _ => rfl, fun _ _ => rfl, by simp [Log.places]⟩

lemma Records.stored_eq (h : i.Records l) (context key reference : Text) :
    i.stored context key reference = Log.firstComment l context key reference := by
  rw [Index.stored_eq]
  by_cases hplace : reference ∈ Log.places l context key
  · rw [h.comments _ _ _ hplace, Option.getD_some, Log.nonempty_firstComment]
  · have hget : (i.placesOf context key).get? reference = none := by
      rwa [OrderedMap.get?_eq_none_iff, h.places]
    have hnone : Log.firstComment l context key reference = none := by
      rw [Log.firstComment, List.findSome?_eq_none_iff]
      intro a ha
      rw [if_neg]
      rintro ⟨hcontext, hkey, hreference⟩
      exact hplace (Log.mem_places.mpr ⟨a, ha, ⟨hcontext, hkey⟩, hreference⟩)
    rw [hget, hnone]
    rfl

lemma keys_store (i : Index) (context key reference : Text) (comment : Option Text)
    (context' : Text) :
    (i.store context key reference comment).keys context' =
      if context = context' then
        if key ∈ i.keys context' then i.keys context' else i.keys context' ++ [key]
      else i.keys context' := by
  rw [keys_eq, keys_eq, store]
  dsimp only
  rw [OrderedMap.get?_insert]
  by_cases h : context' = context
  · subst h
    rw [if_pos rfl, if_pos rfl, Option.getD_some, OrderedMap.keys_insert]
  · rw [if_neg h, if_neg (Ne.symm h)]

lemma placesOf_store_ne {context' : Text} (h : context' ≠ context) (i : Index)
    (key reference : Text) (comment : Option Text) (key' : Text) :
    (i.store context key reference comment).placesOf context' key' = i.placesOf context' key' := by
  unfold store placesOf
  dsimp only
  rw [OrderedMap.get?_insert, if_neg h]

lemma placesOf_store_eq_ite (i : Index) (context key reference : Text) (comment : Option Text)
    (context' key' : Text) :
    (i.store context key reference comment).placesOf context' key' =
      if context = context' ∧ key = key' then (i.placesOf context' key').insert reference comment
      else i.placesOf context' key' := by
  by_cases hcontext : context = context'
  · subst hcontext
    rw [placesOf_store]
    by_cases hkey : key = key'
    · subst hkey
      rw [if_pos rfl, if_pos ⟨rfl, rfl⟩]
    · rw [if_neg (Ne.symm hkey), if_neg fun hsame => hkey hsame.2]
  · rw [placesOf_store_ne (Ne.symm hcontext), if_neg fun hsame => hcontext hsame.1]

/-- Putting in what the log says about an addition keeps the index in step with the log. -/
lemma Records.store (h : i.Records l) (a : Addition) :
    (i.store a.context a.key a.reference
      (Log.firstComment (l ++ [a]) a.context a.key a.reference)).Records (l ++ [a]) where
  contexts := by
    rw [Log.contexts_concat, ← h.contexts]
    exact OrderedMap.keys_insert _ _ _
  keys context := by
    rw [keys_store, Log.keys_concat, h.keys]
  places context key := by
    rw [placesOf_store_eq_ite, Log.places_concat]
    split
    · rw [OrderedMap.keys_insert, h.places]
    · exact h.places context key
  comments context key reference hmem := by
    rw [placesOf_store_eq_ite]
    rw [Log.places_concat] at hmem
    by_cases hsame : a.context = context ∧ a.key = key
    · obtain ⟨rfl, rfl⟩ := hsame
      rw [if_pos ⟨rfl, rfl⟩, OrderedMap.get?_insert]
      by_cases hreference : reference = a.reference
      · rw [if_pos hreference, hreference]
      · rw [if_neg hreference, Log.firstComment_concat,
          if_neg fun hall => hreference hall.2.2.symm]
        apply h.comments
        rw [if_pos ⟨rfl, rfl⟩] at hmem
        split at hmem
        · exact hmem
        · exact (List.mem_append.mp hmem).resolve_right fun hlast =>
            hreference (List.mem_singleton.mp hlast)
    · rw [if_neg hsame, Log.firstComment_concat, if_neg fun hall => hsame ⟨hall.1, hall.2.1⟩]
      rw [if_neg hsame] at hmem
      exact h.comments _ _ _ hmem

/-- An index that is in step with the log stays so, whether a request fails or not. -/
lemma Records.serve (h : i.Records l) (r : Request) : (i.serve r).2.Records (note l r) := by
  cases r with
  | clear => exact records_empty
  | add a =>
    rw [serve_add]
    cases hadd : i.add a.context a.key a.reference a.comment with
    | ok j =>
      obtain ⟨-, rfl⟩ := add_eq_ok_iff.mp hadd
      have hcomment : (i.stored a.context a.key a.reference).or (nonempty a.comment) =
          Log.firstComment (l ++ [a]) a.context a.key a.reference := by
        rw [Log.firstComment_concat, if_pos ⟨rfl, rfl, rfl⟩, h.stored_eq]
      rw [hcomment]
      exact h.store a
    | error f =>
      -- The comment that is in the way is the first one, and putting it in again changes nothing.
      obtain ⟨old, new, hold, -⟩ := add_eq_error_iff.mp hadd
      have hfirst : Log.firstComment (l ++ [a]) a.context a.key a.reference = some old := by
        rw [Log.firstComment_concat, if_pos ⟨rfl, rfl, rfl⟩, ← h.stored_eq, hold, Option.some_or]
      have hmem := mem_placesOf_of_stored hold
      have hget : (i.placesOf a.context a.key).get? a.reference = some (some old) := by
        rw [h.comments _ _ _ (h.places _ _ ▸ hmem), ← h.stored_eq, hold]
      have hstore : i.store a.context a.key a.reference (some old) = i :=
        places_eq_self (mem_keys_of_mem_placesOf hmem) (OrderedMap.insert_eq_self hget).symm
      rw [← hstore, ← hfirst]
      exact h.store a

/-- After every run the index is in step with the log. -/
theorem records_after (requests : List Request) : (after requests).Records (log requests) := by
  induction requests using List.reverseRecOn with
  | nil => exact records_empty
  | append_singleton requests r ih =>
    rw [after, log, List.foldl_append, List.foldl_append]
    exact ih.serve r

end Index

end MessageCatalog
