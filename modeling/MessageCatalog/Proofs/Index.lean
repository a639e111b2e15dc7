import MessageCatalog.Index
import MessageCatalog.Proofs.OrderedMap

/-!
# Adding to an index

An index holds at most one comment for a key at a reference. A comment that is added where there is
none conflicts with nothing, and the comments elsewhere stay as they are.
-/

namespace MessageCatalog.Index

variable {i : Index} {reference : Text} {comment : Option Text}

/-! ### The comment at a place -/

@[simp] lemma nonempty_nonempty (c : Option Text) : nonempty (nonempty c) = nonempty c := by
  rcases c with _ | _ | _ <;> rfl

/-- The comment of a key at a reference; an empty comment is none. -/
def stored (i : Index) (context key reference : Text) : Option Text :=
  let keys := (i.contexts.get? context).getD .empty
  let places := (keys.get? key).getD .empty
  nonempty ((places.get? reference).getD none)

/-- Put a comment at a reference of a key, whatever is there. -/
def store (i : Index) (context key reference : Text) (comment : Option Text) : Index :=
  let keys := (i.contexts.get? context).getD .empty
  let places := (keys.get? key).getD .empty
  ⟨i.contexts.insert context (keys.insert key (places.insert reference comment))⟩

lemma stored_store (i : Index) (context key reference : Text) (comment : Option Text)
    (context' key' reference' : Text) :
    (i.store context key reference comment).stored context' key' reference' =
      if context' = context ∧ key' = key ∧ reference' = reference then nonempty comment
      else i.stored context' key' reference' := by
  unfold store stored
  dsimp only
  rw [OrderedMap.get?_insert]
  by_cases hcontext : context' = context
  · rw [if_pos hcontext, Option.getD_some, OrderedMap.get?_insert, ← hcontext]
    by_cases hkey : key' = key
    · rw [if_pos hkey, Option.getD_some, OrderedMap.get?_insert, ← hkey]
      by_cases hreference : reference' = reference <;> simp [hreference]
    · simp [hkey]
  · simp [hcontext]

/-- What adding to an index does. -/
lemma add_eq (i : Index) (context key reference : Text) (comment : Option Text) :
    i.add context key reference comment =
      match i.stored context key reference, nonempty comment with
      | some old, some new =>
        if old = new then .ok (i.store context key reference (some old))
        else .error (.conflict key reference old new)
      | some old, none => .ok (i.store context key reference (some old))
      | none, new => .ok (i.store context key reference new) := rfl

/-! ### Free references -/

/-- No key has a comment at the reference. -/
def IsFree (i : Index) (reference : Text) : Prop :=
  ∀ context key, i.stored context key reference = none

lemma isFree_empty (reference : Text) : empty.IsFree reference := fun _ _ => rfl

lemma IsFree.store (h : i.IsFree reference) {context key reference' : Text}
    (hne : nonempty comment = none ∨ reference ≠ reference') :
    (i.store context key reference' comment).IsFree reference := by
  intro context' key'
  rw [stored_store]
  split
  · next heq => exact hne.resolve_right fun hne => hne heq.2.2
  · exact h context' key'

/-- Adding without a comment, or where there is none, does not fail. A reference that is free stays
so unless it is the one that gets a comment. -/
theorem exists_add (context key : Text) (h : nonempty comment = none ∨ i.IsFree reference) :
    ∃ j, i.add context key reference comment = .ok j ∧ ∀ r, i.IsFree r →
      nonempty comment = none ∨ r ≠ reference → j.IsFree r := by
  rw [add_eq]
  cases hstored : i.stored context key reference with
  | none => exact ⟨_, rfl, fun r hr hne => hr.store (by simpa using hne)⟩
  | some old =>
    have hcomment := h.resolve_right fun hfree => by simp [hfree context key] at hstored
    rw [hcomment]
    refine ⟨_, rfl, fun r hr _ => hr.store (.inr ?_)⟩
    rintro rfl
    simp [hr context key] at hstored

end MessageCatalog.Index
