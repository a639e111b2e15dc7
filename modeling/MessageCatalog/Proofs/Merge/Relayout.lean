import Mathlib
import MessageCatalog.Proofs.Reference.Layout
import MessageCatalog.Proofs.Merge.Changes

/-!
# Other limits on lines

When messages are merged once more with other limits on the lines of reference comments, the
comments are laid out anew, and that is all: nothing counts as changed, every entry stays in its
place, and the catalog is the one that the new limits would have given in the first place.
-/

namespace MessageCatalog

open Text Catalog Failure

/-- The options with other limits on the lines of reference comments. -/
def MergeOptions.withLines (o : MergeOptions) (perLine lineLength : Value) : MergeOptions :=
  { o with references := o.references.withLines perLine lineLength }

namespace Entry

/-- The extracted comment holds the lines afterwards. -/
lemma setExtracted_entry (lines : List Text) (e : Entry) :
    (e.setExtracted lines).1 = if givenText e.extracted = nonempty (join "\n" lines) then e
      else e.withExtracted (nonempty (join "\n" lines)) := by
  split
  · rename_i hsame
    rw [(setExtracted_eq_self_iff lines e).mpr hsame]
  · rename_i hother
    rw [← setExtracted_eq_self_iff, setExtracted] at hother
    rw [setExtracted, nonempty]
    split_ifs at hother ⊢
    · rfl
    · exact absurd rfl hother
    · exact absurd rfl hother
    · rfl

/-- It does not matter for the entry which of its two comments is set first. -/
lemma setExtracted_withReference (lines : List Text) (e : Entry) (new : Option Text) :
    ((e.withReference new).setExtracted lines).1 = (e.setExtracted lines).1.withReference new := by
  rw [setExtracted_entry, setExtracted_entry, extracted_withReference]
  split <;> rfl

end Entry

namespace Merge

variable {o : ReferenceOptions} {context : Text} {source : Bucket} {m : Message} {s₁ s₂ : Step}
  {perLine lineLength : Value}

/-! ### One message -/

/-- A merged entry is found with other limits on lines without a change, and becomes the one that
these limits give. -/
lemma mergeFound_withLines (h₁ : mergeOne o context source m = .ok s₁)
    (h₂ : mergeOne (o.withLines perLine lineLength) context source m = .ok s₂) :
    mergeFound (o.withLines perLine lineLength) m s₁.tracked.entry =
      .ok ⟨⟨s₂.tracked.entry, some m, []⟩, false⟩ := by
  obtain ⟨-, -, -, hcarries⟩ := mergeOne_spec h₂
  obtain ⟨x₁, change₁, href₁, hentry₁⟩ := mergeOne_entry h₁
  obtain ⟨x₂, change₂, href₂, hentry₂⟩ := mergeOne_entry h₂
  rcases mergeReference_cases href₁ with ⟨hoff, rfl, -⟩ | ⟨hon, t₁, ht₁, rfl⟩
  · rcases mergeReference_cases href₂ with ⟨-, rfl, -⟩ | ⟨hon, -⟩
    · rw [hentry₁, ← hentry₂]
      exact hcarries
    · exact absurd (hon.symm.trans hoff) Bool.noConfusion
  · rcases mergeReference_cases href₂ with ⟨hoff, -⟩ | ⟨hon₂, t₂, ht₂, rfl⟩
    · exact absurd (hon.symm.trans hoff) Bool.noConfusion
    · have hset := hcarries.steps.2
      rw [Entry.setExtracted_withReference] at hentry₁ hentry₂
      -- The other references take the place of the first ones; their words are the same.
      have hwords : Entry.commentWords s₁.tracked.entry.reference = words t₂ := by
        rw [hentry₁, Entry.reference_withReference, Entry.commentWords_ite,
          Reference.words_of_comment_withLines ht₁ ht₂]
      have href := mergeReference_of_words hon₂ ht₂ hwords
      have hplaces : s₁.tracked.entry.withReference (if t₂.isEmpty then none else some t₂) =
          s₂.tracked.entry := by
        rw [hentry₁, hentry₂]
        rfl
      rw [hplaces] at href
      rw [mergeFound_eq href, hset]
      rfl

/-- An entry that is found without a change is sorted like the one that takes its place. -/
lemma sortsLike_of_mergeFound {e x : Entry}
    (h : mergeFound o m e = .ok ⟨⟨x, some m, []⟩, false⟩) : e.SortsLike x := by
  obtain ⟨-, -, hsame, -⟩ := mergeFound_spec h
  obtain ⟨hwords, -⟩ := Entry.differences_eq_nil_iff.mp (changes_of_mergeFound h).symm
  refine ⟨hsame.msgid, hsame.msgctxt, ?_⟩
  rw [Entry.firstReference_eq, Entry.firstReference_eq, hwords]

/-! ### All messages -/

variable {ms : List Message} {steps₁ steps₂ : List (Text × Step)} {order : SortOrder}

/-- Where the merged entries are, the messages are found without a change with other limits on
lines, and the entries are sorted as before. -/
lemma Run.withLines (h₁ : Run o context source ms steps₁)
    (h₂ : Run (o.withLines perLine lineLength) context source ms steps₂) {source' : Bucket}
    (hget : ∀ s ∈ steps₁, source'.get? s.1 = some s.2.tracked.entry) :
    List.Forall₂ (IsFoundAs (o.withLines perLine lineLength) source') ms (mergedEntries steps₂) ∧
      List.Forall₂ Entry.SortsLike (mergedEntries steps₁) (mergedEntries steps₂) := by
  have hmerged₁ := h₁.merged
  have hmerged₂ := h₂.merged
  clear h₁ h₂
  induction hmerged₁ generalizing steps₂ with
  | nil =>
    cases hmerged₂
    exact ⟨.nil, .nil⟩
  | cons hm₁ _ ih =>
    obtain ⟨s₂, rest₂, hm₂, hrest₂, rfl⟩ := List.forall₂_cons_left_iff.mp hmerged₂
    obtain ⟨hhead, htail⟩ := List.forall_mem_cons.mp hget
    obtain ⟨hfound, hlike⟩ := ih htail hrest₂
    have hmerge := mergeFound_withLines hm₁.2 hm₂.2
    exact ⟨.cons ⟨_, hm₁.1 ▸ hhead, hmerge⟩ hfound, .cons (sortsLike_of_mergeFound hmerge) hlike⟩

end Merge

end MessageCatalog
