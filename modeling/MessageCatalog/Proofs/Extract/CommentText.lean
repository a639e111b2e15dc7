import MessageCatalog.Proofs.Document.Comments
import MessageCatalog.Proofs.Extract.Comments

/-!
# What the comments of keys say

The comment of a key puts comments of its source file one below the other, each in one line. So a
catalog file can hold all that it says, but for lines of comments that say nothing.
-/

namespace MessageCatalog

open Failure Text

/-- The text puts comments one below the other. -/
def Quotes (t : Text) (cs : List Source.Comment) : Prop :=
  ∃ lines, lines ≠ [] ∧ t = join "\n" lines ∧ ∀ l ∈ lines, l ∈ cs.map Source.Comment.text

/-! ### From the comments to the keys -/

namespace CommentNotes

variable {rules : CommentRules} {n m : CommentNotes} {cs : List Source.Comment} {line : Nat}

/-- What is kept and declared comes from some comments. -/
structure ComesFrom (n : CommentNotes) (cs : List Source.Comment) : Prop where
  kept : n.kept ⊆ cs
  declared : ∀ o ∈ n.declared, ∀ t ∈ o.comment, Quotes t cs

lemma ComesFrom.drop (h : n.ComesFrom cs) (line : Nat) : (n.drop line).ComesFrom cs :=
  ⟨List.Subset.trans (kept_drop_subset n line) h.kept, h.declared⟩

lemma ComesFrom.mem_at? (h : n.ComesFrom cs) {t : Text} (ht : t ∈ n.at? line) :
    t ∈ cs.map Source.Comment.text := by
  obtain ⟨c, hc, rfl⟩ := Option.map_eq_some_iff.mp ht
  exact List.mem_map_of_mem (h.kept (List.mem_of_find?_eq_some hc))

lemma ComesFrom.quotes_takeAt (h : n.ComesFrom cs) {t : Text} (ht : t ∈ (n.takeAt line).1) :
    Quotes t cs :=
  ⟨[t], by simp, by simp, by simpa using h.mem_at? ht⟩

lemma ComesFrom.quotes_takeAround (h : n.ComesFrom cs) {t : Text}
    (ht : t ∈ (n.takeAround line).1) : Quotes t cs := by
  rw [takeAround] at ht
  dsimp only at ht
  split at ht
  · exact absurd ht (Option.not_mem_none t)
  · next hne =>
    obtain rfl := Option.some.inj ht
    refine ⟨_, fun hnil => hne ?_, rfl, fun l hl => ?_⟩
    · rw [hnil]
      rfl
    · rcases List.mem_append.mp hl with hl | hl
      all_goals exact h.mem_at? (Option.mem_toList.mp hl)

lemma ComesFrom.add {c : Source.Comment} (hn : n.ComesFrom cs) (hc : c ∈ cs)
    (hadd : IsAdded rules n c m) : m.ComesFrom cs where
  kept d hd := by
    rcases ((hadd.kept d).mp hd).1 with hd | ⟨-, rfl⟩
    · exact hn.kept hd
    · exact hc
  declared := by
    have hkeep : (n.keepBy rules c).ComesFrom cs := by
      unfold keepBy
      split
      · exact ⟨List.cons_subset.mpr ⟨hc, hn.kept⟩, hn.declared⟩
      · exact hn
    rcases hadd.declared with ⟨-, hm⟩ | ⟨key, -, -, hm⟩
    · exact hm ▸ hn.declared
    · rw [hm, List.forall_mem_append, List.forall_mem_singleton]
      exact ⟨hn.declared, fun t ht => hkeep.quotes_takeAt ht⟩

lemma comesFrom_ofComments (h : ofComments rules cs = .ok n) : n.ComesFrom cs := by
  have hall : ∀ (rest : List Source.Comment) (k : CommentNotes), k.ComesFrom cs → rest ⊆ cs →
      rest.foldlM (CommentNotes.add rules) k = .ok n → n.ComesFrom cs := by
    intro rest
    induction rest with
    | nil => exact fun k hk _ h => pure_eq_ok_iff.mp h ▸ hk
    | cons c rest ih =>
      intro k hk hsub h
      obtain ⟨hc, hsub⟩ := List.cons_subset.mp hsub
      obtain ⟨k', hk', h⟩ := bind_eq_ok_iff.mp h
      exact ih k' (hk.add hc (isAdded_of_add hk')) hsub h
  exact hall cs {} ⟨List.nil_subset _, List.forall_mem_nil _⟩ (List.Subset.refl _) h

end CommentNotes

namespace Findings

variable {o : ExtractOptions} {rules : CommentRules} {cs : List Source.Comment}

/-- The keys that were found have comments that come from the file, and so have those to come. -/
structure ComesFrom (state : Findings × CommentNotes) (cs : List Source.Comment) : Prop where
  found : ∀ a ∈ state.1.occurrences, ∀ t ∈ a.comment, Quotes t cs
  notes : state.2.ComesFrom cs

lemma ComesFrom.addKey {state : Findings × CommentNotes} (h : ComesFrom state cs) (line : Nat)
    (key : Text) : ComesFrom (addKey line state key) cs where
  found a ha t ht := by
    rcases List.mem_append.mp ha with ha | ha
    · exact h.found a ha t ht
    · obtain rfl := List.mem_singleton.mp ha
      exact h.notes.quotes_takeAround ht
  notes := (h.notes.drop _).drop _

lemma ComesFrom.addCall {state : Findings × CommentNotes} (h : ComesFrom state cs) (c : Call) :
    ComesFrom (addCall o state c) cs := by
  unfold Findings.addCall
  dsimp only
  split
  · exact List.foldlRecOn (motive := fun state => ComesFrom state cs) _ _ ⟨h.found, h.notes⟩
      fun _ hs key _ => hs.addKey c.line key
  · exact h

lemma exists_module {t : Text} {f : Findings} (h : ofText o rules t = .ok f) :
    ∃ m, Source.Module.ofText t = some m :=
  (ofText_eq_ok_iff.mp h).imp fun _ hm => hm.1

/-- The comment of a key that is found in a source file quotes comments of the file. -/
theorem quotes_of_ofText {t : Text} {f : Findings} {m : Source.Module}
    (hm : Source.Module.ofText t = some m) (h : ofText o rules t = .ok f) {a : Occurrence}
    (ha : a ∈ f.occurrences) {text : Text} (htext : text ∈ a.comment) : Quotes text m.comments := by
  obtain ⟨m', hm', h⟩ := ofText_eq_ok_iff.mp h
  obtain rfl := Option.some.inj (hm.symm.trans hm')
  obtain ⟨notes, hnotes, rfl⟩ := ofModule_eq_ok_iff.mp h
  have hstart := CommentNotes.comesFrom_ofComments hnotes
  exact (List.foldlRecOn (motive := fun state => ComesFrom state m.comments) _ _
    ⟨hstart.declared, hstart⟩ fun _ hs c _ => hs.addCall c).found a ha text htext

end Findings

/-! ### What a catalog file can hold -/

namespace Source.Module

variable {t text : Text} {m : Source.Module}

/-- The lines of quoted comments are the comments. -/
lemma mem_of_mem_splitOn (hm : ofText t = some m) (h : Quotes text m.comments) {l : Text}
    (hl : l ∈ splitOn '\n' text) : l ∈ m.comments.map Comment.text := by
  obtain ⟨lines, hne, rfl, hlines⟩ := h
  rw [show join "\n" lines = join ['\n'] lines from rfl, splitOn_join '\n' hne] at hl
  obtain ⟨line, hline, hl⟩ := List.mem_flatMap.mp hl
  obtain ⟨c, hc, rfl⟩ := List.mem_map.mp (hlines line hline)
  rw [splitOn_of_not_mem (trim_comment hm hc).2, List.mem_singleton] at hl
  exact hl ▸ List.mem_map_of_mem hc

/-- Quoted comments that hold no line boundary can stand in a catalog file. -/
theorem isCommentText_of_quotes (hm : ofText t = some m) (hone : ∀ c ∈ m.comments, OneLine c.text)
    (h : Quotes text m.comments) : Document.IsCommentText text := by
  intro l hl
  obtain ⟨c, hc, rfl⟩ := List.mem_map.mp (mem_of_mem_splitOn hm h hl)
  exact ⟨hone c hc, noTrailingBlank_of_trim (trim_comment hm hc).1⟩

/-- Quoted comments that all say something leave no line empty. -/
theorem not_mem_splitOn_of_quotes (hm : ofText t = some m) (hsome : ∀ c ∈ m.comments, c.text ≠ [])
    (h : Quotes text m.comments) : [] ∉ splitOn '\n' text := by
  intro hnil
  obtain ⟨c, hc, hempty⟩ := List.mem_map.mp (mem_of_mem_splitOn hm h hnil)
  exact hsome c hc hempty

end Source.Module

end MessageCatalog
