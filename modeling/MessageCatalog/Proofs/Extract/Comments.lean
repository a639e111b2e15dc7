import MessageCatalog.Proofs.Extract.Directives
import MessageCatalog.Proofs.Source.Comments

/-!
# Comments are used once

A key takes the comments of its line and of the line before with it. So of the keys found on a line
the first is the only one with a comment.
-/

namespace MessageCatalog

open Failure

namespace CommentNotes

variable {rules : CommentRules} {n m : CommentNotes} {line : Nat}

/-! ### Taking comments -/

/-- Neither the comment of a line nor that of the line before is there to be taken. -/
def IsSpent (n : CommentNotes) (line : Nat) : Prop :=
  ∀ c ∈ n.kept, c.line ≠ line - 1 ∧ c.line ≠ line

lemma IsSpent.mono (h : n.IsSpent line) (hkept : m.kept ⊆ n.kept) : m.IsSpent line :=
  fun c hc => h c (hkept hc)

lemma kept_drop_subset (n : CommentNotes) (line : Nat) : (n.drop line).kept ⊆ n.kept :=
  fun _ hc => (mem_kept_drop.mp hc).1

/-- What a key on a line leaves of the comments. -/
lemma isSpent_drop_drop (n : CommentNotes) (line : Nat) :
    ((n.drop (line - 1)).drop line).IsSpent line := by
  intro c hc
  obtain ⟨hc, hline⟩ := mem_kept_drop.mp hc
  exact ⟨(mem_kept_drop.mp hc).2, hline⟩

lemma kept_drop_drop_subset (n : CommentNotes) (line line' : Nat) :
    ((n.drop line).drop line').kept ⊆ n.kept :=
  List.Subset.trans (kept_drop_subset _ line') (kept_drop_subset n line)

lemma at?_eq_none (h : ∀ c ∈ n.kept, c.line ≠ line) : n.at? line = none := by
  rw [at?, Option.map_eq_none_iff, List.find?_eq_none]
  simpa using h

lemma IsSpent.takeAround_eq (h : n.IsSpent line) : (n.takeAround line).1 = none := by
  rw [takeAround, at?_eq_none fun c hc => (h c hc).1, at?_eq_none fun c hc => (h c hc).2]
  rfl

/-! ### Declared keys -/

/-- The keys declared before a line come in the order of their lines, and the comments about them
are taken. -/
structure IsBefore (n : CommentNotes) (line : Nat) : Prop where
  sorted : n.declared.Pairwise fun a b => a.line < b.line
  earlier : ∀ o ∈ n.declared, o.line < line
  spent : ∀ o ∈ n.declared, n.IsSpent o.line

lemma IsBefore.mono (h : n.IsBefore line) {line' : Nat} (hline : line ≤ line') :
    n.IsBefore line' :=
  ⟨h.sorted, fun o ho => (h.earlier o ho).trans_le hline, h.spent⟩

lemma IsBefore.add {c : Source.Comment} (hn : n.IsBefore c.line) (hadd : IsAdded rules n c m) :
    m.IsBefore (c.line + 1) := by
  have hspent : ∀ o ∈ n.declared, m.IsSpent o.line := by
    intro o ho d hd
    rcases ((hadd.kept d).mp hd).1 with hd | ⟨-, rfl⟩
    · exact hn.spent o ho d hd
    · have hlt := hn.earlier o ho
      omega
  rcases hadd.declared with ⟨-, hm⟩ | ⟨key, hdeclares, -, hm⟩
  · refine ⟨hm ▸ hn.sorted, fun o ho => ?_, fun o ho => hspent o (hm ▸ ho)⟩
    exact (hn.earlier o (hm ▸ ho)).trans (Nat.lt_succ_self _)
  · constructor
    · rw [hm]
      refine List.pairwise_append.mpr ⟨hn.sorted, List.pairwise_singleton _ _, fun o ho => ?_⟩
      exact List.forall_mem_singleton.mpr (hn.earlier o ho)
    · rw [hm, List.forall_mem_append, List.forall_mem_singleton]
      exact ⟨fun o ho => (hn.earlier o ho).trans (Nat.lt_succ_self _), Nat.lt_succ_self _⟩
    · rw [hm, List.forall_mem_append, List.forall_mem_singleton]
      exact ⟨hspent, fun d hd => ((hadd.kept d).mp hd).2.1 hdeclares⟩

/-- Comments in the order of their lines declare keys in that order. -/
lemma isBefore_foldlM {cs : List Source.Comment} (hcs : cs.Pairwise fun a b => a.line < b.line)
    (hline : ∀ c ∈ cs, line ≤ c.line) (hn : n.IsBefore line)
    (h : cs.foldlM (CommentNotes.add rules) n = .ok m) : ∃ last, m.IsBefore last := by
  induction cs generalizing n line with
  | nil =>
    obtain rfl := pure_eq_ok_iff.mp h
    exact ⟨line, hn⟩
  | cons c cs ih =>
    obtain ⟨k, hk, h⟩ := bind_eq_ok_iff.mp h
    obtain ⟨hlater, hcs⟩ := List.pairwise_cons.mp hcs
    exact ih hcs hlater ((hn.mono (hline c List.mem_cons_self)).add (isAdded_of_add hk)) h

lemma isBefore_ofComments {cs : List Source.Comment} (hcs : cs.Pairwise fun a b => a.line < b.line)
    (h : ofComments rules cs = .ok n) : ∃ last, n.IsBefore last := by
  have hempty : IsBefore {} 0 :=
    ⟨List.Pairwise.nil, List.forall_mem_nil _, List.forall_mem_nil _⟩
  exact isBefore_foldlM hcs (fun _ _ => Nat.zero_le _) hempty h

end CommentNotes

namespace Findings

variable {f : Findings} {n : CommentNotes} {o : ExtractOptions} {rules : CommentRules}

/-! ### Reading a source file -/

lemma ofModule_eq_ok_iff {m : Source.Module} : ofModule o rules m = .ok f ↔
    ∃ notes, CommentNotes.ofComments rules m.comments = .ok notes ∧
      ((Call.inNode m.tree).foldl (addCall o) (⟨notes.declared, []⟩, notes)).1 = f := by
  simp only [ofModule, bind_eq_ok_iff, pure_eq_ok_iff]

lemma ofText_eq_ok_iff {t : Text} : ofText o rules t = .ok f ↔
    ∃ m, Source.Module.ofText t = some m ∧ ofModule o rules m = .ok f := by
  unfold ofText
  cases Source.Module.ofText t <;> simp

/-! ### Keys of calls -/

/-- Of the keys on one line at most the first has a comment, and the comments about all of them are
taken. -/
structure IsSettled (state : Findings × CommentNotes) : Prop where
  first : state.1.occurrences.Pairwise fun a b => a.line = b.line → b.comment = none
  spent : ∀ a ∈ state.1.occurrences, state.2.IsSpent a.line

lemma IsSettled.addKey {state : Findings × CommentNotes} (h : IsSettled state) (line : Nat)
    (key : Text) : IsSettled (addKey line state key) where
  first := by
    refine List.pairwise_append.mpr ⟨h.first, List.pairwise_singleton _ _, fun a ha b hb => ?_⟩
    obtain rfl := List.mem_singleton.mp hb
    rintro rfl
    exact (h.spent a ha).takeAround_eq
  spent a ha := by
    rcases List.mem_append.mp ha with ha | ha
    · exact (h.spent a ha).mono (CommentNotes.kept_drop_drop_subset _ _ _)
    · obtain rfl := List.mem_singleton.mp ha
      exact CommentNotes.isSpent_drop_drop _ line

lemma IsSettled.addCall {state : Findings × CommentNotes} (h : IsSettled state) (c : Call) :
    IsSettled (addCall o state c) := by
  unfold Findings.addCall
  dsimp only
  split
  · exact List.foldlRecOn (motive := IsSettled) _ _ ⟨h.first, h.spent⟩
      fun _ hs key _ => hs.addKey c.line key
  · exact h

/-- Of the keys that a source file has on one line, at most the first has a comment. -/
theorem first_of_ofText {t : Text} (h : ofText o rules t = .ok f) :
    f.occurrences.Pairwise fun a b => a.line = b.line → b.comment = none := by
  obtain ⟨m, hm, h⟩ := ofText_eq_ok_iff.mp h
  obtain ⟨notes, hnotes, rfl⟩ := ofModule_eq_ok_iff.mp h
  have hsorted := Source.Module.sorted_comments hm
  obtain ⟨last, hlast⟩ := CommentNotes.isBefore_ofComments hsorted hnotes
  have hstart : IsSettled (⟨notes.declared, []⟩, notes) :=
    ⟨hlast.sorted.imp fun hlt heq => absurd heq hlt.ne, hlast.spent⟩
  exact (List.foldlRecOn (motive := IsSettled) _ _ hstart fun _ hs c _ => hs.addCall c).first

end Findings

end MessageCatalog
