import Mathlib
import MessageCatalog.Source.Statement
import MessageCatalog.Proofs.Text.Words

/-!
# The comments of a source file

A comment lasts to the end of its line, so no line has two, and the comments of a source file come
in the order of their lines. What a comment says is trimmed.
-/

namespace MessageCatalog.Source

namespace Passage

variable {p q r : Passage} {t rest : Text}

/-! ### Moving on -/

/-- The second passage has found no further comment and is no earlier in the text. -/
structure Advances (p q : Passage) : Prop where
  comments : q.comments = p.comments
  line : p.line ≤ q.line

lemma Advances.refl (p : Passage) : p.Advances p := ⟨rfl, le_rfl⟩

lemma Advances.trans (h₁ : p.Advances q) (h₂ : q.Advances r) : p.Advances r :=
  ⟨h₂.comments.trans h₁.comments, h₁.line.trans h₂.line⟩

lemma advances_add (p : Passage) (t : Token) : p.Advances (p.add t) := ⟨rfl, le_rfl⟩

lemma advances_foldl_add (p : Passage) (ts : List Token) : p.Advances (ts.foldl add p) := by
  induction ts generalizing p with
  | nil => exact .refl p
  | cons t ts ih => exact (advances_add p t).trans (ih (p.add t))

lemma advances_endLine (p : Passage) : p.Advances p.endLine := by
  unfold endLine
  split <;> exact ⟨rfl, Nat.le_succ _⟩

lemma advances_beginLine (h : p.beginLine t = some (q, rest)) : p.Advances q := by
  obtain ⟨m, -, h⟩ := Option.bind_eq_some_iff.mp h
  dsimp only at h
  -- whether the line is blank makes no difference to the comments
  split at h
  all_goals
    split at h
    · obtain ⟨rfl, -⟩ := Prod.mk.inj (Option.some.inj h)
      exact ⟨rfl, Nat.le_add_right _ _⟩
    · obtain ⟨⟨tokens, blocks⟩, -, h⟩ := Option.bind_eq_some_iff.mp h
      obtain ⟨rfl, -⟩ := Prod.mk.inj (Option.some.inj h)
      refine Advances.trans ?_ (advances_foldl_add _ tokens)
      exact ⟨rfl, Nat.le_add_right _ _⟩

lemma advances_bracket {o : Text} (h : p.bracket o = some q) : p.Advances q := by
  unfold bracket at h
  repeat' split at h
  all_goals first
    | exact Option.some.inj h ▸ ⟨rfl, le_rfl⟩
    | cases h

lemma advances_operator (h : p.operator t = some (q, rest)) : p.Advances q := by
  unfold operator at h
  split at h
  · obtain ⟨b, hb, h⟩ := Option.map_eq_some_iff.mp h
    obtain ⟨rfl, -⟩ := Prod.mk.inj h
    exact (advances_bracket hb).trans (advances_add b _)
  · cases h

lemma advances_string {style : StringStyle} {mark : Char}
    (h : p.string style mark t = some (q, rest)) : p.Advances q := by
  obtain ⟨⟨body, after⟩, -, h⟩ := Option.map_eq_some_iff.mp h
  obtain ⟨rfl, -⟩ := Prod.mk.inj h
  exact ⟨rfl, Nat.le_add_right _ _⟩

lemma advances_word (h : p.word t = some (q, rest)) : p.Advances q := by
  have hplain {letters after : Text}
      (h : (wordToken? letters).map (fun token => (p.add token, after)) = some (q, rest)) :
      p.Advances q := by
    obtain ⟨token, -, h⟩ := Option.map_eq_some_iff.mp h
    obtain ⟨rfl, -⟩ := Prod.mk.inj h
    exact advances_add p token
  unfold word at h
  dsimp only at h
  repeat' split at h
  · exact advances_string h
  all_goals exact hplain h

/-- The comment that begins where a mark has been read, and lasts to the end of the line. -/
def commentOf (p : Passage) (t : Text) : Comment :=
  ⟨p.line, Text.trim (t.takeWhile (· ≠ '\n'))⟩

/-- Every piece is passed by, but for a comment, which is noted. -/
lemma advances_or_comment {c : Char} (h : p.piece c t = some (q, rest)) :
    p.Advances q ∨ c = '#' ∧ q = { p with comments := p.commentOf t :: p.comments } ∧
      rest = t.dropWhile (· ≠ '\n') := by
  unfold piece at h
  split at h
  · obtain ⟨rfl, -⟩ := Prod.mk.inj (Option.some.inj h)
    exact .inl (.refl p)
  split at h
  · obtain ⟨rfl, -⟩ := Prod.mk.inj (Option.some.inj h)
    exact .inl (advances_endLine p)
  split at h
  · next hc =>
    obtain ⟨rfl, rfl⟩ := Prod.mk.inj (Option.some.inj h)
    exact .inr ⟨hc, rfl, rfl⟩
  split at h
  · split at h
    · obtain ⟨rfl, -⟩ := Prod.mk.inj (Option.some.inj h)
      exact .inl ⟨rfl, Nat.le_succ _⟩
    · cases h
  split at h
  · obtain ⟨⟨kind, after⟩, -, h⟩ := Option.map_eq_some_iff.mp h
    obtain ⟨rfl, -⟩ := Prod.mk.inj h
    exact .inl (advances_add p _)
  split at h
  · exact .inl (advances_word h)
  split at h
  · exact .inl (advances_string h)
  · exact .inl (advances_operator h)

/-- What every piece keeps of the passage, the whole text keeps. -/
lemma run_induction {P : Passage → Prop} (hadvance : ∀ {p q}, P p → p.Advances q → P q)
    (hcomment : ∀ p t, P p → P { p with comments := p.commentOf t :: p.comments })
    {n : Nat} (h : run n p t = some q) (hp : P p) : P q := by
  induction n generalizing p t with
  | zero => cases h
  | succ n ih =>
    unfold run at h
    split at h
    · split at h
      · next q' t' hline => exact ih h (hadvance hp (advances_beginLine hline))
      · cases h
    · split at h
      · unfold finish at h
        split at h
        · exact Option.some.inj h ▸ hadvance hp (advances_add p .endOfSource)
        · cases h
      · next c rest =>
        split at h
        · next q' t' hpiece =>
          refine ih h ?_
          rcases advances_or_comment hpiece with hq | ⟨-, rfl, -⟩
          · exact hadvance hp hq
          · exact hcomment p rest hp
        · cases h

/-! ### Comments in order -/

/-- The comments found so far are on different lines, the latest first, and all of them on earlier
lines than the one at hand. -/
structure IsClear (p : Passage) : Prop where
  sorted : p.comments.Pairwise fun a b => b.line < a.line
  earlier : ∀ c ∈ p.comments, c.line < p.line

lemma IsClear.advance (hp : p.IsClear) (h : p.Advances q) : q.IsClear where
  sorted := h.comments ▸ hp.sorted
  earlier c hc := (hp.earlier c (h.comments ▸ hc)).trans_le h.line

/-- No comment is on the line at hand, or else nothing but the end of the line is left of it. -/
def IsInOrder (p : Passage) (t : Text) : Prop :=
  p.IsClear ∨ p.begins = false ∧ p.endLine.IsClear ∧ ∀ c ∈ t.head?, c = '\n'

lemma head?_dropWhile_ne (t : Text) : ∀ c ∈ (t.dropWhile (· ≠ '\n')).head?, c = '\n' := by
  intro c hc
  have h := List.head?_dropWhile_not (· ≠ '\n') t
  rw [Option.mem_def.mp hc] at h
  simpa using h

lemma comments_endLine (p : Passage) : p.endLine.comments = p.comments :=
  (advances_endLine p).comments

lemma line_endLine (p : Passage) : p.endLine.line = p.line + 1 := by
  unfold endLine
  split <;> rfl

/-- A comment on a line that has none so far is the last thing on it. -/
lemma IsClear.comment (hp : p.IsClear) (text : Text) :
    ({ p with comments := ⟨p.line, text⟩ :: p.comments } : Passage).endLine.IsClear where
  sorted := by
    rw [comments_endLine]
    exact List.pairwise_cons.mpr ⟨hp.earlier, hp.sorted⟩
  earlier c hc := by
    rw [line_endLine]
    rw [comments_endLine] at hc
    rcases List.mem_cons.mp hc with rfl | hc
    · exact Nat.lt_succ_self _
    · exact (hp.earlier c hc).trans (Nat.lt_succ_self _)

lemma isInOrder_piece {c : Char} (hbegins : p.begins = false) (h : p.piece c t = some (q, rest))
    (hp : p.IsInOrder (c :: t)) : q.IsInOrder rest := by
  rcases hp with hp | ⟨-, hp, hc⟩
  · rcases advances_or_comment h with hq | ⟨-, rfl, rfl⟩
    · exact .inl (hp.advance hq)
    · exact .inr ⟨hbegins, hp.comment _, head?_dropWhile_ne t⟩
  · obtain rfl : c = '\n' := hc c rfl
    obtain ⟨rfl, -⟩ := Prod.mk.inj (Option.some.inj h)
    exact .inl hp

/-- At every step the comments are in order, and so they are at the end. -/
lemma sorted_run {n : Nat} (h : run n p t = some q) (hp : p.IsInOrder t) :
    q.comments.Pairwise fun a b => b.line < a.line := by
  induction n generalizing p t with
  | zero => cases h
  | succ n ih =>
    unfold run at h
    split at h
    · next hbegins =>
      have hclear : p.IsClear := hp.resolve_right fun hp => by simp [hbegins] at hp
      split at h
      · next q' t' hline => exact ih h (.inl (hclear.advance (advances_beginLine hline)))
      · cases h
    · next hbegins =>
      have hsorted : p.comments.Pairwise fun a b => b.line < a.line := by
        rcases hp with hp | ⟨-, hp, -⟩
        · exact hp.sorted
        · exact comments_endLine p ▸ hp.sorted
      split at h
      · unfold finish at h
        split at h
        · exact Option.some.inj h ▸ hsorted
        · cases h
      · split at h
        · next q' t' hpiece =>
          exact ih h (isInOrder_piece (Bool.eq_false_iff.mpr hbegins) hpiece hp)
        · cases h

end Passage

lemma Module.exists_run {t : Text} {m : Module} (h : Module.ofText t = some m) :
    ∃ n t' q, Passage.run n { line := 1 } t' = some q ∧ m.comments = q.comments.reverse := by
  obtain ⟨lexed, hlex, h⟩ := Option.bind_eq_some_iff.mp h
  dsimp only at h
  obtain ⟨⟨nodes, _⟩, -, h⟩ := Option.bind_eq_some_iff.mp h
  obtain ⟨p, hrun, hp⟩ := Option.map_eq_some_iff.mp hlex
  exact ⟨_, _, p, hrun, by rw [← Option.some.inj h, ← hp]⟩

/-- The comments of a source file come in the order of their lines, at most one for each line. -/
theorem Module.sorted_comments {t : Text} {m : Module} (h : Module.ofText t = some m) :
    m.comments.Pairwise fun a b => a.line < b.line := by
  obtain ⟨n, t', q, hrun, hcomments⟩ := exists_run h
  have hempty : ({ line := 1 } : Passage).IsClear := ⟨List.Pairwise.nil, List.forall_mem_nil _⟩
  rw [hcomments]
  exact List.pairwise_reverse.mpr (Passage.sorted_run hrun (.inl hempty))

/-- The lines of a source file are counted from one. -/
theorem Module.pos_line {t : Text} {m : Module} (h : Module.ofText t = some m) {c : Comment}
    (hc : c ∈ m.comments) : 0 < c.line := by
  obtain ⟨n, t', q, hrun, hcomments⟩ := exists_run h
  rw [hcomments, List.mem_reverse] at hc
  refine (Passage.run_induction (P := fun p => 0 < p.line ∧ ∀ c ∈ p.comments, 0 < c.line) ?_ ?_
    hrun ⟨Nat.one_pos, List.forall_mem_nil _⟩).2 c hc
  · rintro p q ⟨hline, hp⟩ hq
    exact ⟨hline.trans_le hq.line, hq.comments ▸ hp⟩
  · rintro p t ⟨hline, hp⟩
    exact ⟨hline, List.forall_mem_cons.mpr ⟨hline, hp⟩⟩

/-- What a comment says is trimmed, and holds no line feed. -/
theorem Module.trim_comment {t : Text} {m : Module} (h : Module.ofText t = some m) {c : Comment}
    (hc : c ∈ m.comments) : Text.trim c.text = c.text ∧ '\n' ∉ c.text := by
  obtain ⟨n, t', q, hrun, hcomments⟩ := exists_run h
  rw [hcomments, List.mem_reverse] at hc
  refine Passage.run_induction (P := fun p => ∀ c ∈ p.comments,
    Text.trim c.text = c.text ∧ '\n' ∉ c.text) ?_ ?_ hrun (List.forall_mem_nil _) c hc
  · intro p q hp hq c hc
    exact hp c (hq.comments ▸ hc)
  · intro p t hp c hc
    rcases List.mem_cons.mp hc with rfl | hc
    · refine ⟨Text.trim_trim _, fun hmem => ?_⟩
      have hkept := List.mem_takeWhile_imp ((Text.trim_sublist _).subset hmem)
      simp at hkept
    · exact hp c hc

end MessageCatalog.Source
