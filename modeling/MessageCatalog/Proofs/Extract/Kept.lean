import MessageCatalog.Proofs.Extract.Comments

/-!
# What is kept of the comments

When the comments of a file have been noted, those that can be used by keys are kept, but for the
ones just before a declared key: these are about that key. Lines are what tells comments apart, as
no line has two.
-/

namespace MessageCatalog

open Failure (bind_eq_ok_iff pure_eq_ok_iff)
open Source (Comment)

namespace CommentRules

variable {rules : CommentRules} {c : Comment}

/-- Whether a comment can be used by keys. -/
def offers (rules : CommentRules) (c : Comment) : Bool :=
  rules.keep && !rules.isDirective c

lemma keep_of_ofOptions {o : CommentOptions} (h : ofOptions o = .ok rules) :
    rules.keep = o.extract.truthy := by
  obtain ⟨key, -, h⟩ := bind_eq_ok_iff.mp h
  obtain ⟨ignore, -, h⟩ := bind_eq_ok_iff.mp h
  obtain rfl := pure_eq_ok_iff.mp h
  rfl

lemma offers_iff : rules.offers c = true ↔
    rules.keep = true ∧ ¬rules.declares c = true ∧ ¬rules.ignores c = true := by
  simp [offers, isDirective]

end CommentRules

/-! ### Comments in order -/

namespace Source.Comment

variable {cs ds : List Comment}

/-- The comments come in the order of their lines, which are counted from one. -/
structure AreInOrder (cs : List Comment) : Prop where
  sorted : cs.Pairwise fun a b => a.line < b.line
  pos : ∀ c ∈ cs, 0 < c.line

lemma AreInOrder.eq_of_line (h : AreInOrder cs) {c d : Comment} (hc : c ∈ cs) (hd : d ∈ cs)
    (hline : c.line = d.line) : c = d :=
  List.inj_on_of_nodup_map (List.pairwise_map.mpr (h.sorted.imp ne_of_lt)) hc hd hline

lemma AreInOrder.lt_last {c : Comment} (h : AreInOrder (cs ++ [c])) :
    0 < c.line ∧ ∀ d ∈ cs, d.line < c.line :=
  ⟨h.pos c (by simp), fun d hd =>
    (List.pairwise_append.mp h.sorted).2.2 d hd c (List.mem_singleton_self c)⟩

lemma AreInOrder.of_concat {c : Comment} (h : AreInOrder (cs ++ [c])) : AreInOrder cs :=
  ⟨(List.pairwise_append.mp h.sorted).1, fun d hd => h.pos d (List.mem_append_left _ hd)⟩

lemma eq_of_sorted (hcs : cs.Pairwise fun a b => a.line < b.line)
    (hds : ds.Pairwise fun a b => a.line < b.line) (h : ∀ c, c ∈ cs ↔ c ∈ ds) : cs = ds := by
  have hirrefl : Std.Irrefl fun a b : Comment => a.line < b.line := ⟨fun c => lt_irrefl c.line⟩
  have hantisymm : Std.Antisymm fun a b : Comment => a.line < b.line :=
    ⟨fun a b hab hba => absurd hab hba.asymm⟩
  exact hcs.eq_of_mem_iff hds h

/-- The comments on some lines, one below the other; nothing if there is no text in them. -/
def quoted (cs : List Comment) (lines : Finset Nat) : Option Text :=
  match Text.join "\n" ((cs.filter fun c => c.line ∈ lines).map (·.text)) with
  | [] => none
  | t => some t

end Source.Comment

namespace CommentNotes

variable {rules : CommentRules} {n m : CommentNotes} {c : Comment} {cs : List Comment}

/-! ### What is kept for calls -/

lemma find?_line_eq_some_iff (hcs : Comment.AreInOrder cs) (hkept : n.kept ⊆ cs) {line : Nat} :
    (n.kept.find? fun c => c.line == line) = some c ↔ c ∈ n.kept ∧ c.line = line := by
  constructor
  · intro h
    exact ⟨List.mem_of_find?_eq_some h, by simpa using List.find?_some h⟩
  · rintro ⟨hc, hline⟩
    obtain ⟨d, hd⟩ : ∃ d, (n.kept.find? fun c => c.line == line) = some d :=
      Option.isSome_iff_exists.mp (List.find?_isSome.mpr ⟨c, hc, by simpa using hline⟩)
    have hdline : d.line = line := by simpa using List.find?_some hd
    have hmem := hkept (List.mem_of_find?_eq_some hd)
    rw [hd, hcs.eq_of_line hmem (hkept hc) (hdline.trans hline.symm)]

lemma at?_eq_some_iff (hcs : Comment.AreInOrder cs) (hkept : n.kept ⊆ cs) {line : Nat}
    {text : Text} : n.at? line = some text ↔ ∃ c ∈ n.kept, c.line = line ∧ c.text = text := by
  simp only [at?, Option.map_eq_some_iff, find?_line_eq_some_iff hcs hkept, and_assoc]

/-- What is taken around a line are the comments kept there, in the order of their lines. -/
lemma takeAround_eq_quoted (hcs : Comment.AreInOrder cs) (hkept : n.kept ⊆ cs) {line : Nat}
    {lines : Finset Nat} (hlines : ∀ c ∈ cs,
      c.line ∈ lines ↔ (c.line + 1 = line ∨ c.line = line) ∧ c ∈ n.kept) :
    (n.takeAround line).1 = Comment.quoted cs lines := by
  have hfound (k : Nat) (c : Comment) :
      c ∈ (n.kept.find? fun c => c.line == k).toList ↔ c ∈ n.kept ∧ c.line = k := by
    rw [Option.mem_toList, find?_line_eq_some_iff hcs hkept]
  -- There is at most one comment on each of the two lines, and the one on the line before comes
  -- first in both lists.
  have hlist : (n.kept.find? fun c => c.line == line - 1).toList ++
      (n.kept.find? fun c => c.line == line).toList = cs.filter fun c => c.line ∈ lines := by
    refine Comment.eq_of_sorted ?_ (hcs.sorted.filter _) fun c => ?_
    · refine List.pairwise_append.mpr ⟨?_, ?_, fun a ha b hb => ?_⟩
      · cases n.kept.find? fun c => c.line == line - 1 <;> simp
      · cases n.kept.find? fun c => c.line == line <;> simp
      · have ha := (hfound _ a).mp ha
        have hb := (hfound _ b).mp hb
        have hpos := hcs.pos a (hkept ha.1)
        omega
    · rw [List.mem_append, hfound, hfound, List.mem_filter, decide_eq_true_eq]
      constructor
      · rintro (⟨hc, hline⟩ | ⟨hc, hline⟩)
        · have hpos := hcs.pos c (hkept hc)
          exact ⟨hkept hc, (hlines c (hkept hc)).mpr ⟨by omega, hc⟩⟩
        · exact ⟨hkept hc, (hlines c (hkept hc)).mpr ⟨Or.inr hline, hc⟩⟩
      · rintro ⟨hc, hmem⟩
        obtain ⟨hline | hline, hc⟩ := (hlines c hc).mp hmem
        · exact Or.inl ⟨hc, by omega⟩
        · exact Or.inr ⟨hc, hline⟩
  have htexts : (n.at? (line - 1)).toList ++ (n.at? line).toList =
      (cs.filter fun c => c.line ∈ lines).map (·.text) := by
    rw [at?, at?, ← hlist, List.map_append, Option.toList_map, Option.toList_map]
  rw [takeAround, htexts]
  rfl

/-- Of the comments noted, those that can be used are kept, but for the ones just before a comment
that declares a key; and these are the ones about the declared keys. -/
structure IsKept (rules : CommentRules) (cs : List Comment) (n : CommentNotes) : Prop where
  kept : ∀ d, d ∈ n.kept ↔ d ∈ cs ∧ rules.offers d = true ∧
    ∀ e ∈ cs, rules.declares e = true → e.line ≠ d.line + 1
  declared : ∀ o ∈ n.declared, ∀ text, o.comment = some text ↔
    ∃ d ∈ cs, rules.offers d = true ∧ d.line + 1 = o.line ∧ d.text = text

lemma IsKept.mem_kept_of_isAdded (h : IsKept rules cs n) (hcs : Comment.AreInOrder (cs ++ [c]))
    (hadd : IsAdded rules n c m) (d : Comment) : d ∈ m.kept ↔ d ∈ cs ++ [c] ∧
      rules.offers d = true ∧ ∀ e ∈ cs ++ [c], rules.declares e = true → e.line ≠ d.line + 1 := by
  obtain ⟨hpos, hearlier⟩ := hcs.lt_last
  rw [hadd.kept, h.kept]
  -- A comment is kept if it was kept before and the new one does not declare a key below it,
  -- or if it is the new one itself.
  constructor
  · rintro ⟨⟨hd, hoffers, hbefore⟩ | ⟨hkeep, rfl⟩, hdeclares, hignores⟩
    · refine ⟨List.mem_append_left _ hd, hoffers, fun e he hdeclared => ?_⟩
      rcases List.mem_append.mp he with he | he
      · exact hbefore e he hdeclared
      · obtain rfl := List.mem_singleton.mp he
        have hne := (hdeclares hdeclared).1
        omega
    · refine ⟨by simp, CommentRules.offers_iff.mpr ⟨hkeep, ?_, ?_⟩, fun e he _ => ?_⟩
      · exact fun hdeclared => (hdeclares hdeclared).2 rfl
      · exact fun hignored => hignores hignored rfl
      · rcases List.mem_append.mp he with he | he
        · have hlt := hearlier e he
          omega
        · obtain rfl := List.mem_singleton.mp he
          omega
  · rintro ⟨hd, hoffers, hbefore⟩
    rcases List.mem_append.mp hd with hd | hd
    · have hlt := hearlier d hd
      refine ⟨Or.inl ⟨hd, hoffers, fun e he => hbefore e (List.mem_append_left _ he)⟩,
        fun hdeclared => ⟨?_, hlt.ne⟩, fun _ => hlt.ne⟩
      have hne := hbefore c (by simp) hdeclared
      omega
    · obtain rfl := List.mem_singleton.mp hd
      obtain ⟨hkeep, hnot, hnone⟩ := CommentRules.offers_iff.mp hoffers
      exact ⟨Or.inr ⟨hkeep, rfl⟩, fun hdeclared => absurd hdeclared hnot,
        fun hignored => absurd hignored hnone⟩

/-- A comment that comes now is about no key that was declared before. -/
lemma IsKept.comment_eq_some_iff (h : IsKept rules cs n) (hcs : Comment.AreInOrder (cs ++ [c]))
    (hnoted : IsNoted rules cs n) {o : Occurrence} (ho : o ∈ n.declared) (text : Text) :
    o.comment = some text ↔
      ∃ d ∈ cs ++ [c], rules.offers d = true ∧ d.line + 1 = o.line ∧ d.text = text := by
  have hmem : o.line ∈ (cs.filter rules.declares).map (·.line) :=
    hnoted.lines ▸ List.mem_map_of_mem ho
  obtain ⟨e, he, heq⟩ := List.mem_map.mp hmem
  have hlt := hcs.lt_last.2 e (List.mem_filter.mp he).1
  rw [h.declared o ho]
  constructor
  · rintro ⟨d, hd, hline⟩
    exact ⟨d, List.mem_append_left _ hd, hline⟩
  · rintro ⟨d, hd, hoffers, hline, htext⟩
    rcases List.mem_append.mp hd with hd | hd
    · exact ⟨d, hd, hoffers, hline, htext⟩
    · obtain rfl := List.mem_singleton.mp hd
      omega

/-- The comment on the line before the one that comes now is still there, if it can be used. -/
lemma IsKept.at?_eq_some_iff (h : IsKept rules cs n) (hcs : Comment.AreInOrder (cs ++ [c]))
    (text : Text) : (n.keepBy rules c).at? (c.line - 1) = some text ↔
      ∃ d ∈ cs ++ [c], rules.offers d = true ∧ d.line + 1 = c.line ∧ d.text = text := by
  obtain ⟨hpos, hearlier⟩ := hcs.lt_last
  have hsub : (n.keepBy rules c).kept ⊆ cs ++ [c] := by
    intro d hd
    rcases mem_kept_keepBy.mp hd with hd | ⟨-, rfl⟩
    · exact List.mem_append_left _ ((h.kept d).mp hd).1
    · simp
  rw [CommentNotes.at?_eq_some_iff hcs hsub]
  constructor
  · rintro ⟨d, hd, hline, htext⟩
    rcases mem_kept_keepBy.mp hd with hd | ⟨-, rfl⟩
    · obtain ⟨hd, hoffers, -⟩ := (h.kept d).mp hd
      exact ⟨d, List.mem_append_left _ hd, hoffers, by omega, htext⟩
    · omega
  · rintro ⟨d, hd, hoffers, hline, htext⟩
    rcases List.mem_append.mp hd with hd | hd
    · have hbefore : ∀ e ∈ cs, rules.declares e = true → e.line ≠ d.line + 1 := by
        intro e he _
        have hlt := hearlier e he
        omega
      exact ⟨d, mem_kept_keepBy.mpr (Or.inl ((h.kept d).mpr ⟨hd, hoffers, hbefore⟩)), by omega,
        htext⟩
    · obtain rfl := List.mem_singleton.mp hd
      omega

lemma IsKept.add (h : IsKept rules cs n) (hcs : Comment.AreInOrder (cs ++ [c]))
    (hnoted : IsNoted rules cs n) (hadd : IsAdded rules n c m) : IsKept rules (cs ++ [c]) m where
  kept := h.mem_kept_of_isAdded hcs hadd
  declared o ho text := by
    rcases hadd.declared with ⟨-, hm⟩ | ⟨key, -, -, hm⟩
    · exact h.comment_eq_some_iff hcs hnoted (hm ▸ ho) text
    · rw [hm] at ho
      rcases List.mem_append.mp ho with ho | ho
      · exact h.comment_eq_some_iff hcs hnoted ho text
      · obtain rfl := List.mem_singleton.mp ho
        exact h.at?_eq_some_iff hcs text

lemma isKept_ofComments (hcs : Comment.AreInOrder cs) (h : ofComments rules cs = .ok n) :
    IsKept rules cs n := by
  induction cs using List.reverseRecOn generalizing n with
  | nil =>
    obtain rfl := pure_eq_ok_iff.mp h
    exact ⟨by simp, List.forall_mem_nil _⟩
  | append_singleton cs c ih =>
    rw [ofComments_concat] at h
    obtain ⟨k, hk, h⟩ := bind_eq_ok_iff.mp h
    exact (ih hcs.of_concat hk).add hcs (isNoted_ofComments hk) (isAdded_of_add h)

end CommentNotes

end MessageCatalog
