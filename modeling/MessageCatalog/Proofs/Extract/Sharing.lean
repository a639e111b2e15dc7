import MessageCatalog.Proofs.Extract.Kept
import MessageCatalog.Proofs.Extract.MarkedCalls

/-!
# Comments shared among keys

The comments of a file that are no directives are shared among its keys. A declared key uses the
one on the line before. A key of a call uses those on its line and on the line before that are left
when its turn comes. So no comment is used twice.
-/

namespace MessageCatalog

open Source (Comment)

/-- A key that has been found, with the lines of the comments that it uses. -/
structure Share where
  found : Occurrence
  lines : Finset Nat

namespace Share

/-- A declared key uses the comment on the line before. -/
structure IsDeclared (rules : CommentRules) (cs : List Comment) (s : Share) : Prop where
  lines : ∀ line, line ∈ s.lines ↔
    line + 1 = s.found.line ∧ ∃ c ∈ cs, rules.offers c = true ∧ c.line = line
  comment : ∀ text, s.found.comment = some text ↔ ∃ c ∈ cs, c.line ∈ s.lines ∧ c.text = text

/-- A key of a call uses what earlier keys have left of the comments on its line and on the line
before. -/
structure IsCalled (rules : CommentRules) (cs : List Comment) (earlier : List Share) (s : Share) :
    Prop where
  lines : ∀ line, line ∈ s.lines ↔ (line + 1 = s.found.line ∨ line = s.found.line) ∧
    (∃ c ∈ cs, rules.offers c = true ∧ c.line = line) ∧ ∀ e ∈ earlier, line ∉ e.lines
  comment : s.found.comment = Comment.quoted cs s.lines

variable {rules : CommentRules} {n : CommentNotes} {cs : List Comment} {shares : List Share}

/-! ### One key -/

/-- The lines of some comments. -/
def linesOf (cs : List Comment) (p : Comment → Bool) : Finset Nat :=
  ((cs.filter p).map (·.line)).toFinset

lemma mem_linesOf {p : Comment → Bool} {line : Nat} :
    line ∈ linesOf cs p ↔ ∃ c ∈ cs, p c = true ∧ c.line = line := by
  simp [linesOf, and_assoc]

/-- What a declared key uses. -/
def ofDeclared (rules : CommentRules) (cs : List Comment) (o : Occurrence) : Share :=
  ⟨o, linesOf cs fun c => rules.offers c && c.line + 1 == o.line⟩

lemma isDeclared_ofDeclared (hcs : Comment.AreInOrder cs) (h : CommentNotes.IsKept rules cs n)
    {o : Occurrence} (ho : o ∈ n.declared) : (ofDeclared rules cs o).IsDeclared rules cs := by
  have hlines (line : Nat) : line ∈ (ofDeclared rules cs o).lines ↔
      line + 1 = o.line ∧ ∃ c ∈ cs, rules.offers c = true ∧ c.line = line := by
    simp only [ofDeclared, mem_linesOf, Bool.and_eq_true, beq_iff_eq]
    constructor
    · rintro ⟨c, hc, ⟨hoffers, hline⟩, rfl⟩
      exact ⟨hline, c, hc, hoffers, rfl⟩
    · rintro ⟨hline, c, hc, hoffers, rfl⟩
      exact ⟨c, hc, ⟨hoffers, hline⟩, rfl⟩
  refine ⟨hlines, fun text => (h.declared o ho text).trans ?_⟩
  simp only [hlines]
  constructor
  · rintro ⟨c, hc, hoffers, hline, htext⟩
    exact ⟨c, hc, ⟨hline, c, hc, hoffers, rfl⟩, htext⟩
  · rintro ⟨c, hc, ⟨hline, d, hd, hoffers, heq⟩, htext⟩
    obtain rfl := hcs.eq_of_line hd hc heq
    exact ⟨d, hd, hoffers, hline, htext⟩

/-- What a key of a call uses. -/
def ofCalled (n : CommentNotes) (o : Occurrence) : Share :=
  ⟨o, linesOf n.kept fun c => c.line + 1 == o.line || c.line == o.line⟩

/-- The comments that are kept are those that can be used and that no share has used. -/
def IsLeft (rules : CommentRules) (cs : List Comment) (shares : List Share) (n : CommentNotes) :
    Prop :=
  ∀ d, d ∈ n.kept ↔ d ∈ cs ∧ rules.offers d = true ∧ ∀ s ∈ shares, d.line ∉ s.lines

lemma mem_lines_ofCalled {o : Occurrence} {line : Nat} : line ∈ (ofCalled n o).lines ↔
    (line + 1 = o.line ∨ line = o.line) ∧ ∃ c ∈ n.kept, c.line = line := by
  simp only [ofCalled, mem_linesOf, Bool.or_eq_true, beq_iff_eq]
  constructor
  · rintro ⟨c, hc, hline, rfl⟩
    exact ⟨hline, c, hc, rfl⟩
  · rintro ⟨hline, c, hc, rfl⟩
    exact ⟨c, hc, hline, rfl⟩

lemma isCalled_ofCalled (hcs : Comment.AreInOrder cs) (h : IsLeft rules cs shares n) (key : Text)
    (line : Nat) :
    (ofCalled n ⟨key, line, (n.takeAround line).1⟩).IsCalled rules cs shares := by
  have hkept : n.kept ⊆ cs := fun d hd => ((h d).mp hd).1
  refine ⟨fun line => mem_lines_ofCalled.trans (and_congr_right fun _ => ?_),
    CommentNotes.takeAround_eq_quoted hcs hkept fun c hc => ?_⟩
  · constructor
    · rintro ⟨c, hc, rfl⟩
      obtain ⟨hc, hoffers, hleft⟩ := (h c).mp hc
      exact ⟨⟨c, hc, hoffers, rfl⟩, hleft⟩
    · rintro ⟨⟨c, hc, hoffers, rfl⟩, hleft⟩
      exact ⟨c, (h c).mpr ⟨hc, hoffers, hleft⟩, rfl⟩
  · rw [mem_lines_ofCalled]
    refine and_congr_right fun _ => ⟨?_, fun hc => ⟨c, hc, rfl⟩⟩
    rintro ⟨d, hd, hline⟩
    exact hcs.eq_of_line (hkept hd) hc hline ▸ hd

lemma IsLeft.takeAround (hcs : ∀ c ∈ cs, 0 < c.line) (h : IsLeft rules cs shares n)
    (o : Occurrence) :
    IsLeft rules cs (shares ++ [ofCalled n o]) (n.takeAround o.line).2 := by
  intro d
  have hkept : d ∈ (n.takeAround o.line).2.kept ↔
      d ∈ n.kept ∧ d.line ≠ o.line - 1 ∧ d.line ≠ o.line := by
    rw [CommentNotes.takeAround, CommentNotes.mem_kept_drop, CommentNotes.mem_kept_drop, and_assoc]
  rw [hkept, List.forall_mem_append, List.forall_mem_singleton, mem_lines_ofCalled]
  constructor
  · rintro ⟨hd, hbefore, hline⟩
    obtain ⟨hcs', hoffers, hleft⟩ := (h d).mp hd
    have hpos := hcs d hcs'
    exact ⟨hcs', hoffers, hleft, fun hmem => by omega⟩
  · rintro ⟨hd, hoffers, hleft, hnot⟩
    have hkept := (h d).mpr ⟨hd, hoffers, hleft⟩
    have hpos := hcs d hd
    have hlines : ¬(d.line + 1 = o.line ∨ d.line = o.line) := fun hline =>
      hnot ⟨hline, d, hkept, rfl⟩
    exact ⟨hkept, by omega, by omega⟩

section Declared

variable (hshares : ∀ s ∈ shares, s.IsDeclared rules cs)
  (hlines : shares.map (·.found.line) = (cs.filter rules.declares).map (·.line))

include hshares hlines

lemma disjoint_of_isDeclared (hcs : Comment.AreInOrder cs) :
    shares.Pairwise fun a b => Disjoint a.lines b.lines := by
  have hrising : (shares.map (·.found.line)).Pairwise (· < ·) :=
    hlines ▸ List.pairwise_map.mpr (hcs.sorted.filter _)
  refine (List.pairwise_map.mp hrising).imp_of_mem fun {a b} ha hb hlt => ?_
  refine Finset.disjoint_left.mpr fun line hla hlb => ?_
  have hlinea := (((hshares a ha).lines line).mp hla).1
  have hlineb := (((hshares b hb).lines line).mp hlb).1
  omega

lemma isLeft_of_isDeclared (h : CommentNotes.IsKept rules cs n) : IsLeft rules cs shares n := by
  intro d
  rw [h.kept]
  refine and_congr_right fun hd => and_congr_right fun hoffers => ?_
  calc (∀ e ∈ cs, rules.declares e = true → e.line ≠ d.line + 1) ↔
      ∀ line ∈ (cs.filter rules.declares).map (·.line), line ≠ d.line + 1 := by
        simp only [List.forall_mem_map, List.mem_filter, and_imp]
    _ ↔ ∀ s ∈ shares, s.found.line ≠ d.line + 1 := by rw [← hlines, List.forall_mem_map]
    _ ↔ ∀ s ∈ shares, d.line ∉ s.lines := forall₂_congr fun s hs => not_congr ?_
  rw [(hshares s hs).lines]
  exact ⟨fun hline => ⟨hline.symm, d, hd, hoffers, rfl⟩, fun h => h.1.symm⟩

end Declared

end Share

/-! ### All keys -/

/-- How the comments of a file are shared among its keys. -/
structure IsSharing (o : ExtractOptions) (rules : CommentRules) (m : Source.Module)
    (declared called : List Share) (found : List Occurrence) : Prop where
  found_eq : (declared ++ called).map (·.found) = found
  disjoint : (declared ++ called).Pairwise fun a b => Disjoint a.lines b.lines
  directives : declared.map (·.found.line) = (m.comments.filter rules.declares).map (·.line)
  isDeclared : ∀ s ∈ declared, s.IsDeclared rules m.comments
  calls : ∀ s ∈ called, ∃ c ∈ Call.inNode m.tree, c.IsMarker o ∧ c.line = s.found.line
  isCalled : ∀ before s after, called = before ++ s :: after →
    s.IsCalled rules m.comments (declared ++ before)

namespace IsSharing

variable {o : ExtractOptions} {rules : CommentRules} {m : Source.Module}
  {declared called : List Share} {found : List Occurrence}

/-- One more key of a call. -/
lemma concat (h : IsSharing o rules m declared called found) {s : Share}
    (hs : s.IsCalled rules m.comments (declared ++ called)) {c : Call}
    (hc : c ∈ Call.inNode m.tree) (hmarker : c.IsMarker o) (hline : c.line = s.found.line) :
    IsSharing o rules m declared (called ++ [s]) (found ++ [s.found]) where
  found_eq := by simp [← h.found_eq]
  disjoint := by
    rw [← List.append_assoc]
    refine List.pairwise_append.mpr ⟨h.disjoint, List.pairwise_singleton _ _, fun e he s' hs' => ?_⟩
    obtain rfl := List.mem_singleton.mp hs'
    exact Finset.disjoint_right.mpr fun line hmem => ((hs.lines line).mp hmem).2.2 e he
  directives := h.directives
  isDeclared := h.isDeclared
  calls := List.forall_mem_append.mpr
    ⟨h.calls, List.forall_mem_singleton.mpr ⟨c, hc, hmarker, hline⟩⟩
  isCalled before s' after heq := by
    rcases List.eq_nil_or_concat after with rfl | ⟨after, last, rfl⟩
    · obtain ⟨rfl, hlast⟩ := List.append_inj' heq rfl
      obtain rfl := List.singleton_inj.mp hlast
      exact hs
    · rw [List.concat_eq_append, ← List.cons_append, ← List.append_assoc] at heq
      exact h.isCalled before s' after (List.append_inj' heq rfl).1

/-- A line that is used has a comment that can be used. -/
lemma exists_offers (h : IsSharing o rules m declared called found) {s : Share}
    (hs : s ∈ declared ++ called) {line : Nat} (hline : line ∈ s.lines) :
    ∃ c ∈ m.comments, rules.offers c = true ∧ c.line = line := by
  rcases List.mem_append.mp hs with hs | hs
  · exact (((h.isDeclared s hs).lines line).mp hline).2
  · obtain ⟨before, after, heq⟩ := List.append_of_mem hs
    exact (((h.isCalled before s after heq).lines line).mp hline).2.1

/-- A directive is part of no comment. -/
lemma not_mem_lines (h : IsSharing o rules m declared called found)
    (hcs : Comment.AreInOrder m.comments) {c : Comment} (hc : c ∈ m.comments)
    (hdirective : rules.isDirective c = true) {s : Share} (hs : s ∈ declared ++ called) :
    c.line ∉ s.lines := by
  intro hline
  obtain ⟨d, hd, hoffers, heq⟩ := h.exists_offers hs hline
  obtain rfl := hcs.eq_of_line hd hc heq
  simp [CommentRules.offers, hdirective] at hoffers

lemma comment_eq_none (h : IsSharing o rules m declared called found) (hkeep : rules.keep = false)
    {a : Occurrence} (ha : a ∈ found) : a.comment = none := by
  rw [← h.found_eq] at ha
  obtain ⟨s, hs, rfl⟩ := List.mem_map.mp ha
  have hlines (line : Nat) : line ∉ s.lines := by
    intro hline
    obtain ⟨c, -, hoffers, -⟩ := h.exists_offers hs hline
    simp [CommentRules.offers, hkeep] at hoffers
  rcases List.mem_append.mp hs with hs | hs
  · rw [Option.eq_none_iff_forall_ne_some]
    intro text htext
    obtain ⟨c, -, hline, -⟩ := ((h.isDeclared s hs).comment text).mp htext
    exact hlines c.line hline
  · obtain ⟨before, after, heq⟩ := List.append_of_mem hs
    rw [(h.isCalled before s after heq).comment, Comment.quoted,
      List.filter_eq_nil_iff.mpr fun c _ => by simpa using hlines c.line]
    rfl

end IsSharing

namespace Findings

open Share (IsLeft)

variable {o : ExtractOptions} {rules : CommentRules} {m : Source.Module} {declared : List Share}
  {state : Findings × CommentNotes}

/-- The keys found so far share what is not kept. -/
def IsShared (o : ExtractOptions) (rules : CommentRules) (m : Source.Module)
    (declared : List Share) (state : Findings × CommentNotes) : Prop :=
  ∃ called, IsSharing o rules m declared called state.1.occurrences ∧
    IsLeft rules m.comments (declared ++ called) state.2

lemma IsShared.addKey (h : IsShared o rules m declared state)
    (hcs : Comment.AreInOrder m.comments) {c : Call} (hc : c ∈ Call.inNode m.tree)
    (hmarker : c.IsMarker o) (key : Text) :
    IsShared o rules m declared (addKey c.line state key) := by
  obtain ⟨called, hsharing, hleft⟩ := h
  refine ⟨called ++ [Share.ofCalled state.2 ⟨key, c.line, (state.2.takeAround c.line).1⟩], ?_, ?_⟩
  · exact hsharing.concat (Share.isCalled_ofCalled hcs hleft key c.line) hc hmarker rfl
  · rw [← List.append_assoc]
    exact hleft.takeAround hcs.pos ⟨key, c.line, (state.2.takeAround c.line).1⟩

lemma IsShared.addCall (h : IsShared o rules m declared state)
    (hcs : Comment.AreInOrder m.comments) {c : Call} (hc : c ∈ Call.inNode m.tree) :
    IsShared o rules m declared (addCall o state c) := by
  unfold Findings.addCall
  dsimp only
  split
  · next hcall =>
    have hmarker := Call.isMarked_iff.mp (Bool.and_eq_true_iff.mp hcall).1
    exact List.foldlRecOn (motive := IsShared o rules m declared) _ _ h
      fun _ hs key _ => hs.addKey hcs hc hmarker key
  · exact h

/-- The keys that comments have declared share what the notes do not keep. -/
lemma isShared_of_isKept {notes : CommentNotes} (hcs : Comment.AreInOrder m.comments)
    (hnoted : CommentNotes.IsNoted rules m.comments notes)
    (hkept : CommentNotes.IsKept rules m.comments notes) :
    IsShared o rules m (notes.declared.map (Share.ofDeclared rules m.comments))
      (⟨notes.declared, []⟩, notes) := by
  have hdeclared : ∀ s ∈ notes.declared.map (Share.ofDeclared rules m.comments),
      s.IsDeclared rules m.comments := by
    intro s hs
    obtain ⟨a, ha, rfl⟩ := List.mem_map.mp hs
    exact Share.isDeclared_ofDeclared hcs hkept ha
  have hlines : (notes.declared.map (Share.ofDeclared rules m.comments)).map (·.found.line) =
      (m.comments.filter rules.declares).map (·.line) := by
    rw [← hnoted.lines, List.map_map]
    rfl
  refine ⟨[], ⟨?_, ?_, hlines, hdeclared, List.forall_mem_nil _, fun before s after h => ?_⟩, ?_⟩
  · rw [List.append_nil, List.map_map]
    exact List.map_id _
  · rw [List.append_nil]
    exact Share.disjoint_of_isDeclared hdeclared hlines hcs
  · cases before <;> cases h
  · rw [List.append_nil]
    exact Share.isLeft_of_isDeclared hdeclared hlines hkept

/-- The keys found in a source file share its comments: their lines are disjoint; a key that a
comment declares uses the comment on the line before; and a key of a call uses, of the comments on
its line and the line before, just those that no earlier key has used and that are no directives. If
comments are not to be extracted, no key has any. -/
theorem comments_shared {f : Findings} {t : Text} (h : ofText o rules t = .ok f) :
    ∃ m, Source.Module.ofText t = some m ∧ Comment.AreInOrder m.comments ∧
      (∃ declared called, IsSharing o rules m declared called f.occurrences ∧
        ∀ c ∈ m.comments, rules.isDirective c = true → ∀ s ∈ declared ++ called, c.line ∉ s.lines) ∧
      (CommentRules.ofOptions o.comments = .ok rules → o.comments.extract.truthy = false →
        ∀ a ∈ f.occurrences, a.comment = none) := by
  obtain ⟨m, hm, h⟩ := ofText_eq_ok_iff.mp h
  obtain ⟨notes, hnotes, rfl⟩ := ofModule_eq_ok_iff.mp h
  have hcs : Comment.AreInOrder m.comments :=
    ⟨Source.Module.sorted_comments hm, fun _ hc => Source.Module.pos_line hm hc⟩
  have hstart : IsShared o rules m _ (⟨notes.declared, []⟩, notes) := isShared_of_isKept hcs
    (CommentNotes.isNoted_ofComments hnotes) (CommentNotes.isKept_ofComments hcs hnotes)
  obtain ⟨called, hsharing, -⟩ := List.foldlRecOn (motive := IsShared o rules m _)
    (Call.inNode m.tree) _ hstart fun _ hs c hc => hs.addCall hcs hc
  refine ⟨m, hm, hcs, ⟨_, called, hsharing, fun c hc hdirective s hs =>
    hsharing.not_mem_lines hcs hc hdirective hs⟩, fun hrules hoff a ha => ?_⟩
  exact hsharing.comment_eq_none ((CommentRules.keep_of_ofOptions hrules).trans hoff) ha

/-- A comment above a declared key, two calls on a line with a comment, a call right below, and one
with a comment on its line and one above. -/
def hallway : Text := "bell = 1  # Loud
# i18n-extract Bell
_('Mat', _('Key'))  # Front
_('Lamp')
# Brass
_('Knob')  # Round
"

theorem comments_shared_hallway : ∃ f, ofText doorman .byDefault hallway = .ok f ∧
    f.occurrences.map (·.comment) =
      ([some "Loud", some "Front", none, none, some "Brass\nRound"] : List (Option Text)) ∧
    ∃ m, Source.Module.ofText hallway = some m ∧ ∃ declared called,
      IsSharing doorman .byDefault m declared called f.occurrences ∧
        ∀ c ∈ m.comments, CommentRules.byDefault.isDirective c = true →
          ∀ s ∈ declared ++ called, c.line ∉ s.lines := by
  have hcomments : (ofText doorman .byDefault hallway).toOption.map
      (fun f => f.occurrences.map (·.comment)) = some ([some "Loud", some "Front", none, none,
        some "Brass\nRound"] : List (Option Text)) := by
    decide +kernel
  cases h : ofText doorman .byDefault hallway with
  | error e =>
    rw [h] at hcomments
    cases hcomments
  | ok f =>
    rw [h] at hcomments
    obtain ⟨m, hm, -, hsharing, -⟩ := comments_shared h
    exact ⟨f, rfl, Option.some.inj hcomments, m, hm, hsharing⟩

end Findings

end MessageCatalog
