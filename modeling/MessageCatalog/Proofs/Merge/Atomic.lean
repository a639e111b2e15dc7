import MessageCatalog.Proofs.Merge.Update

/-!
# All or nothing

A merge into one file has a single step that changes a file, and it is the last one. So a merge
that fails has changed no file, and one that ends well has changed at most its target, which then
holds the content of the result.
-/

namespace MessageCatalog

variable {α : Type}

namespace Action

/-- The action leaves the content of every file as it is. It may make directories. -/
def KeepsFiles (a : Action α) : Prop :=
  ∀ s l, (a.outcome s).2.tree.content? l = s.tree.content? l

lemma IsQuiet.keepsFiles {a : Action α} (h : a.IsQuiet) : a.KeepsFiles := fun s l => by
  rw [(h s).tree_eq]

lemma keepsFiles_makeDirectory (loc : Location) : (makeDirectory loc).KeepsFiles := by
  intro s l
  rw [makeDirectory, outcome_change]
  cases h : s.tree.makeDirectory loc with
  | ok tree => exact FileTree.content?_makeDirectory h l
  | error f => rfl

end Action

namespace Merger

/-- How a merge into a file may end in a session: it fails and every file is as it was, or it has a
result and every file but the target is as it was. The target holds the content of the result, or
what it held before if this is a dry run. -/
def AllOrNothing (m : Merger) (target : Location) (s : Session) :
    Except Failure FileMerge × Session → Prop
  | (.error _, t) => ∀ l, t.tree.content? l = s.tree.content? l
  | (.ok r, t) =>
    (∀ l, l ≠ target → t.tree.content? l = s.tree.content? l) ∧
      (m.options.dryRun.truthy = false → t.tree.content? target = some r.content) ∧
      (m.options.dryRun.truthy = true →
        t.tree.content? target = s.tree.content? target ∧ r.written = false)

variable {m : Merger} {loc target : Location} {s : Session} {r : FileMerge}

/-- What keeps the files can come before a merge that is all or nothing. -/
lemma allOrNothing_bind {a : Action α} {f : α → Action FileMerge} (ha : a.KeepsFiles)
    (hf : ∀ x t, a.outcome s = (.ok x, t) → m.AllOrNothing target t ((f x).outcome t)) :
    m.AllOrNothing target s ((a >>= f).outcome s) := by
  have hkeep := ha s
  rw [Action.outcome_bind]
  cases h : a.outcome s with
  | mk result t =>
    rw [h] at hkeep
    cases result with
    | error e => exact hkeep
    | ok x =>
      have hrest := hf x t h
      dsimp only
      cases ho : (f x).outcome t with
      | mk result u =>
        rw [ho] at hrest
        cases result with
        | error e => exact fun l => (hrest l).trans (hkeep l)
        | ok r =>
          obtain ⟨hother, hwet, hdry⟩ := hrest
          refine ⟨fun l hl => (hother l hl).trans (hkeep l), hwet, fun h => ?_⟩
          exact ⟨(hdry h).1.trans (hkeep target), (hdry h).2⟩

/-- Writing the content of a result, under any name, is all or nothing. -/
lemma allOrNothing_writeFile (m : Merger) (target : Location) (name file : Text) (r : FileMerge)
    (s : Session) :
    m.AllOrNothing target s ((do
      return { r with file, written := ← m.writeFile name target r.content } :
        Action FileMerge).outcome s) := by
  rw [Action.outcome_bind]
  cases hdry : m.options.dryRun.truthy with
  | true =>
    have hwrite : (m.writeFile name target r.content).outcome s =
        (.ok false, { s with
          notices := s.notices ++ [⟨"Dry run only, not writing " ++ name, some .yellow⟩] }) := by
      rw [writeFile, if_pos hdry]
      rfl
    rw [hwrite]
    exact ⟨fun _ _ => rfl, fun h => absurd (hdry.symm.trans h) (by decide), fun _ => ⟨rfl, rfl⟩⟩
  | false =>
    obtain ⟨t, ht, hwrite⟩ := @outcome_writeFile m target hdry name r.content s
    rw [hwrite]
    cases htree : s.tree.write target r.content with
    | error f => exact fun l => by rw [ht.tree_eq]
    | ok tree =>
      exact ⟨fun l hl => FileTree.content?_write_of_ne htree hl,
        fun _ => FileTree.content?_write_self htree,
        fun h => absurd (hdry.symm.trans h) (by decide)⟩

/-- Writing nothing is all or nothing where the content of the result is in the file already. -/
lemma allOrNothing_skip (text : Text) (hcontent : s.tree.content? target = some r.content)
    (hwritten : r.written = false) :
    m.AllOrNothing target s ((do
      Action.say text
      return r : Action FileMerge).outcome s) :=
  ⟨fun _ _ => rfl, fun _ => hcontent, fun _ => ⟨rfl, hwritten⟩⟩

lemma allOrNothing_update (m : Merger) (loc : Location) (messages : Value) (s : Session) :
    m.AllOrNothing loc s ((m.update loc messages).outcome s) := by
  refine allOrNothing_bind (isQuiet_guard m loc).keepsFiles fun _ t _ => ?_
  refine allOrNothing_bind (isQuiet_preview m loc messages).keepsFiles fun r u hpreview => ?_
  obtain ⟨hread, hwritten, -⟩ := isPreview_of_outcome hpreview
  split
  · exact allOrNothing_writeFile m loc r.file r.file r u
  · next hneeds =>
    have hsame : r.content = r.sourceContent := by
      by_contra hne
      exact hneeds (needsWriting_iff.mpr (.inr (.inr hne)))
    refine allOrNothing_skip _ ?_ hwritten
    rw [((isQuiet_preview m loc messages).heard hpreview).tree_eq, hsame]
    exact FileTree.read_eq_ok_iff.mp hread

lemma allOrNothing_updateTo (m : Merger) (source target : Location) (messages : Value)
    (s : Session) : m.AllOrNothing target s ((m.updateTo source target messages).outcome s) := by
  refine allOrNothing_bind (isQuiet_guardPresent m target.toPath).keepsFiles fun _ _ _ => ?_
  refine allOrNothing_bind (isQuiet_preview m source messages).keepsFiles fun r _ _ => ?_
  refine allOrNothing_bind Action.isQuiet_get.keepsFiles fun _ _ _ => ?_
  refine allOrNothing_bind (Action.keepsFiles_makeDirectory _) fun _ t _ => ?_
  exact allOrNothing_writeFile m target _ _ r t

/-- Updating a file, and updating it to another one, either fail and leave the content of every file
as it was, or have a result and change at most the target. -/
theorem update_allOrNothing (m : Merger) (messages : Value) (s : Session) :
    (∀ file, m.AllOrNothing (m.locate s.current file) s
      ((m.update (m.locate s.current file) messages).outcome s)) ∧
    ∀ file target, m.AllOrNothing (m.locate s.current target) s
      ((m.updateTo (m.locate s.current file) (m.locate s.current target) messages).outcome s) :=
  ⟨fun _ => allOrNothing_update m _ messages s, fun _ _ => allOrNothing_updateTo m _ _ messages s⟩

end Merger

end MessageCatalog
