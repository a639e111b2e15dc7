import MessageCatalog.Proofs.Merge.Files
import MessageCatalog.Proofs.Merge.Twice

/-!
# Updating a file

What an update does when git is not asked and files are written: the file is read, the messages are
merged into its catalog, and the catalog is written in its place if anything changed.
-/

namespace MessageCatalog.Merger

open Merge

variable {m : Merger} {loc : Location} {messages : Value} {s t : Session} {r : FileMerge}

/-! ### Previews -/

/-- The result of merging messages into a catalog file with some bytes, which stand for
themselves. -/
structure IsPreview (m : Merger) (messages : Value) (r : FileMerge) (c : Catalog) (name : Text) :
    Prop where
  charset : charset m.options = .ok name
  source : Catalog.parseBytes r.sourceContent name = .ok c
  report : ∃ values, messageValues messages = .ok values ∧
    (c.merge (.list values) m.options).result = .ok r.report
  catalog : r.catalog = r.report.written m.options.replace.truthy
  content : r.catalog.render Catalog.defaultWidth = .ok r.content

lemma isPreview_of_outcome (h : (m.preview loc messages).outcome s = (.ok r, t)) :
    s.tree.read loc = .ok r.sourceContent ∧ r.written = false ∧
      (m.pointee? s loc = none → ∃ c name, m.IsPreview messages r c name) := by
  rw [preview] at h
  obtain ⟨values, s₁, hvalues, h⟩ := Action.outcome_bind_eq_ok_iff.mp h
  obtain ⟨s₂, s₃, hget, h⟩ := Action.outcome_bind_eq_ok_iff.mp h
  obtain ⟨_, s₄, hsay, h⟩ := Action.outcome_bind_eq_ok_iff.mp h
  obtain ⟨bytes, s₅, hread, h⟩ := Action.outcome_bind_eq_ok_iff.mp h
  obtain ⟨s₆, s₇, hget', h⟩ := Action.outcome_bind_eq_ok_iff.mp h
  obtain ⟨c, s₈, hparse, h⟩ := Action.outcome_bind_eq_ok_iff.mp h
  obtain ⟨report, s₉, hmerge, h⟩ := Action.outcome_bind_eq_ok_iff.mp h
  obtain ⟨content, s₁₀, hrender, hresult⟩ := Action.outcome_bind_eq_ok_iff.mp h
  obtain ⟨hlist, rfl⟩ := Prod.mk.inj hvalues
  obtain ⟨-, rfl⟩ := Prod.mk.inj hget
  obtain ⟨-, rfl⟩ := Prod.mk.inj hsay
  obtain ⟨hfile, rfl⟩ := Prod.mk.inj hread
  obtain ⟨hsame, -⟩ := Prod.mk.inj hget'
  obtain rfl := Except.ok.inj hsame
  obtain ⟨name, hname, hsource⟩ := Failure.bind_eq_ok_iff.mp (Prod.mk.inj hparse).1
  obtain rfl := Except.ok.inj (Prod.mk.inj hresult).1
  refine ⟨hfile, rfl, fun hplain => ⟨c, name, hname, ?_,
    ⟨values, hlist, (Prod.mk.inj hmerge).1⟩, rfl, (Prod.mk.inj hrender).1⟩⟩
  have hnone := (pointee?_eq (s := s) (FileTree.read_eq_ok_iff.mp hfile) hname).symm.trans hplain
  exact (Catalog.ofContent_of_pointee?_eq_none hnone).symm.trans hsource

/-- What a file that is not the name of another one holds. -/
lemma ofContent_eq_ok {c : Catalog} {name : Text} {bytes : ByteArray}
    (hread : s.tree.read loc = .ok bytes) (hplain : m.pointee? s loc = none)
    (hname : charset m.options = .ok name) (hparse : Catalog.parseBytes bytes name = .ok c) :
    (do Catalog.ofContent s.tree s.current bytes (← charset m.options) : Except Failure Catalog) =
      .ok c := by
  rw [pointee?_eq (FileTree.read_eq_ok_iff.mp hread) hname] at hplain
  exact Failure.bind_eq_ok_iff.mpr
    ⟨name, hname, (Catalog.ofContent_of_pointee?_eq_none hplain).trans hparse⟩

/-- A file whose messages can be merged and written has a preview. -/
lemma exists_outcome_preview {c : Catalog} {name : Text} {bytes : ByteArray}
    {values : List Value} {report : MergeReport} {content : ByteArray}
    (hread : s.tree.read loc = .ok bytes) (hplain : m.pointee? s loc = none)
    (hname : charset m.options = .ok name)
    (hparse : Catalog.parseBytes bytes name = .ok c)
    (hvalues : messageValues messages = .ok values)
    (hmerge : (c.merge (.list values) m.options).result = .ok report)
    (hrender : (report.written m.options.replace.truthy).render Catalog.defaultWidth =
      .ok content) :
    ∃ r t, (m.preview loc messages).outcome s = (.ok r, t) ∧ r.report = report ∧
      r.content = content ∧ r.sourceContent = bytes := by
  have hsource := ofContent_eq_ok hread hplain hname hparse
  refine ⟨{
    file := m.nameOf s.current loc
    sourceFile := m.nameOf s.current loc
    content
    sourceContent := bytes
    catalog := report.written m.options.replace.truthy
    report }, _, Prod.ext ?_ rfl, rfl, rfl, rfl⟩
  rw [MergeReport.written] at hrender
  simp [preview, Action.outcome_bind, hvalues, hread, hsource, hmerge, hrender, MergeReport.written,
    Except.map]

/-! ### Updates -/

/-- When git is not asked, the guard only looks at the level of detail, so that it passes
everywhere if it passes once. -/
lemma exists_outcome_guard (hcheck : m.options.gitCheck.truthy = false)
    (h : (m.guard loc).outcome s = (.ok (), t)) (u : Session) :
    ∃ v, (m.guard loc).outcome u = (.ok (), v) := by
  have hlevel : Options.IsLevel m.options.verbose := by
    rw [guard, Action.outcome_bind_ok (Action.outcome_get s)] at h
    obtain ⟨_, s₁, hdetail, -⟩ := Action.outcome_bind_eq_ok_iff.mp h
    rw [Action.outcome_detail, Options.atLeast] at hdetail
    rw [Options.IsLevel]
    cases hnumber : m.options.verbose.number? with
    | none => simp [hnumber] at hdetail
    | some x => rfl
  obtain ⟨v, hv⟩ := Action.exists_outcome_detail hlevel 1
    ("gitCheck=" ++ m.options.gitCheck.display ++ ' ' :: m.nameOf u.current loc) u
  refine ⟨v, ?_⟩
  rw [guard, Action.outcome_bind_ok (Action.outcome_get u)]
  dsimp only
  rw [Action.outcome_bind_ok hv, hcheck]
  rfl

lemma outcome_writeFile (hdry : m.options.dryRun.truthy = false) (name : Text)
    (bytes : ByteArray) (s : Session) :
    ∃ t, s.Heard t ∧ (m.writeFile name loc bytes).outcome s = match s.tree.write loc bytes with
      | .ok tree => (.ok true, { t with tree })
      | .error f => (.error f, t) := by
  refine ⟨_, ⟨[⟨"Writing " ++ name, some .green⟩], [], [], rfl⟩, ?_⟩
  rw [writeFile, hdry]
  show ((Action.say _ _ >>= fun _ => Action.write loc bytes >>= fun _ => pure true)).outcome s = _
  rw [Action.outcome_bind_ok (Action.outcome_say _ _ s), Action.outcome_bind, Action.write,
    Action.outcome_change]
  cases hwrite : s.tree.write loc bytes with
  | ok tree => simp
  | error f => simp

/-- What an update does: the messages are merged into the content of the file, and the result is
written if anything has changed. -/
lemma of_outcome_update (hdry : m.options.dryRun.truthy = false)
    (h : (m.update loc messages).outcome s = (.ok r, t)) :
    ∃ p, (∃ s₁, (m.guard loc).outcome s = (.ok (), s₁)) ∧ s.tree.read loc = .ok p.sourceContent ∧
      (m.pointee? s loc = none → ∃ c name, m.IsPreview messages p c name) ∧
      r = { p with written := m.needsWriting p } ∧
      if m.needsWriting p then s.tree.write loc p.content = .ok t.tree else t.tree = s.tree := by
  rw [update] at h
  obtain ⟨_, s₁, hguard, h⟩ := Action.outcome_bind_eq_ok_iff.mp h
  obtain ⟨p, s₂, hpreview, hwrite⟩ := Action.outcome_bind_eq_ok_iff.mp h
  -- Guard and preview change no file, so reading and writing happen in the same tree.
  have hheard := (isQuiet_guard m loc).heard hguard
  have htree₂ := ((isQuiet_preview m loc messages).heard hpreview).tree_eq
  obtain ⟨hread, hwritten, hp⟩ := isPreview_of_outcome hpreview
  rw [hheard.tree_eq] at hread htree₂
  rw [pointee?_heard hheard] at hp
  refine ⟨p, ⟨s₁, hguard⟩, hread, hp, ?_⟩
  cases hneeds : m.needsWriting p with
  | true =>
    rw [if_pos hneeds] at hwrite
    obtain ⟨w, s₃, hfile, hresult⟩ := Action.outcome_bind_eq_ok_iff.mp hwrite
    obtain ⟨u, -, houtcome⟩ := outcome_writeFile hdry p.file p.content s₂
    rw [houtcome, htree₂] at hfile
    cases htree : s.tree.write loc p.content with
    | error f =>
      rw [htree] at hfile
      cases hfile
    | ok tree =>
      rw [htree] at hfile
      cases hfile
      cases hresult
      exact ⟨rfl, rfl⟩
  | false =>
    rw [if_neg (by rw [hneeds]; exact Bool.false_ne_true)] at hwrite
    obtain ⟨_, s₃, hsay, hresult⟩ := Action.outcome_bind_eq_ok_iff.mp hwrite
    cases hsay
    cases hresult
    exact ⟨by rw [← hwritten], htree₂⟩

/-- A file whose messages can be merged, and that can be written if anything has changed, is
updated. -/
lemma exists_outcome_update (hdry : m.options.dryRun.truthy = false) {s₁ : Session}
    {p : FileMerge} (hguard : (m.guard loc).outcome s = (.ok (), s₁))
    (hpreview : ∃ s₂, (m.preview loc messages).outcome s₁ = (.ok p, s₂))
    (hwrite : m.needsWriting p = true → ∃ tree, s.tree.write loc p.content = .ok tree) :
    ∃ t, (m.update loc messages).outcome s = (.ok { p with written := m.needsWriting p }, t) ∧
      if m.needsWriting p then s.tree.write loc p.content = .ok t.tree else t.tree = s.tree := by
  obtain ⟨s₂, hpreview⟩ := hpreview
  have htree₁ := ((isQuiet_guard m loc).heard hguard).tree_eq
  have htree₂ := ((isQuiet_preview m loc messages).heard hpreview).tree_eq
  obtain ⟨-, hwritten, -⟩ := isPreview_of_outcome hpreview
  rw [update, Action.outcome_bind_ok hguard, Action.outcome_bind_ok hpreview]
  cases hneeds : m.needsWriting p with
  | true =>
    obtain ⟨tree, htree⟩ := hwrite hneeds
    obtain ⟨u, -, houtcome⟩ := outcome_writeFile hdry p.file p.content s₂
    rw [htree₂, htree₁, htree] at houtcome
    rw [if_pos rfl, Action.outcome_bind_ok houtcome]
    exact ⟨_, rfl, htree⟩
  | false =>
    have hsame : { p with written := false } = p := by rw [← hwritten]
    rw [hsame, if_neg Bool.false_ne_true]
    exact ⟨_, rfl, htree₂.trans htree₁⟩

lemma needsWriting_iff {p : FileMerge} : m.needsWriting p = true ↔
    p.report.isChange = true ∨ m.options.forceSave.truthy = true ∨
      p.content ≠ p.sourceContent := by
  have hbytes : p.content.toList = p.sourceContent.toList ↔ p.content = p.sourceContent := by
    rw [toList_byteArray, toList_byteArray, Array.toList_inj, ByteArray.ext_iff]
  rw [needsWriting, Bool.or_eq_true, Bool.or_eq_true, bne_iff_ne, Ne, hbytes, or_assoc]

/-- After an update the file has the content that was made for it. -/
lemma content?_of_outcome_update (hdry : m.options.dryRun.truthy = false)
    (h : (m.update loc messages).outcome s = (.ok r, t)) :
    t.tree.content? loc = some r.content := by
  obtain ⟨p, -, hread, -, rfl, htree⟩ := of_outcome_update hdry h
  split at htree
  · exact FileTree.content?_write_self htree
  · rename_i hneeds
    have hsame : p.content = p.sourceContent := by
      by_contra hne
      exact hneeds (needsWriting_iff.mpr (Or.inr (Or.inr hne)))
    rw [htree, hsame]
    exact FileTree.read_eq_ok_iff.mp hread

end MessageCatalog.Merger
