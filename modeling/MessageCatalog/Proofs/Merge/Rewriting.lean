import MessageCatalog.Proofs.Merge.Partition
import MessageCatalog.Proofs.Merge.Update

/-!
# Updating a file again

An update reads a file, merges messages into it and writes it, and a later run reads what was
written. The bytes are written in the charset that the headers name and read in the one of the
options. If both give them the same meaning, the messages are found again; and if all is UTF-8, the
second update leaves the file as it is. Neither holds of content that is the name of a file, before
the first update or after it: then it is that file which is read.
-/

namespace MessageCatalog

/-- The second report tells of a change only if something is missing. -/
lemma MergeReport.IsRepeatedBy.isChange_iff {r r' : MergeReport} {replace : Bool}
    {keys : List Text} (h : r.IsRepeatedBy r' replace keys) :
    r'.isChange = true ↔ r'.ids .missing ≠ [] := by
  rw [MergeReport.isChange_iff, h.added, h.changed]
  simp

namespace Merger

open Merge

variable {m : Merger} {loc : Location} {messages : Value} {ms : List Message} {s t : Session}
  {r p : FileMerge} {c : Catalog} {name : Text} {bytes : ByteArray}

/-! ### Reading what was written -/

/-- The same messages can be merged into the file that a merge has made. -/
lemma IsPreview.exists_again (hp : m.IsPreview messages p c name) (hms : Reads messages ms)
    (hlegible : ∀ x ∈ ms, x.Legible) (hcontext : m.options.context = [] ∨ ms ≠ [])
    (htop : c.HasPlainTop) (hone : c.HasOneCharset name)
    (hdecode : ∀ text ≠ [], Charset.encodeNamed c.charset text = .ok p.content →
      Charset.decodeNamed name p.content = .ok text)
    (hread : s.tree.read loc = .ok p.content) (hplain : m.pointee? s loc = none) :
    ∃ q t, (m.preview loc messages).outcome s = (.ok q, t) ∧ q.sourceContent = p.content ∧
      p.report.IsRepeatedBy q.report m.options.replace.truthy (ms.map Message.key) ∧
      ∀ order, SortOrder.ofValue m.options.custom m.options.sort = .ok order → order.IsBuiltIn →
        (∀ e ∈ c.obsolete, e.previousMsgid = none ∧ e.previousMsgctxt = none) →
        q.content = p.content := by
  obtain ⟨values, hvalues, hmerge⟩ := hp.report
  obtain ⟨hc, hjoined⟩ := Catalog.legible_parseBytes hp.source
  obtain ⟨c', report, hparse, hagain, hrepeated, ⟨content, hrender⟩, hsame⟩ :=
    exists_rewriting hc hjoined htop hone (hms.list hvalues) hlegible hcontext hmerge
      (Or.inr (by decide)) (hp.catalog ▸ hp.content) hdecode
  obtain ⟨q, t, hpreview, rfl, rfl, hsource⟩ :=
    exists_outcome_preview hread hplain hp.charset hparse hvalues hagain hrender
  refine ⟨q, t, hpreview, hsource, hrepeated, fun order horder hbuiltIn hprevious => ?_⟩
  exact Except.ok.inj (hrender.symm.trans (hsame order horder hbuiltIn hprevious))

/-- The bytes that were made for a file are read as the text that they were made of. -/
lemma IsPreview.decodeNamed (hp : m.IsPreview messages p c name)
    (hbytes : ∀ cs cs', Charset.ofName c.charset = .ok cs → Charset.ofName name = .ok cs' →
      cs.Rereads cs' p.content) {text : Text} (htext : text ≠ [])
    (hencode : Charset.encodeNamed c.charset text = .ok p.content) :
    Charset.decodeNamed name p.content = .ok text := by
  obtain ⟨cs, hcs, hencode⟩ := Charset.encodeNamed_eq_ok_iff.mp hencode
  have hname : ∃ cs', Charset.ofName name = .ok cs' := by
    rcases Catalog.exists_ofName_of_parseBytes hp.source with hname | hcharset
    · exact hname
    · exact ⟨cs, hcharset ▸ hcs⟩
  obtain ⟨cs', hcs'⟩ := hname
  exact (hbytes cs cs' hcs hcs').decodeNamed hcs' htext hencode

/-- The catalog that an update starts with is the one in the file. -/
lemma IsPreview.eq_of_read (hp : m.IsPreview messages p c name)
    (hread : s.tree.read loc = .ok p.sourceContent) {name' : Text} {c' : Catalog}
    (hname : Merger.charset m.options = .ok name') (hbytes : s.tree.read loc = .ok bytes)
    (hparse : Catalog.parseBytes bytes name' = .ok c') : name' = name ∧ c' = c := by
  obtain rfl := Except.ok.inj (hp.charset.symm.trans hname)
  obtain rfl := Except.ok.inj (hread.symm.trans hbytes)
  exact ⟨rfl, Except.ok.inj (hparse.symm.trans hp.source)⟩

lemma IsPreview.charset_catalog (hp : m.IsPreview messages p c name) :
    p.catalog.charset = c.charset := by
  obtain ⟨values, -, hmerge⟩ := hp.report
  obtain ⟨_, order, source, _, steps, -, -, -, -, hreport⟩ := merge_result_eq_ok_iff.mp hmerge
  rw [hp.catalog, hreport]
  cases m.options.replace.truthy <;> rfl

/-- What a merge has made is not the name of a file, where no name holds a line feed. -/
lemma IsPreview.pointee?_eq_none (hp : m.IsPreview messages p c name)
    (hbytes : ∀ cs cs', Charset.ofName c.charset = .ok cs → Charset.ofName name = .ok cs' →
      cs.Rereads cs' p.content)
    (hcontent : t.tree.content? loc = some p.content) (hnames : t.tree.HasOneLineNames) :
    m.pointee? t loc = none := by
  obtain ⟨text, hprint, hencode⟩ := Catalog.render_eq_ok_iff.mp hp.content
  have hnewline := Document.newline_mem_print hprint
  have hdecode := hp.decodeNamed hbytes (List.ne_nil_of_mem hnewline)
    (hp.charset_catalog ▸ hencode)
  rw [pointee?_eq hcontent hp.charset, Catalog.pointee?, hdecode]
  exact hnames.fileNamed?_eq_none hnewline

/-- In a tree whose names hold no line feed an update does not make the name of a file. -/
theorem pointee?_of_outcome_update (hdry : m.options.dryRun.truthy = false)
    (hname : charset m.options = .ok name) (hread : s.tree.read loc = .ok bytes)
    (hplain : m.pointee? s loc = none) (hparse : Catalog.parseBytes bytes name = .ok c)
    (h : (m.update loc messages).outcome s = (.ok r, t))
    (hbytes : ∀ cs cs', Charset.ofName c.charset = .ok cs → Charset.ofName name = .ok cs' →
      cs.Rereads cs' r.content)
    (hnames : s.tree.HasOneLineNames) : m.pointee? t loc = none := by
  have hcontent := content?_of_outcome_update hdry h
  obtain ⟨p, -, hfile, hp, rfl, htree⟩ := of_outcome_update hdry h
  obtain ⟨c', name', hp⟩ := hp hplain
  obtain ⟨rfl, rfl⟩ := hp.eq_of_read hfile hname hread hparse
  refine hp.pointee?_eq_none hbytes hcontent ?_
  split at htree
  · rw [FileTree.eq_put_of_write htree]
    exact hnames.put (FileTree.isFile_of_read hfile) _
  · rwa [htree]

/-- If the headers of a file name one charset, and what an update has written is not the name of a
file and means the same in this charset and in the one of the options, then the messages can be
merged into it again, and all of them are found. -/
theorem preview_update (hdry : m.options.dryRun.truthy = false) (hms : Reads messages ms)
    (hsome : ms ≠ []) (hlegible : ∀ x ∈ ms, x.Legible) (hname : charset m.options = .ok name)
    (hread : s.tree.read loc = .ok bytes) (hplain : m.pointee? s loc = none)
    (hparse : Catalog.parseBytes bytes name = .ok c) (htop : c.HasPlainTop)
    (hnames : ∀ other, c.NamesCharset other →
      Charset.ofName (if Catalog.isPlaceholder other then name else other) =
        Charset.ofName c.charset)
    (h : (m.update loc messages).outcome s = (.ok r, t)) (hagain : m.pointee? t loc = none)
    (hbytes : ∀ cs cs', Charset.ofName c.charset = .ok cs → Charset.ofName name = .ok cs' →
      cs.Rereads cs' r.content) :
    ∃ q u, (m.preview loc messages).outcome t = (.ok q, u) ∧ q.report.ids .added = [] ∧
      q.report.ids .found = ms.map Message.key := by
  have hcontent := FileTree.read_eq_ok_iff.mpr (content?_of_outcome_update hdry h)
  obtain ⟨p, -, hfile, hp, rfl, -⟩ := of_outcome_update hdry h
  obtain ⟨c', name', hp⟩ := hp hplain
  obtain ⟨rfl, rfl⟩ := hp.eq_of_read hfile hname hread hparse
  obtain ⟨q, u, hpreview, -, hrepeated, -⟩ := hp.exists_again hms hlegible (Or.inr hsome) htop
    ⟨Catalog.charset_parseBytes hparse, hnames⟩ (fun _ => hp.decodeNamed hbytes) hcontent hagain
  exact ⟨q, u, hpreview, hrepeated.added, hrepeated.found⟩

/-- A directory with one catalog file. -/
def drawer : Session where
  tree :=
    { files := [([['w'], "de.po"], ("# German\nmsgid \"\"\n" ++
        "msgstr \"Content-Type: text/plain; charset=UTF-8\\n\"\n\n" ++
        "msgid \"Open\"\nmsgstr \"Oeffnen\"\n").toByteArray)]
      directories := [[], [['w']]] }
  current := [['w']]

/-- A merger that does not ask git. -/
def drawerMerger : Merger where
  options := { MergeOptions.default { current := [['w']] } with gitCheck := .bool false }

/-- A message that the file has without its comments. -/
def drawerMessages : List Message := [{ key := "Open", refs := ["a.py:1"], comments := ["verb"] }]

def drawerValues : Value := .list (drawerMessages.map Message.toValue)

lemma reads_drawerValues : Reads drawerValues drawerMessages := ⟨⟨_, rfl, rfl⟩, by decide⟩

lemma legible_drawerMessages : ∀ x ∈ drawerMessages, x.Legible := by
  intro x hx
  rw [List.mem_singleton.mp hx]
  exact ⟨Text.OneLine.escapable (by decide), by decide, by decide⟩

/-- The file can be read, and updated, and does not become the name of a file. -/
lemma exists_outcome_drawer : ∃ bytes c r t, drawer.tree.read [['w'], "de.po"] = .ok bytes ∧
    Catalog.parseBytes bytes "utf-8" = .ok c ∧ c.HasPlainTop ∧ c.obsolete = [] ∧
    (∀ other, c.NamesCharset other → Charset.ofName other = .ok .utf8) ∧
    (drawerMerger.update [['w'], "de.po"] drawerValues).outcome drawer = (.ok r, t) ∧
    drawerMerger.pointee? t [['w'], "de.po"] = none := by
  have hfile : (match drawer.tree.read [['w'], "de.po"] with
      | .ok bytes => match Catalog.parseBytes bytes "utf-8" with
        | .ok c => decide (c.HasPlainTop ∧ c.obsolete = [] ∧ ∀ p ∈ c.headers.entries,
            ∀ other ∈ Catalog.charsetIn? p.2, Charset.ofName other = .ok .utf8)
        | .error _ => false
      | .error _ => false) = true := by decide +kernel
  have hupdate : ((drawerMerger.update [['w'], "de.po"] drawerValues).outcome
      drawer).1.toOption.isSome = true := by decide +kernel
  have hplain : drawerMerger.pointee? ((drawerMerger.update [['w'], "de.po"] drawerValues).outcome
      drawer).2 [['w'], "de.po"] = none := by decide +kernel
  split at hfile
  · next bytes hread =>
    split at hfile
    · next c hparse =>
      obtain ⟨htop, hobsolete, hnames⟩ := of_decide_eq_true hfile
      cases h : (drawerMerger.update [['w'], "de.po"] drawerValues).outcome drawer with
      | mk x t =>
        cases x with
        | ok r =>
          rw [h] at hplain
          exact ⟨bytes, c, r, t, hread, hparse, htop, hobsolete,
            fun other ⟨p, hp, _, hother⟩ => hnames p hp other hother, rfl, hplain⟩
        | error f =>
          rw [h] at hupdate
          cases hupdate
    · cases hfile
  · cases hfile

theorem preview_update_drawer : ∃ r t q u,
    (drawerMerger.update [['w'], "de.po"] drawerValues).outcome drawer = (.ok r, t) ∧
    (drawerMerger.preview [['w'], "de.po"] drawerValues).outcome t = (.ok q, u) ∧
    q.report.ids .added = [] ∧ q.report.ids .found = [("Open" : Text)] := by
  obtain ⟨bytes, c, r, t, hread, hparse, htop, -, hnames, hupdate, hagain⟩ :=
    exists_outcome_drawer
  obtain ⟨hcharset, hone⟩ := Catalog.hasOneCharset_of_names hparse
    (show Charset.ofName "utf-8" = .ok .utf8 by decide) fun other h => Or.inr (hnames other h)
  have hbytes := Charset.rereads_of_ofName hcharset
    (show Charset.ofName "utf-8" = .ok .utf8 by decide) r.content
  obtain ⟨q, u, hpreview, hadded, hfound⟩ := preview_update (by decide) reads_drawerValues
    (by decide) legible_drawerMessages rfl hread (by decide +kernel) hparse htop hone.named hupdate
    hagain hbytes
  exact ⟨r, t, q, u, hupdate, hpreview, hadded, hfound⟩

/-! ### Updating twice -/

/-- A second update writes nothing that the first one has not written. -/
lemma needsWriting_of_repeated {q : FileMerge} {keys : List Text}
    (hrepeated : p.report.IsRepeatedBy q.report m.options.replace.truthy keys)
    (hsame : q.content = q.sourceContent) (h : m.needsWriting q = true) :
    m.needsWriting p = true := by
  rw [needsWriting_iff] at h ⊢
  rcases h with hchange | hforce | hcontent
  · left
    rw [MergeReport.isChange_iff]
    refine Or.inr (Or.inr fun hnone => hrepeated.isChange_iff.mp hchange ?_)
    have hperm := hrepeated.missing
    rw [hnone, ite_self] at hperm
    exact List.perm_nil.mp hperm
  · exact Or.inr (Or.inl hforce)
  · exact absurd hsame hcontent

/-- When all is UTF-8, the order is built in and the file does not hold the name of a file, the
second update with the same messages comes to its end and leaves every file as it is. It adds and
changes nothing, and what is missing is what the first update has left there without a message; if
that is nothing, the file is not even written. -/
theorem update_update {order : SortOrder} (hcheck : m.options.gitCheck.truthy = false)
    (hdry : m.options.dryRun.truthy = false)
    (horder : SortOrder.ofValue m.options.custom m.options.sort = .ok order)
    (hbuiltIn : order.IsBuiltIn) (hms : Reads messages ms) (hlegible : ∀ x ∈ ms, x.Legible)
    (hcontext : m.options.context = [] ∨ ms ≠ []) (hname : charset m.options = .ok name)
    (hutf8 : Charset.ofName name = .ok .utf8) (hread : s.tree.read loc = .ok bytes)
    (hplain : m.pointee? s loc = none) (hparse : Catalog.parseBytes bytes name = .ok c)
    (hnames : ∀ other, c.NamesCharset other →
      Catalog.isPlaceholder other = true ∨ Charset.ofName other = .ok .utf8)
    (htop : c.HasPlainTop)
    (hprevious : ∀ e ∈ c.obsolete, e.previousMsgid = none ∧ e.previousMsgctxt = none)
    (h : (m.update loc messages).outcome s = (.ok r, t)) (hagain : m.pointee? t loc = none) :
    ∃ r' u, (m.update loc messages).outcome t = (.ok r', u) ∧
      (∀ l, u.tree.content? l = t.tree.content? l) ∧
      r'.report.ids .added = [] ∧ r'.report.ids .changed = [] ∧
      (r'.report.ids .missing).Perm
        (if m.options.replace.truthy then [] else r.report.ids .missing) ∧
      (r'.report.ids .missing = [] → m.options.forceSave.truthy = false →
        r'.report.isChange = false ∧ r'.written = false) := by
  have hcontent := content?_of_outcome_update hdry h
  obtain ⟨p, ⟨_, hguard⟩, hfile, hp, rfl, htree⟩ := of_outcome_update hdry h
  obtain ⟨c', name', hp⟩ := hp hplain
  obtain ⟨rfl, rfl⟩ := hp.eq_of_read hfile hname hread hparse
  obtain ⟨hcharset, hone⟩ := Catalog.hasOneCharset_of_names hparse hutf8 hnames
  have hbytes := Charset.rereads_of_ofName hcharset hutf8 p.content
  obtain ⟨v, hguard'⟩ := exists_outcome_guard hcheck hguard t
  have hquiet := (isQuiet_guard m loc).heard hguard'
  -- The second preview reads the bytes that the first one gave, and merging the same messages
  -- gives the same bytes again.
  obtain ⟨q, w, hpreview, hsource, hrepeated, hsame⟩ := hp.exists_again hms hlegible hcontext htop
    hone (fun _ => hp.decodeNamed hbytes) (FileTree.read_eq_ok_iff.mpr (hquiet.tree_eq ▸ hcontent))
    ((pointee?_heard hquiet m loc).trans hagain)
  have hstays : q.content = p.content := hsame order horder hbuiltIn hprevious
  -- The file is written again only if it has been written before, and then it can be.
  have hwrite : m.needsWriting q = true → ∃ tree, t.tree.write loc q.content = .ok tree := by
    intro hneeds
    rw [if_pos (needsWriting_of_repeated hrepeated (hstays.trans hsource.symm) hneeds)] at htree
    exact FileTree.exists_write_again htree (FileTree.isFile_of_read hfile) q.content
  obtain ⟨u, hupdate, htree'⟩ := exists_outcome_update hdry hguard' ⟨w, hpreview⟩ hwrite
  refine ⟨_, u, hupdate, ?_, hrepeated.added, hrepeated.changed, hrepeated.missing, ?_⟩
  · intro l
    split at htree'
    · exact FileTree.content?_write_same htree' (hstays ▸ hcontent) l
    · rw [htree']
  · intro hmissing hforce
    have hchange : q.report.isChange = false := by
      rw [← Bool.not_eq_true, hrepeated.isChange_iff]
      exact not_not_intro hmissing
    refine ⟨hchange, ?_⟩
    rw [← Bool.not_eq_true, needsWriting_iff, hchange, hforce]
    simpa using hstays.trans hsource.symm

theorem update_update_drawer : ∃ r t r' u,
    (drawerMerger.update [['w'], "de.po"] drawerValues).outcome drawer = (.ok r, t) ∧
    (drawerMerger.update [['w'], "de.po"] drawerValues).outcome t = (.ok r', u) ∧
    (∀ l, u.tree.content? l = t.tree.content? l) ∧ r'.report.ids .changed = [] := by
  obtain ⟨bytes, c, r, t, hread, hparse, htop, hobsolete, hnames, hupdate, hplain⟩ :=
    exists_outcome_drawer
  have hprevious : ∀ e ∈ c.obsolete, e.previousMsgid = none ∧ e.previousMsgctxt = none := by
    rw [hobsolete]
    exact List.forall_mem_nil _
  have horder : SortOrder.ofValue drawerMerger.options.custom drawerMerger.options.sort =
      .ok .source := rfl
  obtain ⟨r', u, hagain, hsame, -, hchanged, -⟩ := update_update (by decide) (by decide) horder
    (fun _ _ => SortOrder.noConfusion) reads_drawerValues legible_drawerMessages (Or.inl rfl) rfl
    (by decide) hread (by decide +kernel) hparse (fun other h => Or.inr (hnames other h)) htop
    hprevious hupdate hplain
  exact ⟨r, t, r', u, hupdate, hagain, hsame, hchanged⟩

end Merger

end MessageCatalog
