import MessageCatalog.Proofs.Merge.Keys
import MessageCatalog.Proofs.Merge.Rewriting

/-!
# Contexts that a merge leaves

A context is in a file through its entries only. A merge into a context writes an entry for every
message, and unless the messages replace the entries, one for every message id that was there. So
the next merge finds the context, if there was any of these; else the file has lost it.
-/

namespace MessageCatalog

open Text

namespace Catalog

variable {c c' : Catalog} {context : Text} {hs : List (Text × Text)}

/-- A context is read if it has no name, or if an entry was written for it. -/
lemma IsReadBack.mem_keys_iff (h : c.IsReadBack c' hs) :
    context ∈ c'.translations.keys ↔
      context = [] ∨ messageEntries (bucketAt c.translations context) ≠ [] := by
  rw [h.contexts, List.mem_cons, List.mem_filter]
  refine or_congr_right' fun hname => ?_
  have hread : readEntries (bucketAt c.translations context) ≠ [] ↔
      messageEntries (bucketAt c.translations context) ≠ [] := List.map_eq_nil_iff.not
  simp only [decide_eq_true_eq, hread]
  refine ⟨fun ⟨_, _, hsome⟩ => hsome, fun hsome => ⟨?_, hname, hsome⟩⟩
  by_contra hmem
  rw [bucketAt_of_not_mem hmem] at hsome
  exact hsome rfl

end Catalog

namespace Merge

open Catalog

variable {o : MergeOptions} {c c' : Catalog} {source : Bucket} {context : Text}
  {ms : List Message} {messages : Value} {steps : List (Text × Step)} {hs : List (Text × Text)}
  {order : SortOrder} {d : Detail} {replace : Bool}

/-- Nothing of a context with a name is left: there are no messages, and no entry of the context is
kept. -/
def LeavesNothing (o : MergeOptions) (ms : List Message) (source : Bucket) : Prop :=
  o.context ≠ [] ∧ ms = [] ∧ (o.replace.truthy = true ∨ ∀ e ∈ source.values, e.msgid = [])

instance (o : MergeOptions) (ms : List Message) (source : Bucket) :
    Decidable (LeavesNothing o ms source) := inferInstanceAs (Decidable (_ ∧ _ ∧ (_ ∨ _)))

lemma Run.written_eq_nil_iff (h : Run o.references context source ms steps)
    (hsource : source.WellFormed) :
    writtenBucket replace source (ms.map Message.key) steps = [] ↔
      ms = [] ∧ (replace = true ∨ ∀ e ∈ source.values, e.msgid = []) := by
  have hmerged : mergedEntries steps = [] ↔ ms = [] := by
    rw [← List.map_eq_nil_iff (f := Entry.msgid), h.msgids hsource, List.map_eq_nil_iff]
  rw [writtenBucket, List.append_eq_nil_iff, hmerged]
  refine and_congr_right fun hnone => ?_
  rw [hnone, keptEntries]
  cases replace with
  | true => simp
  | false => simp [missingEntries]

/-- After a merge the context is read, unless nothing of it is left. -/
lemma mem_keys_iff_of_merge {r : MergeReport} (hc : c.WellFormed) (hms : Reads messages ms)
    (hr : (c.merge messages o).result = .ok r)
    (hback : (r.written o.replace.truthy).IsReadBack c' hs) :
    o.context ∈ c'.translations.keys ↔
      ¬ LeavesNothing o ms (bucketAt c.translations o.context) := by
  obtain ⟨ms', order, source, d, steps, hms', -, hsource, hrun, rfl⟩ :=
    merge_result_eq_ok_iff.mp hr
  obtain rfl := hms.unique hms'
  have hwell := hc.get? hsource
  have hwritten : (report c o.context order source steps).written o.replace.truthy = _ :=
    report_written hrun hwell c order o.replace.truthy
  have hnone : order.sortEntries (SortOrder.positions source.keys)
      (writtenBucket o.replace.truthy source (ms.map Message.key) steps) = [] ↔
        ms = [] ∧ (o.replace.truthy = true ∨ ∀ e ∈ source.values, e.msgid = []) := by
    rw [← hrun.written_eq_nil_iff hwell, ← List.length_eq_zero_iff,
      (order.sortEntries_perm _ _).length_eq, List.length_eq_zero_iff]
  rw [hback.mem_keys_iff, hwritten, hrun.messageEntries_bucketAt hwell, Ne, hnone, LeavesNothing,
    bucketAt, hsource, Option.getD_some, or_iff_not_imp_left]
  exact not_and.symm

/-- Into a context that is not there nothing is merged. -/
lemma merge_result_of_not_mem (hms : Reads messages ms) (hadmits : Admits o order d)
    (hmem : o.context ∉ c.translations.keys) :
    (c.merge messages o).result = .error (.missingContext o.context) := by
  obtain ⟨⟨values, hvalues, -⟩, -⟩ := hms
  have hnone : c.translations.get? o.context = none := by
    rw [Option.eq_none_iff_forall_ne_some]
    exact fun b hb => hmem (OrderedMap.mem_keys_iff.mpr ⟨b, hb⟩)
  have hprepare : prepare c messages o = .error (.missingContext o.context) := by
    rw [prepare, hvalues, hadmits.order, hnone]
    rfl
  rw [Catalog.merge, hprepare]
  rfl

end Merge

namespace Merger

open Merge

variable {m : Merger} {loc : Location} {messages messages' : Value} {ms ms' : List Message}
  {s t : Session} {r p : FileMerge} {c : Catalog} {name : Text} {bytes : ByteArray}

/-- The file that a merge has made can be read and written again. -/
lemma IsPreview.exists_reread (hp : m.IsPreview messages p c name) (hms : Reads messages ms)
    (hlegible : ∀ x ∈ ms, x.Legible) (hutf8 : Charset.ofName name = .ok .utf8)
    (hnames : ∀ other, c.NamesCharset other →
      Catalog.isPlaceholder other = true ∨ Charset.ofName other = .ok .utf8)
    (htop : c.HasPlainTop) :
    ∃ c', Catalog.parseBytes p.content name = .ok c' ∧ c'.IsRewritable ∧
      (m.options.context ∈ c'.translations.keys ↔
        ¬ LeavesNothing m.options ms (bucketAt c.translations m.options.context)) := by
  obtain ⟨values, hvalues, hmerge⟩ := hp.report
  obtain ⟨hc, -⟩ := Catalog.legible_parseBytes hp.source
  obtain ⟨hcharset, hone⟩ := Catalog.hasOneCharset_of_names hp.source hutf8 hnames
  have hbytes := Charset.rereads_of_ofName hcharset hutf8 p.content
  have hrender := hp.content
  rw [hp.catalog] at hrender
  obtain ⟨hw, b, hwritten⟩ :=
    written_of_merge hc (hms.list hvalues) hlegible hmerge m.options.replace.truthy
  -- What is written has the headers, the charset and the comment at the top of the source.
  have htop' : (p.report.written m.options.replace.truthy).HasPlainTop := by
    rw [hwritten]
    exact htop
  have hone' : (p.report.written m.options.replace.truthy).HasOneCharset name := by
    rw [hwritten]
    exact ⟨hone.charset, hone.named⟩
  have hcharset' : (p.report.written m.options.replace.truthy).charset = c.charset := by
    rw [hwritten]
    rfl
  obtain ⟨hs, c', horder, hparse, hback, hname⟩ :=
    Catalog.exists_parseBytes_of_render hw htop' hone' (Or.inr (by decide)) hrender
      fun text htext hencode => hp.decodeNamed hbytes htext (hcharset' ▸ hencode)
  have hrewritable := Catalog.IsRewritable.of_render hw htop' (hcharset' ▸ hcharset) hrender
  exact ⟨c', hparse,
    hrewritable.of_isReadBack hback horder (Catalog.legible_parseBytes hparse).1 hname,
    mem_keys_iff_of_merge hc.wellFormed (hms.list hvalues) hmerge hback⟩

lemma exists_outcome_update_error {f : Failure} {values : List Value} {s₁ : Session}
    (hguard : (m.guard loc).outcome s = (.ok (), s₁)) (hread : s.tree.read loc = .ok bytes)
    (hplain : m.pointee? s loc = none) (hname : charset m.options = .ok name)
    (hparse : Catalog.parseBytes bytes name = .ok c)
    (hvalues : messageValues messages = .ok values)
    (hmerge : (c.merge (.list values) m.options).result = .error f) :
    ∃ u, (m.update loc messages).outcome s = (.error f, u) := by
  have hquiet := (isQuiet_guard m loc).heard hguard
  rw [← hquiet.tree_eq] at hread
  rw [← pointee?_heard hquiet] at hplain
  have hsource := ofContent_eq_ok hread hplain hname hparse
  have hpreview : ∃ u, (m.preview loc messages).outcome s₁ = (.error f, u) := by
    refine ⟨_, Prod.ext ?_ rfl⟩
    simp [preview, Action.outcome_bind, hvalues, hread, hsource, hmerge]
  obtain ⟨u, hu⟩ := hpreview
  exact ⟨u, by rw [update, Action.outcome_bind_ok hguard, Action.outcome_bind_error hu]⟩

/-- An update of a file in UTF-8 has ended well, and other messages without references are merged
into the file then; neither before nor after the first update the file holds the name of a file.
Then the second update fails because the context is missing, if the first one has left nothing of
it, and ends well otherwise. -/
theorem update_keeps_context (hcheck : m.options.gitCheck.truthy = false)
    (hdry : m.options.dryRun.truthy = false) (hname : charset m.options = .ok name)
    (hutf8 : Charset.ofName name = .ok .utf8) (hread : s.tree.read loc = .ok bytes)
    (hplain : m.pointee? s loc = none)
    (hrooted : s.tree.IsRooted) (hplace : s.tree.isDirectory loc = false)
    (hparse : Catalog.parseBytes bytes name = .ok c)
    (hnames : ∀ other, c.NamesCharset other →
      Catalog.isPlaceholder other = true ∨ Charset.ofName other = .ok .utf8)
    (htop : c.HasPlainTop) (hms : Reads messages ms) (hlegible : ∀ x ∈ ms, x.Legible)
    (hms' : Reads messages' ms') (hlegible' : ∀ x ∈ ms', x.Legible)
    (hrefs : ∀ x ∈ ms', x.refs = []) (h : (m.update loc messages).outcome s = (.ok r, t))
    (hagain : m.pointee? t loc = none) :
    if LeavesNothing m.options ms (bucketAt c.translations m.options.context) then
      ∃ u, (m.update loc messages').outcome t = (.error (.missingContext m.options.context), u)
    else ∃ r' u, (m.update loc messages').outcome t = (.ok r', u) := by
  have hcontent := FileTree.read_eq_ok_iff.mpr (content?_of_outcome_update hdry h)
  obtain ⟨p, ⟨_, hguard⟩, hfile, hp, rfl, htree⟩ := of_outcome_update hdry h
  obtain ⟨c₀, name₀, hp⟩ := hp hplain
  obtain ⟨rfl, rfl⟩ := hp.eq_of_read hfile hname hread hparse
  obtain ⟨c', hreparse, hrewritable, hmem⟩ := hp.exists_reread hms hlegible hutf8 hnames htop
  obtain ⟨v, hguard'⟩ := exists_outcome_guard hcheck hguard t
  obtain ⟨values, -, hmerge⟩ := hp.report
  obtain ⟨-, order, -, d, -, -, hadmits, -⟩ := merge_result_eq_ok_iff.mp hmerge
  obtain ⟨⟨values', hvalues', -⟩, -⟩ := id hms'
  -- The context is read again just when the first update has left something of it.
  split
  · next hnothing =>
    have hfails := merge_result_of_not_mem (hms'.list hvalues') hadmits
      fun hthere => hmem.mp hthere hnothing
    exact exists_outcome_update_error hguard' hcontent hagain hname hreparse hvalues' hfails
  · next hsome =>
    obtain ⟨r', hr'⟩ := exists_merge_of_no_refs (hms'.list hvalues') hadmits
      (get?_of_mem_keys (hmem.mpr hsome)) hrefs
    have hwidth : 3 ≤ Catalog.defaultWidth := by decide
    -- Messages without references can be merged, and what comes out can be written.
    obtain ⟨content, -, -, hrender, -⟩ :=
      (isRewritable_written hrewritable (hms'.list hvalues') hlegible' hr'
        m.options.replace.truthy).exists_isReadBack (Or.inr hwidth) hutf8
    have hquiet := (isQuiet_guard m loc).heard hguard'
    rw [← hquiet.tree_eq] at hcontent
    obtain ⟨q, w, hpreview, -⟩ := exists_outcome_preview hcontent
      ((pointee?_heard hquiet m loc).trans hagain) hname hreparse hvalues' hr' hrender
    have hisFile := FileTree.isFile_of_read hread
    have hwrite : ∃ tree, t.tree.write loc q.content = .ok tree := by
      split at htree
      · exact FileTree.exists_write_again htree hisFile q.content
      · rw [htree]
        exact ⟨_, hrooted.write_eq_put hisFile hplace q.content⟩
    obtain ⟨u, hupdate, -⟩ := exists_outcome_update hdry hguard' ⟨w, hpreview⟩ fun _ => hwrite
    exact ⟨_, u, hupdate⟩

/-- A directory with one catalog file, whose entry is in a context with a name. -/
def hatch : Session where
  tree :=
    { files := [([['w'], "de.po"], ("msgid \"\"\n" ++
        "msgstr \"Content-Type: text/plain; charset=UTF-8\\n\"\n\n" ++
        "msgctxt \"menu\"\nmsgid \"Open\"\nmsgstr \"Oeffnen\"\n").toByteArray)]
      directories := [[], [['w']]] }
  current := [['w']]

/-- A merger for the context that keeps the entries of the messages only. -/
def hatchMerger : Merger where
  options := { MergeOptions.default { current := [['w']] } with
    context := "menu", gitCheck := .bool false, replace := .bool true }

/-- An update without messages takes the context out of the file. -/
theorem update_loses_context_hatch : ∃ r t u,
    (hatchMerger.update [['w'], "de.po"] (.list [])).outcome hatch = (.ok r, t) ∧
    (hatchMerger.update [['w'], "de.po"] (Catalog.bare "New")).outcome t =
      (.error (.missingContext "menu"), u) := by
  have hfirst : ((hatchMerger.update [['w'], "de.po"] (.list [])).outcome
      hatch).1.toOption.isSome = true := by decide +kernel
  have hsecond : (((hatchMerger.update [['w'], "de.po"] (Catalog.bare "New")).outcome
      ((hatchMerger.update [['w'], "de.po"] (.list [])).outcome hatch).2).1 >>= fun _ => .ok ()) =
        .error (.missingContext "menu") := by decide +kernel
  generalize h : (hatchMerger.update [['w'], "de.po"] (.list [])).outcome hatch = p
    at hfirst hsecond
  obtain ⟨x, t⟩ := p
  generalize h' : (hatchMerger.update [['w'], "de.po"] (Catalog.bare "New")).outcome t = q
    at hsecond
  obtain ⟨y, u⟩ := q
  obtain ⟨r, rfl⟩ := Failure.exists_of_isSome hfirst
  obtain rfl | ⟨_, _, hdone⟩ := Failure.bind_eq_error_iff.mp hsecond
  · exact ⟨r, t, u, rfl, h'⟩
  · cases hdone

theorem update_keeps_context_hatch : ∃ r t r' u,
    (hatchMerger.update [['w'], "de.po"] (Catalog.bare "Open")).outcome hatch = (.ok r, t) ∧
    (hatchMerger.update [['w'], "de.po"] (Catalog.bare "New")).outcome t = (.ok r', u) := by
  have hfile : (match hatch.tree.read [['w'], "de.po"] with
      | .ok bytes => match Catalog.parseBytes bytes "utf-8" with
        | .ok c => decide (c.HasPlainTop ∧ ∀ p ∈ c.headers.entries,
            ∀ other ∈ Catalog.charsetIn? p.2, Charset.ofName other = .ok .utf8)
        | .error _ => false
      | .error _ => false) = true := by decide +kernel
  have hupdate : ((hatchMerger.update [['w'], "de.po"] (Catalog.bare "Open")).outcome
      hatch).1.toOption.isSome = true := by decide +kernel
  have hplain : hatchMerger.pointee? ((hatchMerger.update [['w'], "de.po"]
      (Catalog.bare "Open")).outcome hatch).2 [['w'], "de.po"] = none := by decide +kernel
  split at hfile
  · next bytes hread =>
    split at hfile
    · next c hparse =>
      obtain ⟨htop, hnames⟩ := of_decide_eq_true hfile
      cases h : (hatchMerger.update [['w'], "de.po"] (Catalog.bare "Open")).outcome hatch with
      | mk x t =>
        cases x with
        | error f =>
          rw [h] at hupdate
          cases hupdate
        | ok r =>
          rw [h] at hplain
          have hopen : ("Open" : Text) ≠ [] := by decide
          have hnew : ("New" : Text) ≠ [] := by decide
          have hagain := update_keeps_context (by decide) (by decide) rfl (by decide) hread
            (by decide +kernel) (by decide) (by decide) hparse
            (fun other ⟨p, hp, _, hother⟩ => Or.inr (hnames p hp other hother)) htop
            (Catalog.reads_bare hopen) (Catalog.legible_bare (OneLine.escapable (by decide)))
            (Catalog.reads_bare hnew) (Catalog.legible_bare (OneLine.escapable (by decide)))
            (by simp) h hplain
          rw [if_neg fun hnothing => List.cons_ne_nil _ _ hnothing.2.1] at hagain
          obtain ⟨r', u, hagain⟩ := hagain
          exact ⟨r, t, r', u, rfl, hagain⟩
    · cases hfile
  · cases hfile

end Merger

end MessageCatalog
