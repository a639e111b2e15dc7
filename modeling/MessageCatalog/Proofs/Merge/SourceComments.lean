import MessageCatalog.Proofs.Extract.Collected
import MessageCatalog.Proofs.Merge.Changes
import MessageCatalog.Proofs.Merge.Rewritable
import MessageCatalog.Proofs.Merge.Rewriting

/-!
# Comments of source files in catalog files

The comment of a key is written line by line, and read again without the lines that are empty. An
empty line comes from a comment that says nothing beside another one; every other comment comes
back as it was, and merging the same messages again changes nothing.
-/

namespace MessageCatalog

open Text Failure

namespace Merge

variable {o : ReferenceOptions} {context : Text} {source : Bucket} {ms : List Message}
  {steps : List (Text × Step)} {c : Catalog} {order : SortOrder} {m : Message}

/-! ### Messages that are found as they are -/

/-- A step that tells of nothing new and nothing changed. -/
lemma Step.events_eq_found {r : MergeReport} (hadded : r.ids .added = [])
    (hchanged : r.ids .changed = []) {s : Text × Step} (hs : s ∈ r.steps) :
    s.2.isNew = false ∧ s.2.tracked.changes = [] := by
  have hnone {event : Event} (h : event ≠ .missing) (hids : r.ids event = []) :
      ¬s.2.events.contains event = true := by
    rw [r.ids_eq h, List.map_eq_nil_iff, List.filter_eq_nil_iff] at hids
    exact hids s hs
  have hnew := hnone Event.noConfusion hadded
  rw [contains_added, Bool.not_eq_true] at hnew
  refine ⟨hnew, ?_⟩
  by_contra hne
  exact hnone Event.noConfusion hchanged ((contains_changed_iff s.2).mpr ⟨hnew, hne⟩)

/-- A message that changes nothing has its comments in the entry that is found. -/
lemma extracted_of_mergeFound {e : Entry} {s : Step} (h : mergeFound o m e = .ok s)
    (hchanges : s.tracked.changes = []) (hne : join "\n" m.comments ≠ []) :
    e.extracted = some (join "\n" m.comments) := by
  obtain ⟨-, -, -, hcarries⟩ := mergeFound_spec h
  have hset := hcarries.steps.2
  rw [changes_of_mergeFound h, Entry.differences_eq_nil_iff] at hchanges
  rw [Entry.setExtracted_eq_self_iff, ← hchanges.2, Catalog.nonempty, if_neg (by simpa using hne),
    givenText, Option.filter_eq_some_iff] at hset
  exact hset.1

lemma Run.exists_extracted (h : Run o context source ms steps)
    (hadded : (report c context order source steps).ids .added = [])
    (hchanged : (report c context order source steps).ids .changed = []) (hm : m ∈ ms)
    (hne : join "\n" m.comments ≠ []) :
    ∃ e ∈ source.values, e.extracted = some (join "\n" m.comments) := by
  obtain ⟨s, hs, -, hmerge⟩ := exists_of_forall₂ h.merged.flip hm
  obtain ⟨hnew, hchanges⟩ := Step.events_eq_found hadded hchanged hs
  rw [mergeOne] at hmerge
  cases hget : source.get? m.key with
  | none =>
    rw [hget] at hmerge
    obtain ⟨hnew', -⟩ := mergeNew_spec hmerge
    rw [hnew] at hnew'
    exact absurd hnew' Bool.false_ne_true
  | some e =>
    rw [hget] at hmerge
    exact ⟨e, List.mem_map_of_mem (OrderedMap.get?_eq_some_iff.mp hget),
      extracted_of_mergeFound hmerge hchanges hne⟩

/-- Where a merge into a catalog that was read finds messages as they are, no line of their
comments is empty. -/
theorem not_mem_splitOn_of_unchanged {messages : Value} {o : MergeOptions} {r : MergeReport}
    (hc : c.Legible) (hms : Reads messages ms) (hr : (c.merge messages o).result = .ok r)
    (hadded : r.ids .added = []) (hchanged : r.ids .changed = []) (hm : m ∈ ms) {t : Text}
    (ht : t ∈ m.comments) (hne : t ≠ []) : [] ∉ splitOn '\n' t := by
  obtain ⟨ms', order, source, d, steps, hms', -, hsource, hrun, rfl⟩ :=
    merge_result_eq_ok_iff.mp hr
  obtain rfl := hms.unique hms'
  intro hnil
  have hmem : [] ∈ splitOn '\n' (join "\n" m.comments) := by
    rw [show ("\n" : Text) = ['\n'] from rfl, splitOn_join '\n' (List.ne_nil_of_mem ht)]
    exact List.mem_flatMap.mpr ⟨t, ht, hnil⟩
  obtain ⟨e, he, hextracted⟩ :=
    hrun.exists_extracted hadded hchanged hm (join_ne_nil ht hne)
  have hin := hc.buckets _ (OrderedMap.get?_eq_some_iff.mp hsource) e he
  have hwritten := hin.legible.comments
  rw [Entry.writtenComments_of_live hin.live] at hwritten
  exact (hwritten.extracted _ hextracted).2 hmem

end Merge

/-! ### Collected messages -/

namespace Collector

variable {c : Collector} {patterns encoding : Value} {s : Session} {files : List Location}
  {ms : List Message}

/-- Messages collected from files whose names and comments are plain: they hold no line boundary. A
key may hold one if it is written as an escape. -/
structure CollectsPlain (c : Collector) (patterns encoding : Value) (s : Session)
    (files : List Location) (ms : List Message) : Prop where
  collected : ((c.collect patterns encoding).outcome .empty s).1 = .ok ms
  found : s.tree.glob (c.base s.current) patterns = .ok files
  names : ∀ loc ∈ files, OneLine (c.nameOf s.current loc)
  comments : ∀ loc ∈ files, ∀ t source, c.ReadsSource s encoding loc t source →
    ∀ x ∈ source.comments, OneLine x.text
  keys : ∀ m ∈ ms, Escapable m.key

/-- The comments of collected messages can stand in a catalog file. -/
lemma CollectsPlain.isCommentText (h : c.CollectsPlain patterns encoding s files ms) {m : Message}
    (hm : m ∈ ms) {t : Text} (ht : t ∈ m.comments) : t ≠ [] ∧ Document.IsCommentText t := by
  obtain ⟨hne, loc, hloc, text, source, hreads, hquotes⟩ :=
    exists_quotes_of_comment h.collected h.found hm ht
  exact ⟨hne, Source.Module.isCommentText_of_quotes hreads.2
    (h.comments loc hloc text source hreads) hquotes⟩

/-- Where every comment says something, no line of a comment is empty. -/
lemma CollectsPlain.not_mem_splitOn (h : c.CollectsPlain patterns encoding s files ms)
    (hsome : ∀ loc ∈ files, ∀ t source, c.ReadsSource s encoding loc t source →
      ∀ x ∈ source.comments, x.text ≠ []) :
    ∀ m ∈ ms, ∀ t ∈ m.comments, [] ∉ splitOn '\n' t := by
  intro m hm t ht
  obtain ⟨-, loc, hloc, text, source, hreads, hquotes⟩ :=
    exists_quotes_of_comment h.collected h.found hm ht
  exact Source.Module.not_mem_splitOn_of_quotes hreads.2 (hsome loc hloc text source hreads) hquotes

lemma CollectsPlain.legible (h : c.CollectsPlain patterns encoding s files ms)
    (hlines : ∀ m ∈ ms, ∀ t ∈ m.comments, [] ∉ splitOn '\n' t) : ∀ m ∈ ms, m.Legible := by
  intro m hm
  refine ⟨h.keys m hm, fun ref href => ?_, fun t ht => ?_⟩
  · obtain ⟨loc, hloc, line, rfl⟩ := exists_name_of_ref h.collected h.found hm href
    exact Reference.oneLine_ofLine (h.names loc hloc) line
  · exact ⟨(h.isCommentText hm ht).2, hlines m hm t ht⟩

end Collector

/-! ### Updates from sources -/

namespace Merger

variable {m : Merger} {loc : Location} {s t u : Session} {r : FileMerge} {k : Catalog}

/-- The file, which does not hold the name of a file, is read as a catalog of which all is UTF-8,
and whose comment at the top can be written. -/
structure HoldsCatalog (m : Merger) (s : Session) (loc : Location) (k : Catalog) : Prop where
  plain : m.pointee? s loc = none
  plainTop : k.HasPlainTop
  read : ∃ name bytes, charset m.options = .ok name ∧ Charset.ofName name = .ok .utf8 ∧
    s.tree.read loc = .ok bytes ∧ Catalog.parseBytes bytes name = .ok k
  names : ∀ other, k.NamesCharset other →
    Catalog.isPlaceholder other = true ∨ Charset.ofName other = .ok .utf8

lemma HoldsCatalog.charset (hk : m.HoldsCatalog s loc k) :
    Charset.ofName k.charset = .ok .utf8 := by
  obtain ⟨name, bytes, -, hutf8, -, hparse⟩ := hk.read
  exact (Catalog.hasOneCharset_of_names hparse hutf8 hk.names).1

/-- A file is updated if its catalog can be written and the messages can be merged into it. -/
lemma HoldsCatalog.exists_update {messages : List Value} {ms : List Message} {report : MergeReport}
    (hk : m.HoldsCatalog s loc k) (hheaders : ∃ hs, Document.orderedHeaders k.headers = .ok hs)
    (hdry : m.options.dryRun.truthy = false) (hms : Merge.Reads (.list messages) ms)
    (hlegible : ∀ x ∈ ms, x.Legible)
    (hmerge : (k.merge (.list messages) m.options).result = .ok report)
    (hguard : ∃ v, (m.guard loc).outcome s = (.ok (), v))
    (hwrite : ∀ content, ∃ tree, s.tree.write loc content = .ok tree) :
    ∃ r t, (m.update loc (.list messages)).outcome s = (.ok r, t) := by
  obtain ⟨name, bytes, hname, hutf8, hread, hparse⟩ := hk.read
  have hrewritable : k.IsRewritable :=
    ⟨(Catalog.legible_parseBytes hparse).1, hk.plainTop, hk.charset, hheaders⟩
  have hwidth : Catalog.defaultWidth ≤ 0 ∨ 3 ≤ Catalog.defaultWidth := by decide
  obtain ⟨content, -, -, hrender, -⟩ := (Merge.isRewritable_written hrewritable hms hlegible hmerge
    m.options.replace.truthy).exists_isReadBack hwidth hutf8
  obtain ⟨v, hguard⟩ := hguard
  have hquiet := (isQuiet_guard m loc).heard hguard
  have hvalues : Merge.messageValues (.list messages) = .ok messages := rfl
  obtain ⟨p, w, hpreview, -⟩ := exists_outcome_preview (hquiet.tree_eq ▸ hread)
    ((pointee?_heard hquiet m loc).trans hk.plain) hname hparse hvalues hmerge hrender
  obtain ⟨t, hupdate, -⟩ := exists_outcome_update hdry hguard ⟨w, hpreview⟩ fun _ => hwrite _
  exact ⟨_, t, hupdate⟩

/-- What an update of the file has written is not the name of a file, where no name holds a line
feed. -/
lemma HoldsCatalog.pointee?_eq_none {messages : Value} (hk : m.HoldsCatalog s loc k)
    (hdry : m.options.dryRun.truthy = false)
    (h : (m.update loc messages).outcome s = (.ok r, t))
    (hread : u.tree.read loc = .ok r.content) (hnames : u.tree.HasOneLineNames) :
    m.pointee? u loc = none := by
  obtain ⟨name, bytes, hname, hutf8, hbytes, hparse⟩ := hk.read
  obtain ⟨p, -, hfile, hp, rfl, -⟩ := of_outcome_update hdry h
  obtain ⟨c', name', hp⟩ := hp hk.plain
  obtain ⟨rfl, rfl⟩ := hp.eq_of_read hfile hname hbytes hparse
  exact hp.pointee?_eq_none (Charset.rereads_of_ofName hk.charset hutf8 p.content)
    (FileTree.read_eq_ok_iff.mp hread) hnames

/-- When a file has been updated with legible messages, a later merge of the same messages into it
finds them as they are. -/
lemma HoldsCatalog.exists_again {messages : Value} {ms : List Message}
    (hk : m.HoldsCatalog s loc k) (hdry : m.options.dryRun.truthy = false)
    (hms : Merge.Reads messages ms) (hlegible : ∀ x ∈ ms, x.Legible)
    (hcontext : m.options.context = [] ∨ ms ≠ [])
    (h : (m.update loc messages).outcome s = (.ok r, t))
    (hread : u.tree.read loc = .ok r.content) (hplain : m.pointee? u loc = none) :
    ∃ q w, (m.preview loc messages).outcome u = (.ok q, w) ∧ q.report.ids .added = [] ∧
      q.report.ids .changed = [] := by
  obtain ⟨name, bytes, hname, hutf8, hbytes, hparse⟩ := hk.read
  obtain ⟨p, -, hfile, hp, rfl, -⟩ := of_outcome_update hdry h
  obtain ⟨c', name', hp⟩ := hp hk.plain
  obtain ⟨rfl, rfl⟩ := hp.eq_of_read hfile hname hbytes hparse
  obtain ⟨hcharset, hone⟩ := Catalog.hasOneCharset_of_names hparse hutf8 hk.names
  have hrereads := Charset.rereads_of_ofName hcharset hutf8 p.content
  obtain ⟨q, w, hpreview, -, hrepeated, -⟩ := hp.exists_again hms hlegible hcontext hk.plainTop
    hone (fun _ => hp.decodeNamed hrereads) hread hplain
  exact ⟨q, w, hpreview, hrepeated.added, hrepeated.changed⟩

/-- The comment of a key of a source file whose comments hold no line boundary is read as it was put
into a catalog in UTF-8, if and only if none of its lines is empty. And when a file has been updated
with messages that were collected from such sources, and what it holds then is not the name of a
file, collecting from the same sources gives the same messages, and merging these into the file
finds all of them as they are, if and only if no line of a comment is empty. -/
theorem comments_come_back (c : Collector) :
    (∀ (text : Text) (source : Source.Module) (f : Findings),
      Source.Module.ofText text = some source → (∀ x ∈ source.comments, OneLine x.text) →
      Findings.ofText c.options c.rules text = .ok f →
      ∀ a ∈ f.occurrences, ∀ comment ∈ a.comment, ∀ (k : Catalog) (e : Entry) (width : Int),
        k.IsRewritable → e.Legible → e.obsolete = false → e.msgid ≠ [] →
        (width ≤ 0 ∨ 3 ≤ width) →
        (k.KeepsExtracted width (e.withExtracted (some comment)) ↔ [] ∉ splitOn '\n' comment)) ∧
    ∀ (patterns encoding : Value) (s₀ : Session) (files : List Location) (ms : List Message),
      c.CollectsPlain patterns encoding s₀ files ms →
      ∀ (m : Merger) (loc : Location) (k : Catalog) (s t : Session) (r : FileMerge),
        m.HoldsCatalog s loc k → m.options.dryRun.truthy = false →
        (m.options.context = [] ∨ ms ≠ []) →
        (m.update loc (.list (ms.map Message.toValue))).outcome s = (.ok r, t) →
        ∀ u, c.HasSources patterns s₀ u → u.tree.read loc = .ok r.content →
          m.pointee? u loc = none →
          ((c.collect patterns encoding).outcome .empty u).1 = .ok ms ∧
          ((∃ q w, (m.preview loc (.list (ms.map Message.toValue))).outcome u = (.ok q, w) ∧
              q.report.ids .added = [] ∧ q.report.ids .changed = []) ↔
            ∀ x ∈ ms, ∀ comment ∈ x.comments, [] ∉ splitOn '\n' comment) := by
  refine ⟨?_, ?_⟩
  · intro text source f hsource hone hf a ha comment hcomment k e width hk he hlive hid hwidth
    exact Catalog.keepsExtracted_iff hk hwidth he hlive hid
      (Source.Module.isCommentText_of_quotes hsource hone
        (Findings.quotes_of_ofText hsource hf ha hcomment))
  · intro patterns encoding s₀ files ms hcollects m loc k s t r hk hdry hcontext hupdate u hu hread
      hplain
    have hms := Collector.reads_of_collect hcollects.collected
    refine ⟨hu.collect hcollects.collected, ?_, fun hlines => ?_⟩
    · -- The comment of an entry that was found unchanged is the one that was read, and what is
      -- read has no empty lines.
      rintro ⟨q, w, hpreview, hadded, hchanged⟩ x hx comment hcomment
      obtain ⟨-, -, hq⟩ := isPreview_of_outcome hpreview
      obtain ⟨k', name, hq⟩ := hq hplain
      obtain ⟨values, hvalues, hmerge⟩ := hq.report
      exact Merge.not_mem_splitOn_of_unchanged (Catalog.legible_parseBytes hq.source).1
        (hms.list hvalues) hmerge hadded hchanged hx hcomment
        (hcollects.isCommentText hx hcomment).1
    · exact hk.exists_again hdry hms (hcollects.legible hlines) hcontext hupdate hread hplain

/-- A directory with a source file and a catalog file. -/
def pantry : Session :=
  { drawer with tree := { drawer.tree with
      files := ([['w'], "main.py"], "# verb\n_('Open')  # button\n".toByteArray) ::
        drawer.tree.files } }

def pantryPatterns : Value := .list [.text "main.py"]

/-- The directory with another content of the catalog file. -/
def pantryWith (content : ByteArray) : Session :=
  { pantry with tree := pantry.tree.put [['w'], "de.po"] content }

lemma hasOneLineNames_pantry : pantry.tree.HasOneLineNames :=
  FileTree.hasOneLineNames_of_forall (by decide)

lemma hasSources_pantryWith (content : ByteArray) :
    Collector.keeper.HasSources pantryPatterns pantry (pantryWith content) := by
  refine ⟨rfl, rfl, by rfl, fun files hfiles loc hloc => ?_⟩
  obtain rfl : [[['w'], ("main.py" : Text)]] = files := Except.ok.inj hfiles
  rw [List.mem_singleton.mp hloc]
  rfl

lemma readsSource_pantry {loc : Location} (hloc : loc ∈ [[['w'], ("main.py" : Text)]]) {t : Text}
    {source : Source.Module} (h : Collector.keeper.ReadsSource pantry .null loc t source) :
    ∀ x ∈ source.comments, OneLine x.text ∧ x.text ≠ [] := by
  obtain ⟨hcontent, hsource⟩ := h
  rw [List.mem_singleton.mp hloc] at hcontent
  have htext : Collector.keeper.content pantry .null [['w'], "main.py"] =
      .ok "# verb\n_('Open')  # button\n" := by decide +kernel
  obtain rfl := Except.ok.inj (htext.symm.trans hcontent)
  have hcomments : (Source.Module.ofText "# verb\n_('Open')  # button\n").map
      (fun m => m.comments.map Source.Comment.text) = some (["verb", "button"] : List Text) := by
    decide +kernel
  rw [hsource] at hcomments
  have htexts : source.comments.map Source.Comment.text = ["verb", "button"] :=
    Option.some.inj hcomments
  have hall : ∀ text ∈ source.comments.map Source.Comment.text, OneLine text ∧ text ≠ [] := by
    rw [htexts]
    decide
  exact fun x hx => hall _ (List.mem_map_of_mem hx)

lemma collectsPlain_pantry : ∃ ms,
    Collector.keeper.CollectsPlain pantryPatterns .null pantry [[['w'], "main.py"]] ms ∧
      ∀ m ∈ ms, ∀ t ∈ m.comments, [] ∉ splitOn '\n' t := by
  have hkeys : ((Collector.keeper.collect pantryPatterns .null).outcome .empty
      pantry).1.toOption.map (List.map Message.key) = some (["Open"] : List Text) := by
    decide +kernel
  cases hms : ((Collector.keeper.collect pantryPatterns .null).outcome .empty pantry).1 with
  | error f =>
    rw [hms] at hkeys
    cases hkeys
  | ok ms =>
    rw [hms] at hkeys
    have hplain : Collector.keeper.CollectsPlain pantryPatterns .null pantry [[['w'], "main.py"]]
        ms := by
      refine ⟨hms, by rfl, by decide +kernel, fun loc hloc t source h x hx => ?_, fun m hm => ?_⟩
      · exact (readsSource_pantry hloc h x hx).1
      · have hmem := List.mem_map_of_mem (f := Message.key) hm
        rw [Option.some.inj hkeys, List.mem_singleton] at hmem
        rw [hmem]
        exact OneLine.escapable (by decide)
    exact ⟨ms, hplain, hplain.not_mem_splitOn fun loc hloc t source h x hx =>
      (readsSource_pantry hloc h x hx).2⟩

lemma exists_update_pantry {ms : List Message}
    (hms : Merge.Reads (.list (ms.map Message.toValue)) ms) (hlegible : ∀ x ∈ ms, x.Legible) :
    ∃ k r t, k.IsRewritable ∧ drawerMerger.HoldsCatalog pantry [['w'], "de.po"] k ∧
      (drawerMerger.update [['w'], "de.po"] (.list (ms.map Message.toValue))).outcome pantry =
        (.ok r, t) := by
  obtain ⟨bytes, k, -, -, hread, hparse, htop, -, hnames, -⟩ := exists_outcome_drawer
  have hk : drawerMerger.HoldsCatalog pantry [['w'], "de.po"] k :=
    ⟨by decide +kernel, htop, ⟨"utf-8", bytes, rfl, by decide, hread, hparse⟩,
      fun other h => Or.inr (hnames other h)⟩
  have horder : (match drawer.tree.read [['w'], "de.po"] with
      | .ok bytes => match Catalog.parseBytes bytes "utf-8" with
        | .ok c => (Document.orderedHeaders c.headers).toOption.isSome
        | .error _ => false
      | .error _ => false) = true := by decide +kernel
  rw [hread] at horder
  dsimp only at horder
  rw [hparse] at horder
  dsimp only at horder
  have hheaders : ∃ hs, Document.orderedHeaders k.headers = .ok hs := by
    cases h : Document.orderedHeaders k.headers with
    | ok hs => exact ⟨hs, rfl⟩
    | error f =>
      rw [h] at horder
      cases horder
  have hlegibleCatalog := (Catalog.legible_parseBytes hparse).1
  have hsource := get?_of_mem_keys (List.mem_of_head? hlegibleCatalog.first)
  have hlimits : drawerMerger.options.references.Readable := by
    intro v hv n hn
    have hlimit : v = .int (-1) := by simpa [drawerMerger, MergeOptions.default] using hv
    rw [hlimit] at hn
    cases hn
    decide +kernel
  have hadmits : Merge.Admits drawerMerger.options .source ⟨false, false⟩ := ⟨rfl, rfl, rfl⟩
  obtain ⟨report, hmerge⟩ := Merge.exists_merge hms hadmits hsource hlimits
  obtain ⟨r, t, hupdate⟩ := hk.exists_update hheaders rfl hms hlegible hmerge ⟨_, rfl⟩
    fun content => ⟨_, rfl⟩
  exact ⟨k, r, t, ⟨hlegibleCatalog, htop, hk.charset, hheaders⟩, hk, hupdate⟩

theorem comments_come_back_pantry : ∃ k : Catalog,
    k.KeepsExtracted 78 (({ msgid := "Open" } : Entry).withExtracted
      (some ("verb\nbutton" : Text))) ∧
    ∃ ms r t q w, ((Collector.keeper.collect pantryPatterns .null).outcome .empty pantry).1 =
        .ok ms ∧
      (drawerMerger.update [['w'], "de.po"] (.list (ms.map Message.toValue))).outcome pantry =
        (.ok r, t) ∧
      (drawerMerger.preview [['w'], "de.po"] (.list (ms.map Message.toValue))).outcome
        (pantryWith r.content) = (.ok q, w) ∧
      q.report.ids .changed = [] := by
  obtain ⟨ms, hplain, hlines⟩ := collectsPlain_pantry
  have hlegible := hplain.legible hlines
  obtain ⟨k, r, t, hrewritable, hk, hupdate⟩ :=
    exists_update_pantry (Collector.reads_of_collect hplain.collected) hlegible
  have hread : (pantryWith r.content).tree.read [['w'], "de.po"] = .ok r.content :=
    FileTree.read_eq_ok_iff.mpr (FileTree.content?_put_self _ _ _)
  have hnames : (pantryWith r.content).tree.HasOneLineNames :=
    hasOneLineNames_pantry.put (by decide) r.content
  obtain ⟨-, hagain⟩ := (comments_come_back Collector.keeper).2 _ _ _ _ _ hplain _ _ _ _ _ _
    hk rfl (Or.inl rfl) hupdate _ (hasSources_pantryWith _) hread
    (hk.pointee?_eq_none rfl hupdate hread hnames)
  obtain ⟨q, w, hpreview, -, hchanged⟩ := hagain.mpr hlines
  have hfound : (Findings.ofText Collector.keeper.options Collector.keeper.rules
      "# verb\n_('Open')  # button\n").toOption =
        some ⟨[⟨"Open", 2, some ("verb\nbutton" : Text)⟩], []⟩ := by decide +kernel
  cases hf : Findings.ofText Collector.keeper.options Collector.keeper.rules
      "# verb\n_('Open')  # button\n" with
  | error e =>
    rw [hf] at hfound
    cases hfound
  | ok f =>
    rw [hf] at hfound
    obtain rfl : f = _ := Option.some.inj hfound
    obtain ⟨source, hsource⟩ := Findings.exists_module hf
    have hreads : Collector.keeper.ReadsSource pantry .null [['w'], "main.py"]
        "# verb\n_('Open')  # button\n" source := ⟨by decide +kernel, hsource⟩
    refine ⟨k, ?_, ms, r, t, q, w, hplain.collected, hupdate, hpreview, hchanged⟩
    refine ((comments_come_back Collector.keeper).1 _ source _ hsource
      (fun x hx => (readsSource_pantry (by simp) hreads x hx).1) hf _ (List.mem_singleton_self _) _
      rfl k _ _ hrewritable ?_ rfl (by decide) (Or.inr (by decide))).mpr (by decide)
    exact Entry.Writable.legible (by decide +kernel)

end Merger

end MessageCatalog
