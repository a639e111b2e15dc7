import Mathlib
import MessageCatalog.Proofs.Catalog.Rewritten
import MessageCatalog.Proofs.Merge.Reread

/-!
# Merging twice

Messages are merged into a catalog, the catalog that comes out is written and read, and the same
messages are merged again. The second report tells of nothing new, and the second catalog is
written like the first one.
-/

namespace MessageCatalog

open Text Catalog

/-- The catalog of a report that is written: the one with the messages only, or the patched one. -/
def MergeReport.written (r : MergeReport) (replace : Bool) : Catalog :=
  if replace then r.replace else r.patch

/-- What the second report says: every message is found as it is, and what was missing from the
catalog that was written is missing again. -/
structure MergeReport.IsRepeatedBy (r r' : MergeReport) (replace : Bool) (keys : List Text) :
    Prop where
  added : r'.ids .added = []
  changed : r'.ids .changed = []
  found : r'.ids .found = keys
  missing : (r'.ids .missing).Perm (if replace then [] else r.ids .missing)

namespace Merge

variable {o : ReferenceOptions} {context : Text} {source : Bucket} {ms : List Message}
  {steps : List (Text × Step)} {c c' : Catalog} {order : SortOrder} {replace : Bool}

/-! ### What is written -/

lemma Run.legibleIn_written (h : Run o context source ms steps)
    (hsource : ∀ e ∈ source.values, e.LegibleIn context) (hcontext : Escapable context)
    (hms : ∀ m ∈ ms, m.Legible) :
    ∀ e ∈ writtenBucket replace source (ms.map Message.key) steps, e.LegibleIn context := by
  intro e he
  rcases List.mem_append.mp he with he | he
  · exact h.legibleIn_merged hsource hcontext hms e he
  · exact legibleIn_missing hsource _ e ((keptEntries_sublist replace source _).subset he)

lemma Run.messageEntries_written (h : Run o context source ms steps) (hsource : source.WellFormed)
    (order : SortOrder) (replace : Bool) :
    messageEntries (sortedBucket order source
      (writtenBucket replace source (ms.map Message.key) steps)) =
        order.sortEntries (SortOrder.positions source.keys)
          (writtenBucket replace source (ms.map Message.key) steps) := by
  rw [messageEntries, values_sortedBucket (h.nodup_written hsource replace),
    List.filter_eq_self.mpr]
  intro e he
  have hid := h.msgid_ne_nil hsource ((order.sortEntries_perm _ _).mem_iff.mp he)
  simpa using hid

/-- The entries that are written for the context, in their order. -/
lemma Run.messageEntries_bucketAt (h : Run o context source ms steps) (hsource : source.WellFormed)
    (c : Catalog) (order : SortOrder) (replace : Bool) :
    messageEntries (bucketAt (c.withContext context (sortedBucket order source
      (writtenBucket replace source (ms.map Message.key) steps))).translations context) =
        order.sortEntries (SortOrder.positions source.keys)
          (writtenBucket replace source (ms.map Message.key) steps) := by
  rw [messageEntries_withContext, if_pos rfl, h.messageEntries_written hsource]

/-- If there are messages, something is written. -/
lemma Run.written_ne_nil (h : Run o context source ms steps) (hsource : source.WellFormed)
    (hsome : ms ≠ []) : writtenBucket replace source (ms.map Message.key) steps ≠ [] := by
  intro hnil
  have hids := h.msgids hsource
  rw [(List.append_eq_nil_iff.mp hnil).1] at hids
  exact hsome (List.map_eq_nil_iff.mp hids.symm)

lemma Run.legible_withContext (h : Run o context source ms steps) (hc : c.Legible)
    (hsource : c.translations.get? context = .some source) (hms : ∀ m ∈ ms, m.Legible)
    (order : SortOrder) (replace : Bool) :
    (c.withContext context (sortedBucket order source
      (writtenBucket replace source (ms.map Message.key) steps))).Legible := by
  have hwell := hc.wellFormed.get? hsource
  have hids := h.nodup_written hwell replace
  have hmem : context ∈ c.translations.keys := OrderedMap.mem_keys_iff.mpr ⟨source, hsource⟩
  refine hc.withContext hmem (wellFormed_sortedBucket hids order source) fun e he => ?_
  rw [values_sortedBucket hids] at he
  exact h.legibleIn_written (hc.buckets _ (OrderedMap.get?_eq_some_iff.mp hsource))
    (hc.contexts context hmem) hms e ((order.sortEntries_perm _ _).mem_iff.mp he)

/-! ### Merging again -/

/-- What a context is read as. -/
lemma isRereadOf_bucketAt {hs : List (Text × Text)} (hback : c.IsReadBack c' hs) (context : Text) :
    IsRereadOf (bucketAt c'.translations context)
      (messageEntries (bucketAt c.translations context)) := by
  refine ⟨_, ?_, hback.buckets context⟩
  intro p hp
  split at hp
  · rw [List.mem_singleton.mp hp]
    exact ⟨rfl, rfl⟩
  · exact absurd hp List.not_mem_nil

/-- A context is read if it has no name, or if something was written for it. -/
lemma mem_keys_of_isReadBack {hs : List (Text × Text)} (hback : c.IsReadBack c' hs)
    (hmem : context ∈ c.translations.keys)
    (hsome : context = [] ∨ messageEntries (bucketAt c.translations context) ≠ []) :
    context ∈ c'.translations.keys := by
  rw [hback.contexts]
  by_cases hname : context = []
  · rw [hname]
    exact List.mem_cons_self
  · have hread : readEntries (bucketAt c.translations context) ≠ [] := by
      intro hnil
      exact hsome.resolve_left hname (List.map_eq_nil_iff.mp hnil)
    exact List.mem_cons_of_mem _ (List.mem_filter.mpr ⟨hmem, by simp [hname, hread]⟩)

/-- The second of two merges with writing and reading between them. -/
structure IsSecond (o : MergeOptions) (w c' : Catalog) (replace : Bool) (r' : MergeReport) : Prop
    where
  bucket : ∃ b, r'.written replace = c'.withContext o.context b ∧
    (∀ x ∈ messageEntries b, ∃ e ∈ messageEntries (bucketAt w.translations o.context), e.Alike x) ∧
    ∀ order, SortOrder.ofValue o.custom o.sort = .ok order → order.IsBuiltIn →
      List.Forall₂ Entry.Alike (messageEntries (bucketAt w.translations o.context))
        (messageEntries b)
  legible : (r'.written replace).Legible

/-- Merging the same messages into what is read for a written catalog. -/
theorem exists_merge_again {messages : Value} {o : MergeOptions} {r : MergeReport}
    {hs : List (Text × Text)} (hc : c.Legible) (hjoined : c.HasJoined) (hms : Reads messages ms)
    (hlegible : ∀ m ∈ ms, m.Legible) (hr : (c.merge messages o).result = .ok r)
    (hback : (r.written replace).IsReadBack c' hs) (hc' : c'.Legible)
    (hcontext : o.context = [] ∨ ms ≠ []) :
    o.context ∈ c'.translations.keys ∧ ∃ r', (c'.merge messages o).result = .ok r' ∧
      r.IsRepeatedBy r' replace (ms.map Message.key) ∧
        IsSecond o (r.written replace) c' replace r' := by
  obtain ⟨ms', order, source, d, steps, hms', hadmits, hsource, hrun, rfl⟩ :=
    merge_result_eq_ok_iff.mp hr
  obtain rfl := hms.unique hms'
  have hwell := hc.wellFormed.get? hsource
  have hmem : o.context ∈ c.translations.keys := OrderedMap.mem_keys_iff.mpr ⟨source, hsource⟩
  have hin := hc.buckets _ (OrderedMap.get?_eq_some_iff.mp hsource)
  have hlive : ∀ e ∈ writtenBucket replace source (ms.map Message.key) steps, e.obsolete = false :=
    fun e he => (hrun.legibleIn_written hin (hc.contexts _ hmem) hlegible e he).live
  have hreferences : ∀ e ∈ source.values, IsJoined e.reference := by
    intro e he
    have hjoin := hjoined _ (OrderedMap.get?_eq_some_iff.mp hsource) e he
    rwa [Entry.writtenComments_of_live (hin e he).live] at hjoin
  have hwritten : (report c o.context order source steps).written replace = _ :=
    report_written hrun hwell c order replace
  rw [hwritten] at hback ⊢
  -- The entries that were written for the context, in their order, are read again.
  have hentries := hrun.messageEntries_bucketAt hwell c order replace
  have hmem' : o.context ∈ c'.translations.keys := by
    refine mem_keys_of_isReadBack hback ?_ (hcontext.imp_right fun hsome => ?_)
    · rw [Catalog.withContext, OrderedMap.keys_insert_of_mem hmem]
      exact hmem
    · rw [hentries]
      exact fun hnil => hrun.written_ne_nil hwell hsome
        (List.perm_nil.mp (hnil ▸ order.sortEntries_perm _ _).symm)
  have hb := isRereadOf_bucketAt hback o.context
  rw [hentries] at hb
  -- They are merged again, and what is written then is like them.
  have hsource' := get?_of_mem_keys hmem'
  have hwell' := hb.wellFormed
  obtain ⟨steps', hagain, hevents, hmissing, es, hes, halike⟩ :=
    hrun.reread_written hwell hlive hreferences (order.sortEntries_perm _ _) hb
  obtain ⟨hadded, hchanged, hfound⟩ := ids_of_found
    (r := report c' o.context order (bucketAt c'.translations o.context) steps') hevents
  have hwritten' : (report c' o.context order _ steps').written replace = _ :=
    report_written hagain hwell' c' order replace
  refine ⟨hmem', _, merge_result_eq_ok_iff.mpr
    ⟨ms, order, _, d, steps', hms, hadmits, hsource', hagain, rfl⟩,
    ⟨hadded, hchanged, hfound.trans hagain.keys, ?_⟩, ⟨_, hwritten', ?_, ?_⟩, ?_⟩
  · rw [hagain.ids_missing hwell', hrun.ids_missing hwell]
    cases replace with
    | true => exact hmissing
    | false => exact hmissing
  · intro x hx
    rw [hagain.messageEntries_written hwell'] at hx
    obtain ⟨e, he, hex⟩ :=
      Failure.exists_of_forall₂ halike ((order.sortEntries_perm _ _).mem_iff.mp hx)
    exact ⟨e, hentries ▸ hes.mem_iff.mp he, hex⟩
  · -- A built-in order sees only what alike entries have in common.
    intro order' horder' hbuiltIn
    obtain rfl : order = order' := Except.ok.inj (hadmits.order.symm.trans horder')
    obtain ⟨before, hkeys⟩ := hb.exists_keys
    have hids := (bucketAt c'.translations o.context).distinct
    rw [← OrderedMap.keys, hkeys] at hids
    rw [hentries, hagain.messageEntries_written hwell', hkeys]
    exact sortEntries_of_alike hbuiltIn _ hids hlive hes halike
  · rw [hwritten']
    exact hagain.legible_withContext hc' hsource' hlegible order replace

/-! ### Writing, reading and writing again -/

/-- A merge changes the entries of its context only, and what comes out can be written and read
again. -/
lemma written_of_merge {messages : Value} {o : MergeOptions} {r : MergeReport} (hc : c.Legible)
    (hms : Reads messages ms) (hlegible : ∀ m ∈ ms, m.Legible)
    (hr : (c.merge messages o).result = .ok r) (replace : Bool) :
    (r.written replace).Legible ∧ ∃ b, r.written replace = c.withContext o.context b := by
  obtain ⟨ms', order, source, d, steps, hms', -, hsource, hrun, rfl⟩ :=
    merge_result_eq_ok_iff.mp hr
  obtain rfl := hms.unique hms'
  have hwritten : (report c o.context order source steps).written replace =
      c.withContext o.context _ :=
    report_written hrun (hc.wellFormed.get? hsource) c order replace
  refine ⟨?_, _, hwritten⟩
  rw [hwritten]
  exact hrun.legible_withContext hc hsource hlegible order replace

/-- The entries of other contexts have joined places of use. -/
lemma joined_of_withContext (hc : c.Legible) (hjoined : c.HasJoined) {b : Bucket} {k : Text}
    (hk : k ≠ context) {e : Entry}
    (he : e ∈ messageEntries (bucketAt (c.withContext context b).translations k)) :
    e.obsolete = false ∧ IsJoined e.writtenComments.reference := by
  rw [messageEntries_withContext, if_neg hk] at he
  by_cases hmem : k ∈ c.translations.keys
  · obtain ⟨p, hp, rfl⟩ := List.mem_map.mp hmem
    rw [bucketAt_of_mem hp] at he
    have hvalue := List.mem_of_mem_filter he
    exact ⟨(hc.buckets p hp e hvalue).live, hjoined p hp e hvalue⟩
  · rw [bucketAt_of_not_mem hmem] at he
    exact absurd he List.not_mem_nil

/-- Messages are merged into a catalog that was read from a file, and the catalog that comes out is
written. When its bytes stand for its text in the charset that is assumed by default, it is read,
merged and written again, and in a built-in order the bytes are the same, unless an obsolete entry
loses previous texts. -/
theorem exists_rewriting {messages : Value} {o : MergeOptions} {r : MergeReport} {default : Text}
    {width : Int} {bytes : ByteArray} (hc : c.Legible) (hjoined : c.HasJoined)
    (htop : c.HasPlainTop) (hone : c.HasOneCharset default) (hms : Reads messages ms)
    (hlegible : ∀ m ∈ ms, m.Legible) (hcontext : o.context = [] ∨ ms ≠ [])
    (hr : (c.merge messages o).result = .ok r) (hwidth : width ≤ 0 ∨ 3 ≤ width)
    (hrender : (r.written replace).render width = .ok bytes)
    (hdecode : ∀ t ≠ [], Charset.encodeNamed c.charset t = .ok bytes →
      Charset.decodeNamed default bytes = .ok t) :
    ∃ c' r', parseBytes bytes default = .ok c' ∧ (c'.merge messages o).result = .ok r' ∧
      r.IsRepeatedBy r' replace (ms.map Message.key) ∧
      (∃ bytes', (r'.written replace).render width = .ok bytes') ∧
      ∀ order, SortOrder.ofValue o.custom o.sort = .ok order → order.IsBuiltIn →
        (∀ e ∈ c.obsolete, e.previousMsgid = none ∧ e.previousMsgctxt = none) →
        (r'.written replace).render width = .ok bytes := by
  obtain ⟨hw, b, hwritten⟩ := written_of_merge hc hms hlegible hr replace
  have hjoined' : ∀ k ≠ o.context, ∀ e ∈ messageEntries
      (bucketAt (r.written replace).translations k),
        e.obsolete = false ∧ IsJoined e.writtenComments.reference := by
    rw [hwritten]
    exact fun k hk e he => joined_of_withContext hc hjoined hk he
  have htop' : (r.written replace).HasPlainTop := by
    rw [hwritten]
    exact htop
  have hone' : (r.written replace).HasOneCharset default := by
    rw [hwritten]
    exact ⟨hone.charset, hone.named⟩
  have hobsolete : (r.written replace).obsolete = c.obsolete := by rw [hwritten]; rfl
  have hcharset : (r.written replace).charset = c.charset := by rw [hwritten]; rfl
  -- What was written is read, and the same messages are merged into that.
  obtain ⟨hs, c', horder, hparse, hback, hname⟩ :=
    exists_parseBytes_of_render hw htop' hone' hwidth hrender (by rwa [hcharset])
  obtain ⟨hmem, r', hr', hrepeated, ⟨⟨b', hwritten', hsome, halike⟩, hw'⟩⟩ :=
    exists_merge_again hc hjoined hms hlegible hr hback (legible_parseBytes hparse).1 hcontext
  obtain ⟨t, hprint, hencode⟩ := render_eq_ok_iff.mp hrender
  rw [hwritten'] at hw'
  -- The second catalog is written by another name of the same charset.
  have hrender' : ∀ {t' bytes'}, Document.print width (c'.withContext o.context b') = .ok t' →
      Charset.encodeNamed (r.written replace).charset t' = .ok bytes' →
      (c'.withContext o.context b').render width = .ok bytes' := by
    intro t' bytes' hprint' hencode'
    refine render_eq_ok_iff.mpr ⟨t', hprint', ?_⟩
    rw [Charset.encodeNamed_eq_ok_iff] at hencode' ⊢
    obtain ⟨cs, hcs, hbytes⟩ := hencode'
    exact ⟨cs, hname.trans hcs, hbytes⟩
  refine ⟨c', r', hparse, hr', hrepeated, ?_⟩
  rw [hwritten']
  refine ⟨?_, ?_⟩
  · -- The second text has no character that the charset did not have in the first one.
    obtain ⟨t', hprint', hsub⟩ :=
      hback.exists_print_subset hw horder hw'.grouped hsome hjoined' hprint
    obtain ⟨cs, hcs, hbytes⟩ := Charset.encodeNamed_eq_ok_iff.mp hencode
    obtain ⟨bytes', hbytes'⟩ := Charset.exists_encode_of_subset hbytes hsub
    exact ⟨bytes', hrender' hprint' (Charset.encodeNamed_eq_ok_iff.mpr ⟨cs, hcs, hbytes'⟩)⟩
  · intro order hsort hbuiltIn hprevious
    refine hrender' ?_ hencode
    rw [hback.print_eq hw horder hw'.grouped hmem (halike order hsort hbuiltIn) hjoined'
      (hobsolete ▸ hprevious)]
    exact hprint

end Merge

end MessageCatalog
