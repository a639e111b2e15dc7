import Mathlib
import MessageCatalog.Proofs.Merge.Partition

/-!
# Merging again

When the messages that have been merged are merged again into a catalog that came out, nothing
changes: every message is found as it is, and the entries come out in the same order.
-/

namespace MessageCatalog

open Merge

/-- What is said about messages that are merged again after a first report, once into its patched
catalog and once into the catalog that holds the messages only. -/
structure MergeReport.IsFixedBy (first patched replaced : MergeReport) (keys : List Text) :
    Prop where
  added : patched.ids .added = []
  changed : patched.ids .changed = []
  found : ∀ k, k ∈ patched.ids .found ↔ k ∈ keys
  missing : ∀ k, k ∈ patched.ids .missing ↔ k ∈ first.ids .missing
  patch_patch : patched.patch = first.patch
  replace_patch : patched.replace = first.replace
  isChange : replaced.isChange = false
  patch_replace : replaced.patch = first.replace
  replace_replace : replaced.replace = first.replace

namespace Merge

variable {o : ReferenceOptions} {context : Text} {source : Bucket} {ms : List Message}
  {steps : List (Text × Step)} {c : Catalog} {order : SortOrder}

/-! ### The messages -/

/-- The bucket has an entry for the message, and merging gives `x` in its place without a change. -/
def IsFoundAs (o : ReferenceOptions) (source : Bucket) (m : Message) (x : Entry) : Prop :=
  ∃ e, source.get? m.key = some e ∧ mergeFound o m e = .ok ⟨⟨x, some m, []⟩, false⟩

/-- Messages that are all found without a change can be merged. -/
lemma exists_run_of_found {xs : List Entry} (h : List.Forall₂ (IsFoundAs o source) ms xs)
    (hdistinct : (ms.map Message.key).Nodup) (hnonempty : ∀ m ∈ ms, m.key ≠ []) (context : Text) :
    ∃ steps, Run o context source ms steps ∧ mergedEntries steps = xs ∧
      ∀ s ∈ steps, s.2.events = [.found] := by
  have hmerged : ∃ steps, List.Forall₂ (Merges o context source) ms steps ∧
      mergedEntries steps = xs ∧ ∀ s ∈ steps, s.2.events = [.found] := by
    clear hdistinct hnonempty
    induction h with
    | nil => exact ⟨[], .nil, rfl, by simp⟩
    | @cons m x ms xs hm _ ih =>
      obtain ⟨e, he, hfound⟩ := hm
      obtain ⟨steps, hsteps, hentries, hevents⟩ := ih
      have hone := (mergeOne_of_get? he context).trans hfound
      exact ⟨(m.key, ⟨⟨x, some m, []⟩, false⟩) :: steps, .cons ⟨rfl, hone⟩ hsteps,
        congrArg (x :: ·) hentries, List.forall_mem_cons.mpr ⟨rfl, hevents⟩⟩
  obtain ⟨steps, hsteps, hentries, hevents⟩ := hmerged
  exact ⟨steps, ⟨hsteps, hdistinct, hnonempty⟩, hentries, hevents⟩

/-- Into a bucket that holds what became of them, messages are merged without any change. -/
lemma Run.again (h : Run o context source ms steps) {source' : Bucket}
    (hget : ∀ s ∈ steps, source'.get? s.1 = some s.2.tracked.entry) :
    ∃ steps', Run o context source' ms steps' ∧ mergedEntries steps' = mergedEntries steps ∧
      ∀ s ∈ steps', s.2.events = [.found] := by
  -- Each message is found with the entry that it was merged into, and this entry carries it.
  have hfound : List.Forall₂ (IsFoundAs o source') ms (mergedEntries steps) := by
    rw [mergedEntries, List.forall₂_map_right_iff]
    refine ((List.forall₂_and_left steps ms).mpr ⟨hget, h.merged.flip⟩).flip.imp ?_
    rintro m s ⟨hs, hkey, hmerge⟩
    obtain ⟨-, -, -, hcarries⟩ := mergeOne_spec hmerge
    exact ⟨s.2.tracked.entry, hkey ▸ hs, hcarries⟩
  exact exists_run_of_found hfound h.distinct h.nonempty context

/-- When every message has been found as it is, nothing has been added or changed. -/
lemma ids_of_found {r : MergeReport} (h : ∀ s ∈ r.steps, s.2.events = [.found]) :
    r.ids .added = [] ∧ r.ids .changed = [] ∧ r.ids .found = r.steps.map Prod.fst := by
  have hnone : ∀ event, event ≠ .missing → event ≠ .found → r.ids event = [] := by
    intro event hmissing hfound
    rw [r.ids_eq hmissing, List.map_eq_nil_iff, List.filter_eq_nil_iff]
    intro s hs
    rw [h s hs]
    simpa using hfound
  refine ⟨hnone .added Event.noConfusion Event.noConfusion,
    hnone .changed Event.noConfusion Event.noConfusion, ?_⟩
  rw [r.ids_eq Event.noConfusion, List.filter_eq_self.mpr]
  intro s hs
  rw [h s hs]
  rfl

/-! ### The buckets -/

/-- Entries of a sorted bucket are in the same order when they are sorted by that bucket. -/
lemma sortedBucket_sortedBucket {es : List Entry} (h : (es.map Entry.msgid).Nodup)
    (hbuiltIn : order.IsBuiltIn) (source : Bucket) {p : Entry → Bool} {l : List Entry}
    (hl : l.Perm (es.filter p)) :
    sortedBucket order (sortedBucket order source es) l = sortedBucket order source (es.filter p) := by
  have hperm : l.Perm ((order.sortEntries (SortOrder.positions source.keys) es).filter p) :=
    hl.trans ((order.sortEntries_perm _ es).filter p).symm
  rw [sortedBucket, keys_sortedBucket h, SortOrder.sortEntries_again hbuiltIn _ h hperm,
    SortOrder.filter_sortEntries hbuiltIn]
  rfl

/-- A bucket that is put in order again stays as it is. -/
lemma sortedBucket_self {es : List Entry} (h : (es.map Entry.msgid).Nodup)
    (hbuiltIn : order.IsBuiltIn) (source : Bucket) {l : List Entry} (hl : l.Perm es) :
    sortedBucket order (sortedBucket order source es) l = sortedBucket order source es := by
  have hall : es.filter (fun _ => true) = es := List.filter_true es
  rw [sortedBucket_sortedBucket h hbuiltIn source (p := fun _ => true) (by rwa [hall]), hall]

lemma missingEntries_sortedBucket {es : List Entry} (h : (es.map Entry.msgid).Nodup)
    (order : SortOrder) (source : Bucket) (keys : List Text) :
    (missingEntries (sortedBucket order source es) keys).Perm
      ((es.filter fun e => !e.msgid.isEmpty && !keys.contains e.msgid).map Entry.clearPlaces) := by
  rw [missingEntries, values_sortedBucket h]
  exact ((order.sortEntries_perm _ es).filter _).map _

/-- What is missing from a patched bucket is what was missing before. -/
lemma Run.missingEntries_patch (h : Run o context source ms steps) (hsource : source.WellFormed)
    (order : SortOrder) :
    (missingEntries (sortedBucket order source
      (mergedEntries steps ++ missingEntries source (ms.map Message.key)))
        (ms.map Message.key)).Perm (missingEntries source (ms.map Message.key)) := by
  -- The comments that belong to places were cleared when the entries were missing first.
  have hclear : (missingEntries source (ms.map Message.key)).map Entry.clearPlaces =
      missingEntries source (ms.map Message.key) := by
    rw [missingEntries, List.map_map]
    exact List.map_congr_left fun e _ => e.clearPlaces_clearPlaces
  have hperm := missingEntries_sortedBucket (h.nodup_msgids hsource) order source
    (ms.map Message.key)
  rwa [h.filter_missing hsource, hclear] at hperm

/-- Nothing is missing from a bucket that holds the messages only. -/
lemma Run.missingEntries_replace (h : Run o context source ms steps) (hsource : source.WellFormed)
    (order : SortOrder) :
    missingEntries (sortedBucket order source (mergedEntries steps)) (ms.map Message.key) = [] := by
  have hnone : ((mergedEntries steps).filter fun e =>
      !e.msgid.isEmpty && !(ms.map Message.key).contains e.msgid) = [] := by
    rw [List.filter_eq_nil_iff]
    intro e he
    rw [h.contains_merged hsource he]
    simp
  have hperm := missingEntries_sortedBucket (h.nodup_merged hsource) order source
    (ms.map Message.key)
  rwa [hnone, List.map_nil, List.perm_nil] at hperm

/-! ### The reports -/

/-- The report when every message is found as it is. -/
lemma Run.exists_merge_of_found {o : MergeOptions}
    (h : Run o.references o.context source ms steps) (hsource : source.WellFormed)
    (hfound : ∀ s ∈ steps, s.2.events = [.found]) {messages : Value} {d : Detail}
    (hms : Reads messages ms) (hadmits : Admits o order d)
    (hget : c.translations.get? o.context = .some source) :
    ∃ r, (c.merge messages o).result = .ok r ∧ r.ids .added = [] ∧ r.ids .changed = [] ∧
      r.ids .found = ms.map Message.key ∧
      r.ids .missing = (missingEntries source (ms.map Message.key)).map Entry.msgid ∧
      r.patch = c.withContext o.context (sortedBucket order source
        (mergedEntries steps ++ missingEntries source (ms.map Message.key))) ∧
      r.replace = c.withContext o.context (sortedBucket order source (mergedEntries steps)) := by
  obtain ⟨hpatch, hreplace⟩ := report_catalogs h hsource c order
  obtain ⟨hadded, hchanged, hall⟩ :=
    ids_of_found (r := report c o.context order source steps) hfound
  refine ⟨_, merge_result_eq_ok_iff.mpr ⟨ms, order, source, d, steps, hms, hadmits, hget, h, rfl⟩,
    hadded, hchanged, ?_, ?_, hpatch, hreplace⟩
  · exact hall.trans h.keys
  · exact h.ids_missing hsource c order

/-- A bucket that holds the merged entries has each of them for its message. -/
lemma Run.get?_merged (h : Run o context source ms steps) (hsource : source.WellFormed)
    {es : List Entry} (hids : (es.map Entry.msgid).Nodup) (hes : mergedEntries steps ⊆ es)
    (order : SortOrder) :
    ∀ s ∈ steps, (sortedBucket order source es).get? s.1 = some s.2.tracked.entry := by
  intro s hs
  rw [← h.msgid hsource hs]
  exact Merge.get?_sortedBucket hids order source (hes (List.mem_map_of_mem hs))

/-- Messages that have been merged are all found in a sorted bucket that has their entries. -/
lemma Run.exists_merge_again {o : MergeOptions} (h : Run o.references o.context source ms steps)
    (hsource : source.WellFormed) {messages : Value} {d : Detail} (hms : Reads messages ms)
    (hadmits : Admits o order d) (c : Catalog) {es : List Entry} (hids : (es.map Entry.msgid).Nodup)
    (hes : mergedEntries steps ⊆ es) :
    ∃ r, ((c.withContext o.context (sortedBucket order source es)).merge messages o).result =
        .ok r ∧ r.ids .added = [] ∧ r.ids .changed = [] ∧ r.ids .found = ms.map Message.key ∧
      r.ids .missing = (missingEntries (sortedBucket order source es) (ms.map Message.key)).map
        Entry.msgid ∧
      r.patch = c.withContext o.context (sortedBucket order (sortedBucket order source es)
        (mergedEntries steps ++
          missingEntries (sortedBucket order source es) (ms.map Message.key))) ∧
      r.replace = c.withContext o.context
        (sortedBucket order (sortedBucket order source es) (mergedEntries steps)) := by
  obtain ⟨steps', hagain, hentries, hfound⟩ := h.again (h.get?_merged hsource hids hes order)
  have hmerge := hagain.exists_merge_of_found (wellFormed_sortedBucket hids order source) hfound hms
    hadmits (Catalog.get?_withContext c _ _)
  rwa [hentries, Catalog.withContext_withContext, Catalog.withContext_withContext] at hmerge

/-- Merging again into the patched catalog. -/
lemma Run.exists_merge_patch {o : MergeOptions} (h : Run o.references o.context source ms steps)
    (hsource : source.WellFormed) {messages : Value} {d : Detail} (hms : Reads messages ms)
    (hadmits : Admits o order d) (hbuiltIn : order.IsBuiltIn) (c : Catalog) {first : MergeReport}
    (hfirst : first = report c o.context order source steps) :
    ∃ r, (first.patch.merge messages o).result = .ok r ∧ r.ids .added = [] ∧
      r.ids .changed = [] ∧ r.ids .found = ms.map Message.key ∧
      (r.ids .missing).Perm (first.ids .missing) ∧ r.patch = first.patch ∧
      r.replace = first.replace := by
  obtain ⟨hpatch, hreplace⟩ := report_catalogs h hsource c order
  have hids := h.nodup_msgids hsource
  have hmissing := h.missingEntries_patch hsource order
  have hkept := h.filter_merged hsource
  obtain ⟨r, hr, hadded, hchanged, hfound, hids', hpatch', hreplace'⟩ :=
    h.exists_merge_again hsource hms hadmits c hids (List.subset_append_left _ _)
  rw [← hfirst] at hpatch hreplace
  rw [hpatch, hreplace]
  refine ⟨r, hr, hadded, hchanged, hfound, ?_, ?_, ?_⟩
  · rw [hids', hfirst, h.ids_missing hsource]
    exact hmissing.map _
  · rw [hpatch', sortedBucket_self hids hbuiltIn source (hmissing.append_left _)]
  · -- The merged entries are the part of the patched bucket that messages have.
    have hagain := sortedBucket_sortedBucket hids hbuiltIn source
      (p := fun e => (ms.map Message.key).contains e.msgid) (l := mergedEntries steps)
      (by rw [hkept])
    rw [hreplace', hagain, hkept]

/-- Merging again into the catalog that holds the messages only. -/
lemma Run.exists_merge_replace {o : MergeOptions} (h : Run o.references o.context source ms steps)
    (hsource : source.WellFormed) {messages : Value} {d : Detail} (hms : Reads messages ms)
    (hadmits : Admits o order d) (hbuiltIn : order.IsBuiltIn) (c : Catalog) {first : MergeReport}
    (hfirst : first = report c o.context order source steps) :
    ∃ r, (first.replace.merge messages o).result = .ok r ∧ r.isChange = false ∧
      r.patch = first.replace ∧ r.replace = first.replace := by
  obtain ⟨-, hreplace⟩ := report_catalogs h hsource c order
  have hids := h.nodup_merged hsource
  have hsame := sortedBucket_self hids hbuiltIn source (List.Perm.refl _)
  obtain ⟨r, hr, hadded, hchanged, -, hmissing, hpatch', hreplace'⟩ :=
    h.exists_merge_again hsource hms hadmits c hids (List.Subset.refl _)
  rw [h.missingEntries_replace hsource order] at hmissing hpatch'
  rw [← hfirst] at hreplace
  rw [hreplace]
  refine ⟨r, hr, ?_, ?_, ?_⟩
  · rw [← Bool.not_eq_true, r.isChange_iff, hadded, hchanged, hmissing]
    simp
  · rw [hpatch', List.append_nil, hsame]
  · rw [hreplace', hsame]

/-- A merge is a fixed point: when the messages are merged again, nothing changes in the catalogs
that have come out. There is a first report unless a limit cannot be read. -/
theorem merge_fixed_point {c : Catalog} (hc : c.WellFormed) {messages : Value} {o : MergeOptions}
    {d : Detail} (hms : Reads messages ms) (hadmits : Admits o order d)
    (hbuiltIn : order.IsBuiltIn) (hsource : c.translations.get? o.context = .some source) :
    (o.references.Readable → ∃ r, (c.merge messages o).result = .ok r) ∧
      ∀ r, (c.merge messages o).result = .ok r → ∃ patched replaced,
        (r.patch.merge messages o).result = .ok patched ∧
        (r.replace.merge messages o).result = .ok replaced ∧
        r.IsFixedBy patched replaced (ms.map Message.key) := by
  constructor
  · exact exists_merge hms hadmits hsource
  · intro r hr
    have hwell := hc.get? hsource
    obtain ⟨steps, hrun, hreport⟩ := exists_run_of_merge hms hadmits hsource hr
    obtain ⟨patched, hpatched, hadded, hchanged, hfound, hmissing, hpatch, hreplace⟩ :=
      hrun.exists_merge_patch hwell hms hadmits hbuiltIn c hreport
    obtain ⟨replaced, hreplaced, hchange, hpatch', hreplace'⟩ :=
      hrun.exists_merge_replace hwell hms hadmits hbuiltIn c hreport
    refine ⟨patched, replaced, hpatched, hreplaced, hadded, hchanged, ?_, ?_, hpatch, hreplace,
      hchange, hpatch', hreplace'⟩
    · intro k
      rw [hfound]
    · intro k
      exact hmissing.mem_iff

theorem merge_fixed_point_menu : ∃ r patched replaced,
    (menuCatalog.merge (.list (menuMessages.map Message.toValue)) menuOptions).result = .ok r ∧
      (r.patch.merge (.list (menuMessages.map Message.toValue)) menuOptions).result =
        .ok patched ∧
      (r.replace.merge (.list (menuMessages.map Message.toValue)) menuOptions).result =
        .ok replaced ∧
      r.IsFixedBy patched replaced (menuMessages.map Message.key) := by
  obtain ⟨hreport, hagain⟩ := merge_fixed_point wellFormed_menuCatalog reads_menuMessages
    admits_menuOptions (fun _ _ => SortOrder.noConfusion) get?_menuCatalog
  obtain ⟨r, hr⟩ := hreport readable_menuOptions
  obtain ⟨patched, replaced, hfixed⟩ := hagain r hr
  exact ⟨r, patched, replaced, hr, hfixed⟩

end Merge

end MessageCatalog
