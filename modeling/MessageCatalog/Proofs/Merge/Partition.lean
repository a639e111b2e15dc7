import Mathlib
import MessageCatalog.Proofs.Merge.Report

/-!
# The groups of a report

Every message id falls into the groups that a report promises, and the buckets that come out of a
merge hold just the message ids of these groups.
-/

namespace MessageCatalog

open Merge

/-- The message ids of a group. -/
def MergeReport.ids (r : MergeReport) (event : Event) : List Text := (r.track event).map Prod.fst

lemma MergeReport.ids_eq (r : MergeReport) {event : Event} (h : event ≠ .missing) :
    r.ids event = (r.steps.filter fun s => s.2.events.contains event).map Prod.fst := by
  cases event with
  | missing => exact absurd rfl h
  | _ => exact List.map_map

lemma MergeReport.mem_track_iff {r : MergeReport} {k : Text} {event : Event} {t : Tracked}
    (h : event ≠ .missing) : (k, t) ∈ r.track event ↔
      ∃ s, (k, s) ∈ r.steps ∧ s.events.contains event = true ∧ s.tracked = t := by
  have htrack : r.track event =
      (r.steps.filter fun s => s.2.events.contains event).map fun s => (s.1, s.2.tracked) := by
    cases event with
    | missing => exact absurd rfl h
    | _ => rfl
  rw [htrack]
  simp only [List.mem_map, List.mem_filter, Prod.exists, Prod.mk.injEq]
  constructor
  · rintro ⟨_, s, ⟨hs, hevent⟩, rfl, rfl⟩
    exact ⟨s, hs, hevent, rfl⟩
  · rintro ⟨s, hs, hevent, rfl⟩
    exact ⟨k, s, ⟨hs, hevent⟩, rfl, rfl⟩

lemma MergeReport.mem_ids_iff {r : MergeReport} {k : Text} {event : Event}
    (h : event ≠ .missing) :
    k ∈ r.ids event ↔ ∃ s, (k, s) ∈ r.steps ∧ s.events.contains event = true := by
  rw [r.ids_eq h]
  simp [and_comm]

lemma MergeReport.count_eq (r : MergeReport) (event : Event) :
    r.count event = (r.ids event).length :=
  (List.length_map _).symm

lemma MergeReport.isChange_iff (r : MergeReport) :
    r.isChange = true ↔ r.ids .added ≠ [] ∨ r.ids .changed ≠ [] ∨ r.ids .missing ≠ [] := by
  have hpos : ∀ event, r.ids event ≠ [] ↔ 0 < r.count event := by
    intro event
    rw [r.count_eq, List.length_pos_iff]
  rw [hpos, hpos, hpos, MergeReport.isChange, decide_eq_true_eq]
  omega

/-- The groups of a report, when messages with the given keys have been merged into a bucket. -/
structure MergeReport.Partitions (r : MergeReport) (context : Text) (source : Bucket)
    (keys : List Text) : Prop where
  nodup : ∀ event, (r.ids event).Nodup
  disjoint : (r.ids .added).Disjoint (r.ids .found)
  messages : ∀ k, k ∈ keys ↔ k ∈ r.ids .added ∨ k ∈ r.ids .found
  found : ∀ k, k ∈ r.ids .found ↔ k ∈ keys ∧ k ∈ source.keys
  missing : ∀ k, k ∈ r.ids .missing ↔ k ∈ source.keys ∧ k ≠ [] ∧ k ∉ keys
  changed : ∀ k ∈ r.ids .changed, k ∈ r.ids .found
  buckets : ∃ patch replace, r.patch.translations.get? context = some patch ∧
    r.replace.translations.get? context = some replace ∧
    patch.keys.Perm (r.ids .added ++ r.ids .found ++ r.ids .missing) ∧ [] ∉ patch.keys ∧
    replace.entries = patch.entries.filter fun p => keys.contains p.1
  counts : r.counts = [(.added, (r.ids .added).length), (.found, (r.ids .found).length),
    (.changed, (r.ids .changed).length), (.missing, (r.ids .missing).length)]
  isChange : r.isChange = true ↔ r.ids .added ≠ [] ∨ r.ids .changed ≠ [] ∨ r.ids .missing ≠ []

namespace Merge

variable {o : ReferenceOptions} {context : Text} {source : Bucket} {ms : List Message}
  {steps : List (Text × Step)} {c : Catalog} {order : SortOrder}

/-! ### Added, found and changed message ids -/

lemma contains_added (s : Step) : s.events.contains .added = s.isNew := by
  rw [Step.events]
  cases s.isNew
  · cases s.tracked.changes.isEmpty <;> rfl
  · rfl

lemma contains_found (s : Step) : s.events.contains .found = !s.isNew := by
  rw [Step.events]
  cases s.isNew
  · cases s.tracked.changes.isEmpty <;> rfl
  · rfl

lemma contains_changed_iff (s : Step) :
    s.events.contains .changed = true ↔ s.isNew = false ∧ s.tracked.changes ≠ [] := by
  rw [Step.events]
  cases s.isNew
  · cases s.tracked.changes <;> simp
  · simp

lemma Run.isNew (h : Run o context source ms steps) {s : Text × Step} (hs : s ∈ steps) :
    s.2.isNew = !source.contains s.1 := by
  obtain ⟨m, -, hkey, hmerge⟩ := h.exists_message hs
  rw [hkey]
  exact (mergeOne_spec hmerge).1

lemma Run.map_fst_filter (h : Run o context source ms steps) {p : Step → Bool} {q : Text → Bool}
    (hpq : ∀ s ∈ steps, p s.2 = q s.1) :
    (steps.filter fun s => p s.2).map Prod.fst = (ms.map Message.key).filter q := by
  rw [← h.keys, List.filter_map, List.filter_congr hpq]
  rfl

lemma Run.ids_added (h : Run o context source ms steps) (c : Catalog) (order : SortOrder) :
    (report c context order source steps).ids .added =
      (ms.map Message.key).filter fun k => !source.contains k := by
  rw [MergeReport.ids_eq _ Event.noConfusion, ← h.map_fst_filter (p := (·.isNew))]
  · simp only [report, contains_added]
  · intro s hs
    exact h.isNew hs

lemma Run.ids_found (h : Run o context source ms steps) (c : Catalog) (order : SortOrder) :
    (report c context order source steps).ids .found =
      (ms.map Message.key).filter source.contains := by
  rw [MergeReport.ids_eq _ Event.noConfusion, ← h.map_fst_filter (p := (!·.isNew))]
  · simp only [report, contains_found]
  · intro s hs
    rw [h.isNew hs, Bool.not_not]

lemma ids_changed_sublist (r : MergeReport) : (r.ids .changed).Sublist (r.ids .found) := by
  rw [r.ids_eq Event.noConfusion, r.ids_eq Event.noConfusion]
  refine (List.monotone_filter_right _ ?_).map _
  intro s hs
  rw [contains_found, ((contains_changed_iff _).mp hs).1]
  rfl

lemma Run.ids_missing (h : Run o context source ms steps) (hsource : source.WellFormed)
    (c : Catalog) (order : SortOrder) :
    (report c context order source steps).ids .missing =
      (missingEntries source (ms.map Message.key)).map Entry.msgid := by
  have hkeyed := congrArg (List.map Prod.fst) (missingFrom_eq hsource (ms.map Message.key))
  rw [List.map_map, map_fst_keyed] at hkeyed
  rw [← hkeyed, ← h.keys]
  rfl

/-! ### The buckets -/

lemma Run.keys_patch (h : Run o context source ms steps) (hsource : source.WellFormed)
    (order : SortOrder) :
    (sortedBucket order source
      (mergedEntries steps ++ missingEntries source (ms.map Message.key))).keys.Perm
        (ms.map Message.key ++ (missingEntries source (ms.map Message.key)).map Entry.msgid) := by
  rw [keys_sortedBucket (h.nodup_msgids hsource), ← h.msgids hsource, ← List.map_append,
    h.msgids hsource]
  exact (order.sortEntries_perm _ _).map _

/-- What a merge replaces the bucket by is the part of its patch that messages have. -/
lemma Run.entries_replace (h : Run o context source ms steps) (hsource : source.WellFormed)
    (hbuiltIn : order.IsBuiltIn) :
    (sortedBucket order source (mergedEntries steps)).entries =
      (sortedBucket order source
        (mergedEntries steps ++ missingEntries source (ms.map Message.key))).entries.filter
          fun p => (ms.map Message.key).contains p.1 := by
  rw [entries_sortedBucket (h.nodup_merged hsource), entries_sortedBucket (h.nodup_msgids hsource),
    filter_keyed, SortOrder.filter_sortEntries hbuiltIn, h.filter_merged hsource]

/-- The patched bucket holds the added, found and missing message ids. -/
lemma Run.keys_patch_perm (h : Run o context source ms steps) (hsource : source.WellFormed)
    (c : Catalog) (order : SortOrder) :
    (sortedBucket order source
      (mergedEntries steps ++ missingEntries source (ms.map Message.key))).keys.Perm
        ((report c context order source steps).ids .added ++
          (report c context order source steps).ids .found ++
            (report c context order source steps).ids .missing) := by
  rw [h.ids_added, h.ids_found, h.ids_missing hsource]
  refine (h.keys_patch hsource order).trans (List.Perm.append_right _ ?_)
  exact (List.perm_append_comm.trans
    (List.filter_append_perm source.contains (ms.map Message.key))).symm

lemma Run.nil_not_mem_patch (h : Run o context source ms steps) (hsource : source.WellFormed)
    (order : SortOrder) :
    [] ∉ (sortedBucket order source
      (mergedEntries steps ++ missingEntries source (ms.map Message.key))).keys := by
  intro hmem
  rcases List.mem_append.mp ((h.keys_patch hsource order).mem_iff.mp hmem) with hmem | hmem
  · obtain ⟨m, hm, hkey⟩ := List.mem_map.mp hmem
    exact h.nonempty m hm hkey
  · exact ((mem_msgids_missingEntries hsource).mp hmem).2.1 rfl

/-! ### The whole report -/

theorem Run.partitions (h : Run o context source ms steps) (hsource : source.WellFormed)
    (hbuiltIn : order.IsBuiltIn) :
    (report c context order source steps).Partitions context source (ms.map Message.key) := by
  have hadded := h.ids_added c order
  have hfound := h.ids_found c order
  have hmissing := h.ids_missing hsource c order
  have hchanged := ids_changed_sublist (report c context order source steps)
  obtain ⟨hpatch, hreplace⟩ := report_catalogs h hsource c order
  have hids : ((missingEntries source (ms.map Message.key)).map Entry.msgid).Nodup := by
    have hall := h.nodup_msgids hsource
    rw [List.map_append] at hall
    exact (List.nodup_append.mp hall).2.1
  refine ⟨?_, ?_, ?_, ?_, ?_, ?_, ?_, ?_, ?_⟩
  · intro event
    cases event with
    | added => rw [hadded]; exact h.distinct.filter _
    | found => rw [hfound]; exact h.distinct.filter _
    | changed => exact (hfound ▸ h.distinct.filter _ : (MergeReport.ids _ .found).Nodup).sublist hchanged
    | missing => rw [hmissing]; exact hids
  · intro k hk hk'
    rw [hadded, List.mem_filter] at hk
    rw [hfound, List.mem_filter] at hk'
    rw [hk'.2] at hk
    exact absurd hk.2 Bool.false_ne_true
  · intro k
    rw [hadded, hfound, List.mem_filter, List.mem_filter]
    cases source.contains k <;> simp
  · intro k
    rw [hfound, List.mem_filter, OrderedMap.contains_iff]
  · intro k
    rw [hmissing, mem_msgids_missingEntries hsource]
  · intro k hk
    exact hchanged.subset hk
  · refine ⟨_, _, ?_, ?_, h.keys_patch_perm hsource c order, h.nil_not_mem_patch hsource order,
      h.entries_replace hsource hbuiltIn⟩
    · rw [hpatch, Catalog.get?_withContext]
    · rw [hreplace, Catalog.get?_withContext]
  · simp only [← MergeReport.count_eq]
    rfl
  · exact MergeReport.isChange_iff _

/-- Every report divides the message ids into its groups, whatever the limits are, and there is a
report unless a limit cannot be read. -/
theorem merge_partitions {c : Catalog} (hc : c.WellFormed) {messages : Value} {o : MergeOptions}
    {d : Detail} (hms : Reads messages ms) (hadmits : Admits o order d)
    (hbuiltIn : order.IsBuiltIn) (hsource : c.translations.get? o.context = .some source) :
    (∀ r, (c.merge messages o).result = .ok r →
      r.Partitions o.context source (ms.map Message.key)) ∧
      (o.references.Readable → ∃ r, (c.merge messages o).result = .ok r) := by
  constructor
  · intro r hr
    obtain ⟨steps, hrun, rfl⟩ := exists_run_of_merge hms hadmits hsource hr
    exact hrun.partitions (hc.get? hsource) hbuiltIn
  · exact exists_merge hms hadmits hsource

theorem merge_partitions_menu : ∃ r,
    (menuCatalog.merge (.list (menuMessages.map Message.toValue)) menuOptions).result = .ok r ∧
      r.Partitions "menu" menuBucket (menuMessages.map Message.key) := by
  obtain ⟨hall, hreport⟩ := merge_partitions wellFormed_menuCatalog reads_menuMessages
    admits_menuOptions (fun _ _ => SortOrder.noConfusion) get?_menuCatalog
  obtain ⟨r, hr⟩ := hreport readable_menuOptions
  exact ⟨r, hr, hall r hr⟩

end Merge

end MessageCatalog
