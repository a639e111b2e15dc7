import Mathlib
import MessageCatalog.Proofs.Merge.Partition

/-!
# The order of the source

Entries that are sorted by their places in the source come in the order of the source, however they
were arranged, and behind them come those that the source does not have, in the order in which they
were given.
-/

namespace MessageCatalog

open Std (TransCmp)

namespace SortOrder

variable {keys ids : List Text}

/-- Order message ids by their places in a list; those without a place come last. -/
def byPlace (keys : List Text) (k k' : Text) : Ordering :=
  comparePositions ((positions keys).get? k) ((positions keys).get? k')

instance (keys : List Text) : TransCmp (byPlace keys) := by
  have h : byPlace keys = fun k k' =>
      absentLast Ord.compare ((positions keys).get? k) ((positions keys).get? k') :=
    funext fun k => funext fun k' => comparePositions_eq _ _
  rw [h]
  exact transCmp_through (absentLast Ord.compare) (positions keys).get?

/-- A list is in strictly rising order by its own places. -/
lemma pairwise_byPlace (h : keys.Nodup) : keys.Pairwise fun k k' => byPlace keys k k' = .lt := by
  rw [List.pairwise_iff_getElem]
  intro i j hi hj hij
  rw [byPlace, get?_positions h hi, get?_positions h hj, comparePositions, if_pos hij]

lemma byPlace_of_not_mem (h : keys.Nodup) {k k' : Text} (hk : k ∉ keys) :
    byPlace keys k k' = if k' ∈ keys then .gt else .eq := by
  rw [byPlace, get?_positions_of_not_mem h hk]
  split
  · rename_i hk'
    obtain ⟨i, hi, rfl⟩ := List.getElem_of_mem hk'
    rw [get?_positions h hi]
    rfl
  · rename_i hk'
    rw [get?_positions_of_not_mem h hk']
    rfl

/-- A list in which those that pass a test come first is cut there. -/
lemma filter_append_filter_not {α : Type} {p : α → Bool} {l : List α}
    (h : l.Pairwise fun a b => p b = true → p a = true) :
    l.filter p ++ l.filter (fun a => !p a) = l := by
  induction h with
  | nil => rfl
  | @cons a l ha _ ih =>
    by_cases hp : p a = true
    · rw [List.filter_cons_of_pos hp, List.filter_cons_of_neg (by simp [hp]), List.cons_append, ih]
    · have hnone : ∀ b ∈ l, ¬p b = true := fun b hb hpb => hp (ha b hb hpb)
      have hall : ∀ b ∈ l, (!p b) = true := fun b hb => by simpa using hnone b hb
      rw [List.filter_cons_of_neg hp, List.filter_cons_of_pos (by simpa using hp),
        List.filter_eq_nil_iff.mpr hnone, List.filter_eq_self.mpr hall, List.nil_append]

/-- Message ids that are sorted by their places: those with a place, and then the others as they
were. -/
theorem mergeSort_byPlace (hkeys : keys.Nodup) (hids : ids.Nodup) :
    (ids.mergeSort fun k k' => (byPlace keys k k').isLE) =
      keys.filter (· ∈ ids) ++ ids.filter (· ∉ keys) := by
  -- Ids with a place come before those without, so the two kinds can be sorted apart: the one
  -- by their places, the other stay as they are.
  have hsorted : (ids.mergeSort fun k k' => (byPlace keys k k').isLE).Pairwise
      fun k k' => decide (k' ∈ keys) = true → decide (k ∈ keys) = true := by
    refine (pairwise_mergeSort_isLE ids).imp ?_
    intro k k' hle hk'
    by_contra hk
    rw [byPlace_of_not_mem hkeys (by simpa using hk), if_pos (of_decide_eq_true hk')] at hle
    exact Bool.false_ne_true hle
  have hknown : ((ids.filter (· ∈ keys)).mergeSort fun k k' => (byPlace keys k k').isLE) =
      keys.filter (· ∈ ids) := by
    apply mergeSort_eq_of_perm ((pairwise_byPlace hkeys).filter _)
    rw [List.perm_ext_iff_of_nodup (hids.filter _) (hkeys.filter _)]
    intro k
    simp only [List.mem_filter, decide_eq_true_eq]
    exact and_comm
  have hunknown : ((ids.filter (· ∉ keys)).mergeSort fun k k' => (byPlace keys k k').isLE) =
      ids.filter (· ∉ keys) := by
    apply List.mergeSort_of_pairwise
    apply List.pairwise_of_forall_mem_list
    intro k hk k' hk'
    have hnot : k ∉ keys := of_decide_eq_true (List.mem_filter.mp hk).2
    have hnot' : k' ∉ keys := of_decide_eq_true (List.mem_filter.mp hk').2
    rw [byPlace_of_not_mem hkeys hnot, if_neg hnot']
    rfl
  have hrest : ids.filter (fun k => !decide (k ∈ keys)) = ids.filter (· ∉ keys) := by
    simp only [decide_not]
  rw [← filter_append_filter_not hsorted, filter_mergeSort, filter_mergeSort, hknown, hrest,
    hunknown]

/-- Entries in the order of the source, by their message ids. -/
lemma map_msgid_sortEntries_source (hkeys : keys.Nodup) {es : List Entry}
    (hids : (es.map Entry.msgid).Nodup) :
    (sortEntries .source (positions keys) es).map Entry.msgid =
      keys.filter (· ∈ es.map Entry.msgid) ++ (es.map Entry.msgid).filter (· ∉ keys) := by
  have hbuiltIn : IsBuiltIn .source := fun _ _ => SortOrder.noConfusion
  rw [sortEntries_eq hbuiltIn, ← mergeSort_byPlace hkeys hids]
  exact List.map_mergeSort fun e _ e' _ => rfl

end SortOrder

namespace Merge

variable {o : ReferenceOptions} {context : Text} {source : Bucket} {ms : List Message}
  {steps : List (Text × Step)}

lemma keys_sortedBucket_source {es : List Entry} (h : (es.map Entry.msgid).Nodup) :
    (sortedBucket .source source es).keys =
      source.keys.filter (· ∈ es.map Entry.msgid) ++
        (es.map Entry.msgid).filter (· ∉ source.keys) := by
  have hkeys : source.keys.Nodup := source.distinct
  rw [keys_sortedBucket h, SortOrder.map_msgid_sortEntries_source hkeys h]

/-- Merged and missing entries have all message ids of the source, and those of new messages. -/
lemma Run.keys_patch_source (h : Run o context source ms steps) (hsource : source.WellFormed) :
    (sortedBucket .source source
      (mergedEntries steps ++ missingEntries source (ms.map Message.key))).keys =
        source.keys.filter (· ≠ []) ++ (ms.map Message.key).filter (· ∉ source.keys) := by
  rw [keys_sortedBucket_source (h.nodup_msgids hsource), List.map_append, h.msgids hsource,
    List.filter_append]
  have hmissing : ((missingEntries source (ms.map Message.key)).map Entry.msgid).filter
      (· ∉ source.keys) = [] := by
    rw [List.filter_eq_nil_iff]
    intro k hk
    simpa using ((mem_msgids_missingEntries hsource).mp hk).1
  have hold : source.keys.filter (· ∈ ms.map Message.key ++
      (missingEntries source (ms.map Message.key)).map Entry.msgid) =
        source.keys.filter (· ≠ []) := by
    apply List.filter_congr
    intro k hk
    rw [decide_eq_decide, List.mem_append, mem_msgids_missingEntries hsource]
    constructor
    · rintro (hkey | ⟨-, hne, -⟩)
      · obtain ⟨m, hm, rfl⟩ := List.mem_map.mp hkey
        exact h.nonempty m hm
      · exact hne
    · intro hne
      by_cases hkey : k ∈ ms.map Message.key
      · exact Or.inl hkey
      · exact Or.inr ⟨hk, hne, hkey⟩
  rw [hmissing, hold, List.append_nil]

/-- In the order of the source, the patched bucket has the message ids of the source as they stand
there, whatever the order of the messages is, and then those that were added, in the order of the
messages. The bucket that replaces it has the message ids of the source that messages have, as they
stand there, and then those that were added. -/
theorem merge_keeps_source_order {c : Catalog} (hc : c.WellFormed) {messages : Value}
    {o : MergeOptions} {d : Detail} (hms : Reads messages ms) (hadmits : Admits o .source d)
    (hsource : c.translations.get? o.context = some source) :
    (o.references.Readable → ∃ r, (c.merge messages o).result = .ok r) ∧
      ∀ r, (c.merge messages o).result = .ok r → ∃ patch replace,
        r.patch.translations.get? o.context = some patch ∧
        r.replace.translations.get? o.context = some replace ∧
        patch.keys = source.keys.filter (· ≠ []) ++ r.ids .added ∧
        replace.keys = source.keys.filter (· ∈ ms.map Message.key) ++ r.ids .added ∧
        r.ids .added = (ms.map Message.key).filter (· ∉ source.keys) := by
  refine ⟨exists_merge hms hadmits hsource, ?_⟩
  intro r hr
  obtain ⟨steps, hrun, rfl⟩ := exists_run_of_merge hms hadmits hsource hr
  have hwell := hc.get? hsource
  obtain ⟨hpatch, hreplace⟩ := report_catalogs hrun hwell c .source
  have hadded : (report c o.context .source source steps).ids .added =
      (ms.map Message.key).filter (· ∉ source.keys) := by
    rw [hrun.ids_added]
    apply List.filter_congr
    intro k _
    rw [Bool.eq_iff_iff, Bool.not_eq_true', OrderedMap.contains_eq_false_iff, decide_eq_true_eq]
  rw [hpatch, hreplace, hadded]
  refine ⟨_, _, Catalog.get?_withContext c _ _, Catalog.get?_withContext c _ _,
    hrun.keys_patch_source hwell, ?_, rfl⟩
  rw [keys_sortedBucket_source (hrun.nodup_merged hwell), hrun.msgids hwell]

theorem merge_keeps_source_order_menu : ∃ r patch,
    (menuCatalog.merge (.list (menuMessages.map Message.toValue)) menuOptions).result = .ok r ∧
      r.patch.translations.get? menuOptions.context = some patch ∧
      patch.keys = menuBucket.keys ++ ["New".toList] := by
  obtain ⟨hreport, horder⟩ := merge_keeps_source_order wellFormed_menuCatalog reads_menuMessages
    admits_menuOptions get?_menuCatalog
  obtain ⟨r, hr⟩ := hreport readable_menuOptions
  obtain ⟨patch, -, hpatch, -, hkeys, -, hadded⟩ := horder r hr
  refine ⟨r, patch, hr, hpatch, ?_⟩
  rw [hkeys, hadded]
  decide

end Merge

end MessageCatalog
