import MessageCatalog.Proofs.Bucket
import MessageCatalog.Proofs.Reference.Order

/-!
# The built-in orders are canonical

Each built-in order is a consistent comparison, and a bucket that is sorted by one holds the same
entries in its order. The orders that look at message ids leave nothing to chance: they give one
arrangement of the entries, however these were put in.
-/

namespace MessageCatalog

open Std (OrientedCmp TransCmp)

namespace SortOrder

variable {order : SortOrder}

/-! ### Consistent comparisons -/

/-- The number that two entries are compared to changes its sign when they are swapped, and each of
its signs is passed on along a chain of entries. -/
structure IsConsistent (compare : Entry → Entry → Int) : Prop where
  swap : ∀ a b, compare b a = -compare a b
  nonpos_trans : ∀ a b c, compare a b ≤ 0 → compare b c ≤ 0 → compare a c ≤ 0
  neg_trans : ∀ a b c, compare a b < 0 → compare b c < 0 → compare a c < 0
  eq_zero_trans : ∀ a b c, compare a b = 0 → compare b c = 0 → compare a c = 0

lemma isConsistent_sign (cmp : Entry → Entry → Ordering) [TransCmp cmp] :
    IsConsistent fun a b => sign (cmp a b) where
  swap a b := by
    have hrev : cmp b a = (cmp a b).swap := OrientedCmp.eq_swap
    rw [hrev, sign_swap]
  nonpos_trans a b c := by
    simp only [sign_nonpos_iff]
    exact TransCmp.isLE_trans
  neg_trans a b c := by
    simp only [sign_neg_iff]
    exact TransCmp.lt_trans
  eq_zero_trans a b c := by
    simp only [sign_eq_zero_iff]
    exact TransCmp.eq_trans

lemma isConsistent_compare (h : order.IsBuiltIn) (positions : SourceOrder) :
    IsConsistent fun a b => order.compare a b positions := by
  simp only [compare_eq_sign h]
  exact isConsistent_sign (order.ordering positions)

/-! ### Sorted buckets -/

variable {bucket bucket' : Bucket}

lemma entries_sortBucket (h : bucket.WellFormed) (order : SortOrder) (positions : SourceOrder) :
    (order.sortBucket positions bucket).entries =
      keyed (order.sortEntries positions bucket.values) := by
  apply entries_ofList_keyed
  exact ((order.sortEntries_perm positions _).map Entry.msgid).nodup_iff.mpr h.nodup_msgids

lemma values_sortBucket (h : bucket.WellFormed) (order : SortOrder) (positions : SourceOrder) :
    (order.sortBucket positions bucket).values = order.sortEntries positions bucket.values := by
  rw [OrderedMap.values, entries_sortBucket h, map_snd_keyed]

lemma entries_sortBucket_perm (h : bucket.WellFormed) (order : SortOrder)
    (positions : SourceOrder) :
    (order.sortBucket positions bucket).entries.Perm bucket.entries := by
  rw [entries_sortBucket h, h.entries_eq]
  exact (order.sortEntries_perm positions _).map _

lemma pairwise_values_sortBucket (h : order.IsBuiltIn) (hb : bucket.WellFormed)
    (positions : SourceOrder) :
    (order.sortBucket positions bucket).values.Pairwise fun a b =>
      order.compare a b positions ≤ 0 := by
  rw [values_sortBucket hb, sortEntries_eq h]
  refine (pairwise_mergeSort_isLE bucket.values).imp fun {a b} hle => ?_
  rw [compare_eq_sign h]
  exact sign_nonpos_iff.mpr hle

/-- Which entries there are decides how they are sorted, but for the order of the source. -/
lemma sortEntries_eq_of_perm (h : order.IsBuiltIn) (hsource : order ≠ .source)
    (positions positions' : SourceOrder) {es es' : List Entry} (hids : (es.map Entry.msgid).Nodup)
    (hperm : es'.Perm es) :
    order.sortEntries positions' es' = order.sortEntries positions es := by
  rw [sortEntries_eq h, ordering_eq_of_ne_source hsource positions' positions]
  apply mergeSort_eq_of_perm (pairwise_ordering_of_ne_source h hsource positions hids)
  exact hperm.trans (sortEntries_perm order positions es).symm

lemma sortBucket_eq_of_perm (h : order.IsBuiltIn) (hsource : order ≠ .source)
    (positions positions' : SourceOrder) (hb : bucket.WellFormed)
    (hperm : bucket'.entries.Perm bucket.entries) :
    order.sortBucket positions' bucket' = order.sortBucket positions bucket := by
  have hb' : bucket'.WellFormed := fun p hp => hb p (hperm.mem_iff.mp hp)
  have hvalues : bucket'.values.Perm bucket.values := hperm.map Prod.snd
  apply OrderedMap.ext
  rw [entries_sortBucket hb', entries_sortBucket hb,
    sortEntries_eq_of_perm h hsource positions positions' hb.nodup_msgids hvalues]

/-! ### Falling message ids -/

lemma sortEntries_msgidDesc (positions : SourceOrder) {es : List Entry}
    (hids : (es.map Entry.msgid).Nodup) :
    sortEntries .msgidDesc positions es = (sortEntries .msgid positions es).reverse := by
  have hdesc : IsBuiltIn .msgidDesc := fun _ _ => SortOrder.noConfusion
  have hmsgid : IsBuiltIn .msgid := fun _ _ => SortOrder.noConfusion
  rw [sortEntries_eq hdesc]
  apply mergeSort_eq_of_perm
  · exact List.pairwise_reverse.mpr
      (pairwise_ordering_of_ne_source hmsgid SortOrder.noConfusion positions hids)
  · exact ((sortEntries .msgid positions es).reverse_perm.trans (sortEntries_perm _ _ _)).symm

/-! ### First references -/

/-- One entry stands before another by its first reference: in an earlier file, on an earlier line
of the file, or at the same place with a smaller message id. Entries without a reference stand
last, by message id. -/
def PrecedesByReference (a b : Entry) : Prop :=
  match firstReference a, firstReference b with
  | some ref, some ref' =>
    Text.compare (Reference.split ref).1 (Reference.split ref').1 = .lt ∨
      (Reference.split ref).1 = (Reference.split ref').1 ∧
        ((Reference.split ref).2 < (Reference.split ref').2 ∨
          (Reference.split ref).2 = (Reference.split ref').2 ∧
            Text.compare a.msgid b.msgid = .lt)
  | some _, none => True
  | none, some _ => False
  | none, none => Text.compare a.msgid b.msgid = .lt

lemma compare_msgid_of_byMsgid {a b : Entry} (h : byMsgid a b = .lt) (hne : a.msgid ≠ b.msgid) :
    Text.compare a.msgid b.msgid = .lt :=
  (Ordering.then_eq_lt.mp h).resolve_right fun heq => hne (Text.eq_of_compare heq.1)

lemma precedesByReference_of_byReference {a b : Entry} (h : byReference a b = .lt)
    (hne : a.msgid ≠ b.msgid) : PrecedesByReference a b := by
  rw [byReference, Ordering.then_eq_lt] at h
  unfold PrecedesByReference
  split
  · next ref ref' href href' =>
    rw [href, href', compareFirst, Reference.compare, Reference.compareParts,
      Reference.compareLines_eq, Ordering.then_eq_lt, Ordering.then_eq_eq, Int.compare_eq_lt,
      Int.compare_eq_eq] at h
    rcases h with (hfile | ⟨hfile, hline⟩) | ⟨⟨hfile, hline⟩, hmsgid⟩
    · exact Or.inl hfile
    · exact Or.inr ⟨Text.eq_of_compare hfile, Or.inl hline⟩
    · exact Or.inr ⟨Text.eq_of_compare hfile,
        Or.inr ⟨hline, compare_msgid_of_byMsgid hmsgid hne⟩⟩
  · trivial
  · next hnone hsome =>
    rw [hnone, hsome] at h
    rcases h with hfirst | ⟨hfirst, -⟩ <;> cases hfirst
  · next hnone hnone' =>
    rw [hnone, hnone'] at h
    rcases h with hfirst | ⟨-, hmsgid⟩
    · cases hfirst
    · exact compare_msgid_of_byMsgid hmsgid hne

lemma pairwise_sortEntries_reference (positions : SourceOrder) {es : List Entry}
    (hids : (es.map Entry.msgid).Nodup) :
    (sortEntries .reference positions es).Pairwise PrecedesByReference := by
  have hbuiltIn : IsBuiltIn .reference := fun _ _ => SortOrder.noConfusion
  have hdistinct := ((sortEntries_perm .reference positions es).map Entry.msgid).nodup_iff.mpr hids
  refine (pairwise_ordering_of_ne_source hbuiltIn SortOrder.noConfusion positions hids).imp₂ ?_
    (List.pairwise_map.mp hdistinct)
  intro a b hlt hne
  exact precedesByReference_of_byReference hlt hne

/-- A built-in order compares entries consistently, and sorting a bucket by it rearranges the
entries into its order. Unless it is the order of the source, neither the arrangement that was
sorted nor the positions make a difference. Falling message ids are rising ones in reverse, and by
reference the entries with a reference come first, by file and line of the first one and then by
message id. -/
theorem sortBucket_canonical (h : order.IsBuiltIn) (positions : SourceOrder)
    (hb : bucket.WellFormed) :
    IsConsistent (fun a b => order.compare a b positions) ∧
      (order.sortBucket positions bucket).entries.Perm bucket.entries ∧
      ((order.sortBucket positions bucket).values.Pairwise fun a b =>
        order.compare a b positions ≤ 0) ∧
      (order ≠ .source → ∀ positions' bucket', bucket'.entries.Perm bucket.entries →
        order.sortBucket positions' bucket' = order.sortBucket positions bucket) ∧
      (sortBucket .msgidDesc positions bucket).entries =
        (sortBucket .msgid positions bucket).entries.reverse ∧
      (sortBucket .reference positions bucket).values.Pairwise PrecedesByReference := by
  refine ⟨isConsistent_compare h positions, entries_sortBucket_perm hb order positions,
    pairwise_values_sortBucket h hb positions, ?_, ?_, ?_⟩
  · intro hsource positions' bucket' hperm
    exact sortBucket_eq_of_perm h hsource positions positions' hb hperm
  · rw [entries_sortBucket hb, entries_sortBucket hb, sortEntries_msgidDesc positions hb.nodup_msgids,
      keyed, List.map_reverse]
    rfl
  · rw [values_sortBucket hb]
    exact pairwise_sortEntries_reference positions hb.nodup_msgids

def deckEntries : List Entry :=
  [{ msgid := "Open", comments := some { reference := some "b.py:9" } },
    { msgid := "Close", comments := some { reference := some "a.py:10 c.py:1" } },
    { msgid := "Save" },
    { msgid := "Quit", comments := some { reference := some "a.py:9" } }]

def deckBucket : Bucket := .ofList (keyed deckEntries)

theorem sortBucket_canonical_deck :
    IsBuiltIn .reference ∧ deckBucket.WellFormed ∧
      sortBucket .reference .empty (.ofList (keyed deckEntries.reverse)) =
        sortBucket .reference .empty deckBucket ∧
      (sortBucket .reference .empty deckBucket).values.Pairwise PrecedesByReference := by
  have hbuiltIn : IsBuiltIn .reference := fun _ _ => SortOrder.noConfusion
  have hnodup : (deckEntries.map Entry.msgid).Nodup := by decide
  have hwell : deckBucket.WellFormed := Bucket.wellFormed_of_entries (entries_ofList_keyed hnodup)
  obtain ⟨-, -, -, hsame, -, hprecedes⟩ := sortBucket_canonical hbuiltIn .empty hwell
  refine ⟨hbuiltIn, hwell, hsame SortOrder.noConfusion .empty _ ?_, hprecedes⟩
  rw [deckBucket, entries_ofList_keyed (by decide), entries_ofList_keyed hnodup, keyed, keyed,
    List.map_reverse]
  exact List.reverse_perm _

end SortOrder

end MessageCatalog
