import MessageCatalog.Proofs.Index.History

/-!
# What an index answers

After any run of requests an index answers as a look at the log would: names in the order of their
first addition, references by file and line, and at every reference the first comment that was
given for it. An addition fails just when it brings another comment.
-/

namespace MessageCatalog

namespace Reference

/-- One reference may stand before another: its file comes first, or it is on no later line of the
same file. -/
def MayPrecede (a b : Text) : Prop :=
  Text.compare (split a).1 (split b).1 = .lt ∨
    (split a).1 = (split b).1 ∧ (split a).2 ≤ (split b).2

lemma mayPrecede_of_isLE {a b : Text} (h : (compare a b).isLE = true) : MayPrecede a b := by
  rw [compare, compareParts, compareLines_eq, Ordering.isLE_then_iff_or] at h
  rcases h with h | ⟨h, hline⟩
  · exact Or.inl h
  · exact Or.inr ⟨Text.eq_of_compare h, Int.isLE_compare.mp hline⟩

/-- The second list holds the references of the first, by file and line. References that the order
does not tell apart stand as they do in the first list. -/
structure IsSortOf (refs sorted : List Text) : Prop where
  perm : sorted.Perm refs
  rising : sorted.Pairwise MayPrecede
  stable : ∀ place, sorted.filter (fun ref => split ref = place) =
    refs.filter fun ref => split ref = place

lemma compare_eq_of_split {a b : Text} (h : split a = split b) : compare a b = .eq := by
  rw [compare, h]
  exact (Std.ReflCmp.compare_self : compare b b = .eq)

lemma isSortOf_sort (refs : List Text) : IsSortOf refs (sort refs) where
  perm := List.mergeSort_perm refs _
  rising := by
    rw [sort_eq]
    exact (pairwise_mergeSort_isLE refs).imp mayPrecede_of_isLE
  stable place := by
    rw [sort_eq, filter_mergeSort]
    apply List.mergeSort_of_pairwise
    apply List.pairwise_of_forall_mem_list
    intro a ha b hb
    have ha := of_decide_eq_true (List.mem_filter.mp ha).2
    have hb := of_decide_eq_true (List.mem_filter.mp hb).2
    rw [compare_eq_of_split (ha.trans hb.symm)]
    rfl

end Reference

namespace Index

variable {i : Index} {l : List Addition} {context key reference : Text}

/-! ### The number of keys -/

/-- The keys of all contexts, each with its context. -/
def allKeys (i : Index) : List (Text × Text) :=
  i.contexts.entries.flatMap fun p => p.2.keys.map (p.1, ·)

lemma size_eq (i : Index) : i.size = i.allKeys.length := by
  simp only [size, allKeys, OrderedMap.values, OrderedMap.keys,
    List.length_flatMap, List.length_map, List.map_map, List.sum_eq_foldr]
  rfl

lemma nodup_allKeys (i : Index) : i.allKeys.Nodup := by
  rw [allKeys, List.nodup_flatMap]
  constructor
  · intro p _
    exact p.2.distinct.map (Prod.mk_right_injective p.1)
  · refine (List.pairwise_map.mp i.contexts.distinct).imp fun {p q} hne => ?_
    intro x hp hq
    obtain ⟨k, -, rfl⟩ := List.mem_map.mp hp
    obtain ⟨k', -, hx⟩ := List.mem_map.mp hq
    exact hne (Prod.mk.inj hx).1.symm

lemma mem_allKeys : (context, key) ∈ i.allKeys ↔ key ∈ i.keys context := by
  rw [keys_eq, allKeys, List.mem_flatMap]
  constructor
  · rintro ⟨⟨c, keys⟩, hp, hkey⟩
    obtain ⟨k, hk, heq⟩ := List.mem_map.mp hkey
    obtain ⟨rfl, rfl⟩ := Prod.mk.inj heq
    rw [OrderedMap.get?_eq_some_iff.mpr hp]
    exact hk
  · intro hkey
    cases hget : i.contexts.get? context with
    | none => simp [hget] at hkey
    | some keys =>
      rw [hget] at hkey
      exact ⟨(context, keys), OrderedMap.get?_eq_some_iff.mp hget, List.mem_map_of_mem hkey⟩

lemma Records.size (h : i.Records l) :
    i.size = (l.map fun a => (a.context, a.key)).eraseDups.length := by
  rw [size_eq]
  apply List.Perm.length_eq
  rw [List.perm_ext_iff_of_nodup i.nodup_allKeys (Log.nodup_eraseDups _)]
  rintro ⟨context, key⟩
  rw [mem_allKeys, h.keys, Log.mem_keys]
  simp

/-! ### Answers -/

/-- The index answers as the log says. -/
structure AnswersBy (i : Index) (l : List Addition) : Prop where
  contexts : i.contextNames = Log.contexts l
  keys : ∀ context, i.keys context = Log.keys l context
  /-- References come by file and line, and comments in their order. -/
  refs : ∀ context key, key ∈ Log.keys l context → ∃ refs, i.refs context key = .ok refs ∧
    refs.Nodup ∧ Reference.IsSortOf (Log.places l context key) refs ∧
    i.comments context key = .ok (refs.filterMap (Log.firstComment l context key))
  comment : ∀ context key reference, reference ∈ Log.places l context key →
    i.comment context key reference = .ok (Log.firstComment l context key reference)
  /-- What has not been added is not there. -/
  missing : ∀ context key, key ∉ Log.keys l context → ∃ name,
    i.refs context key = .error (.missingKey name) ∧
    i.comments context key = .error (.missingKey name) ∧
    ∀ reference, i.comment context key reference = .error (.missingKey name)
  missingReference : ∀ context key reference, key ∈ Log.keys l context →
    reference ∉ Log.places l context key →
    i.comment context key reference = .error (.missingKey reference)
  size : i.size = (l.map fun a => (a.context, a.key)).eraseDups.length

lemma places?_eq_error (h : key ∉ i.keys context) :
    ∃ name, i.places? context key = .error (.missingKey name) := by
  unfold keys at h
  unfold places?
  cases hcontext : i.contexts.get? context with
  | none => exact ⟨context, rfl⟩
  | some keys =>
    rw [hcontext] at h
    dsimp only
    rw [OrderedMap.get?_eq_none_iff.mpr h]
    exact ⟨key, rfl⟩

lemma comment_eq (h : key ∈ i.keys context) (reference : Text) :
    i.comment context key reference = match (i.placesOf context key).get? reference with
      | some c => .ok c
      | none => .error (.missingKey reference) := by
  rw [comment, places?_eq h]
  rfl

lemma Records.answersBy (h : i.Records l) : i.AnswersBy l where
  contexts := h.contexts
  keys := h.keys
  refs context key hkey := by
    rw [← h.keys] at hkey
    refine ⟨_, refs_eq hkey, ?_, ?_, ?_⟩
    · exact (List.mergeSort_perm _ _).nodup_iff.mpr (i.placesOf context key).distinct
    · rw [h.places]
      exact Reference.isSortOf_sort _
    · rw [comments_eq hkey]
      congr 2
      exact funext (h.stored_eq context key)
  comment context key reference hmem := by
    have hkey : key ∈ i.keys context := mem_keys_of_mem_placesOf (h.places _ _ ▸ hmem)
    rw [comment_eq hkey, h.comments _ _ _ hmem]
  missing context key hkey := by
    rw [← h.keys] at hkey
    obtain ⟨name, hname⟩ := places?_eq_error hkey
    refine ⟨name, ?_, ?_, fun reference => ?_⟩
    · rw [Index.refs, hname]
      rfl
    · rw [Index.comments, hname]
      rfl
    · rw [Index.comment, hname]
      rfl
  missingReference context key reference hkey hmem := by
    rw [← h.keys] at hkey
    rw [← h.places] at hmem
    rw [comment_eq hkey, OrderedMap.get?_eq_none_iff.mpr hmem]
  size := h.size

lemma nonempty_eq_some_iff {comment : Option Text} {text : Text} :
    nonempty comment = some text ↔ comment = some text ∧ text ≠ [] := by
  rcases comment with _ | _ | ⟨c, rest⟩
  · simp [nonempty]
  · simp [nonempty, eq_comm]
  · simp only [nonempty, Option.some.injEq]
    exact ⟨fun h => ⟨h, h ▸ List.cons_ne_nil c rest⟩, fun h => h.1⟩

lemma ne_nil_of_stored {old : Text} (h : i.stored context key reference = some old) : old ≠ [] :=
  (nonempty_eq_some_iff.mp h).2

lemma Records.comment_eq_some_iff (h : i.Records l) {old : Text} :
    i.comment context key reference = .ok (some old) ↔
      i.stored context key reference = some old := by
  constructor
  · intro hcomment
    by_cases hkey : key ∈ i.keys context
    · rw [comment_eq hkey] at hcomment
      split at hcomment
      · next c hget =>
        obtain rfl := Except.ok.inj hcomment
        have hmem : reference ∈ Log.places l context key := by
          rw [← h.places, OrderedMap.mem_keys_iff]
          exact ⟨_, hget⟩
        rw [h.comments _ _ _ hmem] at hget
        rw [h.stored_eq, Option.some.inj hget]
      · cases hcomment
    · obtain ⟨name, hname⟩ := places?_eq_error hkey
      rw [comment, hname] at hcomment
      cases hcomment
  · intro hstored
    have hmem := mem_placesOf_of_stored hstored
    rw [comment_eq (mem_keys_of_mem_placesOf hmem), h.comments _ _ _ (h.places _ _ ▸ hmem),
      ← h.stored_eq, hstored]

/-- After every run of requests, failed ones among them, the index answers as the log since the last
clearing says. An addition to it fails if and only if its comment is not empty and another one that
is not empty is there for the same key at the same reference. Then it fails with a conflict of these
comments, and the index stays as it was. -/
theorem after_answersBy (requests : List Request) :
    (after requests).AnswersBy (log requests) ∧
      ((after requests).serve .clear).1 = none ∧
      ∀ (a : Addition) (f : Failure),
        (((after requests).serve (.add a)).1 = some f ↔ ∃ old new,
          (after requests).comment a.context a.key a.reference = .ok (some old) ∧
            a.comment = some new ∧ old ≠ [] ∧ new ≠ [] ∧ old ≠ new ∧
            f = .conflict a.key a.reference old new) ∧
        (((after requests).serve (.add a)).1 = some f →
          ((after requests).serve (.add a)).2 = after requests) := by
  have h := records_after requests
  refine ⟨h.answersBy, rfl, fun a f => ?_⟩
  rw [serve_add]
  cases hadd : (after requests).add a.context a.key a.reference a.comment with
  | ok j =>
    obtain ⟨hagree, -⟩ := add_eq_ok_iff.mp hadd
    refine ⟨⟨fun hf => (by cases hf), ?_⟩, fun hf => by cases hf⟩
    rintro ⟨old, new, hold, hnew, -, hgiven, hne, -⟩
    exact absurd (hagree old new (h.comment_eq_some_iff.mp hold)
      (nonempty_eq_some_iff.mpr ⟨hnew, hgiven⟩)) hne
  | error f' =>
    refine ⟨?_, fun _ => rfl⟩
    dsimp only
    rw [Option.some.injEq, ← Except.error.injEq (α := Index), ← hadd, add_eq_error_iff]
    constructor
    · rintro ⟨old, new, hold, hnew, hne, rfl⟩
      obtain ⟨hnew, hgiven⟩ := nonempty_eq_some_iff.mp hnew
      exact ⟨old, new, h.comment_eq_some_iff.mpr hold, hnew, ne_nil_of_stored hold, hgiven, hne,
        rfl⟩
    · rintro ⟨old, new, hold, hnew, -, hgiven, hne, rfl⟩
      exact ⟨old, new, h.comment_eq_some_iff.mp hold, nonempty_eq_some_iff.mpr ⟨hnew, hgiven⟩, hne,
        rfl⟩

end Index

end MessageCatalog
