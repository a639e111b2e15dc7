import Mathlib
import MessageCatalog.SortOrder
import MessageCatalog.Proofs.OrderedMap

/-!
# Laws of the orders of entries

Every built-in order compares in a transitive way, so that sorting puts entries in order and keeps
the places of those it does not tell apart. Entries with different message ids, once they are in
order, are told apart by every built-in order, so sorting them again from any arrangement gives
the same list.
-/

namespace MessageCatalog

open Std (OrientedCmp TransCmp LawfulEqCmp)

/-! ### Comparisons -/

section Comparisons

variable {α β : Type} {cmp : α → α → Ordering}

lemma transCmp_through (cmp : α → α → Ordering) [h : TransCmp cmp] (f : β → α) :
    TransCmp fun a b => cmp (f a) (f b) where
  eq_swap := h.eq_swap
  isLE_trans := h.isLE_trans

/-- A comparison of what may be absent, which comes last. -/
def absentLast (cmp : α → α → Ordering) : Option α → Option α → Ordering
  | some a, some b => cmp a b
  | some _, none => .lt
  | none, some _ => .gt
  | none, none => .eq

instance [h : TransCmp cmp] : TransCmp (absentLast cmp) where
  eq_swap {a b} := by
    cases a <;> cases b
    case some.some => exact h.eq_swap
    all_goals rfl
  isLE_trans {a b c} hab hbc := by
    cases a <;> cases b <;> cases c
    case some.some.some => exact h.isLE_trans hab hbc
    all_goals first | rfl | exact absurd hab Bool.false_ne_true | exact absurd hbc Bool.false_ne_true

end Comparisons

lemma Text.compare_eq (s t : Text) :
    Text.compare s t = List.compareLex (compareOn Char.toNat) s t := by
  induction s generalizing t with
  | nil => cases t <;> rfl
  | cons c s ih =>
    cases t with
    | nil => rfl
    | cons d t =>
      rw [Text.compare, ih, List.compareLex_cons_cons, compareOn, Nat.compare_eq_ite_lt]
      split_ifs <;> rfl

instance lawfulEqCmp_toNat : LawfulEqCmp (compareOn Char.toNat) where
  compare_self := Nat.compare_eq_eq.mpr rfl
  eq_of_compare h := Char.toNat_inj.mp (Nat.compare_eq_eq.mp h)

instance : TransCmp Text.compare := by
  rw [show Text.compare = List.compareLex (compareOn Char.toNat) from
    funext fun s => funext fun t => Text.compare_eq s t]
  infer_instance

lemma Text.eq_of_compare {s t : Text} (h : Text.compare s t = .eq) : s = t := by
  rw [Text.compare_eq] at h
  exact LawfulEqCmp.eq_of_compare h

lemma Text.compare_eq_eq_iff {s t : Text} : Text.compare s t = .eq ↔ s = t := by
  refine ⟨Text.eq_of_compare, ?_⟩
  rintro rfl
  exact Std.ReflCmp.compare_self

lemma Reference.compare_eq (a b : Text) :
    Reference.compare a b =
      compareLex (fun a b : Text => Text.compare (split a).1 (split b).1)
        (fun a b : Text => Ord.compare (split a).2 (split b).2) a b := by
  rw [compareLex, Int.compare_eq_ite_lt]
  rfl

instance : TransCmp Reference.compare := by
  rw [show Reference.compare = compareLex (fun a b : Text => Text.compare (Reference.split a).1
      (Reference.split b).1) (fun a b : Text => Ord.compare (Reference.split a).2
      (Reference.split b).2) from funext fun a => funext fun b => Reference.compare_eq a b]
  have := transCmp_through Text.compare fun ref => (Reference.split ref).1
  have := transCmp_through (Ord.compare (α := Int)) fun ref => (Reference.split ref).2
  infer_instance

namespace SortOrder

/-! ### The built-in orders -/

instance : TransCmp byMsgid := by
  have := transCmp_through Text.compare fun e : Entry => e.msgid
  have := transCmp_through Text.compare fun e : Entry => e.msgctxt.getD []
  exact inferInstanceAs (TransCmp (compareLex
    (fun a b : Entry => Text.compare a.msgid b.msgid)
    (fun a b : Entry => Text.compare (a.msgctxt.getD []) (b.msgctxt.getD []))))

lemma msgid_eq_of_byMsgid {a b : Entry} (h : byMsgid a b = .eq) : a.msgid = b.msgid :=
  Text.eq_of_compare (Ordering.then_eq_eq.mp h).1

lemma compareFirst_eq (s t : Option Text) :
    compareFirst s t = absentLast Reference.compare s t := by
  cases s <;> cases t <;> rfl

lemma byReference_eq (a b : Entry) :
    byReference a b = compareLex
      (fun a b => absentLast Reference.compare (firstReference a) (firstReference b)) byMsgid a b := by
  rw [byReference, compareFirst_eq]
  rfl

lemma comparePositions_eq (m n : Option Nat) :
    comparePositions m n = absentLast Ord.compare m n := by
  cases m <;> cases n
  case some.some => exact (Nat.compare_eq_ite_lt _ _).symm
  all_goals rfl

/-- An order that needs no comparison from outside. -/
def IsBuiltIn (order : SortOrder) : Prop := ∀ name f, order ≠ .custom name f

/-- The comparison of a built-in order. -/
def ordering (order : SortOrder) (positions : SourceOrder) (a b : Entry) : Ordering :=
  match order with
  | .source => bySource a b positions
  | .msgid => byMsgid a b
  | .msgidDesc => byMsgid b a
  | .reference => byReference a b
  | .custom _ _ => .eq

instance (order : SortOrder) (positions : SourceOrder) : TransCmp (order.ordering positions) := by
  cases order with
  | source =>
    have h : ordering .source positions = fun a b =>
        absentLast Ord.compare (positions.get? a.msgid) (positions.get? b.msgid) :=
      funext fun a => funext fun b => comparePositions_eq _ _
    rw [h]
    exact transCmp_through (absentLast Ord.compare) fun e : Entry => positions.get? e.msgid
  | msgid => exact inferInstanceAs (TransCmp byMsgid)
  | msgidDesc => exact inferInstanceAs (TransCmp fun a b => byMsgid b a)
  | reference =>
    have h : ordering .reference positions = compareLex
        (fun a b => absentLast Reference.compare (firstReference a) (firstReference b)) byMsgid :=
      funext fun a => funext fun b => byReference_eq a b
    rw [h]
    have := transCmp_through (absentLast Reference.compare) firstReference
    infer_instance
  | custom =>
    exact {
      eq_swap := rfl
      isLE_trans := fun _ _ => rfl }

lemma sign_swap (x : Ordering) : sign x.swap = -sign x := by cases x <;> rfl

lemma sign_nonpos_iff {x : Ordering} : sign x ≤ 0 ↔ x.isLE = true := by cases x <;> decide

lemma sign_neg_iff {x : Ordering} : sign x < 0 ↔ x = .lt := by cases x <;> decide

lemma sign_eq_zero_iff {x : Ordering} : sign x = 0 ↔ x = .eq := by cases x <;> decide

lemma compare_eq_sign {order : SortOrder} (h : order.IsBuiltIn) (positions : SourceOrder)
    (a b : Entry) : order.compare a b positions = sign (order.ordering positions a b) := by
  cases order with
  | msgidDesc =>
    have hrev : byMsgid b a = (byMsgid a b).swap := OrientedCmp.eq_swap
    rw [ordering, hrev, sign_swap]
    rfl
  | custom name f => exact absurd rfl (h name f)
  | _ => rfl

lemma decide_compare {order : SortOrder} (h : order.IsBuiltIn) (positions : SourceOrder)
    (a b : Entry) : decide (order.compare a b positions ≤ 0) = (order.ordering positions a b).isLE := by
  rw [compare_eq_sign h, Bool.eq_iff_iff, decide_eq_true_eq, sign_nonpos_iff]

/-- Sorting by a built-in order. -/
lemma sortEntries_eq {order : SortOrder} (h : order.IsBuiltIn) (positions : SourceOrder)
    (es : List Entry) :
    order.sortEntries positions es = es.mergeSort fun a b => (order.ordering positions a b).isLE := by
  rw [sortEntries]
  congr 1
  exact funext fun a => funext fun b => decide_compare h positions a b

lemma sortEntries_perm (order : SortOrder) (positions : SourceOrder) (es : List Entry) :
    (order.sortEntries positions es).Perm es :=
  List.mergeSort_perm es _

end SortOrder

/-! ### Stable sorting -/

section Sorting

variable {α : Type} {cmp : α → α → Ordering} [TransCmp cmp]

variable (cmp) in
lemma isLE_trans (a b c : α) (hab : (cmp a b).isLE = true) (hbc : (cmp b c).isLE = true) :
    (cmp a c).isLE = true :=
  TransCmp.isLE_trans hab hbc

variable (cmp) in
lemma isLE_total (a b : α) : ((cmp a b).isLE || (cmp b a).isLE) = true := by
  have hrev : cmp b a = (cmp a b).swap := OrientedCmp.eq_swap
  rw [hrev]
  cases cmp a b <;> rfl

lemma pairwise_mergeSort_isLE (l : List α) :
    (l.mergeSort fun a b => (cmp a b).isLE).Pairwise fun a b => (cmp a b).isLE = true :=
  List.pairwise_mergeSort (isLE_trans cmp) (isLE_total cmp) l

lemma isLE_of_mergeSort_cons {a : α} {l l₁ l₂ : List α}
    (h : (a :: l).mergeSort (fun a b => (cmp a b).isLE) = l₁ ++ a :: l₂) :
    ∀ b ∈ l₂, (cmp a b).isLE = true := by
  have hsorted : (l₁ ++ a :: l₂).Pairwise fun a b => (cmp a b).isLE = true := by
    rw [← h]
    exact pairwise_mergeSort_isLE (a :: l)
  intro b
  exact List.rel_of_pairwise_cons (List.pairwise_append.mp hsorted).2.1

/-- There is one way to cut a list where a test starts to succeed. -/
lemma append_inj_of_test {q : α → Bool} {x y x' y' : List α} (h : x ++ y = x' ++ y')
    (hx : ∀ b ∈ x, (!q b) = true) (hy : ∀ b ∈ y, q b = true) (hx' : ∀ b ∈ x', (!q b) = true)
    (hy' : ∀ b ∈ y', q b = true) : x = x' ∧ y = y' := by
  have hcut : ∀ {x y : List α}, (∀ b ∈ x, (!q b) = true) → (∀ b ∈ y, q b = true) →
      (x ++ y).filter q = y := by
    intro x y hx hy
    rw [List.filter_append, List.filter_eq_self.mpr hy, List.filter_eq_nil_iff.mpr,
      List.nil_append]
    intro b hb hq
    have hnot := hx b hb
    rw [hq] at hnot
    exact Bool.false_ne_true hnot
  have hright : y = y' := by rw [← hcut hx hy, h, hcut hx' hy']
  subst hright
  exact ⟨List.append_cancel_right h, rfl⟩

/-- Of a list that is sorted, what passes a test is sorted alike: the sort is stable. -/
lemma filter_mergeSort (p : α → Bool) (l : List α) :
    (l.mergeSort fun a b => (cmp a b).isLE).filter p =
      (l.filter p).mergeSort fun a b => (cmp a b).isLE := by
  induction l with
  | nil => simp
  | cons a l ih =>
    obtain ⟨l₁, l₂, hcons, hrest, hbefore⟩ :=
      List.mergeSort_cons (isLE_trans cmp) (isLE_total cmp) a l
    have hafter := isLE_of_mergeSort_cons hcons
    rw [hrest, List.filter_append] at ih
    by_cases hp : p a = true
    · obtain ⟨m₁, m₂, hcons', hrest', hbefore'⟩ :=
        List.mergeSort_cons (isLE_trans cmp) (isLE_total cmp) a (l.filter p)
      have hafter' := isLE_of_mergeSort_cons hcons'
      -- Both lists are cut where the first element that is not below `a` stands.
      obtain ⟨hleft, hright⟩ := append_inj_of_test (q := fun b => (cmp a b).isLE)
        (ih.trans hrest') (fun b hb => hbefore b (List.mem_of_mem_filter hb))
        (fun b hb => hafter b (List.mem_of_mem_filter hb)) hbefore' hafter'
      rw [hcons, List.filter_cons_of_pos hp, hcons', List.filter_append,
        List.filter_cons_of_pos hp, hleft, hright]
    · rw [hcons, List.filter_cons_of_neg hp, ← ih, List.filter_append,
        List.filter_cons_of_neg hp]

/-- A list in strictly rising order is what sorting makes of any arrangement of it. -/
lemma mergeSort_eq_of_perm {l s : List α} (hs : s.Pairwise fun a b => cmp a b = .lt)
    (h : l.Perm s) : (l.mergeSort fun a b => (cmp a b).isLE) = s := by
  have hle : s.Pairwise fun a b => (cmp a b).isLE = true :=
    hs.imp fun hlt => by rw [hlt]; rfl
  refine List.Perm.eq_of_pairwise ?_ (pairwise_mergeSort_isLE l) hle
    ((List.mergeSort_perm l _).trans h)
  intro a b ha hb hab hba
  by_contra hne
  have hsymm : Std.Symm fun a b => cmp a b = .lt ∨ cmp b a = .lt := ⟨fun _ _ => Or.symm⟩
  have hmem : a ∈ s := h.mem_iff.mp (List.mem_mergeSort.mp ha)
  have hordered : s.Pairwise fun a b => cmp a b = .lt ∨ cmp b a = .lt := hs.imp Or.inl
  rcases hordered.forall hmem hb hne with hlt | hlt
  · rw [OrientedCmp.gt_of_lt hlt] at hba
    exact Bool.false_ne_true hba
  · rw [OrientedCmp.gt_of_lt hlt] at hab
    exact Bool.false_ne_true hab

end Sorting

/-! ### Entries that are sorted alike -/

/-- Two entries that have all in common that a built-in order looks at. -/
structure Entry.SortsLike (e x : Entry) : Prop where
  msgid : x.msgid = e.msgid
  msgctxt : x.msgctxt = e.msgctxt
  firstReference : SortOrder.firstReference x = SortOrder.firstReference e

lemma Entry.SortsLike.refl (e : Entry) : e.SortsLike e := ⟨rfl, rfl, rfl⟩

namespace SortOrder

variable {order : SortOrder}

lemma ordering_of_sortsLike {a b x y : Entry} (hx : a.SortsLike x) (hy : b.SortsLike y)
    (order : SortOrder) (positions : SourceOrder) :
    order.ordering positions x y = order.ordering positions a b := by
  cases order with
  | source => simp only [ordering, bySource, hx.msgid, hy.msgid]
  | msgid => simp only [ordering, byMsgid, hx.msgid, hy.msgid, hx.msgctxt, hy.msgctxt]
  | msgidDesc => simp only [ordering, byMsgid, hx.msgid, hy.msgid, hx.msgctxt, hy.msgctxt]
  | reference =>
    simp only [ordering, byReference, byMsgid, hx.msgid, hy.msgid, hx.msgctxt, hy.msgctxt,
      hx.firstReference, hy.firstReference]
  | custom => rfl

/-- What passes a test is sorted alike. -/
lemma filter_sortEntries (h : order.IsBuiltIn) (positions : SourceOrder) (p : Entry → Bool)
    (es : List Entry) :
    (order.sortEntries positions es).filter p = order.sortEntries positions (es.filter p) := by
  rw [sortEntries_eq h, sortEntries_eq h, filter_mergeSort]

/-! ### Sorting again -/

lemma entries_positions {ids : List Text} (h : ids.Nodup) :
    (positions ids).entries = ids.zipIdx := by
  have hpairs : (ids.zipIdx.map fun p => (p.1, p.2)) = ids.zipIdx := by simp
  have hkeys : (ids.zipIdx.map Prod.fst).Nodup := by
    rw [List.zipIdx_map_fst]
    exact h
  rw [positions, hpairs, OrderedMap.entries_ofList hkeys]

lemma get?_positions {ids : List Text} (h : ids.Nodup) {i : Nat} (hi : i < ids.length) :
    (positions ids).get? ids[i] = some i := by
  rw [OrderedMap.get?_eq_some_iff, entries_positions h]
  exact List.mk_mem_zipIdx_iff_getElem?.mpr (List.getElem?_eq_getElem hi)

lemma get?_positions_of_not_mem {ids : List Text} (h : ids.Nodup) {k : Text} (hk : k ∉ ids) :
    (positions ids).get? k = none := by
  rw [OrderedMap.get?_eq_none_iff, OrderedMap.keys, entries_positions h, List.zipIdx_map_fst]
  exact hk

/-- Only the order of the source catalog does not look at message ids. -/
lemma msgid_eq_of_ordering (h : order.IsBuiltIn) (hsource : order ≠ .source)
    {positions : SourceOrder} {a b : Entry} (hab : order.ordering positions a b = .eq) :
    a.msgid = b.msgid := by
  cases order with
  | source => exact absurd rfl hsource
  | msgid => exact msgid_eq_of_byMsgid hab
  | msgidDesc => exact (msgid_eq_of_byMsgid hab).symm
  | reference => exact msgid_eq_of_byMsgid (Ordering.then_eq_eq.mp hab).2
  | custom name f => exact absurd rfl (h name f)

lemma ordering_eq_of_ne_source (hsource : order ≠ .source) (positions positions' : SourceOrder) :
    order.ordering positions = order.ordering positions' := by
  cases order with
  | source => exact absurd rfl hsource
  | _ => rfl

/-- Entries with different message ids that have been sorted by an order that looks at message ids
are in strictly rising order. -/
lemma pairwise_ordering_of_ne_source (h : order.IsBuiltIn) (hsource : order ≠ .source)
    (start : SourceOrder) {es : List Entry} (hids : (es.map Entry.msgid).Nodup) :
    (order.sortEntries start es).Pairwise fun a b => order.ordering start a b = .lt := by
  have hsorted : (order.sortEntries start es).Pairwise fun a b =>
      (order.ordering start a b).isLE = true := by
    rw [sortEntries_eq h]
    exact pairwise_mergeSort_isLE es
  have hdistinct := ((sortEntries_perm order start es).map Entry.msgid).nodup_iff.mpr hids
  refine hsorted.imp₂ ?_ (List.pairwise_map.mp hdistinct)
  intro a b hle hne
  cases hcompare : order.ordering start a b with
  | lt => rfl
  | eq => exact absurd (msgid_eq_of_ordering h hsource hcompare) hne
  | gt =>
    rw [hcompare] at hle
    exact absurd hle Bool.false_ne_true

/-- Entries with different message ids that have been sorted are in strictly rising order, when
positions are counted in the sorted list, behind other message ids. -/
lemma pairwise_ordering_append (h : order.IsBuiltIn) (start : SourceOrder) {es : List Entry}
    {before : List Text}
    (hids : (before ++ (order.sortEntries start es).map Entry.msgid).Nodup) :
    (order.sortEntries start es).Pairwise fun a b =>
      order.ordering (positions (before ++ (order.sortEntries start es).map Entry.msgid)) a b =
        .lt := by
  -- In the order of the source the places in the sorted list decide; the other orders do not
  -- look at any places.
  by_cases hsource : order = .source
  · subst hsource
    rw [List.pairwise_iff_getElem]
    intro i j hi hj hij
    have hget : ∀ k (hk : k < (sortEntries .source start es).length),
        (positions (before ++ (sortEntries .source start es).map Entry.msgid)).get?
          (sortEntries .source start es)[k].msgid = some (before.length + k) := by
      intro k hk
      have hposition := get?_positions hids (i := before.length + k) (by simpa using hk)
      rw [List.getElem_append_right (by omega)] at hposition
      simpa using hposition
    rw [ordering, bySource, hget i hi, hget j hj, comparePositions, if_pos (by omega)]
  · rw [ordering_eq_of_ne_source hsource _ start]
    apply pairwise_ordering_of_ne_source h hsource
    have hdistinct := (List.nodup_append.mp hids).2.1
    exact ((sortEntries_perm order start es).map Entry.msgid).nodup_iff.mp hdistinct

lemma pairwise_ordering (h : order.IsBuiltIn) (start : SourceOrder) {es : List Entry}
    (hids : (es.map Entry.msgid).Nodup) :
    (order.sortEntries start es).Pairwise fun a b =>
      order.ordering (positions ((order.sortEntries start es).map Entry.msgid)) a b = .lt := by
  have hsorted : ([] ++ (order.sortEntries start es).map Entry.msgid).Nodup :=
    ((sortEntries_perm order start es).map _).nodup_iff.mpr hids
  exact pairwise_ordering_append h start hsorted

/-- Sorting any arrangement of entries that have been sorted, with positions counted in the sorted
list, gives them in the same order. -/
theorem sortEntries_again (h : order.IsBuiltIn) (start : SourceOrder) {es : List Entry}
    (hids : (es.map Entry.msgid).Nodup) {p : Entry → Bool} {l : List Entry}
    (hl : l.Perm ((order.sortEntries start es).filter p)) :
    order.sortEntries (positions ((order.sortEntries start es).map Entry.msgid)) l =
      (order.sortEntries start es).filter p := by
  rw [sortEntries_eq h]
  exact mergeSort_eq_of_perm ((pairwise_ordering h start hids).filter p) hl

end SortOrder

end MessageCatalog
