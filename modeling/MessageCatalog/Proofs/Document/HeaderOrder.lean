import Mathlib
import MessageCatalog.Proofs.Document.Headers
import MessageCatalog.Proofs.SortOrder

/-!
# The order of the headers

Headers that stand in the order in which they are written are left there: the names that can be
compared with each other are compared in a transitive way, so sorting them again changes nothing.
-/

namespace MessageCatalog.Document

open Text Failure
open Std (TransCmp)

/-- Compare two parts of names; a number comes before a text. -/
def comparePart : NamePart → NamePart → Ordering
  | .number m, .number n => Ord.compare m n
  | .number _, .text _ => .lt
  | .text _, .number _ => .gt
  | .text s, .text t => Text.compare s t

instance : TransCmp comparePart where
  eq_swap {a b} := by
    cases a <;> cases b
    case number.number => exact @Std.OrientedCmp.eq_swap _ Ord.compare _ _ _
    case text.text => exact @Std.OrientedCmp.eq_swap _ Text.compare _ _ _
    all_goals rfl
  isLE_trans {a b c} hab hbc := by
    cases a <;> cases b <;> cases c
    case number.number.number => exact @TransCmp.isLE_trans _ Ord.compare _ _ _ _ hab hbc
    case text.text.text => exact @TransCmp.isLE_trans _ Text.compare _ _ _ _ hab hbc
    all_goals first | rfl | exact absurd hab Bool.false_ne_true | exact absurd hbc Bool.false_ne_true

/-- Where names can be compared, they are compared part by part. -/
lemma compareParts_eq {as bs : List NamePart} {o : Ordering} (h : compareParts as bs = some o) :
    List.compareLex comparePart as bs = o := by
  induction as generalizing bs with
  | nil =>
    cases bs with
    | nil => exact Option.some.inj h
    | cons b bs => exact Option.some.inj h
  | cons a as ih =>
    cases bs with
    | nil => exact Option.some.inj h
    | cons b bs =>
      rw [List.compareLex_cons_cons]
      -- Equal parts are passed over, and the first different ones decide if they are of one kind.
      by_cases hab : a = b
      · subst hab
        have hself : comparePart a a = .eq := Std.ReflCmp.compare_self
        simp only [compareParts, if_true] at h
        rw [hself]
        exact ih h
      · cases a with
        | number m =>
          cases b with
          | number n =>
            simp only [compareParts, hab, if_false] at h
            obtain rfl := Option.some.inj h
            have hne : m ≠ n := fun hmn => hab (congrArg NamePart.number hmn)
            rw [comparePart, Nat.compare_eq_ite_lt]
            by_cases hlt : m < n
            · simp [hlt]
            · have hgt : n < m := by omega
              simp [hlt, hgt]
          | text t =>
            simp only [compareParts, hab, if_false] at h
            cases h
        | text s =>
          cases b with
          | number n =>
            simp only [compareParts, hab, if_false] at h
            cases h
          | text t =>
            simp only [compareParts, hab, if_false] at h
            obtain rfl := Option.some.inj h
            have hne : Text.compare s t ≠ .eq :=
              fun heq => hab (congrArg NamePart.text (Text.eq_of_compare heq))
            rw [comparePart]
            revert hne
            cases Text.compare s t <;> simp

/-- Headers with the parts of their names, in the order in which they are written. -/
def sortKeyed (keyed : List (List NamePart × (Text × Text))) :
    List (List NamePart × (Text × Text)) :=
  keyed.mergeSort fun a b => (List.compareLex comparePart a.1 b.1).isLE

lemma mergeSort_keyed {keyed : List (List NamePart × (Text × Text))}
    (h : ∀ a ∈ keyed, ∀ b ∈ keyed, (compareParts a.1 b.1).isSome = true) :
    (keyed.mergeSort fun a b => compareParts a.1 b.1 != some .gt) = sortKeyed keyed := by
  have hsame := List.map_mergeSort (f := id) (l := keyed)
    (r := fun a b => compareParts a.1 b.1 != some .gt)
    (s := fun a b => (List.compareLex comparePart a.1 b.1).isLE) ?_
  · rwa [List.map_id, List.map_id] at hsame
  · intro a ha b hb
    obtain ⟨o, ho⟩ := Option.isSome_iff_exists.mp (h a ha b hb)
    simp only [id_eq, ho, compareParts_eq ho]
    cases o <;> rfl

lemma sortKeyed_sortKeyed (keyed : List (List NamePart × (Text × Text))) :
    sortKeyed (sortKeyed keyed) = sortKeyed keyed := by
  have htrans : TransCmp fun a b : List NamePart × (Text × Text) =>
      List.compareLex comparePart a.1 b.1 :=
    transCmp_through (List.compareLex comparePart) Prod.fst
  exact List.mergeSort_of_pairwise (pairwise_mergeSort_isLE keyed)

/-- Each header is kept beside the parts of its own name. -/
lemma mapM_nameParts {keyed : List (List NamePart × (Text × Text))}
    (h : ∀ k ∈ keyed, nameParts k.2.1 = .ok k.1) :
    ((keyed.map Prod.snd).mapM fun p => do return ((← nameParts p.1), p) : Except Failure _) =
      .ok keyed := by
  induction keyed with
  | nil => rfl
  | cons k keyed ih =>
    exact keyed_cons_eq_ok_iff.mpr ⟨k.1, keyed, h k List.mem_cons_self,
      ih fun l hl => h l (List.mem_cons_of_mem k hl), rfl⟩

lemma nameParts_of_mem {hs : List (Text × Text)} {keyed : List (List NamePart × (Text × Text))}
    (h : (hs.mapM fun p => do return ((← nameParts p.1), p) : Except Failure _) = .ok keyed) :
    ∀ k ∈ keyed, nameParts k.2.1 = .ok k.1 := by
  intro k hk
  obtain ⟨p, -, hp⟩ := exists_of_forall₂ (mapM_eq_ok_iff.mp h) hk
  obtain ⟨ns, hns, hpure⟩ := bind_eq_ok_iff.mp hp
  obtain rfl := pure_eq_ok_iff.mp hpure
  exact hns

/-- Headers that have been sorted are left in their order. -/
lemma sortHeaders_self {hs sorted : List (Text × Text)} (h : sortHeaders hs = .ok sorted) :
    sortHeaders sorted = .ok sorted := by
  obtain ⟨keyed, hkeyed, hcompare, rfl⟩ := sortHeaders_eq_ok_iff.mp h
  have hmem : ∀ {k}, k ∈ sortKeyed keyed → k ∈ keyed := List.mem_mergeSort.mp
  have hcompare' : ∀ a ∈ sortKeyed keyed, ∀ b ∈ sortKeyed keyed,
      (compareParts a.1 b.1).isSome = true :=
    fun a ha b hb => hcompare a (hmem ha) b (hmem hb)
  rw [mergeSort_keyed hcompare]
  refine sortHeaders_eq_ok_iff.mpr ⟨sortKeyed keyed, mapM_nameParts fun k hk => ?_, hcompare', ?_⟩
  · exact nameParts_of_mem hkeyed k (hmem hk)
  · rw [mergeSort_keyed hcompare', sortKeyed_sortKeyed]

lemma get?_of_perm {α : Type} {m m' : OrderedMap α} (h : m'.entries.Perm m.entries) (k : Text) :
    m'.get? k = m.get? k := by
  apply Option.ext
  intro v
  rw [OrderedMap.get?_eq_some_iff, OrderedMap.get?_eq_some_iff, h.mem_iff]

/-- Headers that stand in the order in which they are written are left in it. -/
theorem orderedHeaders_self {headers headers' : OrderedMap Text} {hs : List (Text × Text)}
    (h : orderedHeaders headers = .ok hs) (hentries : headers'.entries = hs) :
    orderedHeaders headers' = .ok hs := by
  have hperm := orderedHeaders_perm h
  obtain ⟨sorted, hsorted, rfl⟩ := orderedHeaders_eq_ok_iff.mp h
  have hleading : (leadingHeaders.filterMap fun name => (headers'.get? name).map (name, ·)) =
      leadingHeaders.filterMap fun name => (headers.get? name).map (name, ·) := by
    simp only [get?_of_perm (hentries ▸ hperm)]
  have hothers : headers'.entries.filter (fun p => !leadingHeaders.contains p.1) = sorted := by
    rw [hentries, List.filter_append, List.filter_eq_nil_iff.mpr, List.filter_eq_self.mpr,
      List.nil_append]
    · intro p hp
      exact (List.mem_filter.mp ((sortHeaders_perm hsorted).mem_iff.mp hp)).2
    · intro p hp
      simpa using (List.mem_filter.mp ((leading_perm headers).mem_iff.mp hp)).2
  refine orderedHeaders_eq_ok_iff.mpr ⟨sorted, ?_, by rw [hleading]⟩
  rw [hothers]
  exact sortHeaders_self hsorted

end MessageCatalog.Document
