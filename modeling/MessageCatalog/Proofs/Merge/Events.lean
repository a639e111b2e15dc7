import Mathlib
import MessageCatalog.Proofs.Merge.Partition

/-!
# Failures and events of a merge

Messages are read, checked and merged one after another. The first one that cannot be read, or
whose key has been there before, ends the merge with its failure, and what has become of the
messages before it has been told by then. The missing message ids are told only when all messages
have been merged.
-/

namespace MessageCatalog

open Failure

/-- The key of a value, if it is a message. -/
def Message.keyOf? (v : Value) : Option Text :=
  match ofValue v with
  | .ok m => some m.key
  | .error _ => none

lemma Message.keyOf?_of_ok {v : Value} {m : Message} (h : ofValue v = .ok m) :
    keyOf? v = some m.key := by
  rw [keyOf?, h]

lemma Message.filterMap_keyOf? {values : List Value} {ms : List Message}
    (h : values.mapM ofValue = .ok ms) : values.filterMap keyOf? = ms.map key := by
  have hread := mapM_eq_ok_iff.mp h
  clear h
  induction hread with
  | nil => rfl
  | cons hm _ ih => rw [List.filterMap_cons_some (keyOf?_of_ok hm), ih, List.map_cons]

namespace Merge

variable {o : ReferenceOptions} {context : Text} {source : Bucket} {seen : List Text} {v : Value}
  {values : List Value} {ms : List Message} {steps : List (Text × Step)} {f : Failure}

/-! ### The first failure -/

/-- A value that ends a merge after the given keys, with the failure that it gives: it is no
message, or its key is among them. -/
inductive Stops (keys : List Text) (v : Value) : Failure → Prop where
  | rejected {f : Failure} (h : Message.ofValue v = .error f) : Stops keys v f
  | repeated {m : Message} (h : Message.ofValue v = .ok m) (hmem : m.key ∈ keys) :
      Stops keys v (.duplicateKey m.key)

/-- Some value is no message, or it has the key of an earlier one. -/
def HasStop (values : List Value) : Prop :=
  ∃ before v after f, values = before ++ v :: after ∧ Stops (before.filterMap Message.keyOf?) v f

/-- The first value of this kind gives the failure, and the messages stand before it. -/
def IsFirstStop (values : List Value) (ms : List Message) (f : Failure) : Prop :=
  ∃ before v after, values = before ++ v :: after ∧ before.mapM Message.ofValue = .ok ms ∧
    (ms.map Message.key).Nodup ∧ Stops (ms.map Message.key) v f

lemma IsFirstStop.hasStop (h : IsFirstStop values ms f) : HasStop values := by
  obtain ⟨before, v, after, hvalues, hread, -, hstop⟩ := h
  exact ⟨before, v, after, f, hvalues, (Message.filterMap_keyOf? hread).symm ▸ hstop⟩

/-- Messages with different keys do not end a merge. -/
lemma not_hasStop (hread : values.mapM Message.ofValue = .ok ms)
    (hdistinct : (ms.map Message.key).Nodup) : ¬HasStop values := by
  rintro ⟨before, v, after, f, rfl, hstop⟩
  rw [← Message.filterMap_keyOf? hread, List.filterMap_append] at hdistinct
  cases hstop with
  | rejected hrejected =>
    obtain ⟨m, -, hm⟩ := exists_of_forall₂ (mapM_eq_ok_iff.mp hread).flip
      (List.mem_append_right before List.mem_cons_self)
    rw [hrejected] at hm
    cases hm
  | repeated hm hmem =>
    rw [List.filterMap_cons_some (Message.keyOf?_of_ok hm)] at hdistinct
    exact (List.disjoint_of_nodup_append hdistinct) hmem List.mem_cons_self

/-- Merging one value fails when it ends the merge, and in no other way. -/
lemma mergeValue_eq_error_iff (hlimits : o.Readable) :
    mergeValue o context source seen v = .error f ↔ Stops seen v f := by
  rw [mergeValue, bind_eq_error_iff]
  constructor
  · rintro (h | ⟨m, hm, h⟩)
    · exact .rejected h
    · by_cases hseen : seen.contains m.key = true
      · rw [if_pos hseen] at h
        obtain rfl := Except.error.inj h
        exact .repeated hm (List.contains_iff_mem.mp hseen)
      · have hone : ∃ s, mergeOne o context source m = .ok s :=
          exists_mergeOne m (exists_mergeReference_of_readable hlimits m)
        obtain ⟨s, hs⟩ := hone
        rw [if_neg hseen, hs] at h
        cases h
  · rintro (h | ⟨hm, hmem⟩)
    · exact Or.inl h
    · refine Or.inr ⟨_, hm, ?_⟩
      rw [if_pos (List.contains_iff_mem.mpr hmem)]
      rfl

lemma mergeAll_cons_eq_error_iff :
    mergeAll o context source seen (v :: values) = (steps, some f) ↔
      (mergeValue o context source seen v = .error f ∧ steps = []) ∨
        ∃ x rest, mergeValue o context source seen v = .ok x ∧
          mergeAll o context source (x.1 :: seen) values = (rest, some f) ∧ steps = x :: rest := by
  rw [mergeAll]
  cases hv : mergeValue o context source seen v with
  | error f' =>
    constructor
    · intro h
      cases h
      exact Or.inl ⟨rfl, rfl⟩
    · rintro (⟨h, rfl⟩ | ⟨x, rest, h, -⟩)
      · cases h
        rfl
      · cases h
  | ok x =>
    constructor
    · intro h
      obtain ⟨hsteps, hfailure⟩ := Prod.ext_iff.mp h
      exact Or.inr ⟨x, _, rfl, Prod.ext rfl hfailure, hsteps.symm⟩
    · rintro (⟨h, -⟩ | ⟨x', rest, h, hrest, rfl⟩)
      · cases h
      · cases h
        simp only [hrest]

/-- Merging values fails just when all values before one can be merged and this one fails. -/
lemma mergeAll_eq_error_iff (seen : List Text) :
    mergeAll o context source seen values = (steps, some f) ↔
      ∃ before v after, values = before ++ v :: after ∧
        mergeAll o context source seen before = (steps, none) ∧
        mergeValue o context source ((steps.map Prod.fst).reverse ++ seen) v = .error f := by
  -- The keys that have been seen are those of the values before.
  induction values generalizing seen steps with
  | nil =>
    constructor
    · intro h
      cases h
    · rintro ⟨before, v, after, hvalues, -⟩
      exact absurd hvalues (by simp)
  | cons u values ih =>
    rw [mergeAll_cons_eq_error_iff]
    constructor
    · rintro (⟨hu, rfl⟩ | ⟨x, rest, hx, hrest, rfl⟩)
      · exact ⟨[], u, values, rfl, rfl, hu⟩
      · obtain ⟨before, v, after, rfl, hbefore, hv⟩ := (ih _).mp hrest
        refine ⟨u :: before, v, after, rfl, ?_, by simpa using hv⟩
        exact mergeAll_cons_eq_iff.mpr ⟨x, rest, hx, hbefore, rfl⟩
    · rintro ⟨before, v, after, hvalues, hbefore, hv⟩
      cases before with
      | nil =>
        obtain ⟨rfl, rfl⟩ := List.cons.inj hvalues
        obtain ⟨rfl, -⟩ := Prod.mk.inj hbefore
        exact Or.inl ⟨hv, rfl⟩
      | cons w before =>
        obtain ⟨rfl, rfl⟩ := List.cons.inj hvalues
        obtain ⟨x, rest, hx, hrest, rfl⟩ := mergeAll_cons_eq_iff.mp hbefore
        have hfails := (ih _).mpr ⟨before, v, after, rfl, hrest, by simpa using hv⟩
        exact Or.inr ⟨x, rest, hx, hfails, rfl⟩

/-- Values that are messages with different keys have been merged one after another. -/
lemma exists_run_of_mergeAll (h : mergeAll o context source [] values = (steps, none)) :
    ∃ ms, values.mapM Message.ofValue = .ok ms ∧ Run o context source ms steps := by
  obtain ⟨ms, hread, hdistinct, -, hmerged⟩ := (mergeAll_eq_iff []).mp h
  have hreads : Reads (.list values) ms := ⟨⟨values, rfl, hread⟩, hdistinct⟩
  exact ⟨ms, hread, hmerged, hdistinct, hreads.nonempty⟩

/-- When merging fails, it has merged the messages before the first value that ends it. -/
lemma isFirstStop_of_mergeAll (hlimits : o.Readable)
    (h : mergeAll o context source [] values = (steps, some f)) :
    ∃ ms, IsFirstStop values ms f ∧ Run o context source ms steps := by
  obtain ⟨before, v, after, hvalues, hbefore, hv⟩ := (mergeAll_eq_error_iff []).mp h
  obtain ⟨ms, hread, hrun⟩ := exists_run_of_mergeAll hbefore
  have hstop := (mergeValue_eq_error_iff hlimits).mp hv
  rw [hrun.keys, List.append_nil] at hstop
  have hkeys : Stops (ms.map Message.key) v f := by
    cases hstop with
    | rejected hrejected => exact .rejected hrejected
    | repeated hm hmem => exact .repeated hm (List.mem_reverse.mp hmem)
  exact ⟨ms, ⟨before, v, after, hvalues, hread, hrun.distinct, hkeys⟩, hrun⟩

/-! ### What is told -/

/-- The events of a message id that has been merged: it is added, or it is found and then changed
if there are changes. -/
def told (source : Bucket) (s : Text × Step) : List (Event × Text) :=
  if source.contains s.1 then
    (.found, s.1) :: if s.2.tracked.changes.isEmpty then [] else [(.changed, s.1)]
  else [(.added, s.1)]

lemma Run.events_eq (h : Run o context source ms steps) {s : Text × Step} (hs : s ∈ steps) :
    (s.2.events.map fun event => (event, s.1)) = told source s := by
  rw [Step.events, told, h.isNew hs]
  by_cases hfound : source.contains s.1 = true
  · by_cases hsame : s.2.tracked.changes.isEmpty = true <;> simp [hfound, hsame]
  · simp [hfound]

/-- What is missing are the message ids that are no key, in the order of the source. -/
lemma map_fst_missingFrom (source : Bucket) (keys : List Text) :
    (missingFrom source keys).map Prod.fst =
      source.keys.filter fun k => k ≠ [] ∧ k ∉ keys := by
  rw [missingFrom, List.map_map, OrderedMap.keys, List.filter_map]
  have hsame : ∀ p ∈ source.entries, (!p.1.isEmpty && !keys.contains p.1) =
      decide (p.1 ≠ [] ∧ p.1 ∉ keys) := by
    intro p _
    cases p.1 <;> simp
  rw [List.filter_congr hsame]
  rfl

variable {o : MergeOptions}

/-- A merge that fails has told what became of the messages before. -/
lemma Run.events_of_fail (h : Run o.references o.context source ms steps)
    (hmerge : mergeAll o.references o.context source [] values = (steps, some f)) (c : Catalog)
    (order : SortOrder) (d : Detail) :
    (mergeBucket c source o order d values).result = .error f ∧
      (mergeBucket c source o order d values).events = steps.flatMap (told source) := by
  rw [mergeBucket, hmerge]
  exact ⟨rfl, List.flatMap_congr fun s hs => h.events_eq hs⟩

/-- A merge that succeeds has told what became of all messages, and then what is missing. -/
lemma Run.events_of_success (h : Run o.references o.context source ms steps)
    (hmerge : mergeAll o.references o.context source [] values = (steps, none)) (c : Catalog)
    (order : SortOrder) (d : Detail) :
    (mergeBucket c source o order d values).result =
        .ok (report c o.context order source steps) ∧
      (mergeBucket c source o order d values).events = steps.flatMap (told source) ++
        (source.keys.filter fun k => k ≠ [] ∧ k ∉ ms.map Message.key).map
          fun k => (.missing, k) := by
  rw [mergeBucket, hmerge, ← map_fst_missingFrom, List.map_map, ← h.keys]
  refine ⟨rfl, ?_⟩
  show (steps.flatMap fun s => s.2.events.map fun event => (event, s.1)) ++ _ = _
  rw [List.flatMap_congr fun s hs => h.events_eq hs]
  rfl

/-- When the limits on references can be read, a merge fails if and only if some value is no message
or has the key of an earlier one, and its failure is that of the first such value. For each message
before that value, in their order, it has told that the message id is added, or that it is found,
with its change directly after it. A merge that succeeds tells this for all messages and then, in
the order of the source, every message id that none of them has. -/
theorem merge_tells_events {c : Catalog} {messages : Value} {order : SortOrder} {d : Detail}
    (hvalues : messageValues messages = .ok values) (hadmits : Admits o order d)
    (hsource : c.translations.get? o.context = some source) (hlimits : o.references.Readable) :
    ((∃ f, (c.merge messages o).result = .error f) ↔ HasStop values) ∧
      (∀ f, (c.merge messages o).result = .error f → ∃ ms steps, IsFirstStop values ms f ∧
        Run o.references o.context source ms steps ∧
        (c.merge messages o).events = steps.flatMap (told source)) ∧
      ∀ r, (c.merge messages o).result = .ok r → ∃ ms, values.mapM Message.ofValue = .ok ms ∧
        Run o.references o.context source ms r.steps ∧
        (c.merge messages o).events = r.steps.flatMap (told source) ++
          (source.keys.filter fun k => k ≠ [] ∧ k ∉ ms.map Message.key).map
            fun k => (.missing, k) := by
  have hmerge : c.merge messages o = mergeBucket c source o order d values := by
    rw [Catalog.merge, prepare_eq_ok_iff.mpr ⟨hvalues, hsource, hadmits⟩]
  rw [hmerge]
  -- The loop ends at the first value that cannot be merged, or goes through all of them.
  cases hall : mergeAll o.references o.context source [] values with
  | mk steps failure =>
    cases failure with
    | some f =>
      obtain ⟨ms, hstop, hrun⟩ := isFirstStop_of_mergeAll hlimits hall
      obtain ⟨hresult, hevents⟩ := hrun.events_of_fail hall c order d
      rw [hresult]
      refine ⟨⟨fun _ => hstop.hasStop, fun _ => ⟨f, rfl⟩⟩, ?_, ?_⟩
      · intro f' hf
        obtain rfl := Except.error.inj hf
        exact ⟨ms, steps, hstop, hrun, hevents⟩
      · intro r hr
        cases hr
    | none =>
      obtain ⟨ms, hread, hrun⟩ := exists_run_of_mergeAll hall
      obtain ⟨hresult, hevents⟩ := hrun.events_of_success hall c order d
      rw [hresult]
      refine ⟨⟨?_, fun hstop => absurd hstop (not_hasStop hread hrun.distinct)⟩, ?_, ?_⟩
      · rintro ⟨f, hf⟩
        cases hf
      · intro f hf
        cases hf
      · intro r hr
        obtain rfl := Except.ok.inj hr
        exact ⟨ms, hread, hrun, hevents⟩

/-- Messages of which the third one has the key of the first one. -/
def menuTwice : List Value := (menuMessages ++ menuMessages).map Message.toValue

theorem merge_tells_events_menu : HasStop menuTwice ∧
    ∃ ms steps, IsFirstStop menuTwice ms (.duplicateKey "New") ∧
      Run menuOptions.references menuOptions.context menuBucket ms steps ∧
      (menuCatalog.merge (.list menuTwice) menuOptions).events =
        steps.flatMap (told menuBucket) := by
  have hvalues : messageValues (.list menuTwice) = .ok menuTwice := rfl
  obtain ⟨hstop, hfails, -⟩ := merge_tells_events hvalues admits_menuOptions get?_menuCatalog
    readable_menuOptions
  have hmerge : (match (menuCatalog.merge (.list menuTwice) menuOptions).result with
    | .error f => decide (f = .duplicateKey "New")
    | .ok _ => false) = true := by decide +kernel
  split at hmerge
  · next f hf =>
    obtain rfl := of_decide_eq_true hmerge
    exact ⟨hstop.mp ⟨_, hf⟩, hfails _ hf⟩
  · cases hmerge

end Merge

end MessageCatalog
