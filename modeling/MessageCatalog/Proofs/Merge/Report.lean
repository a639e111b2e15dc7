import Mathlib
import MessageCatalog.Proofs.Reference
import MessageCatalog.Proofs.SortOrder
import MessageCatalog.Proofs.Merge.Entries

/-!
# The report of a merge

A merge that succeeds has read a list of messages with different keys, has merged every one of
them, and has put together two buckets: one of the merged and the missing entries, and one of the
merged entries only.
-/

namespace MessageCatalog

open Failure

/-- A message always has a key. -/
lemma Message.key_ne_nil {v : Value} {m : Message} (h : Message.ofValue v = .ok m) :
    m.key ≠ [] := by
  cases v with
  | object fields =>
    simp only [Message.ofValue] at h
    split at h
    · obtain ⟨key, hkey, h⟩ := bind_eq_ok_iff.mp h
      cases hkey
      split at h
      · obtain ⟨context, -, h⟩ := bind_eq_ok_iff.mp h
        obtain ⟨refs, -, h⟩ := bind_eq_ok_iff.mp h
        obtain ⟨comments, -, h⟩ := bind_eq_ok_iff.mp h
        obtain rfl := pure_eq_ok_iff.mp h
        exact List.cons_ne_nil _ _
      · obtain ⟨context, hcontext, -⟩ := bind_eq_ok_iff.mp h
        cases hcontext
    · obtain ⟨key, hkey, -⟩ := bind_eq_ok_iff.mp h
      cases hkey
  | _ => cases h

/-- A message is read from the value that stands for it. -/
lemma Message.ofValue_toValue {m : Message} (h : m.key ≠ []) : ofValue m.toValue = .ok m := by
  have htexts (name : Text) (ts : List Text) :
      textsOf name (.list (ts.map .text)) = .ok ts := by
    refine mapM_eq_ok_iff.mpr (List.forall₂_map_left_iff.mpr (List.forall₂_same.mpr ?_))
    exact fun t _ => rfl
  obtain ⟨key, context, refs, comments⟩ := m
  cases key with
  | nil => exact absurd rfl h
  | cons ch key =>
    have hcontext : (if (Value.text context).truthy then Value.text context else .text []) =
        .text context := by
      cases context <;> rfl
    simp [ofValue, toValue, Value.field?, htexts, hcontext, List.lookup_cons, bind, Except.bind,
      pure, Except.pure]

namespace Merge

/-! ### Merging all messages -/

variable {o : ReferenceOptions} {context : Text} {source : Bucket} {ms : List Message}
  {steps : List (Text × Step)}

lemma mergeValue_eq_ok_iff {seen : List Text} {v : Value} {x : Text × Step} :
    mergeValue o context source seen v = .ok x ↔ ∃ m, Message.ofValue v = .ok m ∧
      m.key ∉ seen ∧ x.1 = m.key ∧ mergeOne o context source m = .ok x.2 := by
  rw [mergeValue, bind_eq_ok_iff]
  refine exists_congr fun m => and_congr_right fun _ => ?_
  by_cases hseen : seen.contains m.key = true
  · have hmem : m.key ∈ seen := by simpa using hseen
    rw [if_pos hseen]
    constructor
    · intro h
      cases h
    · rintro ⟨hnot, -⟩
      exact absurd hmem hnot
  · have hnot : m.key ∉ seen := by simpa using hseen
    rw [if_neg hseen]
    show (mergeOne o context source m >>= fun s => pure (m.key, s)) = .ok x ↔ _
    rw [bind_eq_ok_iff]
    constructor
    · rintro ⟨s, hs, hx⟩
      obtain rfl := pure_eq_ok_iff.mp hx
      exact ⟨hnot, rfl, hs⟩
    · rintro ⟨-, hkey, hs⟩
      exact ⟨x.2, hs, pure_eq_ok_iff.mpr (Prod.ext hkey.symm rfl)⟩

/-- A message and the step that merges it. -/
def Merges (o : ReferenceOptions) (context : Text) (source : Bucket) (m : Message)
    (s : Text × Step) : Prop :=
  s.1 = m.key ∧ mergeOne o context source m = .ok s.2

lemma mergeAll_cons_eq_iff {seen : List Text} {v : Value} {values : List Value} :
    mergeAll o context source seen (v :: values) = (steps, none) ↔
      ∃ x rest, mergeValue o context source seen v = .ok x ∧
        mergeAll o context source (x.1 :: seen) values = (rest, none) ∧ steps = x :: rest := by
  rw [mergeAll]
  constructor
  · intro h
    cases hv : mergeValue o context source seen v with
    | error f =>
      rw [hv] at h
      cases h
    | ok x =>
      rw [hv] at h
      obtain ⟨hsteps, hnone⟩ := Prod.ext_iff.mp h
      exact ⟨x, _, rfl, Prod.ext rfl hnone, hsteps.symm⟩
  · rintro ⟨x, rest, hv, hrest, rfl⟩
    rw [hv]
    simp only [hrest]

/-- Merging values succeeds just when they are messages with new and different keys, each of which
can be merged. -/
lemma mergeAll_eq_iff (seen : List Text) {values : List Value} :
    mergeAll o context source seen values = (steps, none) ↔
      ∃ ms, values.mapM Message.ofValue = .ok ms ∧ (ms.map Message.key).Nodup ∧
        (∀ m ∈ ms, m.key ∉ seen) ∧ List.Forall₂ (Merges o context source) ms steps := by
  -- The keys that have been seen grow along the list.
  induction values generalizing seen steps with
  | nil =>
    constructor
    · intro h
      cases h
      exact ⟨[], rfl, by simp, by simp, List.Forall₂.nil⟩
    · rintro ⟨ms, hms, -, -, hmerged⟩
      cases hms
      cases hmerged
      rfl
  | cons v values ih =>
    rw [mergeAll_cons_eq_iff]
    constructor
    · rintro ⟨x, rest, hv, hrest, rfl⟩
      obtain ⟨m, hm, hseen, hkey, hmerge⟩ := mergeValue_eq_ok_iff.mp hv
      obtain ⟨ms, hms, hdistinct, hnew, hmerged⟩ := (ih _).mp hrest
      have hfresh : ∀ n ∈ ms, n.key ≠ m.key ∧ n.key ∉ seen := by
        intro n hn
        have hnot := hnew n hn
        rwa [List.mem_cons, not_or, hkey] at hnot
      refine ⟨m :: ms, mapM_eq_ok_iff.mpr (.cons hm (mapM_eq_ok_iff.mp hms)), ?_, ?_,
        .cons ⟨hkey, hmerge⟩ hmerged⟩
      · rw [List.map_cons, List.nodup_cons]
        refine ⟨?_, hdistinct⟩
        intro hmem
        obtain ⟨n, hn, heq⟩ := List.mem_map.mp hmem
        exact (hfresh n hn).1 heq
      · exact List.forall_mem_cons.mpr ⟨hseen, fun n hn => (hfresh n hn).2⟩
    · rintro ⟨ms, hms, hdistinct, hnew, hmerged⟩
      rw [mapM_eq_ok_iff, List.forall₂_cons_left_iff] at hms
      obtain ⟨m, ms, hm, hms, rfl⟩ := hms
      obtain ⟨x, rest, ⟨hkey, hmerge⟩, hmergeds, rfl⟩ := List.forall₂_cons_left_iff.mp hmerged
      rw [List.map_cons, List.nodup_cons] at hdistinct
      have hfresh : ∀ n ∈ ms, n.key ∉ x.1 :: seen := by
        intro n hn
        rw [List.mem_cons, not_or, hkey]
        refine ⟨?_, hnew n (List.mem_cons_of_mem m hn)⟩
        intro heq
        exact hdistinct.1 (heq ▸ List.mem_map_of_mem hn)
      refine ⟨x, rest, ?_, ?_, rfl⟩
      · exact mergeValue_eq_ok_iff.mpr ⟨m, hm, hnew m List.mem_cons_self, hkey, hmerge⟩
      · exact (ih _).mpr ⟨ms, mapM_eq_ok_iff.mpr hms, hdistinct.2, hfresh, hmergeds⟩

/-- Messages with different keys that have been merged one after another. -/
structure Run (o : ReferenceOptions) (context : Text) (source : Bucket) (ms : List Message)
    (steps : List (Text × Step)) : Prop where
  merged : List.Forall₂ (Merges o context source) ms steps
  distinct : (ms.map Message.key).Nodup
  nonempty : ∀ m ∈ ms, m.key ≠ []

lemma Run.keys (h : Run o context source ms steps) : steps.map Prod.fst = ms.map Message.key := by
  have hmerged := h.merged
  clear h
  induction hmerged with
  | nil => rfl
  | cons hm _ ih => rw [List.map_cons, List.map_cons, ih, hm.1]

lemma Run.exists_message (h : Run o context source ms steps) {s : Text × Step} (hs : s ∈ steps) :
    ∃ m ∈ ms, Merges o context source m s :=
  exists_of_forall₂ h.merged hs

/-! ### What a report is made of -/

/-- The entries of merged messages. -/
def mergedEntries (steps : List (Text × Step)) : List Entry := steps.map fun s => s.2.tracked.entry

/-- The entries that no message has, without the comments that belong to places. -/
def missingEntries (source : Bucket) (keys : List Text) : List Entry :=
  (source.values.filter fun e => !e.msgid.isEmpty && !keys.contains e.msgid).map Entry.clearPlaces

/-- The bucket of a list of entries in an order. -/
def sortedBucket (order : SortOrder) (source : Bucket) (es : List Entry) : Bucket :=
  .ofList (keyed (order.sortEntries (SortOrder.positions source.keys) es))

lemma msgid_base (hsource : source.WellFormed) (msgid : Text) :
    (base context source msgid).msgid = msgid := by
  rw [base]
  cases hget : source.get? msgid with
  | none => rfl
  | some e => exact hsource (msgid, e) (OrderedMap.get?_eq_some_iff.mp hget)

lemma Run.msgid (h : Run o context source ms steps) (hsource : source.WellFormed)
    {s : Text × Step} (hs : s ∈ steps) : s.2.tracked.entry.msgid = s.1 := by
  obtain ⟨m, -, hkey, hmerge⟩ := h.exists_message hs
  obtain ⟨-, -, hsame, -⟩ := mergeOne_spec hmerge
  rw [hsame.msgid, msgid_base hsource, hkey]

lemma Run.msgids (h : Run o context source ms steps) (hsource : source.WellFormed) :
    (mergedEntries steps).map Entry.msgid = ms.map Message.key := by
  rw [← h.keys, mergedEntries, List.map_map]
  exact List.map_congr_left fun s hs => h.msgid hsource hs

lemma mem_msgids_missingEntries (hsource : source.WellFormed) {keys : List Text} {k : Text} :
    k ∈ (missingEntries source keys).map Entry.msgid ↔ k ∈ source.keys ∧ k ≠ [] ∧ k ∉ keys := by
  rw [hsource.keys_eq, missingEntries, List.map_map]
  simp only [List.mem_map, List.mem_filter, Bool.and_eq_true, Bool.not_eq_true',
    Function.comp_apply]
  constructor
  · rintro ⟨e, ⟨he, hid, hnot⟩, rfl⟩
    have hid' : e.msgid ≠ [] := by simpa using hid
    have hnot' : e.msgid ∉ keys := by simpa using hnot
    exact ⟨⟨e, he, rfl⟩, hid', hnot'⟩
  · rintro ⟨⟨e, he, rfl⟩, hid, hnot⟩
    have hid' : e.msgid ≠ [] := hid
    have hnot' : e.msgid ∉ keys := hnot
    exact ⟨e, ⟨he, by simpa using hid', by simpa using hnot'⟩, rfl⟩

lemma Run.nodup_merged (h : Run o context source ms steps) (hsource : source.WellFormed) :
    ((mergedEntries steps).map Entry.msgid).Nodup := by
  rw [h.msgids hsource]
  exact h.distinct

/-- Merged and missing entries together have different message ids. -/
lemma Run.nodup_msgids (h : Run o context source ms steps) (hsource : source.WellFormed) :
    ((mergedEntries steps ++ missingEntries source (ms.map Message.key)).map
      Entry.msgid).Nodup := by
  rw [List.map_append, List.nodup_append]
  refine ⟨h.nodup_merged hsource, ?_, ?_⟩
  · have hids : (source.values.map Entry.msgid).Nodup := by
      rw [← hsource.keys_eq]
      exact source.distinct
    rw [missingEntries, List.map_map]
    exact hids.sublist (List.Sublist.map _ List.filter_sublist)
  · -- What is missing is the key of no message.
    intro k hk k' hk' heq
    rw [h.msgids hsource] at hk
    exact ((mem_msgids_missingEntries hsource).mp hk').2.2 (heq ▸ hk)

lemma Run.contains_merged (h : Run o context source ms steps) (hsource : source.WellFormed)
    {e : Entry} (he : e ∈ mergedEntries steps) :
    (ms.map Message.key).contains e.msgid = true := by
  rw [List.contains_iff_mem, ← h.msgids hsource]
  exact List.mem_map_of_mem he

/-- Of merged and missing entries the merged ones are those that messages have. -/
lemma Run.filter_merged (h : Run o context source ms steps) (hsource : source.WellFormed) :
    ((mergedEntries steps ++ missingEntries source (ms.map Message.key)).filter fun e =>
      (ms.map Message.key).contains e.msgid) = mergedEntries steps := by
  have hdrop : ∀ e ∈ missingEntries source (ms.map Message.key),
      ¬(ms.map Message.key).contains e.msgid = true := by
    intro e he hmem
    have hmissing := (mem_msgids_missingEntries hsource).mp (List.mem_map_of_mem he)
    exact hmissing.2.2 (List.contains_iff_mem.mp hmem)
  rw [List.filter_append, List.filter_eq_self.mpr fun e he => h.contains_merged hsource he,
    List.filter_eq_nil_iff.mpr hdrop, List.append_nil]

/-- No message has the entries that are missing among merged and missing ones. -/
lemma Run.filter_missing (h : Run o context source ms steps) (hsource : source.WellFormed) :
    ((mergedEntries steps ++ missingEntries source (ms.map Message.key)).filter fun e =>
      !e.msgid.isEmpty && !(ms.map Message.key).contains e.msgid) =
        missingEntries source (ms.map Message.key) := by
  have hdrop : ∀ e ∈ mergedEntries steps,
      ¬(!e.msgid.isEmpty && !(ms.map Message.key).contains e.msgid) = true := by
    intro e he
    rw [h.contains_merged hsource he]
    simp
  have hkeep : ∀ e ∈ missingEntries source (ms.map Message.key),
      (!e.msgid.isEmpty && !(ms.map Message.key).contains e.msgid) = true := by
    intro e he
    obtain ⟨-, hid, hnot⟩ := (mem_msgids_missingEntries hsource).mp (List.mem_map_of_mem he)
    rw [Bool.and_eq_true]
    exact ⟨by simpa using hid, by simpa using hnot⟩
  rw [List.filter_append, List.filter_eq_nil_iff.mpr hdrop, List.filter_eq_self.mpr hkeep,
    List.nil_append]

lemma missingFrom_eq (hsource : source.WellFormed) (keys : List Text) :
    (missingFrom source keys).map (fun p => (p.1, p.2.entry)) =
      keyed (missingEntries source keys) := by
  rw [missingFrom, hsource.entries_eq]
  simp [keyed, missingEntries, List.filter_map, Function.comp_def, Entry.clearPlaces]

lemma sortBucket_keyed {es : List Entry} (h : (es.map Entry.msgid).Nodup) (order : SortOrder) :
    order.sortBucket (SortOrder.positions source.keys) (.ofList (keyed es)) =
      sortedBucket order source es := by
  rw [SortOrder.sortBucket, OrderedMap.values, entries_ofList_keyed h, map_snd_keyed]
  rfl

/-- The two catalogs of a report. -/
theorem report_catalogs (h : Run o context source ms steps) (hsource : source.WellFormed)
    (c : Catalog) (order : SortOrder) :
    (report c context order source steps).patch = c.withContext context (sortedBucket order source
        (mergedEntries steps ++ missingEntries source (ms.map Message.key))) ∧
      (report c context order source steps).replace =
        c.withContext context (sortedBucket order source (mergedEntries steps)) := by
  have hmerged : (steps.map fun s => (s.1, s.2.tracked)).map (fun e => (e.1, e.2.entry)) =
      keyed (mergedEntries steps) := by
    rw [List.map_map, mergedEntries, keyed, List.map_map]
    exact List.map_congr_left fun s hs => Prod.ext (h.msgid hsource hs).symm rfl
  have hids := h.nodup_msgids hsource
  constructor
  · rw [← sortBucket_keyed hids, report]
    simp only [List.map_append, hmerged, missingFrom_eq hsource, h.keys]
    simp [keyed]
  · rw [← sortBucket_keyed (h.nodup_merged hsource), report]
    simp only [hmerged]

lemma entries_sortedBucket {es : List Entry} (h : (es.map Entry.msgid).Nodup) (order : SortOrder)
    (source : Bucket) : (sortedBucket order source es).entries =
      keyed (order.sortEntries (SortOrder.positions source.keys) es) := by
  apply entries_ofList_keyed
  exact ((order.sortEntries_perm _ es).map Entry.msgid).nodup_iff.mpr h

lemma wellFormed_sortedBucket {es : List Entry} (h : (es.map Entry.msgid).Nodup)
    (order : SortOrder) (source : Bucket) : (sortedBucket order source es).WellFormed :=
  Bucket.wellFormed_of_entries (entries_sortedBucket h order source)

lemma keys_sortedBucket {es : List Entry} (h : (es.map Entry.msgid).Nodup) (order : SortOrder)
    (source : Bucket) : (sortedBucket order source es).keys =
      (order.sortEntries (SortOrder.positions source.keys) es).map Entry.msgid := by
  rw [OrderedMap.keys, entries_sortedBucket h, map_fst_keyed]

lemma values_sortedBucket {es : List Entry} (h : (es.map Entry.msgid).Nodup) (order : SortOrder)
    (source : Bucket) : (sortedBucket order source es).values =
      order.sortEntries (SortOrder.positions source.keys) es := by
  rw [OrderedMap.values, entries_sortedBucket h, map_snd_keyed]

lemma get?_sortedBucket {es : List Entry} (h : (es.map Entry.msgid).Nodup) (order : SortOrder)
    (source : Bucket) {e : Entry} (he : e ∈ es) : (sortedBucket order source es).get? e.msgid = some e := by
  rw [OrderedMap.get?_eq_some_iff, entries_sortedBucket h, mem_keyed]
  exact ⟨(order.sortEntries_perm _ _).mem_iff.mpr he, rfl⟩

/-! ### Reports that are made -/

/-- The messages that values stand for, of which no two have the same key. -/
def Reads (messages : Value) (ms : List Message) : Prop :=
  (∃ values, messageValues messages = .ok values ∧ values.mapM Message.ofValue = .ok ms) ∧
    (ms.map Message.key).Nodup

lemma Reads.nonempty {messages : Value} {ms : List Message} (h : Reads messages ms) :
    ∀ m ∈ ms, m.key ≠ [] := by
  intro m hm
  obtain ⟨⟨values, -, hread⟩, -⟩ := h
  obtain ⟨v, -, hv⟩ := exists_of_forall₂ (mapM_eq_ok_iff.mp hread) hm
  exact Message.key_ne_nil hv

/-- Messages with different keys stand for themselves. -/
lemma reads_list {ms : List Message} (hkeys : ∀ m ∈ ms, m.key ≠ [])
    (hnodup : (ms.map Message.key).Nodup) :
    Reads (.list (ms.map Message.toValue)) ms := by
  refine ⟨⟨_, rfl, ?_⟩, hnodup⟩
  refine mapM_eq_ok_iff.mpr (List.forall₂_map_left_iff.mpr (List.forall₂_same.mpr ?_))
  exact fun m hm => Message.ofValue_toValue (hkeys m hm)

/-- The options of a merge that is possible: the sort order and the level of detail are known. -/
structure Admits (o : MergeOptions) (order : SortOrder) (d : Detail) : Prop where
  order : SortOrder.ofValue o.custom o.sort = .ok order
  some : Options.atLeast o.verbose 1 = .ok d.some
  all : Options.atLeast o.verbose 2 = .ok d.all

lemma prepare_eq_ok_iff {c : Catalog} {messages : Value} {o : MergeOptions}
    {values : List Value} {order : SortOrder} {source : Bucket} {d : Detail} :
    prepare c messages o = .ok (values, order, source, d) ↔
      messageValues messages = .ok values ∧ c.translations.get? o.context = .some source ∧
        Admits o order d := by
  rw [prepare]
  constructor
  · intro h
    obtain ⟨values', hvalues, h⟩ := bind_eq_ok_iff.mp h
    obtain ⟨order', horder, h⟩ := bind_eq_ok_iff.mp h
    cases hsource : c.translations.get? o.context with
    | none =>
      rw [hsource] at h
      cases h
    | some source' =>
      rw [hsource] at h
      obtain ⟨_, hsource', h⟩ := bind_eq_ok_iff.mp h
      cases hsource'
      obtain ⟨one, hone, h⟩ := bind_eq_ok_iff.mp h
      obtain ⟨two, htwo, h⟩ := bind_eq_ok_iff.mp h
      cases h
      exact ⟨hvalues, rfl, horder, hone, htwo⟩
  · rintro ⟨hvalues, hsource, horder, hone, htwo⟩
    rw [hvalues, horder, hsource, hone, htwo]
    rfl

lemma mergeBucket_result_eq_ok_iff {c : Catalog} {o : MergeOptions} {order : SortOrder}
    {d : Detail} {values : List Value} {r : MergeReport} :
    (mergeBucket c source o order d values).result = .ok r ↔
      ∃ steps, mergeAll o.references o.context source [] values = (steps, none) ∧
        r = report c o.context order source steps := by
  rw [mergeBucket]
  obtain ⟨steps, failure⟩ := mergeAll o.references o.context source [] values
  cases failure with
  | some f =>
    constructor
    · intro h
      cases h
    · rintro ⟨steps', hsteps, -⟩
      cases hsteps
  | none =>
    constructor
    · intro h
      exact ⟨steps, rfl, (Except.ok.inj h).symm⟩
    · rintro ⟨steps', hsteps, rfl⟩
      cases hsteps
      rfl

/-- A merge succeeds just when it can start and all of its values are messages with different
keys that can be merged; its report is then the one about these messages. -/
theorem merge_result_eq_ok_iff {c : Catalog} {messages : Value} {o : MergeOptions}
    {r : MergeReport} :
    (c.merge messages o).result = .ok r ↔ ∃ ms order source d steps, Reads messages ms ∧
      Admits o order d ∧ c.translations.get? o.context = .some source ∧
        Run o.references o.context source ms steps ∧ r = report c o.context order source steps := by
  rw [Catalog.merge]
  constructor
  · intro h
    cases hprepare : prepare c messages o with
    | error f =>
      rw [hprepare] at h
      cases h
    | ok x =>
      obtain ⟨values, order, source, d⟩ := x
      rw [hprepare] at h
      obtain ⟨steps, hsteps, rfl⟩ := mergeBucket_result_eq_ok_iff.mp h
      obtain ⟨hvalues, hsource, hadmits⟩ := prepare_eq_ok_iff.mp hprepare
      obtain ⟨ms, hms, hdistinct, -, hmerged⟩ := (mergeAll_eq_iff []).mp hsteps
      have hreads : Reads messages ms := ⟨⟨values, hvalues, hms⟩, hdistinct⟩
      exact ⟨ms, order, source, d, steps, hreads, hadmits, hsource,
        ⟨hmerged, hdistinct, hreads.nonempty⟩, rfl⟩
  · rintro ⟨ms, order, source, d, steps, ⟨⟨values, hvalues, hms⟩, hdistinct⟩, hadmits, hsource,
      hrun, rfl⟩
    rw [prepare_eq_ok_iff.mpr ⟨hvalues, hsource, hadmits⟩]
    refine mergeBucket_result_eq_ok_iff.mpr ⟨steps, ?_, rfl⟩
    exact (mergeAll_eq_iff []).mpr ⟨ms, hms, hdistinct, by simp, hrun.merged⟩

/-- Messages that can be merged one by one can be merged together. -/
lemma exists_run {messages : Value} (hms : Reads messages ms)
    (h : ∀ m ∈ ms, ∃ s, mergeOne o context source m = .ok s) :
    ∃ steps, Run o context source ms steps := by
  have hmerged : ∀ ms : List Message, (∀ m ∈ ms, ∃ s, mergeOne o context source m = .ok s) →
      ∃ steps, List.Forall₂ (Merges o context source) ms steps := by
    intro ms
    induction ms with
    | nil => exact fun _ => ⟨[], .nil⟩
    | cons m ms ih =>
      intro h
      obtain ⟨s, hs⟩ := h m List.mem_cons_self
      obtain ⟨steps, hsteps⟩ := ih fun n hn => h n (List.mem_cons_of_mem m hn)
      exact ⟨(m.key, s) :: steps, .cons ⟨rfl, hs⟩ hsteps⟩
  obtain ⟨steps, hsteps⟩ := hmerged ms h
  exact ⟨steps, hsteps, hms.2, hms.nonempty⟩

lemma exists_mergeReference_of_readable (h : o.Readable) (m : Message) (e : Entry) :
    ∃ x, mergeReference o m e = .ok x := by
  obtain ⟨text, htext⟩ := Reference.exists_comment h m.refs
  rw [mergeReference]
  split
  · exact ⟨_, by rw [Entry.setReference, htext]; rfl⟩
  · exact ⟨_, rfl⟩

lemma exists_mergeOne (m : Message) (h : ∀ e, ∃ x, mergeReference o m e = .ok x) :
    ∃ s, mergeOne o context source m = .ok s := by
  rw [mergeOne]
  cases source.get? m.key with
  | some found =>
    obtain ⟨⟨x, change⟩, hx⟩ := h found
    exact ⟨_, mergeFound_eq hx⟩
  | none =>
    obtain ⟨⟨x, change⟩, hx⟩ := h { msgid := m.key }
    exact ⟨_, mergeNew_eq hx⟩

/-- Messages with different keys can be merged into a context that is there, when their references
can be set. -/
lemma exists_merge_of_references {c : Catalog} {messages : Value} {o : MergeOptions}
    {order : SortOrder} {d : Detail} (hms : Reads messages ms) (hadmits : Admits o order d)
    (hsource : c.translations.get? o.context = .some source)
    (h : ∀ m ∈ ms, ∀ e, ∃ x, mergeReference o.references m e = .ok x) :
    ∃ r, (c.merge messages o).result = .ok r := by
  have hone : ∀ m ∈ ms, ∃ s, mergeOne o.references o.context source m = .ok s :=
    fun m hm => exists_mergeOne m (h m hm)
  obtain ⟨steps, hrun⟩ := exists_run hms hone
  exact ⟨_, merge_result_eq_ok_iff.mpr
    ⟨ms, order, source, d, steps, hms, hadmits, hsource, hrun, rfl⟩⟩

/-- Messages with different keys can be merged into a context that is there, when the limits on
references can be read. -/
theorem exists_merge {c : Catalog} {messages : Value} {o : MergeOptions} {order : SortOrder}
    {d : Detail} (hms : Reads messages ms) (hadmits : Admits o order d)
    (hsource : c.translations.get? o.context = .some source) (hlimits : o.references.Readable) :
    ∃ r, (c.merge messages o).result = .ok r :=
  exists_merge_of_references hms hadmits hsource fun m _ =>
    exists_mergeReference_of_readable hlimits m

/-- Messages without references can be merged whatever the limits are. -/
lemma exists_merge_of_no_refs {c : Catalog} {messages : Value} {o : MergeOptions}
    {order : SortOrder} {d : Detail} (hms : Reads messages ms) (hadmits : Admits o order d)
    (hsource : c.translations.get? o.context = .some source) (hrefs : ∀ m ∈ ms, m.refs = []) :
    ∃ r, (c.merge messages o).result = .ok r := by
  refine exists_merge_of_references hms hadmits hsource fun m hm e => ⟨(e, none), ?_⟩
  rw [mergeReference, hrefs m hm]
  simp

lemma Reads.unique {messages : Value} {ms' : List Message} (h : Reads messages ms)
    (h' : Reads messages ms') : ms = ms' := by
  obtain ⟨⟨values, hvalues, hms⟩, -⟩ := h
  obtain ⟨⟨values', hvalues', hms'⟩, -⟩ := h'
  rw [hvalues] at hvalues'
  obtain rfl := Except.ok.inj hvalues'
  rw [hms] at hms'
  exact Except.ok.inj hms'

/-- The list of the values stands for the same messages. -/
lemma Reads.list {messages : Value} {values : List Value} (h : Reads messages ms)
    (hvalues : messageValues messages = .ok values) : Reads (.list values) ms := by
  obtain ⟨⟨values', hvalues', hms⟩, hdistinct⟩ := h
  obtain rfl := Except.ok.inj (hvalues.symm.trans hvalues')
  exact ⟨⟨values, rfl, hms⟩, hdistinct⟩

/-- The report of a merge of known messages into a known bucket. -/
lemma exists_run_of_merge {c : Catalog} {messages : Value} {o : MergeOptions} {order : SortOrder}
    {d : Detail} {r : MergeReport} (hms : Reads messages ms) (hadmits : Admits o order d)
    (hsource : c.translations.get? o.context = .some source)
    (h : (c.merge messages o).result = .ok r) :
    ∃ steps, Run o.references o.context source ms steps ∧
      r = report c o.context order source steps := by
  obtain ⟨ms', order', source', d', steps, hms', hadmits', hsource', hrun, rfl⟩ :=
    merge_result_eq_ok_iff.mp h
  obtain rfl := hms.unique hms'
  obtain rfl := Option.some.inj (hsource.symm.trans hsource')
  obtain rfl := Except.ok.inj (hadmits.order.symm.trans hadmits'.order)
  exact ⟨steps, hrun, rfl⟩

/-! ### A sample -/

/-- A bucket of two entries, of which the messages below have the first one only. -/
def menuBucket : Bucket := .ofList <| keyed [
  { msgid := "Open", msgstr := ["Oeffnen"], msgctxt := some "menu".toList
    comments := some { translator := some "verb".toList, reference := some "a.py:1".toList } },
  { msgid := "Quit", msgstr := ["Beenden"], msgctxt := some "menu".toList, flags := ["fuzzy"]
    comments := some { extracted := some "for buttons".toList } }]

/-- A catalog with this bucket and another one. -/
def menuCatalog : Catalog where
  translations := .ofList [("", .ofList (keyed [{ msgid := "Yes", msgstr := ["Ja"] }])),
    ("menu", menuBucket)]

/-- Messages with and without references. -/
def menuMessages : List Message :=
  [{ key := "New", comments := ["a new file"] }, { key := "Open", refs := ["b.py:2", "b.py:7"] }]

/-- Merging into the context of the bucket. -/
def menuOptions : MergeOptions := { baseDir := default, context := "menu" }

lemma wellFormed_menuCatalog : menuCatalog.WellFormed := by
  simp only [Catalog.WellFormed, Bucket.WellFormed]
  decide +kernel

lemma reads_menuMessages : Reads (.list (menuMessages.map Message.toValue)) menuMessages :=
  ⟨⟨_, rfl, rfl⟩, by decide⟩

lemma admits_menuOptions : Admits menuOptions .source ⟨false, false⟩ := ⟨rfl, rfl, rfl⟩

lemma readable_menuOptions : menuOptions.references.Readable := by
  intro v hv n hn
  have hlimit : v = .int (-1) := by simpa [menuOptions] using hv
  rw [hlimit] at hn
  cases hn
  decide +kernel

lemma get?_menuCatalog : menuCatalog.translations.get? menuOptions.context = .some menuBucket := rfl

end Merge

end MessageCatalog
