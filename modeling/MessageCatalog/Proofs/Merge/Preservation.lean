import Mathlib
import MessageCatalog.Proofs.Merge.Partition

/-!
# Translations survive merges

However often messages are merged and the patched catalog is taken up again, every translation of
the first catalog stays where it was.
-/

namespace MessageCatalog

open Merge

/-- The second catalog has all translations of the first one. -/
structure Catalog.Preserves (c c' : Catalog) : Prop where
  headers : c'.headers = c.headers
  headerComment : c'.headerComment = c.headerComment
  headerFuzzy : c'.headerFuzzy = c.headerFuzzy
  obsolete : c'.obsolete = c.obsolete
  charset : c'.charset = c.charset
  entries : ∀ context b, c.translations.get? context = some b → ∀ k e, b.get? k = some e → k ≠ [] →
    ∃ b' e', c'.translations.get? context = some b' ∧ b'.get? k = some e' ∧ e.SameTranslation e'

lemma Catalog.Preserves.refl (c : Catalog) : c.Preserves c :=
  ⟨rfl, rfl, rfl, rfl, rfl, fun _ b hb _ e he _ => ⟨b, e, hb, he, Entry.SameTranslation.refl e⟩⟩

lemma Catalog.Preserves.trans {c c' c'' : Catalog} (h : c.Preserves c') (h' : c'.Preserves c'') :
    c.Preserves c'' where
  headers := h'.headers.trans h.headers
  headerComment := h'.headerComment.trans h.headerComment
  headerFuzzy := h'.headerFuzzy.trans h.headerFuzzy
  obsolete := h'.obsolete.trans h.obsolete
  charset := h'.charset.trans h.charset
  entries := by
    intro context b hb k e he hk
    obtain ⟨b', e', hb', he', hsame⟩ := h.entries context b hb k e he hk
    obtain ⟨b'', e'', hb'', he'', hsame'⟩ := h'.entries context b' hb' k e' he' hk
    exact ⟨b'', e'', hb'', he'', hsame.trans hsame'⟩

/-- What one merge into a context does to the other contexts, and what it adds. -/
structure MergeReport.Patches (r : MergeReport) (c : Catalog) (context : Text) : Prop where
  contexts : r.patch.translations.keys = c.translations.keys
  others : ∀ other, other ≠ context →
    r.patch.translations.get? other = c.translations.get? other
  added : ∀ k ∈ r.ids .added, ∃ b e, r.patch.translations.get? context = some b ∧
    b.get? k = some e ∧ e.msgstr = [[]] ∧ e.flags = [] ∧
    e.msgctxt = if context = [] then none else some context

namespace Merge

variable {o : ReferenceOptions} {context : Text} {source : Bucket} {ms : List Message}
  {steps : List (Text × Step)} {c c' : Catalog}

/-! ### One merge -/

/-- A message id of the source is in the patched bucket with the same translation. -/
lemma Run.exists_sameTranslation (h : Run o context source ms steps) (hsource : source.WellFormed)
    {k : Text} {e : Entry} (he : source.get? k = some e) (hk : k ≠ []) :
    ∃ e' ∈ mergedEntries steps ++ missingEntries source (ms.map Message.key),
      e'.msgid = k ∧ e.SameTranslation e' := by
  have hid : e.msgid = k := hsource (k, e) (OrderedMap.get?_eq_some_iff.mp he)
  -- The message id is either found again or missing, and its entry is kept in both cases.
  by_cases hmem : k ∈ ms.map Message.key
  · rw [← h.keys] at hmem
    obtain ⟨s, hs, rfl⟩ := List.mem_map.mp hmem
    obtain ⟨m, -, hkey, hmerge⟩ := h.exists_message hs
    obtain ⟨-, -, hsame, -⟩ := mergeOne_spec hmerge
    rw [← hkey, base, he, Option.getD_some] at hsame
    exact ⟨s.2.tracked.entry, List.mem_append_left _ (List.mem_map_of_mem hs),
      h.msgid hsource hs, hsame⟩
  · have hvalue : e ∈ source.values :=
      List.mem_map_of_mem (f := Prod.snd) (OrderedMap.get?_eq_some_iff.mp he)
    have hsame := Entry.sameTranslation_clearPlaces e
    refine ⟨e.clearPlaces, List.mem_append_right _ (List.mem_map_of_mem ?_),
      hsame.msgid.trans hid, hsame⟩
    refine List.mem_filter.mpr ⟨hvalue, ?_⟩
    rw [hid]
    simpa [hk] using hmem

/-- An added message id gets an entry without translation. -/
lemma Run.exists_added (h : Run o context source ms steps) (hsource : source.WellFormed)
    (order : SortOrder) {k : Text}
    (hk : k ∈ (report c context order source steps).ids .added) :
    ∃ e, (sortedBucket order source
      (mergedEntries steps ++ missingEntries source (ms.map Message.key))).get? k = some e ∧
        (freshEntry context k).SameTranslation e := by
  rw [h.ids_added, List.mem_filter, ← h.keys] at hk
  obtain ⟨hmem, hnew⟩ := hk
  obtain ⟨s, hs, rfl⟩ := List.mem_map.mp hmem
  obtain ⟨m, -, hkey, hmerge⟩ := h.exists_message hs
  obtain ⟨-, -, hsame, -⟩ := mergeOne_spec hmerge
  -- The entry has grown from the fresh one, as the source has none for the key.
  have hnone : source.get? m.key = none := by
    rw [OrderedMap.get?_eq_none_iff, ← OrderedMap.contains_iff, ← hkey]
    simpa using hnew
  have hentry := get?_sortedBucket (h.nodup_msgids hsource) order source
    (List.mem_append_left _ (List.mem_map_of_mem (f := fun s => s.2.tracked.entry) hs))
  rw [h.msgid hsource hs] at hentry
  rw [base, hnone, Option.getD_none, ← hkey] at hsame
  exact ⟨s.2.tracked.entry, hentry, hsame⟩

/-- A bucket that has the translations of the source takes its place without loss. -/
lemma preserves_withContext {b : Bucket} (hsource : c.translations.get? context = some source)
    (h : ∀ k e, source.get? k = some e → k ≠ [] →
      ∃ e', b.get? k = some e' ∧ e.SameTranslation e') :
    c.Preserves (c.withContext context b) := by
  refine ⟨rfl, rfl, rfl, rfl, rfl, ?_⟩
  intro other b' hb' k e he hk
  rw [Catalog.withContext, OrderedMap.get?_insert]
  by_cases hother : other = context
  · rw [if_pos hother]
    rw [hother, hsource] at hb'
    obtain rfl := Option.some.inj hb'
    obtain ⟨e', he', hsame⟩ := h k e he hk
    exact ⟨b, e', rfl, he', hsame⟩
  · rw [if_neg hother]
    exact ⟨b', e, hb', he, Entry.SameTranslation.refl e⟩

/-- One merge keeps the catalog well-formed and all of its translations. -/
theorem merge_step (hc : c.WellFormed) {messages : Value} {o : MergeOptions} {r : MergeReport}
    (h : (c.merge messages o).result = .ok r) :
    r.patch.WellFormed ∧ c.Preserves r.patch ∧ r.Patches c o.context := by
  obtain ⟨ms, order, source, d, steps, -, -, hsource, hrun, rfl⟩ := merge_result_eq_ok_iff.mp h
  have hwell := hc.get? hsource
  have hids := hrun.nodup_msgids hwell
  obtain ⟨hpatch, -⟩ := report_catalogs hrun hwell c order
  refine ⟨?_, ?_, ?_, ?_, ?_⟩
  · rw [hpatch]
    exact hc.withContext (wellFormed_sortedBucket hids order source) _
  · rw [hpatch]
    apply preserves_withContext hsource
    intro k e he hk
    obtain ⟨e', hmem, rfl, hsame⟩ := hrun.exists_sameTranslation hwell he hk
    exact ⟨e', get?_sortedBucket hids order source hmem, hsame⟩
  · rw [hpatch]
    exact OrderedMap.keys_insert_of_mem (OrderedMap.mem_keys_iff.mpr ⟨source, hsource⟩) _
  · intro other hother
    rw [hpatch, Catalog.withContext, OrderedMap.get?_insert, if_neg hother]
  · intro k hk
    obtain ⟨e, hentry, hsame⟩ := hrun.exists_added hwell order hk
    refine ⟨_, e, ?_, hentry, hsame.msgstr, hsame.flags, ?_⟩
    · rw [hpatch, Catalog.get?_withContext]
    · rw [hsame.msgctxt, freshEntry]
      simp [List.isEmpty_iff]

/-! ### One merge after another -/

/-- Catalogs that are reached by merging, each time into the patched catalog of the last merge. -/
inductive PatchRun (c : Catalog) : Catalog → Prop where
  | start : PatchRun c c
  | step {c' : Catalog} {messages : Value} {o : MergeOptions} {r : MergeReport}
      (before : PatchRun c c') (merged : (c'.merge messages o).result = .ok r) :
      PatchRun c r.patch

lemma PatchRun.preserves (hc : c.WellFormed) (h : PatchRun c c') :
    c'.WellFormed ∧ c.Preserves c' := by
  induction h with
  | start => exact ⟨hc, Catalog.Preserves.refl c⟩
  | step _ merged ih =>
    obtain ⟨hwell, hpreserves⟩ := ih
    obtain ⟨hwell', hpreserves', -⟩ := merge_step hwell merged
    exact ⟨hwell', hpreserves.trans hpreserves'⟩

/-- No translation is lost by merges, and each merge leaves the other contexts as they are and adds
entries without translation only. -/
theorem patchRun_preserves (hc : c.WellFormed) (h : PatchRun c c') :
    c.Preserves c' ∧ ∀ messages o r, (c'.merge messages o).result = .ok r →
      r.Patches c' o.context := by
  obtain ⟨hwell, hpreserves⟩ := h.preserves hc
  refine ⟨hpreserves, ?_⟩
  intro messages o r hr
  exact (merge_step hwell hr).2.2

/-- Messages are merged into a sample, and then everything is missing. -/
theorem patchRun_preserves_menu : ∃ first second,
    (menuCatalog.merge (.list (menuMessages.map Message.toValue)) menuOptions).result = .ok first ∧
      (first.patch.merge (.list []) menuOptions).result = .ok second ∧
        menuCatalog.Preserves second.patch := by
  obtain ⟨first, hfirst⟩ :=
    exists_merge reads_menuMessages admits_menuOptions get?_menuCatalog readable_menuOptions
  obtain ⟨-, -, hpatches⟩ := merge_step wellFormed_menuCatalog hfirst
  have hkey : menuOptions.context ∈ first.patch.translations.keys := by
    rw [hpatches.contexts]
    exact OrderedMap.mem_keys_iff.mpr ⟨_, get?_menuCatalog⟩
  obtain ⟨b, hb⟩ := OrderedMap.mem_keys_iff.mp hkey
  have hnone : Reads (.list []) [] := ⟨⟨[], rfl, rfl⟩, List.nodup_nil⟩
  obtain ⟨second, hsecond⟩ := exists_merge hnone admits_menuOptions hb readable_menuOptions
  obtain ⟨hpreserves, -⟩ :=
    patchRun_preserves wellFormed_menuCatalog ((PatchRun.start.step hfirst).step hsecond)
  exact ⟨first, second, hfirst, hsecond, hpreserves⟩

end Merge

end MessageCatalog
