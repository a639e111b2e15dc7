import MessageCatalog.Audit.Basic
import MessageCatalog.Proofs.Merge.Preservation

/-!
# Audits of merged catalogs

A merge neither translates an entry nor asks for a review of it, so the audits before and after it
agree: the patched catalog needs the work that was needed before and the translation of what has
been added, and the replaced catalog needs what of this is about messages.
-/

namespace MessageCatalog

open Merge

variable {b b' : Bucket} {added : List Text} {k : Text} {test : Entry → Bool}

/-! ### Selected message ids -/

lemma Bucket.WellFormed.mem_select_iff (hb : b.WellFormed) :
    k ∈ b.select test ↔ k ≠ [] ∧ ∃ e, b.get? k = some e ∧ test e = true := by
  have hmem (e : Entry) : e ∈ b.values ∧ e.msgid = k ↔ b.get? k = some e := by
    rw [OrderedMap.get?_eq_some_iff, hb.entries_eq, mem_keyed, eq_comm]
  simp only [Bucket.select, List.mem_map, List.mem_filter, Bool.and_eq_true, Bool.not_eq_true',
    List.isEmpty_eq_false_iff]
  constructor
  · rintro ⟨e, ⟨he, hid, htest⟩, hk⟩
    exact ⟨hk ▸ hid, e, (hmem e).mp ⟨he, hk⟩, htest⟩
  · rintro ⟨hk, e, he, htest⟩
    obtain ⟨hvalue, hid⟩ := (hmem e).mpr he
    exact ⟨e, ⟨hvalue, hid ▸ hk, htest⟩, hid⟩

lemma Bucket.WellFormed.nodup_select (hb : b.WellFormed) (test : Entry → Bool) :
    (b.select test).Nodup :=
  hb.nodup_msgids.sublist (List.filter_sublist.map _)

/-- Of a part of a bucket that is chosen by keys, the same part is selected. -/
lemma Bucket.WellFormed.select_filter (hb : b.WellFormed) {keep : Text → Bool}
    (h : b'.entries = b.entries.filter fun p => keep p.1) (test : Entry → Bool) :
    b'.select test = (b.select test).filter keep := by
  have hvalues : b'.values = b.values.filter fun e => keep e.msgid := by
    rw [OrderedMap.values, h, hb.entries_eq, filter_keyed, map_snd_keyed]
  rw [Bucket.select, Bucket.select, hvalues, List.filter_map, List.filter_filter,
    List.filter_filter]
  congr 1
  refine List.filter_congr fun e _ => ?_
  exact Bool.and_comm _ _

/-! ### Buckets that grow -/

/-- The second bucket has the message ids of the first one with the same translations, and besides
them the added ones without translation. -/
structure Bucket.Grows (b b' : Bucket) (added : List Text) : Prop where
  wellFormed : b'.WellFormed
  nodup : added.Nodup
  new : ∀ k ∈ added, k ≠ [] ∧ k ∉ b.keys
  keys : ∀ k ∈ b'.keys, k ∈ b.keys ∨ k ∈ added
  kept : ∀ k e, b.get? k = some e → k ≠ [] → ∃ e', b'.get? k = some e' ∧ e.SameTranslation e'
  fresh : ∀ k ∈ added, ∃ e, b'.get? k = some e ∧ e.msgstr = [[]] ∧ e.flags = []

/-- The test looks at translations and flags only. -/
def IsAboutTranslation (test : Entry → Bool) : Prop :=
  ∀ e e' : Entry, e'.msgstr = e.msgstr → e'.flags = e.flags → test e' = test e

lemma isAboutTranslation_untranslated : IsAboutTranslation fun e => !e.isTranslated := by
  intro e e' hmsgstr _
  simp only [Entry.isTranslated, hmsgstr]

lemma isAboutTranslation_isFuzzy : IsAboutTranslation Entry.isFuzzy := by
  intro e e' _ hflags
  simp only [Entry.isFuzzy, hflags]

/-- What is selected for its translation is selected again, and besides it the added message ids if
entries without translation pass the test. -/
lemma Bucket.Grows.perm_select (h : b.Grows b' added) (hb : b.WellFormed)
    (htest : IsAboutTranslation test) :
    (b'.select test).Perm
      (b.select test ++ if test { msgid := [] } = true then added else []) := by
  have hpassed : (if test { msgid := [] } = true then added else []).Nodup := by
    split
    · exact h.nodup
    · exact List.nodup_nil
  have hfresh : ∀ {e : Entry}, e.msgstr = [[]] → e.flags = [] → test e = test { msgid := [] } :=
    fun hmsgstr hflags => htest { msgid := [] } _ hmsgstr hflags
  have hdisjoint : (b.select test).Disjoint (if test { msgid := [] } = true then added else []) := by
    intro k hk hadded
    obtain ⟨-, e, he, -⟩ := hb.mem_select_iff.mp hk
    split at hadded
    · exact (h.new k hadded).2 (OrderedMap.mem_keys_iff.mpr ⟨e, he⟩)
    · exact absurd hadded List.not_mem_nil
  refine (List.perm_ext_iff_of_nodup (h.wellFormed.nodup_select test)
    ((hb.nodup_select test).append hpassed hdisjoint)).mpr fun k => ?_
  rw [List.mem_append, h.wellFormed.mem_select_iff, hb.mem_select_iff]
  constructor
  · rintro ⟨hk, e', he', hpass⟩
    rcases h.keys k (OrderedMap.mem_keys_iff.mpr ⟨e', he'⟩) with hmem | hmem
    · obtain ⟨e, he⟩ := OrderedMap.mem_keys_iff.mp hmem
      obtain ⟨e'', he'', hsame⟩ := h.kept k e he hk
      obtain rfl := Option.some.inj (he'.symm.trans he'')
      exact .inl ⟨hk, e, he, htest e e' hsame.msgstr hsame.flags ▸ hpass⟩
    · obtain ⟨e'', he'', hmsgstr, hflags⟩ := h.fresh k hmem
      obtain rfl := Option.some.inj (he'.symm.trans he'')
      rw [hfresh hmsgstr hflags] at hpass
      exact .inr (by rwa [if_pos hpass])
  · rintro (⟨hk, e, he, hpass⟩ | hmem)
    · obtain ⟨e', he', hsame⟩ := h.kept k e he hk
      exact ⟨hk, e', he', (htest e e' hsame.msgstr hsame.flags).trans hpass⟩
    · split at hmem
      · next hpass =>
        obtain ⟨e, he, hmsgstr, hflags⟩ := h.fresh k hmem
        exact ⟨(h.new k hmem).1, e, he, (hfresh hmsgstr hflags).trans hpass⟩
      · exact absurd hmem List.not_mem_nil

/-! ### Audits -/

/-- The audits of a catalog, of the patched and of the replaced catalog agree. -/
structure MergeReport.AuditsAgree (r : MergeReport) (keys : List Text)
    (before patch replace : AuditReport) : Prop where
  nodup : patch.issues.untranslated.Nodup ∧ patch.issues.fuzzy.Nodup
  untranslated :
    patch.issues.untranslated.Perm (before.issues.untranslated ++ r.ids .added)
  fuzzy : patch.issues.fuzzy.Perm before.issues.fuzzy
  untranslated_replace :
    replace.issues.untranslated = patch.issues.untranslated.filter keys.contains
  fuzzy_replace : replace.issues.fuzzy = patch.issues.fuzzy.filter keys.contains
  rest : ∀ a ∈ [patch, replace],
    a.issues.obsolete = before.issues.obsolete ∧ a.language = before.language
  lengths : ∀ a ∈ [before, patch, replace], a.untranslated = a.issues.untranslated.length ∧
    a.fuzzy = a.issues.fuzzy.length ∧ a.obsolete = a.issues.obsolete.length
  counts : patch.untranslated = before.untranslated + r.count .added ∧
    patch.fuzzy = before.fuzzy ∧ patch.obsolete = before.obsolete

namespace Merge

variable {o : ReferenceOptions} {context : Text} {source : Bucket} {ms : List Message}
  {steps : List (Text × Step)} {c : Catalog} {order : SortOrder}

/-- A merge lets a bucket grow by the added message ids. -/
lemma Run.grows (h : Run o context source ms steps) (hsource : source.WellFormed) (c : Catalog)
    (order : SortOrder) :
    source.Grows (sortedBucket order source
        (mergedEntries steps ++ missingEntries source (ms.map Message.key)))
      ((report c context order source steps).ids .added) := by
  have hids := h.nodup_msgids hsource
  have hadded := h.ids_added c order
  refine ⟨wellFormed_sortedBucket hids order source, hadded ▸ h.distinct.filter _, ?_, ?_, ?_, ?_⟩
  · intro k hk
    rw [hadded, List.mem_filter, Bool.not_eq_true', OrderedMap.contains_eq_false_iff] at hk
    obtain ⟨m, hm, hkey⟩ := List.mem_map.mp hk.1
    exact ⟨hkey ▸ h.nonempty m hm, hk.2⟩
  · intro k hk
    have hgroup := (h.keys_patch_perm hsource c order).mem_iff.mp hk
    rw [List.mem_append, List.mem_append, h.ids_found, h.ids_missing hsource, List.mem_filter,
      OrderedMap.contains_iff, mem_msgids_missingEntries hsource] at hgroup
    rcases hgroup with (hmem | hmem) | hmem
    · exact .inr hmem
    · exact .inl hmem.2
    · exact .inl hmem.1
  · intro k e he hk
    obtain ⟨e', hmem, rfl, hsame⟩ := h.exists_sameTranslation hsource he hk
    exact ⟨e', get?_sortedBucket hids order source hmem, hsame⟩
  · intro k hk
    obtain ⟨e, he, hsame⟩ := h.exists_added hsource order hk
    exact ⟨e, he, hsame.msgstr, hsame.flags⟩

lemma Run.auditsAgree (h : Run o context source ms steps) (hsource : source.WellFormed)
    (hbuiltIn : order.IsBuiltIn) (hcontext : c.translations.get? context = some source)
    (file : Text) :
    ∃ before patch replace, c.audit file context = .ok before ∧
      (report c context order source steps).patch.audit file context = .ok patch ∧
      (report c context order source steps).replace.audit file context = .ok replace ∧
      (report c context order source steps).AuditsAgree (ms.map Message.key) before patch
        replace := by
  obtain ⟨hpatch, hreplace⟩ := report_catalogs h hsource c order
  have hgrows := h.grows hsource c order
  have hkept := h.entries_replace hsource hbuiltIn
  have huntranslated := hgrows.perm_select hsource isAboutTranslation_untranslated
  have hfuzzy := hgrows.perm_select hsource isAboutTranslation_isFuzzy
  rw [if_pos (by decide)] at huntranslated
  rw [if_neg (by decide), List.append_nil] at hfuzzy
  rw [hpatch, hreplace, Catalog.audit, Catalog.audit, Catalog.audit, hcontext,
    Catalog.get?_withContext, Catalog.get?_withContext]
  refine ⟨_, _, _, rfl, rfl, rfl, ?_⟩
  refine ⟨⟨hgrows.wellFormed.nodup_select _, hgrows.wellFormed.nodup_select _⟩, huntranslated,
    hfuzzy, hgrows.wellFormed.select_filter hkept _, hgrows.wellFormed.select_filter hkept _,
    ?_, fun _ _ => ⟨rfl, rfl, rfl⟩, ?_, hfuzzy.length_eq, rfl⟩
  · simp only [List.forall_mem_cons]
    exact ⟨⟨rfl, rfl⟩, ⟨rfl, rfl⟩, List.forall_mem_nil _⟩
  · rw [MergeReport.count_eq]
    exact huntranslated.length_eq.trans List.length_append

/-- The audit of the patched catalog lists as untranslated what was untranslated before and what has
been added, and as fuzzy what was fuzzy before; the audit of the replaced catalog lists those of
them that are keys of messages. Obsolete entries and the language stay, and the counts are the
lengths of the lists. There is a report unless a limit cannot be read. -/
theorem merge_audits (hc : c.WellFormed) {messages : Value} {o : MergeOptions} {d : Detail}
    (hms : Reads messages ms) (hadmits : Admits o order d) (hbuiltIn : order.IsBuiltIn)
    (hsource : c.translations.get? o.context = some source) (file : Text) :
    (∀ r, (c.merge messages o).result = .ok r →
      ∃ before patch replace, c.audit file o.context = .ok before ∧
        r.patch.audit file o.context = .ok patch ∧
        r.replace.audit file o.context = .ok replace ∧
        r.AuditsAgree (ms.map Message.key) before patch replace) ∧
      (o.references.Readable → ∃ r, (c.merge messages o).result = .ok r) := by
  constructor
  · intro r hr
    obtain ⟨steps, hrun, rfl⟩ := exists_run_of_merge hms hadmits hsource hr
    exact hrun.auditsAgree (hc.get? hsource) hbuiltIn hsource file
  · exact exists_merge hms hadmits hsource

theorem merge_audits_menu : ∃ r before patch replace,
    (menuCatalog.merge (.list (menuMessages.map Message.toValue)) menuOptions).result = .ok r ∧
      menuCatalog.audit "menu.po" "menu" = .ok before ∧
      r.patch.audit "menu.po" "menu" = .ok patch ∧
      r.replace.audit "menu.po" "menu" = .ok replace ∧
      r.AuditsAgree (menuMessages.map Message.key) before patch replace := by
  obtain ⟨hall, hreport⟩ := merge_audits wellFormed_menuCatalog reads_menuMessages
    admits_menuOptions (fun _ _ => SortOrder.noConfusion) get?_menuCatalog "menu.po"
  obtain ⟨r, hr⟩ := hreport readable_menuOptions
  obtain ⟨before, patch, replace, hbefore, hpatch, hreplace, hagree⟩ := hall r hr
  exact ⟨r, before, patch, replace, hr, hbefore, hpatch, hreplace, hagree⟩

end Merge

end MessageCatalog
