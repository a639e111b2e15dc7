import MessageCatalog.Proofs.Merge.Rewritable

/-!
# Keys that survive a file

A message is merged into a catalog that was read, the catalog is written and read, and the message
is merged again. The second merge finds the key, if and only if the headers can be written and the key
holds none of the line boundaries that are written as they are. A reader ends a line at each of
these, so a key that holds one never comes back.
-/

namespace MessageCatalog

open Text Failure Merge

namespace Catalog

variable {c c' : Catalog} {o : MergeOptions} {order : SortOrder} {d : Detail} {width : Int}
  {t assumed name key : Text}

/-- The value of a message that has only a key. -/
def bare (key : Text) : Value := .list [Message.toValue { key }]

lemma reads_bare (hkey : key ≠ []) : Reads (bare key) [{ key }] := by
  have hkeys : ∀ m ∈ [({ key } : Message)], m.key ≠ [] := by simpa using hkey
  exact reads_list hkeys (by simp)

lemma legible_bare (h : Escapable key) : ∀ m ∈ [({ key } : Message)], m.Legible := by
  intro m hm
  rw [List.mem_singleton.mp hm]
  exact ⟨h, List.forall_mem_nil _, List.forall_mem_nil _⟩

/-- A message that has only a key can be merged whatever the limits on references are. -/
lemma exists_merge_bare (hc : c.Legible) (hkey : key ≠ []) (hcontext : o.context = [])
    (hadmits : Admits o order d) : ∃ r, (c.merge (bare key) o).result = .ok r := by
  have hsource : c.translations.get? o.context = some (bucketAt c.translations o.context) :=
    get?_of_mem_keys (hcontext ▸ List.mem_of_head? hc.first)
  exact exists_merge_of_no_refs (reads_bare hkey) hadmits hsource (by simp)

/-- A message with the key is merged, what comes out is written and read, and then there is an entry
with the key, which a second merge finds. -/
def KeepsKey (c : Catalog) (o : MergeOptions) (width : Int) (name key : Text) : Prop :=
  ∃ r bytes c' e r', (c.merge (bare key) o).result = .ok r ∧ r.patch.render width = .ok bytes ∧
    parseBytes bytes name = .ok c' ∧ (bucketAt c'.translations []).get? key = some e ∧
    e.msgid = key ∧ (c'.merge (bare key) o).result = .ok r' ∧ r'.ids .found = [key] ∧
    r'.ids .added = []

lemma KeepsKey.escapable (h : c.KeepsKey o width name key) : Escapable key := by
  obtain ⟨r, bytes, c', e, r', -, -, hparse, hget, -⟩ := h
  obtain ⟨hin, rfl⟩ := (legible_parseBytes hparse).1.of_get?_bucketAt hget
  exact hin.legible.msgid

/-- A key that is found by a merge has an entry. -/
lemma exists_get?_of_found {r : MergeReport} {messages : Value}
    (hr : (c.merge messages o).result = .ok r) (hfound : key ∈ r.ids .found) :
    ∃ e, (bucketAt c.translations o.context).get? key = some e := by
  obtain ⟨ms', order, source, d, steps, -, -, hsource, hrun, rfl⟩ := merge_result_eq_ok_iff.mp hr
  rw [hrun.ids_found, List.mem_filter, OrderedMap.contains_iff, OrderedMap.mem_keys_iff] at hfound
  rw [bucketAt, hsource]
  exact hfound.2

/-- A catalog in UTF-8 was read, and its comment at the top can be written. Then a key that is
merged into the context without name is in the file that is written after it, and a second merge
finds it, if and only if it holds no line boundary without an escape and the catalog can be written
at all. -/
theorem keepsKey_iff (hparse : parse t assumed = .ok c) (hutf8 : Charset.ofName c.charset = .ok .utf8)
    (htop : c.HasPlainTop) (hkey : key ≠ []) (hcontext : o.context = [])
    (hadmits : Admits o order d) (hwidth : width ≤ 0 ∨ 3 ≤ width)
    (hname : Charset.ofName name = .ok .utf8) :
    c.KeepsKey o width name key ↔
      (∀ ch ∈ key, ch ∉ bareEnds) ∧ ∃ bytes, c.render width = .ok bytes := by
  rw [← escapable_iff]
  obtain ⟨hc, hjoined⟩ := legible_parse hparse
  have hms := reads_bare hkey
  constructor
  · intro h
    have hescapable := h.escapable
    obtain ⟨r, bytes, -, -, -, hr, hrender, -⟩ := h
    have hwritten := render_written_iff hc htop hutf8 hwidth hms (legible_bare hescapable) hr false
    exact ⟨hescapable, hwritten.mp ⟨bytes, hrender⟩⟩
  · rintro ⟨hescapable, content, hcontent⟩
    have hrewritable : c.IsRewritable := .of_render hc htop hutf8 hcontent
    have hlegible := legible_bare hescapable
    obtain ⟨r, hr⟩ := exists_merge_bare hc hkey hcontext hadmits
    obtain ⟨bytes, c', hs, hrender, hread, hback⟩ :=
      (isRewritable_written hrewritable hms hlegible hr false).exists_isReadBack hwidth hname
    have hc' := (legible_parseBytes hread).1
    obtain ⟨-, r', hr', hrepeated, -⟩ :=
      exists_merge_again hc hjoined hms hlegible hr hback hc' (Or.inl hcontext)
    have hfound : key ∈ r'.ids .found := by simp [hrepeated.found]
    obtain ⟨e, he⟩ := exists_get?_of_found hr' hfound
    rw [hcontext] at he
    exact ⟨r, bytes, c', e, r', hr, hrender, hread, he, (hc'.of_get?_bucketAt he).2, hr',
      hrepeated.found, hrepeated.added⟩

/-- A catalog file with headers only. -/
def blankFile : Text := "msgid \"\"\nmsgstr \"Content-Type: text/plain; charset=UTF-8\\n\"\n"

theorem keepsKey_iff_blankFile : ∃ c, parse blankFile "utf-8" = .ok c ∧
    c.KeepsKey { baseDir := default } 78 "utf-8" "say \"a\\b\"\n\tc" ∧
    ¬ c.KeepsKey { baseDir := default } 78 "utf-8" "a\x85b" := by
  have hfile : (match parse blankFile "utf-8" with
      | .ok c => decide (Charset.ofName c.charset = .ok .utf8 ∧ c.HasPlainTop) &&
          (c.render 78).toOption.isSome
      | .error _ => false) = true := by decide +kernel
  split at hfile
  · next c hparse =>
    rw [Bool.and_eq_true, decide_eq_true_eq] at hfile
    obtain ⟨⟨hutf8, htop⟩, hrender⟩ := hfile
    have hbytes : ∃ bytes, c.render 78 = .ok bytes := by
      cases h : c.render 78 with
      | ok bytes => exact ⟨bytes, rfl⟩
      | error f =>
        rw [h] at hrender
        cases hrender
    have hadmits : Admits { baseDir := default } .source ⟨false, false⟩ := ⟨rfl, rfl, rfl⟩
    have hsurvives {key : Text} (hkey : key ≠ []) :
        c.KeepsKey { baseDir := default } 78 "utf-8" key ↔
          (∀ ch ∈ key, ch ∉ bareEnds) ∧ ∃ bytes, c.render 78 = .ok bytes :=
      keepsKey_iff hparse hutf8 htop hkey rfl hadmits (Or.inr (by decide : (3 : Int) ≤ 78))
        (by decide)
    have hplain : Quotable "say \"a\\b\"\n\tc" := by decide
    refine ⟨c, hparse, (hsurvives (by decide)).mpr ⟨escapable_iff.mp hplain.escapable, hbytes⟩, ?_⟩
    intro h
    exact ((hsurvives (by decide)).mp h).1 '\x85' (by decide) (by decide)
  · cases hfile

end Catalog

end MessageCatalog
