import MessageCatalog.Proofs.Extract.DefaultRules
import MessageCatalog.Proofs.Extract.Gathered
import MessageCatalog.Proofs.Extract.MarkedCalls

/-!
# Empty keys

No message can be made of an empty key. The keys of calls are never empty, but a comment declares
what the first group of the expression for keys has matched, and that can be an empty text. One
such comment is in the way of all messages.
-/

namespace MessageCatalog

open Failure (bind_eq_ok_iff pure_eq_ok_iff)
open Source (Comment)

/-! ### Keys of calls and of comments -/

lemma Call.Tells.ne_nil {o : ExtractOptions} {rules : CommentRules} {cs : List Comment} {c : Call}
    {found : List (Text × Nat)} (h : c.Tells o rules cs found) {p : Text × Nat} (hp : p ∈ found) :
    p.1 ≠ [] := by
  by_cases hlooked : c.IsMarker o ∧ ¬rules.IgnoresLine cs c.endLine ∧
      ∃ n, c.HasArgument o.position n
  · obtain ⟨hmarker, hline, n, hargument⟩ := hlooked
    rw [h.told n hmarker hline hargument] at hp
    obtain ⟨key, hkey, rfl⟩ := List.mem_map.mp hp
    simpa using (List.mem_filter.mp hkey).2
  · rw [h.silent (by grind)] at hp
    cases hp

namespace Findings

variable {o : ExtractOptions} {rules : CommentRules} {t : Text} {f : Findings}

/-- A comment of a source file declares an empty key on a line. -/
def DeclaresEmpty (rules : CommentRules) (t : Text) (line : Nat) : Prop :=
  ∃ m, Source.Module.ofText t = some m ∧
    ∃ c ∈ m.comments, c.line = line ∧ rules.declaredKey? c = some []

/-- By default no comment declares an empty key. -/
lemma not_declaresEmpty (hkey : rules.key = some CommentRules.defaultKey) (t : Text)
    (line : Nat) : ¬DeclaresEmpty rules t line := by
  rintro ⟨m, hm, c, hc, -, hdeclared⟩
  exact CommentRules.ne_nil_of_declaredKey? hkey (Source.Module.trim_comment hm hc) hdeclared rfl

/-- Empty keys are those that comments declare. -/
lemma empty_mem_told_iff (h : ofText o rules t = .ok f) (line : Nat) :
    ([], line) ∈ f.told ↔ DeclaresEmpty rules t line := by
  obtain ⟨m, hm, h⟩ := ofText_eq_ok_iff.mp h
  obtain ⟨notes, hnotes, rfl⟩ := ofModule_eq_ok_iff.mp h
  have hnoted := CommentNotes.isNoted_ofComments hnotes
  obtain ⟨found, hfound, htold⟩ := exists_tells_foldl (o := o) (⟨notes.declared, []⟩, notes)
    hnoted.ignored (Call.inNode m.tree)
  have hcalled : ([], line) ∉ found.flatten := by
    intro hmem
    obtain ⟨keys, hkeys, hmem⟩ := List.mem_flatten.mp hmem
    obtain ⟨c, -, htells⟩ := Failure.exists_of_forall₂ hfound hkeys
    exact htells.ne_nil hmem rfl
  have hdeclared : told ⟨notes.declared, []⟩ =
      m.comments.filterMap fun c => (rules.declaredKey? c).map (·, c.line) := hnoted.keys
  rw [htold, List.mem_append, or_iff_left hcalled, hdeclared]
  simp only [List.mem_filterMap, Option.map_eq_some_iff, Prod.mk.injEq]
  constructor
  · rintro ⟨c, hc, key, hkey, rfl, rfl⟩
    exact ⟨m, hm, c, hc, rfl, hkey⟩
  · rintro ⟨m', hm', c, hc, rfl, hkey⟩
    obtain rfl := Option.some.inj (hm.symm.trans hm')
    exact ⟨c, hc, [], hkey, rfl, rfl⟩

end Findings

/-! ### Additions to an index -/

namespace Collector

/-- What can be added to an index: the keys of a text as if it were a file's, those of a file, and
those of all files that patterns find. -/
inductive Addition where
  | text (name t : Text)
  | file (name : Text) (encoding : Value)
  | files (patterns encoding : Value)

namespace Addition

/-- Carry out an addition. -/
def run (c : Collector) : Addition → Collecting Unit
  | .text name t => do
    let loc ← Collecting.ofAction (return c.locate (← get).current name)
    let _ ← c.addText loc t
    return ()
  | .file name encoding => c.addFile name encoding
  | .files patterns encoding => c.addFiles patterns encoding

/-- The texts that are looked through: those that can be read. -/
def texts (c : Collector) (s : Session) : Addition → List Text
  | .text _ t => [t]
  | .file name encoding => (c.content s encoding (c.locate s.current name)).toOption.toList
  | .files patterns encoding =>
    ((s.tree.glob (c.base s.current) patterns).toOption.getD []).filterMap fun loc =>
      (c.content s encoding loc).toOption

end Addition

variable {c : Collector} {context : Text} {i j : Index} {s u : Session} {texts : List Text}
  {encoding : Value} {loc : Location} {key : Text}

/-- A key is found in a text. -/
def Finds (c : Collector) (t key : Text) : Prop :=
  ∃ found, Findings.ofText c.options c.rules t = .ok found ∧ ∃ o ∈ found.occurrences, o.key = key

/-- The index holds what successful additions have put into it, each of them in a session of its
own, and these are the texts that were looked through. -/
inductive Fills (c : Collector) : List Text → Index → Prop
  | empty : Fills c [] .empty
  | add {texts : List Text} {i j : Index} {a : Addition} {s u : Session} :
      Fills c texts i → (a.run c).outcome i s = (.ok (), j, u) → Fills c (texts ++ a.texts c s) j

lemma Fills.run {a : Addition} (h : c.Fills texts i)
    (hok : ((a.run c).outcome i s).1 = .ok ()) :
    c.Fills (texts ++ a.texts c s) ((a.run c).outcome i s).2.1 := .add h (Prod.ext hok rfl)

lemma mem_toOption_iff {α : Type} {r : Except Failure α} {x : α} :
    r.toOption = some x ↔ r = .ok x := by
  cases r <;> simp [Except.toOption]

lemma exists_shows_iff :
    (∃ p, c.Shows s encoding loc p ∧ p.key = key) ↔
      ∃ t, c.content s encoding loc = .ok t ∧ c.Finds t key := by
  constructor
  · rintro ⟨p, ⟨t, found, ht, hfound, o, ho, rfl⟩, rfl⟩
    exact ⟨t, ht, found, hfound, o, ho, rfl⟩
  · rintro ⟨t, ht, found, hfound, o, ho, rfl⟩
    exact ⟨_, ⟨t, found, ht, hfound, o, ho, rfl⟩, rfl⟩

lemma exists_sighted_iff {name t : Text} {found : Findings}
    (hfound : Findings.ofText c.options c.rules t = .ok found) :
    (∃ p ∈ sighted name found.occurrences, p.key = key) ↔ c.Finds t key := by
  simp [Finds, hfound, sighted]

/-- A text is added with success only if its keys are found, and then it is those that come in. -/
lemma exists_addAll_of_addText (hcontext : c.contextName = .ok context) {name t : Text}
    (h : ((Addition.text name t).run c).outcome i s = (.ok (), j, u)) :
    ∃ seen, i.addAll context seen = .ok j ∧
      ∀ key, (∃ p ∈ seen, p.key = key) ↔ c.Finds t key := by
  have hrun : (Addition.text name t).run c = (do
      let loc ← Collecting.ofAction (return c.locate (← get).current name)
      let _ ← c.addText loc t
      return ()) := rfl
  have hlocate : (return c.locate (← get).current name : Action Location).outcome s =
      (.ok (c.locate s.current name), s) := by
    rw [Action.outcome_bind_ok (Action.outcome_get s), Action.outcome_pure]
  cases hfound : Findings.ofText c.options c.rules t with
  | error e =>
    rw [hrun, Collecting.outcome_bind, Collecting.outcome_ofAction, hlocate] at h
    dsimp only at h
    rw [Collecting.outcome_bind, c.outcome_addText_error hfound] at h
    cases h
  | ok found =>
    have hends := (c.endsWith_addText hcontext hfound (c.locate s.current name) i s).map
      fun _ => ()
    have hfits := (Collecting.EndsWith.after hlocate (.refl s) hends).eq_ok (hrun ▸ h)
    obtain ⟨k, hadd, hlevel⟩ := bind_eq_ok_iff.mp hfits
    obtain ⟨_, -, hk⟩ := bind_eq_ok_iff.mp hlevel
    obtain rfl := pure_eq_ok_iff.mp hk
    exact ⟨_, hadd, fun key => exists_sighted_iff hfound⟩

/-- A successful addition puts the keys into the index that are found in the texts. -/
lemma exists_addAll_of_run (hcontext : c.contextName = .ok context) {a : Addition}
    (h : (a.run c).outcome i s = (.ok (), j, u)) :
    ∃ seen, i.addAll context seen = .ok j ∧
      ∀ key, (∃ p ∈ seen, p.key = key) ↔ ∃ t ∈ a.texts c s, c.Finds t key := by
  cases a with
  | text name t => simpa [Addition.texts] using exists_addAll_of_addText hcontext h
  | file name encoding =>
    have h : (c.addFile name encoding).outcome i s = (.ok (), j, u) := h
    obtain ⟨seen, hseen, hadd⟩ := bind_eq_ok_iff.mp ((c.endsWith_addFile hcontext name).eq_ok h)
    refine ⟨seen, hadd, fun key => ?_⟩
    simp only [mem_sightings hseen, exists_shows_iff, Addition.texts, Option.mem_toList,
      mem_toOption_iff]
  | files patterns encoding =>
    have h : (c.addFiles patterns encoding).outcome i s = (.ok (), j, u) := h
    cases hfiles : s.tree.glob (c.base s.current) patterns with
    | error e =>
      rw [c.outcome_addFiles_error hfiles] at h
      cases h
    | ok files =>
      obtain ⟨seen, hseen, hadd⟩ :=
        bind_eq_ok_iff.mp ((c.endsWith_addFiles hcontext hfiles).eq_ok h)
      refine ⟨seen, hadd, fun key => ?_⟩
      have htexts : (Addition.files patterns encoding).texts c s =
          files.filterMap fun loc => (c.content s encoding loc).toOption := by
        rw [Addition.texts, hfiles]
        rfl
      rw [htexts]
      simp only [mem_allSightings hseen, List.mem_filterMap, mem_toOption_iff]
      constructor
      · rintro ⟨p, ⟨loc, hloc, hp⟩, hkey⟩
        obtain ⟨t, ht, hfinds⟩ := exists_shows_iff.mp ⟨p, hp, hkey⟩
        exact ⟨t, ⟨loc, hloc, ht⟩, hfinds⟩
      · rintro ⟨t, ⟨loc, hloc, ht⟩, hfinds⟩
        obtain ⟨p, hp, hkey⟩ := exists_shows_iff.mpr ⟨t, ht, hfinds⟩
        exact ⟨p, ⟨loc, hloc, hp⟩, hkey⟩

/-- An index that additions have filled describes sightings of the keys that are found in the
texts. -/
lemma Fills.exists_describes (hcontext : c.contextName = .ok context) (h : c.Fills texts i) :
    ∃ seen, i.Describes context seen ∧
      ∀ key, (∃ p ∈ seen, p.key = key) ↔ ∃ t ∈ texts, c.Finds t key := by
  induction h with
  | empty => exact ⟨[], Index.describes_empty context, by simp⟩
  | add _ hrun ih =>
    obtain ⟨seen, hseen, hkeys⟩ := ih
    obtain ⟨more, hadd, hmore⟩ := exists_addAll_of_run hcontext hrun
    refine ⟨seen ++ more, hseen.addAll hadd, fun key => ?_⟩
    simp only [List.mem_append, or_and_right, exists_or, hkeys, hmore]

/-! ### Messages -/

/-- Messages can be made if the context has a name, each key that is found is not empty, and the
context is a text. -/
lemma Fills.exists_messages_iff (h : c.Fills texts i) :
    (∃ ms, c.messages i = .ok ms) ↔ (∃ context, c.contextName = .ok context) ∧
      ∀ t ∈ texts, ∀ key, c.Finds t key → key ≠ [] ∧ ∃ u, c.options.context = .text u := by
  have hfound {context : Text} (hcontext : c.contextName = .ok context) :
      (∃ ms, c.messages i = .ok ms) ↔
        ∀ t ∈ texts, ∀ key, c.Finds t key → key ≠ [] ∧ ∃ u, c.options.context = .text u := by
    obtain ⟨seen, hseen, hkeys⟩ := h.exists_describes hcontext
    simp only [messages_eq_ok_iff hseen hcontext, exists_and_left, exists_eq', and_true]
    constructor
    · intro hp t ht key hfinds
      obtain ⟨p, hmem, rfl⟩ := (hkeys key).mpr ⟨t, ht, hfinds⟩
      exact hp p hmem
    · intro hfinds p hmem
      obtain ⟨t, ht, hkey⟩ := (hkeys p.key).mp ⟨p, hmem, rfl⟩
      exact hfinds t ht p.key hkey
  constructor
  · rintro ⟨ms, hms⟩
    obtain ⟨context, hcontext, -⟩ := bind_eq_ok_iff.mp hms
    exact ⟨⟨context, hcontext⟩, (hfound hcontext).mp ⟨ms, hms⟩⟩
  · rintro ⟨⟨context, hcontext⟩, hfinds⟩
    exact (hfound hcontext).mpr hfinds

/-- A key of an index is refused only as an argument. -/
lemma kind_of_message_eq_error (hkey : key ∈ i.keys context) {e : Failure}
    (h : c.message i context key = .error e) : e.kind = .argument := by
  unfold message at h
  cases key with
  | nil => cases h; rfl
  | cons ch key =>
    rw [Index.refs_eq hkey, Index.comments_eq hkey] at h
    cases hcontext : c.options.context with
    | text t =>
      rw [hcontext] at h
      cases h
    | _ =>
      rw [hcontext] at h
      cases h
      rfl

/-- Messages are refused as arguments, unless the context has no name. -/
lemma kind_of_messages_eq_error {e : Failure} (h : c.messages i = .error e) :
    e.kind = .argument ↔ ∃ context, c.contextName = .ok context := by
  rcases Failure.bind_eq_error_iff.mp h with hcontext | ⟨context, hcontext, h⟩
  · have hkind : e.kind = .type := by
      unfold contextName at hcontext
      repeat' split at hcontext
      all_goals cases hcontext
      rfl
    simp [hkind, hcontext]
  · obtain ⟨key, hkey, h⟩ := Failure.exists_of_mapM_eq_error h
    exact iff_of_true (kind_of_message_eq_error hkey h) ⟨context, hcontext⟩

/-- A file tells an empty key on a line just when a comment on that line declares it, and by default
none does. After additions, the messages are refused as arguments just when an empty key has been
found in one of the texts, or any key if the context is no text; otherwise there are messages. -/
theorem messages_of_fills (c : Collector) :
    (∀ t f, Findings.ofText c.options c.rules t = .ok f → ∀ line,
      ([], line) ∈ f.told ↔ Findings.DeclaresEmpty c.rules t line) ∧
    (c.rules.key = some CommentRules.defaultKey →
      ∀ t line, ¬Findings.DeclaresEmpty c.rules t line) ∧
    ∀ texts i, c.Fills texts i →
      ((∃ e, c.messages i = .error e ∧ e.kind = .argument) ↔
        (∃ context, c.contextName = .ok context) ∧
          ∃ t ∈ texts, ∃ key, c.Finds t key ∧ (key = [] ∨ ∀ u, c.options.context ≠ .text u)) ∧
      ((∃ ms, c.messages i = .ok ms) ↔
        (∃ context, c.contextName = .ok context) ∧
          ∀ t ∈ texts, ∀ key, c.Finds t key → key ≠ [] ∧ ∃ u, c.options.context = .text u) := by
  refine ⟨fun t f h => Findings.empty_mem_told_iff h, Findings.not_declaresEmpty,
    fun texts i h => ⟨?_, h.exists_messages_iff⟩⟩
  have hmessages := h.exists_messages_iff
  -- There are messages or a refusal, so the condition for one is the negation of the other.
  cases hresult : c.messages i with
  | ok ms =>
    obtain ⟨hcontext, hfinds⟩ := hmessages.mp ⟨ms, hresult⟩
    simp only [reduceCtorEq, false_and, exists_false, false_iff, not_and]
    rintro - ⟨t, ht, key, hkey, hrefused⟩
    obtain ⟨hne, u, hu⟩ := hfinds t ht key hkey
    exact hrefused.elim hne fun hnone => hnone u hu
  | error e =>
    rw [hresult] at hmessages
    have hrefused : ¬((∃ context, c.contextName = .ok context) ∧
        ∀ t ∈ texts, ∀ key, c.Finds t key → key ≠ [] ∧ ∃ u, c.options.context = .text u) := by
      simp [← hmessages]
    simp only [Except.error.injEq, exists_eq_left', kind_of_messages_eq_error hresult]
    grind

/-- The expression `key(.*)`: a word, and all that comes after it as the first group. -/
def wordKey : Regex := Regex.literal "key" (.group 1 (.repeated 0 none false Regex.anyChar))

/-- Any comment with the word declares the rest of it as a key. -/
def keyed : Collector where
  options := { baseDir := ⟨"", []⟩ }
  rules := ⟨true, some wordKey, none⟩

/-- The first comment has no more than the word. -/
def bareWord : Text := "# key
_('Open')
# key Close
"

theorem messages_of_fills_bareWord : keyed.rules.HasKeyGroup ∧
    (∃ f, Findings.ofText keyed.options keyed.rules bareWord = .ok f ∧
      f.told = ([("", 1), ("Close", 3), ("Open", 2)] : List (Text × Nat)) ∧
      Findings.DeclaresEmpty keyed.rules bareWord 1) ∧
    ∃ i, keyed.Fills [bareWord] i ∧ ∃ e, keyed.messages i = .error e ∧ e.kind = .argument := by
  obtain ⟨hempty, -, hfills⟩ := messages_of_fills keyed
  obtain ⟨f, hf⟩ := Failure.exists_of_isSome
    (x := Findings.ofText keyed.options keyed.rules bareWord) (by decide +kernel)
  have htold : f.told = ([("", 1), ("Close", 3), ("Open", 2)] : List (Text × Nat)) := by
    have hmap : (Findings.ofText keyed.options keyed.rules bareWord).toOption.map Findings.told =
        some ([("", 1), ("Close", 3), ("Open", 2)] : List (Text × Nat)) := by
      decide +kernel
    rw [hf] at hmap
    exact Option.some.inj hmap
  have hfirst : ([], 1) ∈ f.told := by
    rw [htold]
    exact List.mem_cons_self
  refine ⟨CommentRules.hasKeyGroup_of_literal rfl, ⟨f, hf, htold, (hempty _ f hf 1).mp hfirst⟩, ?_⟩
  obtain ⟨_, hok⟩ := Failure.exists_of_isSome
    (x := (((Addition.text "a.py" bareWord).run keyed).outcome .empty {}).1) (by decide +kernel)
  have hadd := Fills.empty.run hok
  obtain ⟨o, ho, hkey⟩ := List.mem_map.mp hfirst
  exact ⟨_, hadd, (hfills _ _ hadd).1.mpr ⟨⟨[], rfl⟩, bareWord, List.mem_singleton_self _, [],
    ⟨f, hf, o, ho, congrArg Prod.fst hkey⟩, .inl rfl⟩⟩

end Collector

end MessageCatalog
