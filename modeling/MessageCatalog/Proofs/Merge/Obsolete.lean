import MessageCatalog.Proofs.Merge.Keys

/-!
# Obsolete entries

A merge does not look at the obsolete entries, and they stand at the end of every file that is
written. They are read again in their order with their translations, their flags and the comment of
the translator. The comments about places in the source are not written for them: an obsolete
message has no place there. Their previous texts are written behind a mark that no reader goes into.
-/

namespace MessageCatalog

open Text Failure

/-- What an obsolete entry is carried as through a file: the same but for the comments that belong
to places in the source and for the previous texts, which are gone. -/
structure Entry.IsCarriedAs (e x : Entry) : Prop where
  msgid : x.msgid = e.msgid
  msgstr : x.msgstr = e.msgstr
  msgctxt : x.msgctxt = e.msgctxt
  msgidPlural : x.msgidPlural = e.msgidPlural
  flags : x.flags = e.flags
  obsolete : x.obsolete = e.obsolete
  translator : x.translator = e.translator
  extracted : x.extracted = none
  reference : x.reference = none
  previousMsgid : x.previousMsgid = none
  previousMsgctxt : x.previousMsgctxt = none

namespace Catalog

variable {c : Catalog} {t assumed name : Text}

/-! ### Obsolete entries of a file -/

lemma obsolete_foldl_addEntry (es : List Entry) (c : Catalog) :
    (es.foldl addEntry c).obsolete = c.obsolete ++ es.filter (·.obsolete) := by
  induction es generalizing c with
  | nil => simp
  | cons e es ih =>
    rw [List.foldl_cons, ih, addEntry]
    cases h : e.obsolete with
    | true => simp [h]
    | false => simp [h]

/-- The obsolete entries are those of the file, in their order. -/
lemma obsolete_ofDocument (d : Document) (charset : Text) :
    (ofDocument d charset).obsolete = (d.records.map entryOf).filter (·.obsolete) :=
  obsolete_foldl_addEntry _ _

lemma isCarriedAs_canonical {r : Document.Record} (h : r.obsolete = true) :
    (entryOf r).IsCarriedAs (entryOf r).canonical := by
  have htranslator : (entryOf r).translator = (commentsOf r).translator := by
    rw [← comments_entryOf, Entry.translator]
    cases (entryOf r).comments <;> rfl
  have hwritten : (entryOf r).writtenComments.canonical =
      { translator := (commentsOf r).translator } := by
    rw [writtenComments_entryOf, if_pos h, EntryComments.canonical]
    simp only [commentsOf, givenText_nonempty]
    rfl
  have hcomments : (entryOf r).canonical.comments.getD {} =
      { translator := (commentsOf r).translator } := by
    rw [Entry.canonical, hwritten]
    cases htext : r.translatorComment <;> simp [commentsOf, htext, nonempty,
      EntryComments.isGiven, isGiven]
  have hgetD : ∀ x : Entry, x.translator = (x.comments.getD {}).translator ∧
      x.extracted = (x.comments.getD {}).extracted ∧
        x.reference = (x.comments.getD {}).reference := by
    intro x
    rw [Entry.translator, Entry.extracted, Entry.reference]
    cases x.comments <;> exact ⟨rfl, rfl, rfl⟩
  obtain ⟨htranslator', hextracted, hreference⟩ := hgetD (entryOf r).canonical
  rw [hcomments] at htranslator' hextracted hreference
  exact ⟨rfl, rfl, rfl, givenText_nonempty _, rfl, rfl, htranslator'.trans htranslator.symm,
    hextracted, hreference, if_pos h, if_pos h⟩

/-- The obsolete entries of a catalog that was read from a text are carried through a file. -/
lemma forall₂_isCarriedAs (h : parse t assumed = .ok c) :
    List.Forall₂ Entry.IsCarriedAs c.obsolete (c.obsolete.map Entry.canonical) := by
  obtain ⟨d, -, h⟩ := bind_eq_ok_iff.mp h
  obtain rfl := pure_eq_ok_iff.mp h
  rw [List.forall₂_map_right_iff, List.forall₂_same, obsolete_ofDocument]
  intro e he
  obtain ⟨hmem, hobsolete⟩ := List.mem_filter.mp he
  obtain ⟨r, -, rfl⟩ := List.mem_map.mp hmem
  exact isCarriedAs_canonical hobsolete

end Catalog

namespace Merge

open Catalog

variable {c : Catalog} {o : MergeOptions} {order : SortOrder} {d : Detail} {messages : Value}
  {values : List Value} {ms : List Message} {width : Int} {t assumed name : Text}

/-- Messages without references can be merged into a context that is there just when their keys are
different. -/
lemma exists_merge_iff_nodup (hvalues : messageValues messages = .ok values)
    (hread : values.mapM Message.ofValue = .ok ms) (hrefs : ∀ m ∈ ms, m.refs = [])
    (hadmits : Admits o order d) (hmem : o.context ∈ c.translations.keys) :
    (∃ r, (c.merge messages o).result = .ok r) ↔ (ms.map Message.key).Nodup := by
  constructor
  · rintro ⟨r, hr⟩
    obtain ⟨ms', -, -, -, -, ⟨⟨values', hvalues', hread'⟩, hnodup⟩, -⟩ :=
      merge_result_eq_ok_iff.mp hr
    obtain rfl := Except.ok.inj (hvalues.symm.trans hvalues')
    obtain rfl := Except.ok.inj (hread.symm.trans hread')
    exact hnodup
  · intro hnodup
    exact exists_merge_of_no_refs ⟨⟨values, hvalues, hread⟩, hnodup⟩ hadmits
      (get?_of_mem_keys hmem) hrefs

/-- A text in UTF-8 is read, and messages without references are merged into the context without
name. That succeeds if and only if no key comes twice. The patched catalog and the one with the
messages only can be written if the first one can, and what is read then has the same obsolete
entries in the same order, without the comments that belong to places in the source and without
previous texts. -/
theorem merge_carries_obsolete (hparse : parse t assumed = .ok c)
    (hutf8 : Charset.ofName c.charset = .ok .utf8) (htop : c.HasPlainTop)
    (hcontext : o.context = []) (hadmits : Admits o order d)
    (hvalues : messageValues messages = .ok values)
    (hread : values.mapM Message.ofValue = .ok ms) (hlegible : ∀ m ∈ ms, m.Legible)
    (hrefs : ∀ m ∈ ms, m.refs = []) (hwidth : width ≤ 0 ∨ 3 ≤ width)
    (hname : Charset.ofName name = .ok .utf8) :
    ((∃ r, (c.merge messages o).result = .ok r) ↔ (ms.map Message.key).Nodup) ∧
      ∀ r, (c.merge messages o).result = .ok r → ∀ replace,
        ((∃ bytes, (r.written replace).render width = .ok bytes) ↔
          ∃ bytes, c.render width = .ok bytes) ∧
        ∀ bytes, (r.written replace).render width = .ok bytes →
          ∃ c', parseBytes bytes name = .ok c' ∧
            List.Forall₂ Entry.IsCarriedAs c.obsolete c'.obsolete := by
  obtain ⟨hc, -⟩ := legible_parse hparse
  have hmem : o.context ∈ c.translations.keys := hcontext ▸ List.mem_of_head? hc.first
  have hmerges := exists_merge_iff_nodup hvalues hread hrefs hadmits hmem
  refine ⟨hmerges, fun r hr replace => ?_⟩
  have hms : Reads messages ms := ⟨⟨values, hvalues, hread⟩, hmerges.mp ⟨r, hr⟩⟩
  have hwritten := render_written_iff hc htop hutf8 hwidth hms hlegible hr replace
  refine ⟨hwritten, fun bytes hrender => ?_⟩
  obtain ⟨content, hcontent⟩ := hwritten.mp ⟨bytes, hrender⟩
  obtain ⟨bytes', c', hs, hrender', hreparse, hback⟩ := (isRewritable_written
    (.of_render hc htop hutf8 hcontent) hms hlegible hr replace).exists_isReadBack hwidth hname
  obtain rfl := Except.ok.inj (hrender.symm.trans hrender')
  obtain ⟨-, b, hb⟩ := written_of_merge hc hms hlegible hr replace
  have hobsolete : (r.written replace).obsolete = c.obsolete := by rw [hb]; rfl
  refine ⟨c', hreparse, ?_⟩
  rw [hback.obsolete, hobsolete]
  exact forall₂_isCarriedAs hparse

/-- A catalog file with an obsolete entry that still has comments about its place in the source and
a previous text. -/
def atticFile : Text := "msgid \"\"\nmsgstr \"Content-Type: text/plain; charset=UTF-8\\n\"\n\n" ++
  "# by hand\n#. a verb\n#: a.py:1\n#| msgid \"Close\"\n#~ msgid \"Shut\"\n#~ msgstr \"Zu\"\n"

/-- The obsolete entry keeps neither all of its comments nor its previous text. -/
theorem merge_changes_obsolete_attic : ∃ c r bytes c', parse atticFile "utf-8" = .ok c ∧
    (c.merge (bare "Open") { baseDir := default }).result = .ok r ∧
    r.patch.render 78 = .ok bytes ∧ parseBytes bytes "utf-8" = .ok c' ∧
    c'.obsolete ≠ c.obsolete ∧
    c'.obsolete.map Entry.comments ≠ c.obsolete.map Entry.comments ∧
    c'.obsolete.map Entry.previousMsgid ≠ c.obsolete.map Entry.previousMsgid := by
  have hfile : (match parse atticFile "utf-8" with
      | .ok c => match (c.merge (bare "Open") { baseDir := default }).result with
        | .ok r => match r.patch.render 78 with
          | .ok bytes => match parseBytes bytes "utf-8" with
            | .ok c' => decide (c'.obsolete ≠ c.obsolete ∧
                c'.obsolete.map Entry.comments ≠ c.obsolete.map Entry.comments ∧
                c'.obsolete.map Entry.previousMsgid ≠ c.obsolete.map Entry.previousMsgid)
            | .error _ => false
          | .error _ => false
        | .error _ => false
      | .error _ => false) = true := by decide +kernel
  split at hfile
  · next c hparse =>
    split at hfile
    · next r hr =>
      split at hfile
      · next bytes hrender =>
        split at hfile
        · next c' hreparse =>
          exact ⟨c, r, bytes, c', hparse, hr, hrender, hreparse, of_decide_eq_true hfile⟩
        · cases hfile
      · cases hfile
    · cases hfile
  · cases hfile

theorem merge_carries_obsolete_attic : ∃ c r bytes c' e, parse atticFile "utf-8" = .ok c ∧
    (c.merge (bare "Open") { baseDir := default }).result = .ok r ∧
    r.patch.render 78 = .ok bytes ∧ parseBytes bytes "utf-8" = .ok c' ∧
    e ∈ c'.obsolete ∧ e.msgid = "Shut" ∧ e.translator = some ("by hand" : Text) := by
  have hfile : (match parse atticFile "utf-8" with
      | .ok c => decide (Charset.ofName c.charset = .ok .utf8 ∧ c.HasPlainTop) &&
          (c.render 78).toOption.isSome && decide (c.obsolete.map
            (fun e => (e.msgid, e.translator)) = [(("Shut" : Text), some ("by hand" : Text))])
      | .error _ => false) = true := by decide +kernel
  split at hfile
  · next c hparse =>
    simp only [Bool.and_eq_true, decide_eq_true_eq] at hfile
    obtain ⟨⟨⟨hutf8, htop⟩, hsome⟩, hobsolete⟩ := hfile
    have hadmits : Admits { baseDir := default } .source ⟨false, false⟩ := ⟨rfl, rfl, rfl⟩
    have hkey : ("Open" : Text) ≠ [] := by decide
    have hwidth : (3 : Int) ≤ 78 := by decide
    have hname : Charset.ofName "utf-8" = .ok .utf8 := by decide
    obtain ⟨⟨values, hvalues, hread⟩, -⟩ := reads_bare hkey
    obtain ⟨hmerges, hcarries⟩ := merge_carries_obsolete hparse hutf8 htop rfl hadmits hvalues hread
      (legible_bare (OneLine.escapable (by decide))) (by simp) (Or.inr hwidth) hname
    obtain ⟨r, hr⟩ := hmerges.mpr (by simp)
    obtain ⟨hrenders, hkept⟩ := hcarries r hr false
    obtain ⟨bytes, hrender⟩ := hrenders.mpr (exists_of_isSome hsome)
    obtain ⟨c', hreparse, hall⟩ := hkept bytes hrender
    obtain ⟨e, hone, hentry⟩ := List.map_eq_singleton_iff.mp hobsolete
    rw [hone] at hall
    obtain ⟨x, rest, hx, -, hsame⟩ := List.forall₂_cons_left_iff.mp hall
    obtain ⟨hmsgid, htranslator⟩ := Prod.mk.inj hentry
    exact ⟨c, r, bytes, c', x, hparse, hr, hrender, hreparse, hsame ▸ List.mem_cons_self,
      hx.msgid.trans hmsgid, hx.translator.trans htranslator⟩
  · cases hfile

end Merge

end MessageCatalog
