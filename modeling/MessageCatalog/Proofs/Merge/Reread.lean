import Mathlib
import MessageCatalog.Proofs.Catalog.Alike
import MessageCatalog.Proofs.Merge.Legible
import MessageCatalog.Proofs.Merge.FixedPoint

/-!
# Merging into what was written

When the entries that came out of a merge are written and read again, a merge of the same messages
finds every one of them as it is: it makes entries that are written like the first ones, and every
built-in order puts these in the same places.
-/

namespace MessageCatalog

open Text Catalog Failure

namespace Entry

variable {e x : Entry}

/-! ### Comments that are read -/

/-- What is read for a live entry has its comments, the places of use with single spaces. -/
lemma given_canonical_of_live (h : e.obsolete = false) :
    givenText e.canonical.translator = givenText e.translator ∧
      givenText e.canonical.extracted = givenText e.extracted ∧
      givenText e.canonical.reference = nonempty (join " " (words (e.reference.getD []))) := by
  have hgiven := e.given_writtenComments_canonical
  rw [writtenComments_of_live h, writtenComments_of_live (e := e.canonical) h] at hgiven
  exact EntryComments.mk.inj hgiven

/-- An entry with the translation of what is read for a live entry is written like it, if its
comments that belong to places are. -/
lemma alike_of_canonical (h : e.obsolete = false) (hsame : e.canonical.SameTranslation x)
    (hextracted : givenText x.extracted = givenText e.extracted)
    (hreference : givenText x.reference = givenText e.reference) : e.Alike x where
  msgid := hsame.msgid
  msgstr := hsame.msgstr
  msgctxt := hsame.msgctxt
  msgidPlural := (congrArg givenText hsame.msgidPlural).trans (givenText_givenText _)
  comments := by
    have htranslator : givenText x.translator = givenText e.translator :=
      (congrArg givenText hsame.translator).trans (given_canonical_of_live h).1
    rw [writtenComments_of_live h, writtenComments_of_live (hsame.obsolete.trans h),
      EntryComments.given, EntryComments.given, htranslator, hextracted, hreference]
  flags := hsame.flags
  previousMsgid := by rw [hsame.previousMsgid, canonical, h]; rfl
  previousMsgctxt := by rw [hsame.previousMsgctxt, canonical, h]; rfl
  obsolete := hsame.obsolete

lemma words_getD_nonempty (t : Text) :
    words ((nonempty (join " " (words t))).getD []) = words t := by
  rw [getD_nonempty]
  exact words_join fun w hw => isWord_of_mem_words hw

lemma commentWords_canonical (h : e.obsolete = false) :
    commentWords e.canonical.reference = commentWords e.reference := by
  rw [commentWords, ← getD_givenText, (given_canonical_of_live h).2.2, words_getD_nonempty]
  rfl

lemma givenText_countedExtracted (e : Entry) :
    givenText e.countedExtracted = givenText e.extracted := by
  rw [countedExtracted, extracted]
  cases e.comments with
  | none => rfl
  | some c =>
    show givenText (if c.isGiven then c.extracted else none) = givenText c.extracted
    split
    · rfl
    · rename_i hnot
      have hgone := congrArg EntryComments.extracted
        (EntryComments.given_of_not_isGiven (Bool.not_eq_true _ ▸ hnot))
      exact hgone.symm

/-- The extracted comment is left alone just when it holds the lines. -/
lemma setExtracted_eq_self_iff (lines : List Text) (e : Entry) :
    e.setExtracted lines = (e, none) ↔ givenText e.extracted = nonempty (join "\n" lines) := by
  rw [← givenText_countedExtracted, setExtracted]
  cases join "\n" lines with
  | nil =>
    cases hold : isGiven e.countedExtracted with
    | true =>
      have hthere : givenText e.countedExtracted ≠ none := by
        intro hnone
        rw [← isGiven_givenText, hnone] at hold
        exact Bool.false_ne_true hold
      simp [hthere, nonempty]
    | false => simp [givenText_of_not_isGiven hold, nonempty]
  | cons c text =>
    by_cases hold : e.countedExtracted = some (c :: text)
    · simp [hold, givenText, nonempty]
    · have hother : givenText e.countedExtracted ≠ some (c :: text) := by
        rw [givenText, Ne, Option.filter_eq_some_iff]
        exact fun h => hold h.1
      simp [hold, hother, nonempty]

lemma clearPlaces_alike_canonical (h : e.obsolete = false) (hclear : e.clearPlaces = e) :
    e.Alike e.canonical.clearPlaces := by
  have hnone : ∀ y : Entry, y.clearPlaces.extracted = none ∧ y.clearPlaces.reference = none := by
    intro y
    rw [extracted, reference, clearPlaces]
    cases y.comments <;> exact ⟨rfl, rfl⟩
  have he := hnone e
  rw [hclear] at he
  refine alike_of_canonical h (sameTranslation_clearPlaces _) ?_ ?_
  · rw [(hnone _).1, he.1]
  · rw [(hnone _).2, he.2]

/-- Live entries that are written alike are sorted alike. -/
lemma Alike.sortsLike (h : e.Alike x) (hlive : e.obsolete = false) : e.SortsLike x where
  msgid := h.msgid
  msgctxt := h.msgctxt
  firstReference := by
    have hcomments := h.comments
    rw [writtenComments_of_live hlive, writtenComments_of_live (h.obsolete.trans hlive)]
      at hcomments
    have hreference : givenText x.reference = givenText e.reference :=
      congrArg EntryComments.reference hcomments
    rw [firstReference_eq, firstReference_eq, commentWords, commentWords, ← getD_givenText,
      hreference, getD_givenText]

end Entry

namespace Merge

variable {o : ReferenceOptions} {context : Text} {source source' : Bucket} {m : Message} {e : Entry}

/-! ### Merged entries -/

lemma Carries.steps (h : Carries o m e) :
    mergeReference o m e = .ok (e, none) ∧ e.setExtracted m.comments = (e, none) := by
  cases href : mergeReference o m e with
  | error f =>
    rw [Carries, mergeFound, href] at h
    cases h
  | ok x =>
    obtain ⟨x, change⟩ := x
    rw [Carries, mergeFound_eq href] at h
    have hstep := Except.ok.inj h
    have hentry : (x.setExtracted m.comments).1 = e :=
      congrArg (fun s => s.tracked.entry) hstep
    have hchanges : change.toList ++ (x.setExtracted m.comments).2.toList = [] :=
      congrArg (fun s => s.tracked.changes) hstep
    obtain ⟨hchange, hchange'⟩ := List.append_eq_nil_iff.mp hchanges
    obtain rfl := Option.toList_eq_nil_iff.mp hchange
    -- Nothing was changed, so the extracted comment was left alone.
    rcases Entry.setExtracted_cases m.comments x with hset | ⟨new, change, hset⟩
    · rw [hset] at hentry
      obtain rfl : x = e := hentry
      exact ⟨rfl, hset⟩
    · rw [hset] at hchange'
      cases hchange'

/-- A message that an entry carries is merged into what is read for the entry without change. -/
theorem Carries.reread (h : Carries o m e) (hlive : e.obsolete = false)
    (hjoined : (o.enabled.truthy && !m.refs.isEmpty) = false → IsJoined e.reference) :
    ∃ x, mergeFound o m e.canonical = .ok ⟨⟨x, some m, []⟩, false⟩ ∧ e.Alike x := by
  obtain ⟨href, hset⟩ := h.steps
  have hextracted : givenText e.canonical.extracted = givenText e.extracted :=
    (Entry.given_canonical_of_live hlive).2.1
  have hlines := (Entry.setExtracted_eq_self_iff m.comments e).mp hset
  have hreread : ∃ x, mergeReference o m e.canonical = .ok (x, none) ∧ e.Alike x ∧
      givenText x.extracted = givenText e.extracted := by
    -- Either references are not merged and stay as they were read, or they are laid out anew
    -- with the same words, which is no change.
    rcases mergeReference_cases href with ⟨hoff, -, -⟩ | ⟨hon, text, htext, hsame⟩
    · refine ⟨e.canonical, ?_, ?_, hextracted⟩
      · rw [mergeReference, hoff]
        rfl
      · refine Entry.alike_of_canonical hlive (Entry.SameTranslation.refl _) hextracted ?_
        rw [(Entry.given_canonical_of_live hlive).2.2, hjoined hoff]
    · have hreference : e.reference = if text.isEmpty then none else some text := by
        conv_lhs => rw [hsame]
        rfl
      have hkept : givenText (e.canonical.withReference e.reference).extracted =
          givenText e.extracted := by
        rw [Entry.extracted_withReference, hextracted]
      refine ⟨e.canonical.withReference e.reference, ?_, ?_, hkept⟩
      · have hwords : Entry.commentWords e.canonical.reference = words text := by
          rw [Entry.commentWords_canonical hlive, hreference, Entry.commentWords_ite]
        rw [hreference]
        exact mergeReference_of_words hon htext hwords
      · exact Entry.alike_of_canonical hlive (Entry.sameTranslation_withReference _ _)
          hkept rfl
  obtain ⟨x, hmerge, halike, hsame⟩ := hreread
  refine ⟨x, ?_, halike⟩
  rw [mergeFound_eq hmerge, (Entry.setExtracted_eq_self_iff m.comments x).mpr (hsame.trans hlines)]
  rfl

variable {ms : List Message} {steps : List (Text × Step)} {order : SortOrder}

/-- Into a bucket that holds what is read for the merged entries, messages are merged without any
change. -/
lemma Run.reread (h : Run o context source ms steps)
    (hlive : ∀ e ∈ mergedEntries steps, e.obsolete = false)
    (hjoined : ∀ e ∈ source.values, IsJoined e.reference)
    (hget : ∀ s ∈ steps, source'.get? s.1 = some s.2.tracked.entry.canonical) :
    ∃ steps', Run o context source' ms steps' ∧
      List.Forall₂ Entry.Alike (mergedEntries steps) (mergedEntries steps') ∧
      ∀ s ∈ steps', s.2.events = [.found] := by
  have hbase : ∀ msgid, IsJoined (base context source msgid).reference := by
    intro msgid
    rw [base]
    cases hsource : source.get? msgid with
    | some e => exact hjoined e (List.mem_map_of_mem (OrderedMap.get?_eq_some_iff.mp hsource))
    | none => exact isJoined_none
  -- Message by message: the entry that was merged is read again, and merging into that leaves
  -- it alike.
  have hentries : ∃ xs, List.Forall₂ (IsFoundAs o source') ms xs ∧
      List.Forall₂ Entry.Alike (mergedEntries steps) xs := by
    have hall := h.merged
    clear h
    induction hall with
    | nil => exact ⟨[], .nil, .nil⟩
    | @cons m s ms steps hm _ ih =>
      obtain ⟨hheadLive, htailLive⟩ := List.forall_mem_cons.mp hlive
      obtain ⟨hhead, htail⟩ := List.forall_mem_cons.mp hget
      obtain ⟨xs, hfound, halikes⟩ := ih htailLive htail
      obtain ⟨-, -, -, hcarries⟩ := mergeOne_spec hm.2
      obtain ⟨x, hmerge, halike⟩ := hcarries.reread hheadLive fun hoff => by
        rcases reference_of_mergeOne hm.2 with ⟨-, hsame⟩ | ⟨hon, -⟩
        · rw [hsame]
          exact hbase m.key
        · exact absurd (hon.symm.trans hoff) Bool.noConfusion
      exact ⟨x :: xs, .cons ⟨_, hm.1 ▸ hhead, hmerge⟩ hfound, .cons halike halikes⟩
  obtain ⟨xs, hfound, halikes⟩ := hentries
  obtain ⟨steps', hrun, rfl, hevents⟩ :=
    exists_run_of_found hfound h.distinct h.nonempty context
  exact ⟨steps', hrun, halikes, hevents⟩

/-! ### Buckets -/

/-- A bucket of what is read for entries, behind others without message id. -/
def IsRereadOf (b : Bucket) (es : List Entry) : Prop :=
  ∃ before : List (Text × Entry), (∀ p ∈ before, p.1 = [] ∧ p.2.msgid = []) ∧
    b.entries = before ++ keyed (es.map Entry.canonical)

namespace IsRereadOf

variable {b : Bucket} {es : List Entry}

lemma wellFormed (h : IsRereadOf b es) : b.WellFormed := by
  obtain ⟨before, hbefore, hentries⟩ := h
  intro p hp
  rw [hentries] at hp
  rcases List.mem_append.mp hp with hp | hp
  · rw [(hbefore p hp).1, (hbefore p hp).2]
  · exact (mem_keyed.mp hp).2.symm

lemma exists_keys (h : IsRereadOf b es) : ∃ before, b.keys = before ++ es.map Entry.msgid := by
  obtain ⟨before, -, hentries⟩ := h
  refine ⟨before.map Prod.fst, ?_⟩
  rw [OrderedMap.keys, hentries, List.map_append, map_fst_keyed, List.map_map]
  rfl

lemma get? (h : IsRereadOf b es) (he : e ∈ es) : b.get? e.msgid = some e.canonical := by
  obtain ⟨before, -, hentries⟩ := h
  rw [OrderedMap.get?_eq_some_iff, hentries]
  exact List.mem_append_right _ (mem_keyed.mpr ⟨List.mem_map_of_mem he, rfl⟩)

/-- What is missing from the bucket is read for entries that no message has. -/
lemma missingEntries_eq (h : IsRereadOf b es) (keys : List Text) :
    missingEntries b keys = (es.filter fun e => !e.msgid.isEmpty && !keys.contains e.msgid).map
      fun e => e.canonical.clearPlaces := by
  obtain ⟨before, hbefore, hentries⟩ := h
  have hnone : (before.map Prod.snd).filter
      (fun e => !e.msgid.isEmpty && !keys.contains e.msgid) = [] := by
    rw [List.filter_eq_nil_iff]
    intro x hx
    obtain ⟨p, hp, rfl⟩ := List.mem_map.mp hx
    simp [(hbefore p hp).2]
  rw [missingEntries, OrderedMap.values, hentries, List.map_append, map_snd_keyed,
    List.filter_append, hnone, List.nil_append, List.filter_map, List.map_map]
  rfl

end IsRereadOf

lemma pairwise_ordering_of_alike {positions : SourceOrder} {es xs : List Entry}
    (halike : List.Forall₂ Entry.Alike es xs) (hlive : ∀ e ∈ es, e.obsolete = false)
    (h : es.Pairwise fun e f => order.ordering positions e f = .lt) :
    xs.Pairwise fun x y => order.ordering positions x y = .lt := by
  induction halike with
  | nil => exact .nil
  | @cons e x es xs hx hxs ih =>
    obtain ⟨he, hes⟩ := List.forall_mem_cons.mp hlive
    obtain ⟨hfirst, hrest⟩ := List.pairwise_cons.mp h
    refine List.pairwise_cons.mpr ⟨fun y hy => ?_, ih hes hrest⟩
    obtain ⟨f, hf, hfy⟩ := exists_of_forall₂ hxs hy
    rw [SortOrder.ordering_of_sortsLike (hx.sortsLike he) (hfy.sortsLike (hes f hf))]
    exact hfirst f hf

/-- Entries that are written like those of a sorted list, in any order, are sorted like them. -/
theorem sortEntries_of_alike (hbuiltIn : order.IsBuiltIn) (start : SourceOrder)
    {es fs xs : List Entry} {before : List Text}
    (hids : (before ++ (order.sortEntries start es).map Entry.msgid).Nodup)
    (hlive : ∀ e ∈ es, e.obsolete = false) (hfs : fs.Perm (order.sortEntries start es))
    (halike : List.Forall₂ Entry.Alike fs xs) :
    List.Forall₂ Entry.Alike (order.sortEntries start es) (order.sortEntries
      (SortOrder.positions (before ++ (order.sortEntries start es).map Entry.msgid)) xs) := by
  obtain ⟨ys, hys, hperm⟩ := List.perm_comp_forall₂ hfs.symm halike
  have hordered := SortOrder.pairwise_ordering_append hbuiltIn start hids
  have hlive' : ∀ e ∈ order.sortEntries start es, e.obsolete = false :=
    fun e he => hlive e ((order.sortEntries_perm start es).mem_iff.mp he)
  rw [SortOrder.sortEntries_eq hbuiltIn _ xs,
    mergeSort_eq_of_perm (pairwise_ordering_of_alike hys hlive' hordered) hperm.symm]
  exact hys

/-! ### The catalog that is written -/

/-- The missing entries that are written: none if the catalog holds the messages only. -/
def keptEntries (replace : Bool) (source : Bucket) (keys : List Text) : List Entry :=
  if replace then [] else missingEntries source keys

/-- The entries that are written for the context. -/
def writtenBucket (replace : Bool) (source : Bucket) (keys : List Text)
    (steps : List (Text × Step)) : List Entry :=
  mergedEntries steps ++ keptEntries replace source keys

variable {replace : Bool}

lemma keptEntries_sublist (replace : Bool) (source : Bucket) (keys : List Text) :
    (keptEntries replace source keys).Sublist (missingEntries source keys) := by
  cases replace with
  | true => exact List.nil_sublist _
  | false => exact List.Sublist.refl _

lemma clearPlaces_of_mem_keptEntries {keys : List Text} (he : e ∈ keptEntries replace source keys) :
    e.clearPlaces = e := by
  obtain ⟨x, -, rfl⟩ := List.mem_map.mp ((keptEntries_sublist replace source keys).subset he)
  exact x.clearPlaces_clearPlaces

lemma report_written (h : Run o context source ms steps) (hsource : source.WellFormed) (c : Catalog)
    (order : SortOrder) (replace : Bool) :
    (if replace then (report c context order source steps).replace
      else (report c context order source steps).patch) =
      c.withContext context (sortedBucket order source
        (writtenBucket replace source (ms.map Message.key) steps)) := by
  obtain ⟨hpatch, hreplace⟩ := report_catalogs h hsource c order
  cases replace with
  | true => rw [writtenBucket, keptEntries, if_pos rfl, if_pos rfl, List.append_nil, hreplace]
  | false => exact hpatch

lemma Run.nodup_written (h : Run o context source ms steps) (hsource : source.WellFormed)
    (replace : Bool) :
    ((writtenBucket replace source (ms.map Message.key) steps).map Entry.msgid).Nodup :=
  (h.nodup_msgids hsource).sublist
    (((keptEntries_sublist replace source _).append_left _).map Entry.msgid)

/-- No message has the entries that are kept. -/
lemma Run.filter_written (h : Run o context source ms steps) (hsource : source.WellFormed)
    (replace : Bool) :
    ((writtenBucket replace source (ms.map Message.key) steps).filter fun e =>
      !e.msgid.isEmpty && !(ms.map Message.key).contains e.msgid) =
        keptEntries replace source (ms.map Message.key) := by
  cases replace with
  | true =>
    rw [writtenBucket, keptEntries, if_pos rfl, List.append_nil, List.filter_eq_nil_iff]
    intro e he
    rw [h.contains_merged hsource he]
    simp
  | false => exact h.filter_missing hsource

lemma Run.msgid_ne_nil (h : Run o context source ms steps) (hsource : source.WellFormed)
    (he : e ∈ writtenBucket replace source (ms.map Message.key) steps) : e.msgid ≠ [] := by
  rcases List.mem_append.mp he with he | he
  · have hkey : e.msgid ∈ ms.map Message.key := by
      rw [← h.msgids hsource]
      exact List.mem_map_of_mem he
    obtain ⟨m, hm, heq⟩ := List.mem_map.mp hkey
    exact heq ▸ h.nonempty m hm
  · exact ((mem_msgids_missingEntries hsource).mp
      (List.mem_map_of_mem ((keptEntries_sublist replace source _).subset he))).2.1

/-- The messages are merged again without change into a bucket that is read for what was written,
and the same entries are missing. -/
theorem Run.reread_written (h : Run o context source ms steps) (hsource : source.WellFormed)
    (hlive : ∀ e ∈ writtenBucket replace source (ms.map Message.key) steps, e.obsolete = false)
    (hjoined : ∀ e ∈ source.values, IsJoined e.reference) {S : List Entry}
    (hS : S.Perm (writtenBucket replace source (ms.map Message.key) steps)) {b : Bucket}
    (hb : IsRereadOf b S) :
    ∃ steps', Run o context b ms steps' ∧ (∀ s ∈ steps', s.2.events = [.found]) ∧
      ((missingEntries b (ms.map Message.key)).map Entry.msgid).Perm
        ((keptEntries replace source (ms.map Message.key)).map Entry.msgid) ∧
      ∃ es, es.Perm S ∧ List.Forall₂ Entry.Alike es
        (writtenBucket replace b (ms.map Message.key) steps') := by
  have hget : ∀ s ∈ steps, b.get? s.1 = some s.2.tracked.entry.canonical := by
    intro s hs
    rw [← h.msgid hsource hs]
    exact hb.get? (hS.mem_iff.mpr (List.mem_append_left _ (List.mem_map_of_mem hs)))
  obtain ⟨steps', hagain, hmerged, hevents⟩ :=
    h.reread (fun e he => hlive e (List.mem_append_left _ he)) hjoined hget
  have hkept := (hS.filter fun e =>
    !e.msgid.isEmpty && !(ms.map Message.key).contains e.msgid).trans
      (.of_eq (h.filter_written hsource replace))
  have hmissing : ((missingEntries b (ms.map Message.key)).map Entry.msgid).Perm
      ((keptEntries replace source (ms.map Message.key)).map Entry.msgid) := by
    rw [hb.missingEntries_eq, List.map_map]
    exact hkept.map Entry.msgid
  -- Nothing is missing after a replacement, and otherwise all that is missing is kept.
  have hall : keptEntries replace b (ms.map Message.key) =
      missingEntries b (ms.map Message.key) := by
    cases replace with
    | true => exact (List.map_eq_nil_iff.mp (List.perm_nil.mp hmissing)).symm
    | false => rfl
  refine ⟨steps', hagain, hevents, hmissing, mergedEntries steps ++ S.filter fun e =>
    !e.msgid.isEmpty && !(ms.map Message.key).contains e.msgid, ?_, ?_⟩
  · exact (hkept.append_left _).trans hS.symm
  · rw [writtenBucket, hall, hb.missingEntries_eq]
    refine List.rel_append hmerged ?_
    rw [List.forall₂_map_right_iff, List.forall₂_same]
    intro e he
    have hmem := hkept.mem_iff.mp he
    exact Entry.clearPlaces_alike_canonical (hlive e (List.mem_append_right _ hmem))
      (clearPlaces_of_mem_keptEntries hmem)

end Merge

end MessageCatalog
