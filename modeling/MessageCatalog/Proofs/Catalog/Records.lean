import MessageCatalog.Proofs.Merge.Rewritable

/-!
# Records that are written back

A file is read, grouped into a catalog, written and read again. Then every live record of the file
is there with its fields, in its context. The one field that no catalog holds is the previous text
of the plural: it is gone.
-/

namespace MessageCatalog

open Text Failure

namespace Document

/-- The records of a file that are not obsolete. -/
def live (d : Document) : List Record := d.records.filter fun r => !r.obsolete

/-- A record with a message id, and with a context that is not empty, if it has one. It has a plural
and a translation at every index from zero on, or neither a plural nor an index. -/
structure Record.IsRegular (r : Record) : Prop where
  msgid : r.msgid ≠ []
  msgctxt : r.msgctxt ≠ some []
  plural : r.msgidPlural = [] ∧ r.msgstrPlural = [] ∨
    r.msgidPlural ≠ [] ∧ r.msgstrPlural ≠ [] ∧
      (r.msgstrPlural.map Prod.fst).Perm (List.range r.msgstrPlural.length)

instance (r : Record) : Decidable r.IsRegular :=
  decidable_of_iff (_ ∧ _ ∧ _) ⟨fun h => ⟨h.1, h.2.1, h.2.2⟩, fun h => ⟨h.1, h.2, h.3⟩⟩

/-- The fields of a record that are in the other one, too: all but the previous text of the
plural. -/
structure Record.IsKeptAs (r x : Record) : Prop where
  msgctxt : x.msgctxt = r.msgctxt
  msgid : x.msgid = r.msgid
  msgidPlural : x.msgidPlural = r.msgidPlural
  msgstr : r.msgidPlural = [] → x.msgstr = r.msgstr
  msgstrPlural : x.msgstrPlural.Perm r.msgstrPlural
  flags : x.flags = r.flags
  translatorComment : x.translatorComment = r.translatorComment
  extractedComment : x.extractedComment = r.extractedComment
  occurrences : x.occurrences = r.occurrences
  previousMsgctxt : x.previousMsgctxt = r.previousMsgctxt
  previousMsgid : x.previousMsgid = r.previousMsgid
  obsolete : x.obsolete = r.obsolete

end Document

namespace Catalog

open Document

variable {c : Catalog} {d : Document} {r : Record} {e : Entry} {es : List Entry} {k id : Text}
  {m : OrderedMap Bucket} {t assumed name : Text} {width : Int}

/-! ### Records and their entries -/

/-- Translations at the indices from zero on are numbered by their places. -/
lemma zipIdx_map_snd {xs : List (Nat × Text)} (h : xs.map Prod.fst = List.range xs.length) :
    (xs.map Prod.snd).zipIdx.map Prod.swap = xs := by
  refine List.ext_getElem (by simp) fun i hi hi' => ?_
  have hindex : xs[i].1 = i := by
    have hget := List.getElem_map Prod.fst (l := xs) (i := i) (h := by simpa using hi')
    simp only [h, List.getElem_range] at hget
    exact hget.symm
  rw [List.getElem_map, List.getElem_zipIdx, List.getElem_map, Nat.zero_add]
  exact Prod.ext hindex.symm rfl

/-- The translations at the indices from zero on get these indices again. -/
lemma perm_zipIdx_translationsOf (hplural : r.msgidPlural ≠ []) (hne : r.msgstrPlural ≠ [])
    (hindices : (r.msgstrPlural.map Prod.fst).Perm (List.range r.msgstrPlural.length)) :
    ((translationsOf r).zipIdx.map Prod.swap).Perm r.msgstrPlural := by
  have hperm := List.mergeSort_perm r.msgstrPlural fun a b => decide (a.1 ≤ b.1)
  have hsorted : (r.msgstrPlural.mergeSort fun a b => decide (a.1 ≤ b.1)).Pairwise
      fun a b => decide (a.1 ≤ b.1) = true :=
    List.pairwise_mergeSort (fun a b c => by simpa using le_trans)
      (fun a b => by simpa using le_total a.1 b.1) _
  have hrange : (r.msgstrPlural.mergeSort fun a b => decide (a.1 ≤ b.1)).map Prod.fst =
      List.range (r.msgstrPlural.mergeSort fun a b => decide (a.1 ≤ b.1)).length := by
    rw [hperm.length_eq]
    refine List.Perm.eq_of_pairwise' (List.pairwise_map.mpr (hsorted.imp ?_))
      List.pairwise_le_range ((hperm.map Prod.fst).trans hindices)
    exact fun h => of_decide_eq_true h
  have htranslations : translationsOf r =
      (r.msgstrPlural.mergeSort fun a b => decide (a.1 ≤ b.1)).map Prod.snd := by
    rw [translationsOf, if_neg (by simpa using hplural)]
    split
    · next hnil =>
      have hlength := congrArg List.length hnil
      rw [List.length_map, hperm.length_eq, List.length_nil, List.length_eq_zero_iff] at hlength
      exact absurd hlength hne
    · rfl
  rw [htranslations, zipIdx_map_snd hrange]
  exact hperm

/-- The places of use of a record are read again as they are. -/
lemma occurrencesOf_commentsOf (hr : r.Legible) :
    occurrencesOf (commentsOf r).reference = r.occurrences := by
  have hword : ∀ w ∈ r.occurrences.map occurrenceText, IsWord w := by
    intro w hw
    obtain ⟨o, ho, rfl⟩ := List.mem_map.mp hw
    exact occurrenceText_of_legible (hr.occurrences o ho)
  rw [occurrencesOf, commentsOf, getD_nonempty, words_join hword, List.map_map]
  refine (List.map_congr_left fun o ho => ?_).trans (List.map_id _)
  obtain ⟨w, -, rfl⟩ := hr.occurrences o ho
  rw [Function.comp_apply, occurrenceText_occurrenceOf]
  rfl

/-- A live record is read for its entry with the fields that it had. -/
lemma isKeptAs_recordOf (hr : r.Legible) (hlive : r.obsolete = false) (h : r.IsRegular) :
    r.IsKeptAs (recordOf (entryOf r)) := by
  have hwritten : (entryOf r).writtenComments = commentsOf r := by
    rw [writtenComments_entryOf, hlive]
    rfl
  have hgiven : isGiven (entryOf r).msgidPlural = !r.msgidPlural.isEmpty := isGiven_nonempty _
  refine ⟨rfl, rfl, getD_nonempty _, fun hnone => ?_, ?_, rfl, ?_, ?_, ?_, ?_, ?_, rfl⟩
  · have hsingle : isGiven (entryOf r).msgidPlural = false := by simp [hgiven, hnone]
    have htranslations : (entryOf r).msgstr = [r.msgstr] := by simp [entryOf, translationsOf, hnone]
    simp [recordOf, hsingle, htranslations]
  · rw [recordOf]
    rcases h.plural with ⟨hnone, hempty⟩ | ⟨hplural, hne, hindices⟩
    · simp [hgiven, hnone, hempty]
    · have hsome : isGiven (entryOf r).msgidPlural = true := by simpa [hgiven] using hplural
      simp only [hsome, if_true]
      exact perm_zipIdx_translationsOf hplural hne hindices
  · rw [recordOf, hwritten]
    exact getD_nonempty _
  · rw [recordOf, hwritten]
    exact getD_nonempty _
  · rw [recordOf, hwritten]
    exact occurrencesOf_commentsOf hr
  · simp [recordOf, entryOf, hlive]
  · simp [recordOf, entryOf, hlive]

/-! ### Entries and their places -/

/-- Where an entry stands in a catalog: its context and its message id. -/
def placeOf (e : Entry) : Text × Text := (e.msgctxt.getD [], e.msgid)

/-- Put a live entry into its place. -/
def putEntry (m : OrderedMap Bucket) (e : Entry) : OrderedMap Bucket :=
  m.insert (e.msgctxt.getD []) ((bucketAt m (e.msgctxt.getD [])).insert e.msgid e)

/-- Obsolete entries do not change the contexts. -/
lemma translations_foldl_addEntry (es : List Entry) (c : Catalog) :
    (es.foldl addEntry c).translations =
      (es.filter fun e => !e.obsolete).foldl putEntry c.translations := by
  induction es generalizing c with
  | nil => rfl
  | cons e es ih =>
    rw [List.foldl_cons, ih, addEntry]
    cases h : e.obsolete with
    | true => simp [h]
    | false => simp [h, putEntry, bucketAt]

lemma get?_putEntry (m : OrderedMap Bucket) (e : Entry) (k id : Text) :
    (bucketAt (putEntry m e) k).get? id =
      if placeOf e = (k, id) then some e else (bucketAt m k).get? id := by
  rw [bucketAt, putEntry, OrderedMap.get?_insert, placeOf]
  by_cases hk : k = e.msgctxt.getD []
  · subst hk
    simp [OrderedMap.get?_insert, eq_comm]
  · rw [if_neg hk, if_neg fun h => hk (Prod.mk.inj h).1.symm]
    rfl

/-- In a place is the entry that was put there. -/
lemma get?_foldl_putEntry (h : (es.map placeOf).Nodup) (m : OrderedMap Bucket) (k id : Text) :
    (bucketAt (es.foldl putEntry m) k).get? id =
      (es.find? fun e => placeOf e = (k, id)).or ((bucketAt m k).get? id) := by
  induction es generalizing m with
  | nil => rfl
  | cons e es ih =>
    rw [List.map_cons, List.nodup_cons] at h
    rw [List.foldl_cons, ih h.2, get?_putEntry, List.find?_cons]
    by_cases he : placeOf e = (k, id)
    · have hnone : es.find? (fun e => placeOf e = (k, id)) = none := by
        rw [List.find?_eq_none]
        intro x hx hplace
        exact h.1 (he ▸ of_decide_eq_true hplace ▸ List.mem_map_of_mem hx)
      simp [he, hnone]
    · simp [he]

lemma find?_placeOf (h : (es.map placeOf).Nodup) (he : e ∈ es) :
    es.find? (fun x => placeOf x = (e.msgctxt.getD [], e.msgid)) = some e := by
  cases hfound : es.find? fun x => placeOf x = (e.msgctxt.getD [], e.msgid) with
  | none => exact absurd (decide_eq_true rfl) (List.find?_eq_none.mp hfound e he)
  | some x =>
    have hplace : placeOf x = (e.msgctxt.getD [], e.msgid) := by simpa using List.find?_some hfound
    rw [List.inj_on_of_nodup_map h (List.mem_of_find?_eq_some hfound) he hplace]

lemma mem_messageEntries_iff (hc : c.WellFormed) :
    e ∈ messageEntries (bucketAt c.translations k) ↔
      e.msgid ≠ [] ∧ (bucketAt c.translations k).get? e.msgid = some e := by
  have hwell : (bucketAt c.translations k).WellFormed := by
    by_cases hk : k ∈ c.translations.keys
    · exact hc.get? (get?_of_mem_keys hk)
    · rw [bucketAt_of_not_mem hk]
      exact fun p hp => absurd hp List.not_mem_nil
  rw [messageEntries, List.mem_filter, OrderedMap.get?_eq_some_iff]
  constructor
  · rintro ⟨hvalue, hid⟩
    obtain ⟨p, hp, rfl⟩ := List.mem_map.mp hvalue
    exact ⟨by simpa using hid, hwell p hp ▸ hp⟩
  · rintro ⟨hid, hentry⟩
    exact ⟨List.mem_map_of_mem hentry, by simpa using hid⟩

/-- The entries of all contexts are different. -/
lemma nodup_messageEntries (hc : c.Legible) :
    (c.translations.keys.flatMap fun k => messageEntries (bucketAt c.translations k)).Nodup := by
  have hcontext : ∀ k, ∀ e ∈ messageEntries (bucketAt c.translations k),
      e.msgctxt.getD [] = k := by
    intro k e he
    exact (hc.of_get?_bucketAt ((mem_messageEntries_iff hc.wellFormed).mp he).2).1.context
  rw [List.nodup_flatMap]
  constructor
  · intro k hk
    have hwell := hc.wellFormed.get? (get?_of_mem_keys hk)
    have hids : ((bucketAt c.translations k).values.map Entry.msgid).Nodup := by
      rw [← hwell.keys_eq]
      exact (bucketAt c.translations k).distinct
    exact (List.Nodup.of_map _ hids).filter _
  · refine c.translations.distinct.imp fun {k k'} hne => ?_
    intro e he he'
    exact hne ((hcontext k e he).symm.trans (hcontext k' e he'))

/-- A catalog that was read from a file has the entries of its live records, if these are in
different places. -/
lemma perm_messageEntries (hd : d.Legible) (hids : ∀ r ∈ d.live, r.msgid ≠ [])
    (hplaces : ((d.live.map entryOf).map placeOf).Nodup) (charset : Text) :
    ((ofDocument d charset).translations.keys.flatMap fun k =>
      messageEntries (bucketAt (ofDocument d charset).translations k)).Perm
        (d.live.map entryOf) := by
  have hc := legible_ofDocument hd charset
  have hlive : (d.records.map entryOf).filter (fun e => !e.obsolete) = d.live.map entryOf := by
    rw [List.filter_map]
    rfl
  -- Each place is taken by one record only, so the record is found there.
  have hget : ∀ k id, id ≠ [] →
      (bucketAt (ofDocument d charset).translations k).get? id =
        (d.live.map entryOf).find? fun e => placeOf e = (k, id) := by
    intro k id hid
    rw [ofDocument, translations_foldl_addEntry, hlive, get?_foldl_putEntry hplaces]
    have hnone : (bucketAt (OrderedMap.empty.insert ([] : Text) (OrderedMap.empty.insert []
        ({ msgid := [], msgstr := [headerText d.headers.entries] } : Entry))) k).get? id =
          none := by
      rw [bucketAt, OrderedMap.get?_insert]
      split
      · rw [Option.getD_some, OrderedMap.get?_insert, if_neg hid]
        rfl
      · rfl
    rw [hnone, Option.or_none]
  refine (List.perm_ext_iff_of_nodup (nodup_messageEntries hc)
    (List.Nodup.of_map _ hplaces)).mpr fun e => ?_
  simp only [List.mem_flatMap, mem_messageEntries_iff hc.wellFormed]
  constructor
  · rintro ⟨k, -, hid, he⟩
    rw [hget k e.msgid hid] at he
    exact List.mem_of_find?_eq_some he
  · intro he
    have hid : e.msgid ≠ [] := by
      obtain ⟨r, hr, rfl⟩ := List.mem_map.mp he
      exact hids r hr
    have hthere : (bucketAt (ofDocument d charset).translations (e.msgctxt.getD [])).get? e.msgid =
        some e := by
      rw [hget _ _ hid]
      exact find?_placeOf hplaces he
    refine ⟨e.msgctxt.getD [], ?_, hid, hthere⟩
    by_contra hmem
    rw [bucketAt_of_not_mem hmem] at hthere
    cases hthere

/-- Records with different contexts and message ids have different places. -/
lemma nodup_placeOf (hcontexts : ∀ r ∈ d.live, r.msgctxt ≠ some [])
    (h : (d.live.map fun r => (r.msgctxt, r.msgid)).Nodup) :
    ((d.live.map entryOf).map placeOf).Nodup := by
  have hcontext : ∀ r ∈ d.live, ∀ r' ∈ d.live, r.msgctxt.getD [] = r'.msgctxt.getD [] →
      r.msgctxt = r'.msgctxt := by
    intro r hr r' hr' heq
    have hr := hcontexts r hr
    have hr' := hcontexts r' hr'
    cases hc : r.msgctxt <;> cases hc' : r'.msgctxt <;> simp_all
  rw [List.map_map]
  refine List.Nodup.map_on (fun r hr r' hr' heq => ?_) (List.Nodup.of_map _ h)
  obtain ⟨hsame, hid⟩ := Prod.mk.inj heq
  exact List.inj_on_of_nodup_map h hr hr' (Prod.ext (hcontext r hr r' hr' hsame) hid)

/-! ### The whole file -/

/-- A catalog that was read from a file can be written just when its headers can be put in order. -/
lemma render_iff_orderedHeaders (hc : c.Legible) (htop : c.HasPlainTop)
    (hutf8 : Charset.ofName c.charset = .ok .utf8) (hwidth : width ≤ 0 ∨ 3 ≤ width) :
    (∃ bytes, c.render width = .ok bytes) ↔ ∃ hs, orderedHeaders c.headers = .ok hs := by
  constructor
  · rintro ⟨bytes, hrender⟩
    exact (IsRewritable.of_render hc htop hutf8 hrender).headers
  · intro hheaders
    obtain ⟨bytes, -, -, hrender, -⟩ :=
      IsRewritable.exists_isReadBack ⟨hc, htop, hutf8, hheaders⟩ hwidth hutf8
    exact ⟨bytes, hrender⟩

/-- What is written of a catalog in UTF-8 is read as the records of its entries. -/
lemma exists_ofText_of_render (hc : c.Legible) (htop : c.HasPlainTop)
    (hutf8 : Charset.ofName c.charset = .ok .utf8) (hwidth : width ≤ 0 ∨ 3 ≤ width)
    (hname : Charset.ofName name = .ok .utf8) {bytes : ByteArray}
    (hrender : c.render width = .ok bytes) :
    ∃ t d, Charset.decodeNamed name bytes = .ok t ∧ ofText t = .ok d ∧
      d.records = (writtenEntries c).map recordOf := by
  obtain ⟨hs, horder⟩ := (IsRewritable.of_render hc htop hutf8 hrender).headers
  obtain ⟨t, d, hprint, ht, hread, -, -, -, hrecords⟩ :=
    exists_ofText_print_of_order hwidth horder hc.headers
      ⟨hc.headerComment.1, htop, hc.headerComment.2⟩ fun e he => hc.of_mem_writtenEntries he
  obtain ⟨t', hprint', hencode⟩ := render_eq_ok_iff.mp hrender
  obtain rfl := Except.ok.inj (hprint.symm.trans hprint')
  obtain ⟨cs, hcs, hbytes⟩ := Charset.encodeNamed_eq_ok_iff.mp hencode
  obtain rfl := Except.ok.inj (hutf8.symm.trans hcs)
  have hsame : Charset.utf8.Rereads .utf8 bytes := Or.inl (Or.inl rfl)
  exact ⟨t, d, hsame.decodeNamed hname ht hbytes, hread, hrecords⟩

/-- The live records that are read are those of the entries in the contexts. -/
lemma live_eq_of_records (hc : c.Legible) {d' : Document}
    (h : d'.records = (writtenEntries c).map recordOf) :
    d'.live = (c.translations.keys.flatMap fun k =>
      messageEntries (bucketAt c.translations k)).map recordOf := by
  have hlive : ∀ e ∈ c.translations.keys.flatMap fun k =>
      messageEntries (bucketAt c.translations k), e.obsolete = false := by
    intro e he
    obtain ⟨k, -, he⟩ := List.mem_flatMap.mp he
    exact (hc.of_get?_bucketAt ((mem_messageEntries_iff hc.wellFormed).mp he).2).1.live
  rw [live, h, hc.grouped.writtenEntries_eq, List.filter_map, List.filter_append,
    List.filter_eq_self.mpr fun e he => ?_, List.filter_eq_nil_iff.mpr fun e he => ?_,
    List.append_nil]
  · show ¬ (!e.obsolete) = true
    rw [(hc.obsolete e he).2]
    exact Bool.false_ne_true
  · show (!e.obsolete) = true
    rw [hlive e he]
    rfl

/-- A text in UTF-8 is read, and its live records are regular and stand in different places. Then
its catalog can be written if and only if its headers can be put in order, and what was written is
read with a live record for each of them that keeps its fields. No record has a previous text of the
plural any more. -/
theorem render_keeps_live (hread : ofText t = .ok d) (hparse : parse t assumed = .ok c)
    (hutf8 : Charset.ofName c.charset = .ok .utf8) (htop : c.HasPlainTop)
    (hregular : ∀ r ∈ d.live, r.IsRegular)
    (hdistinct : (d.live.map fun r => (r.msgctxt, r.msgid)).Nodup)
    (hwidth : width ≤ 0 ∨ 3 ≤ width) (hname : Charset.ofName name = .ok .utf8) :
    ((∃ bytes, c.render width = .ok bytes) ↔ ∃ hs, orderedHeaders d.headers = .ok hs) ∧
      ∀ bytes, c.render width = .ok bytes →
        ∃ t' d', Charset.decodeNamed name bytes = .ok t' ∧ ofText t' = .ok d' ∧
          (∃ rs, rs.Perm d'.live ∧ List.Forall₂ Record.IsKeptAs d.live rs) ∧
          ∀ x ∈ d'.records, x.previousMsgidPlural = none := by
  obtain ⟨hc, -⟩ := legible_parse hparse
  have hd := legible_ofText hread
  obtain ⟨_, hread', hdocument⟩ := bind_eq_ok_iff.mp hparse
  obtain rfl := Except.ok.inj (hread.symm.trans hread')
  obtain rfl := pure_eq_ok_iff.mp hdocument
  have hheaders : (ofDocument d assumed).headers = d.headers :=
    (foldl_addEntry_headers (d.records.map entryOf) _).1
  refine ⟨hheaders ▸ render_iff_orderedHeaders hc htop hutf8 hwidth, fun bytes hrender => ?_⟩
  obtain ⟨t', d', hdecode, hreread, hrecords⟩ :=
    exists_ofText_of_render hc htop hutf8 hwidth hname hrender
  refine ⟨t', d', hdecode, hreread, ⟨(d.live.map entryOf).map recordOf, ?_, ?_⟩, ?_⟩
  · rw [live_eq_of_records hc hrecords]
    refine (perm_messageEntries hd (fun r hr => (hregular r hr).msgid) ?_ assumed).symm.map recordOf
    exact nodup_placeOf (fun r hr => (hregular r hr).msgctxt) hdistinct
  · rw [List.map_map, List.forall₂_map_right_iff, List.forall₂_same]
    intro r hr
    obtain ⟨hmem, hlive⟩ := List.mem_filter.mp hr
    exact isKeptAs_recordOf (hd.records r hmem) (by simpa using hlive) (hregular r hr)
  · intro x hx
    rw [hrecords] at hx
    obtain ⟨e, -, rfl⟩ := List.mem_map.mp hx
    rfl

/-- A catalog file with an entry in a context whose message and plural have changed. -/
def ledgerFile : Text := "msgid \"\"\nmsgstr \"Content-Type: text/plain; charset=UTF-8\\n\"\n\n" ++
  "# to check\n#: a.py:1\n#, fuzzy\n#| msgid \"One file\"\n#| msgid_plural \"Many files\"\n" ++
  "msgctxt \"menu\"\nmsgid \"A file\"\nmsgid_plural \"{n} files\"\n" ++
  "msgstr[0] \"Eine Datei\"\nmsgstr[1] \"{n} Dateien\"\n"

theorem render_keeps_live_ledger : ∃ d c bytes t' d' r x, ofText ledgerFile = .ok d ∧
    parse ledgerFile "utf-8" = .ok c ∧ c.render 78 = .ok bytes ∧
    Charset.decodeNamed "utf-8" bytes = .ok t' ∧ ofText t' = .ok d' ∧ r ∈ d.live ∧ x ∈ d'.live ∧
    x.previousMsgid = r.previousMsgid ∧ x.previousMsgidPlural ≠ r.previousMsgidPlural := by
  have hfile : (match ofText ledgerFile, parse ledgerFile "utf-8" with
      | .ok d, .ok c => decide (Charset.ofName c.charset = .ok .utf8 ∧ c.HasPlainTop ∧
          (∀ r ∈ d.live, r.IsRegular) ∧ (d.live.map fun r => (r.msgctxt, r.msgid)).Nodup ∧
          d.live.map (·.previousMsgidPlural) = [some ("Many files" : Text)]) &&
          (orderedHeaders d.headers).toOption.isSome
      | _, _ => false) = true := by decide +kernel
  split at hfile
  · next d c hread hparse =>
    rw [Bool.and_eq_true, decide_eq_true_eq] at hfile
    obtain ⟨⟨hutf8, htop, hregular, hdistinct, hprevious⟩, hsome⟩ := hfile
    have hwidth : (3 : Int) ≤ 78 := by decide
    have hname : Charset.ofName "utf-8" = .ok .utf8 := by decide
    obtain ⟨hrenders, hkept⟩ := render_keeps_live hread hparse hutf8 htop hregular hdistinct
      (Or.inr hwidth) hname
    obtain ⟨bytes, hrender⟩ := hrenders.mpr (exists_of_isSome hsome)
    obtain ⟨t', d', hdecode, hreread, ⟨rs, hperm, hall⟩, hgone⟩ := hkept bytes hrender
    obtain ⟨r, hone, hr⟩ := List.map_eq_singleton_iff.mp hprevious
    rw [hone] at hall
    obtain ⟨x, rest, hx, -, rfl⟩ := List.forall₂_cons_left_iff.mp hall
    have hmem : x ∈ d'.live := hperm.mem_iff.mp List.mem_cons_self
    refine ⟨d, c, bytes, t', d', r, x, hread, hparse, hrender, hdecode, hreread,
      hone ▸ List.mem_cons_self, hmem, hx.previousMsgid, ?_⟩
    rw [hgone x (List.mem_of_mem_filter hmem), hr]
    exact (Option.some_ne_none _).symm
  · cases hfile

end Catalog

end MessageCatalog
