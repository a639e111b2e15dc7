import Mathlib
import MessageCatalog.Proofs.Catalog.Parsed

/-!
# Entries that are written alike

Some differences between entries do not show in a file: whether a text is empty or absent, and, in
an obsolete entry, the comments that belong to places in the source. Entries that differ in no
other way have the same lines, and catalogs of such entries the same text.
-/

namespace MessageCatalog

open Text Catalog Failure

/-- The comments without empty texts. -/
def EntryComments.given (c : EntryComments) : EntryComments where
  translator := givenText c.translator
  extracted := givenText c.extracted
  reference := givenText c.reference

namespace Entry

/-- The second entry is written like the first one. -/
structure Alike (e x : Entry) : Prop where
  msgid : x.msgid = e.msgid
  msgstr : x.msgstr = e.msgstr
  msgctxt : x.msgctxt = e.msgctxt
  msgidPlural : givenText x.msgidPlural = givenText e.msgidPlural
  comments : x.writtenComments.given = e.writtenComments.given
  flags : x.flags = e.flags
  previousMsgid : x.previousMsgid = e.previousMsgid
  previousMsgctxt : x.previousMsgctxt = e.previousMsgctxt
  obsolete : x.obsolete = e.obsolete

lemma Alike.refl (e : Entry) : e.Alike e := ⟨rfl, rfl, rfl, rfl, rfl, rfl, rfl, rfl, rfl⟩

end Entry

/-! ### Texts that are given -/

lemma isGiven_givenText (t : Option Text) : isGiven (givenText t) = isGiven t := by
  match t with
  | none => rfl
  | some [] => rfl
  | some (_ :: _) => rfl

lemma givenText_givenText (t : Option Text) : givenText (givenText t) = givenText t := by
  match t with
  | none => rfl
  | some [] => rfl
  | some (_ :: _) => rfl

lemma getD_givenText (t : Option Text) : (givenText t).getD [] = t.getD [] := by
  match t with
  | none => rfl
  | some [] => rfl
  | some (_ :: _) => rfl

lemma givenText_of_isGiven {t : Option Text} (h : isGiven t = true) : givenText t = t := by
  match t with
  | none => exact absurd h Bool.false_ne_true
  | some [] => exact absurd h Bool.false_ne_true
  | some (_ :: _) => rfl

lemma givenText_of_not_isGiven {t : Option Text} (h : isGiven t = false) : givenText t = none := by
  match t with
  | none => rfl
  | some [] => rfl
  | some (_ :: _) => exact absurd h.symm Bool.false_ne_true

lemma isGiven_congr {t t' : Option Text} (h : givenText t = givenText t') :
    isGiven t = isGiven t' := by
  rw [← isGiven_givenText t, h, isGiven_givenText]

lemma EntryComments.given_of_not_isGiven {c : EntryComments} (h : c.isGiven = false) :
    c.given = {} := by
  simp only [isGiven, Bool.or_eq_false_iff] at h
  obtain ⟨⟨htranslator, hextracted⟩, hreference⟩ := h
  rw [given, givenText_of_not_isGiven htranslator, givenText_of_not_isGiven hextracted,
    givenText_of_not_isGiven hreference]

lemma EntryComments.given_canonical (c : EntryComments) : c.canonical.given = c.canonical := by
  simp only [given, canonical, givenText_givenText, givenText_nonempty]

/-- Comments whose places of use are joined are read as they are written. -/
lemma EntryComments.canonical_eq {c : EntryComments} (h : IsJoined c.reference) :
    c.canonical = c.given := by
  rw [canonical, given, h]

/-! ### Entries that are read -/

/-- An entry that is read has the comments that were written, its places of use joined. -/
lemma Entry.given_writtenComments_canonical (e : Entry) :
    e.canonical.writtenComments.given = e.writtenComments.canonical := by
  have hcomments : (e.canonical.comments.getD {}).given = e.writtenComments.canonical := by
    show ((if e.writtenComments.canonical.isGiven then some e.writtenComments.canonical
      else none).getD {}).given = e.writtenComments.canonical
    cases hgiven : e.writtenComments.canonical.isGiven with
    | true => exact EntryComments.given_canonical _
    | false =>
      rw [← EntryComments.given_canonical, EntryComments.given_of_not_isGiven hgiven]
      rfl
  cases ho : e.obsolete with
  | false =>
    rw [Entry.writtenComments, show e.canonical.obsolete = false from ho]
    exact hcomments
  | true =>
    rw [Entry.writtenComments, show e.canonical.obsolete = true from ho]
    have htranslator : givenText (e.canonical.comments.getD {}).translator =
        e.writtenComments.canonical.translator := congrArg EntryComments.translator hcomments
    have hwritten : e.writtenComments = { translator := (e.comments.getD {}).translator } := by
      rw [Entry.writtenComments, ho]
      rfl
    simp only [if_true, EntryComments.given, htranslator, hwritten, EntryComments.canonical]
    simp [givenText, nonempty]

/-- What is read for an entry is written like it, if its places of use are joined and nothing is
lost of previous texts. -/
lemma Entry.alike_canonical {e : Entry} (hjoined : IsJoined e.writtenComments.reference)
    (hprevious : e.obsolete = true → e.previousMsgid = none ∧ e.previousMsgctxt = none) :
    e.Alike e.canonical := by
  have hprevious' : e.canonical.previousMsgid = e.previousMsgid ∧
      e.canonical.previousMsgctxt = e.previousMsgctxt := by
    cases ho : e.obsolete with
    | false => exact ⟨by simp [canonical, ho], by simp [canonical, ho]⟩
    | true =>
      obtain ⟨hid, hcontext⟩ := hprevious ho
      exact ⟨by simp [canonical, ho, hid], by simp [canonical, ho, hcontext]⟩
  refine ⟨rfl, rfl, rfl, givenText_givenText _, ?_, rfl, hprevious'.1, hprevious'.2, rfl⟩
  rw [Entry.given_writtenComments_canonical, EntryComments.canonical_eq hjoined]

/-! ### Lines -/

namespace Document

lemma textLines_givenText (t : Option Text) : textLines (givenText t) = textLines t := by
  match t with
  | none => rfl
  | some [] => rfl
  | some (_ :: _) => rfl

lemma commentLines_of_alike {e x : Entry} (h : e.Alike x) : commentLines x = commentLines e := by
  obtain ⟨htranslator, hextracted, hreference⟩ := EntryComments.mk.inj h.comments
  have hlines : ∀ {t t' : Option Text}, givenText t = givenText t' → textLines t = textLines t' := by
    intro t t' heq
    rw [← textLines_givenText t, heq, textLines_givenText]
  rw [commentLines_eq, commentLines_eq, hlines htranslator, hlines hextracted, hlines hreference]

/-- Entries that are written alike have the same lines. -/
theorem entryLines_of_alike {e x : Entry} (h : e.Alike x) (width : Int) :
    entryLines width x = entryLines width e := by
  have hgiven := isGiven_congr h.msgidPlural
  have htranslations : ∀ mark, translationLines width mark x = translationLines width mark e := by
    intro mark
    simp only [translationLines, hgiven, h.msgstr]
  -- Only a plural that is given is written, and then it is the same.
  cases hthere : isGiven e.msgidPlural with
  | true =>
    have hplural : x.msgidPlural = e.msgidPlural := by
      rw [← givenText_of_isGiven (hgiven.trans hthere), h.msgidPlural,
        givenText_of_isGiven hthere]
    simp only [entryLines, htranslations, commentLines_of_alike h, h.flags, h.previousMsgid,
      h.previousMsgctxt, h.msgctxt, h.msgid, h.obsolete, hplural]
  | false =>
    simp only [entryLines, htranslations, commentLines_of_alike h, h.flags, h.previousMsgid,
      h.previousMsgctxt, h.msgctxt, h.msgid, h.obsolete, hgiven, hthere, Bool.false_eq_true,
      if_false]

/-- Catalogs with the same headers whose entries are written alike have the same text. -/
theorem print_of_alike {c c' : Catalog} {hs : List (Text × Text)}
    (horder : orderedHeaders c.headers = .ok hs) (horder' : orderedHeaders c'.headers = .ok hs)
    (hcomment : c'.headerComment = c.headerComment) (hfuzzy : c'.headerFuzzy = c.headerFuzzy)
    (hentries : List.Forall₂ Entry.Alike (writtenEntries c) (writtenEntries c')) (width : Int) :
    print width c' = print width c := by
  have hheader : headerEntry c' = headerEntry c := by
    rw [headerEntry, headerEntry, horder, horder', hfuzzy]
  have hblocks : ∀ {es es' : List Entry}, List.Forall₂ Entry.Alike es es' →
      (es'.mapM fun e => do return join "\n" (← entryLines width e) : Except Failure _) =
        es.mapM fun e => do return join "\n" (← entryLines width e) := by
    intro es es' h
    induction h with
    | nil => rfl
    | cons hex _ ih => rw [List.mapM_cons, List.mapM_cons, entryLines_of_alike hex, ih]
  simp only [print, hheader, hcomment]
  congr 1
  funext header
  rw [List.mapM_cons, List.mapM_cons, hblocks hentries]

/-! ### Entries that lose lines -/

/-- The second entry is written with some lines of the first one. -/
def Covers (width : Int) (e x : Entry) : Prop :=
  ∀ ls, entryLines width e = .ok ls → ∃ ls', entryLines width x = .ok ls' ∧ ls' ⊆ ls

lemma covers_of_alike {e x : Entry} (h : e.Alike x) (width : Int) : Covers width e x :=
  fun ls hls => ⟨ls, (entryLines_of_alike h width).trans hls, List.Subset.refl ls⟩

/-- The lines of an entry behind its comments, flags and previous texts. -/
def bodyLines (width : Int) (e : Entry) : Except Failure (List Text) := do
  let mark : Text := if e.obsolete then "#~ " else ""
  let context ← optionalLines width mark "msgctxt" 0 e.msgctxt
  let id ← fieldLines width mark "msgid" 0 e.msgid
  let plural ← if isGiven e.msgidPlural then
      optionalLines width mark "msgid_plural" 0 e.msgidPlural
    else .ok []
  let translations ← translationLines width mark e
  return context ++ id ++ plural ++ translations ++ [[]]

lemma entryLines_eq (width : Int) (e : Entry) : entryLines width e = (do
    let context ← optionalLines width (if e.obsolete then "#~| " else "#| ") "msgctxt" 9
      e.previousMsgctxt
    let id ← optionalLines width (if e.obsolete then "#~| " else "#| ") "msgid" 9 e.previousMsgid
    let body ← bodyLines width e
    return commentLines e ++ flagLines e.flags ++ context ++ id ++ body) := by
  cases hgiven : isGiven e.msgidPlural <;>
    simp [entryLines, bodyLines, hgiven]

/-- Without its previous texts an entry has the other lines. -/
lemma covers_of_no_previous (width : Int) (e : Entry) :
    Covers width e { e with previousMsgid := none, previousMsgctxt := none } := by
  intro ls hls
  rw [entryLines_eq] at hls
  obtain ⟨previousContext, -, hls⟩ := bind_eq_ok_iff.mp hls
  obtain ⟨previousId, -, hls⟩ := bind_eq_ok_iff.mp hls
  obtain ⟨body, hbody, hls⟩ := bind_eq_ok_iff.mp hls
  obtain rfl := pure_eq_ok_iff.mp hls
  refine ⟨commentLines e ++ flagLines e.flags ++ body, ?_, ?_⟩
  · have hsame : bodyLines width { e with previousMsgid := none, previousMsgctxt := none } =
        .ok body := hbody
    rw [entryLines_eq]
    refine bind_eq_ok_iff.mpr ⟨[], rfl, bind_eq_ok_iff.mpr ⟨[], rfl, ?_⟩⟩
    refine bind_eq_ok_iff.mpr ⟨body, hsame, ?_⟩
    simp only [List.append_nil]
    rfl
  · intro l hl
    simp only [List.mem_append] at hl ⊢
    tauto

lemma newline_mem_topComment (t : Text) : '\n' ∈ topComment t := by
  cases hsplit : splitOn '\n' t with
  | nil => exact absurd hsplit (splitOn_ne_nil '\n' t)
  | cons l ls =>
    rw [topComment, hsplit, List.flatMap_cons]
    refine List.mem_append_left _ ?_
    cases l <;> simp

/-- Entries that are written with lines of a text have blocks in it. -/
lemma exists_blocks_subset {width : Int} {t : Text} (hnewline : '\n' ∈ t) {es xs : List Entry}
    (hes : ∀ e ∈ es, ∃ ls, entryLines width e = .ok ls ∧ ∀ l ∈ ls, l ⊆ t)
    (hxs : ∀ x ∈ xs, ∃ e ∈ es, Covers width e x) :
    ∃ blocks, (xs.mapM fun e => do return join "\n" (← entryLines width e) : Except Failure _) =
      .ok blocks ∧ ∀ block ∈ blocks, block ⊆ t := by
  induction xs with
  | nil => exact ⟨[], rfl, by simp⟩
  | cons x xs ih =>
    obtain ⟨⟨e, he, hcovers⟩, hrest⟩ := List.forall_mem_cons.mp hxs
    obtain ⟨blocks, hblocks, hsub⟩ := ih hrest
    obtain ⟨ls, hls, hin⟩ := hes e he
    obtain ⟨ls', hls', hsub'⟩ := hcovers ls hls
    refine ⟨join "\n" ls' :: blocks, ?_, List.forall_mem_cons.mpr ⟨?_, hsub⟩⟩
    · rw [List.mapM_cons, hls', hblocks]
      rfl
    · intro c hc
      rcases mem_join hc with hc | ⟨l, hl, hc⟩
      · rw [List.mem_singleton.mp hc]
        exact hnewline
      · exact hin l (hsub' hl) hc

/-- A catalog whose entries are each written with some lines of another catalog's has no other
characters. -/
theorem exists_print_subset {c c' : Catalog} {hs : List (Text × Text)} {width : Int} {t : Text}
    (horder : orderedHeaders c.headers = .ok hs) (horder' : orderedHeaders c'.headers = .ok hs)
    (hcomment : c'.headerComment = c.headerComment) (hfuzzy : c'.headerFuzzy = c.headerFuzzy)
    (hentries : ∀ x ∈ writtenEntries c', ∃ e ∈ writtenEntries c, Covers width e x)
    (h : print width c = .ok t) : ∃ t', print width c' = .ok t' ∧ t' ⊆ t := by
  have hheader : headerEntry c' = headerEntry c := by
    rw [headerEntry, headerEntry, horder, horder', hfuzzy]
  obtain ⟨header, hheaderOk, h⟩ := bind_eq_ok_iff.mp h
  obtain ⟨blocks, hblocks, h⟩ := bind_eq_ok_iff.mp h
  obtain rfl := pure_eq_ok_iff.mp h
  have hnewline := newline_mem_topComment c.headerComment
  have hlines : ∀ e ∈ header :: writtenEntries c, ∃ ls, entryLines width e = .ok ls ∧
      ∀ l ∈ ls, l ⊆ topComment c.headerComment ++ join "\n" blocks := by
    intro e he
    obtain ⟨block, hblock, he⟩ := exists_of_forall₂ (mapM_eq_ok_iff.mp hblocks).flip he
    obtain ⟨ls, hls, he⟩ := bind_eq_ok_iff.mp he
    obtain rfl := pure_eq_ok_iff.mp he
    exact ⟨ls, hls, fun l hl => List.Subset.trans (subset_join "\n" hl)
      (List.Subset.trans (subset_join "\n" hblock) (List.subset_append_right _ _))⟩
  have hcovers : ∀ x ∈ header :: writtenEntries c', ∃ e ∈ header :: writtenEntries c,
      Covers width e x := by
    refine List.forall_mem_cons.mpr ⟨⟨header, List.mem_cons_self,
      covers_of_alike (Entry.Alike.refl header) width⟩, fun x hx => ?_⟩
    obtain ⟨e, he, hcovers⟩ := hentries x hx
    exact ⟨e, List.mem_cons_of_mem header he, hcovers⟩
  obtain ⟨blocks', hblocks', hsub⟩ := exists_blocks_subset
    (List.mem_append_left (join "\n" blocks) hnewline) hlines hcovers
  refine ⟨topComment c.headerComment ++ join "\n" blocks', ?_, ?_⟩
  · rw [print, hheader, hcomment]
    exact bind_eq_ok_iff.mpr ⟨header, hheaderOk, bind_eq_ok_iff.mpr ⟨blocks', hblocks', rfl⟩⟩
  · intro x hx
    rcases List.mem_append.mp hx with hx | hx
    · exact List.mem_append_left _ hx
    · rcases mem_join hx with hx | ⟨block, hblock, hx⟩
      · rw [List.mem_singleton.mp hx]
        exact List.mem_append_left _ hnewline
      · exact hsub block hblock hx

end Document

end MessageCatalog
