import Mathlib
import MessageCatalog.Proofs.Document.Headers

/-!
# Reading written files

A file is the comment at its top, the entry of the headers and the other entries, with an empty
line between two of them. Reading the lines one block after another completes one record a block,
and the record of the headers is found again because no other live record lacks a message id.
-/

namespace MessageCatalog.Document

open Text

/-! ### The comment at the top -/

/-- A comment that can stand at the top of a file and be read again. -/
@[mk_iff]
structure WritableTopComment (t : Text) : Prop where
  text : IsCommentText t
  mark : ∀ l ∈ splitOn '\n' t, l.head? ≠ some ',' ∧ l.head? ≠ some ':'
  first : t.head? ≠ some '\n'

instance (t : Text) : Decidable (WritableTopComment t) :=
  decidable_of_iff' _ (writableTopComment_iff t)

lemma topComment_eq {t : Text} (h : WritableTopComment t) :
    topComment t = unlines ((splitOn '\n' t).map commentLine) := by
  rw [topComment, unlines, List.flatMap_map]
  apply List.flatMap_congr
  intro l hl
  obtain ⟨hcomma, hcolon⟩ := h.mark l hl
  cases l with
  | nil => rfl
  | cons c l =>
    have hc : ¬(c = ',' ∨ c = ':') := by simpa using And.intro hcomma hcolon
    simp [hc, commentLine]

/-- Every catalog file that is written has more than a line. -/
lemma newline_mem_print {width : Int} {c : Catalog} {t : Text} (h : print width c = .ok t) :
    '\n' ∈ t := by
  obtain ⟨header, -, h⟩ := Failure.bind_eq_ok_iff.mp h
  obtain ⟨blocks, -, h⟩ := Failure.bind_eq_ok_iff.mp h
  obtain rfl := Failure.pure_eq_ok_iff.mp h
  refine List.mem_append_left _ ?_
  unfold topComment
  cases hlines : splitOn '\n' c.headerComment with
  | nil => exact absurd hlines (splitOn_ne_nil _ _)
  | cons line rest =>
    refine List.mem_append_left _ ?_
    cases line <;> simp

lemma oneLine_commentLine {l : Text} (h : OneLine l) : OneLine (commentLine l) := by
  have hmark : OneLine ['#', ' '] ∧ OneLine ['#'] := by
    simp [OneLine]
    decide
  rw [commentLine]
  split
  · exact hmark.2
  · exact hmark.1.append h

/-- Even an empty comment is written as one line, so a file begins with the mark of a comment. -/
lemma exists_commentLines_cons (t : Text) :
    ∃ l ms, (splitOn '\n' t).map commentLine = ('#' :: l) :: ms := by
  cases hsplit : splitOn '\n' t with
  | nil => exact absurd hsplit (splitOn_ne_nil '\n' t)
  | cons m ms =>
    rw [List.map_cons]
    cases m with
    | nil => exact ⟨_, _, rfl⟩
    | cons x m => exact ⟨_, _, rfl⟩

/-- The state is within the comment at the top, which is `top` up to here. -/
structure State.AtTop (s : State) (top : Text) : Prop where
  position : s.position = .start ∨ s.position = .header
  header : s.header = top
  done : s.done = []
  current : s.current = {}

lemma exists_passes_commentLine {l : Text} (h : NoTrailingBlank l) {s : State} {top : Text}
    (hs : s.AtTop top) :
    ∃ s', Passes s [commentLine l] s' ∧ s'.AtTop (Record.addLine top l) := by
  have hdrop : (commentLine l).drop 2 = l := by cases l <;> rfl
  have hstep : s.step false (.comment (commentLine l)) =
      some { s with position := .header, header := Record.addLine top l } := by
    rcases hs.position with hpos | hpos
    all_goals simp only [State.step, hpos, hdrop, hs.header]
  exact ⟨_, passes_line (ofText?_commentLine h) hstep, Or.inr rfl, rfl, hs.done, hs.current⟩

/-- Reading the lines of the comment at the top collects the comment. -/
lemma exists_passes_topComment {t : Text} (h : WritableTopComment t) :
    ∃ s, Passes {} ((splitOn '\n' t).map commentLine) s ∧ s.Collects t [] {} := by
  have hall : ∀ (ls : List Text) (s : State) (top : Text), s.AtTop top →
      (∀ l ∈ ls, NoTrailingBlank l) →
      ∃ s', Passes s (ls.map commentLine) s' ∧ s'.AtTop (ls.foldl Record.addLine top) := by
    intro ls
    induction ls with
    | nil => exact fun s top hs _ => ⟨s, Passes.refl s, hs⟩
    | cons l ls ih =>
      intro s top hs hls
      obtain ⟨s₁, hpass, hs₁⟩ := exists_passes_commentLine (hls l List.mem_cons_self) hs
      obtain ⟨s₂, hpass', hs₂⟩ := ih s₁ _ hs₁ fun m hm => hls m (List.mem_cons_of_mem l hm)
      exact ⟨s₂, hpass.trans hpass', hs₂⟩
  obtain ⟨s, hpass, hpos, hheader, hdone, hcurrent⟩ :=
    hall (splitOn '\n' t) {} [] ⟨Or.inl rfl, rfl, rfl, rfl⟩ fun l hl => (h.text l hl).2
  rw [foldl_addLine h.first] at hheader
  have hturn : s.turnOver = s := by
    rw [State.turnOver, if_neg]
    rcases hpos with hpos | hpos <;> simp [State.isComplete, hpos]
  refine ⟨s, hpass, hheader, by rw [hturn, hdone], by rw [hturn, hcurrent], ?_⟩
  rcases hpos with hpos | hpos <;> rw [hpos] <;> rfl

/-! ### One entry after another -/

/-- Reading further entries, each behind an empty line, completes their records in order. -/
lemma exists_closes_entries {width : Int} (h : width ≤ 0 ∨ 3 ≤ width) {es : List Entry}
    (hes : ∀ e ∈ es, e.Legible) :
    ∃ lss : List (List Text),
      (es.mapM fun e => do return join "\n" (← entryLines width e) : Except Failure _) =
        .ok (lss.map unlines) ∧
      (∀ ls ∈ lss, ∀ l ∈ ls, OneLine l) ∧
      ∀ {s₀ s : State} {ls top D r}, Closes s₀ ls s → s.Completes top D r →
        ∃ s' D' r', Closes s₀ (ls ++ lss.flatMap ([] :: ·)) s' ∧ s'.Completes top D' r' ∧
          (r' :: D').reverse = (r :: D).reverse ++ es.map recordOf := by
  induction es with
  | nil =>
    refine ⟨[], rfl, by simp, fun {s₀ s ls top D r} hclose hs => ⟨s, D, r, ?_, hs, by simp⟩⟩
    simpa using hclose
  | cons e es ih =>
    obtain ⟨lss, hlss, hone, hread⟩ := ih fun x hx => hes x (List.mem_cons_of_mem e hx)
    obtain ⟨ls, hls, hone', hread'⟩ := exists_closes_entryLines h (hes e List.mem_cons_self)
    refine ⟨ls :: lss, ?_, List.forall_mem_cons.mpr ⟨hone', hone⟩, ?_⟩
    · rw [List.mapM_cons, hls, hlss, List.map_cons, ← join_append_nil]
      rfl
    · intro s₀ s ls₀ top D r hclose hs
      -- The empty line between two entries leaves the state as the last line made it.
      obtain ⟨hcollects, hbody⟩ := hs.collects
      obtain ⟨s₁, hclose₁, hs₁⟩ := hread' hcollects (Or.inr hbody)
      have hblank := (hclose.passes.trans (passes_blank s)).closes hclose₁
      obtain ⟨s₂, D₂, r₂, hclose₂, hs₂, hrecords⟩ := hread hblank hs₁
      refine ⟨s₂, D₂, r₂, ?_, hs₂, ?_⟩
      · simpa using hclose₂
      · simpa using hrecords

/-! ### The entry of the headers -/

lemma escapable_headerText {hs : List (Text × Text)} (h : ∀ p ∈ hs, LegibleHeader p) :
    Escapable (headerText hs) := by
  intro c hc hend
  rw [headerText_eq, unlines] at hc
  obtain ⟨l, hl, hc⟩ := List.mem_flatMap.mp hc
  obtain ⟨p, hp, hl⟩ := List.mem_flatMap.mp hl
  rcases List.mem_append.mp hc with hc | hc
  · exact absurd hend (by simp [oneLine_headerLines (h p hp) l hl c hc])
  · rw [List.mem_singleton.mp hc]
    rfl

/-- The entry that holds headers in a given order. -/
def entryOfHeaders (hs : List (Text × Text)) (fuzzy : Bool) : Entry where
  msgid := []
  msgstr := [headerText hs]
  flags := if fuzzy then ["fuzzy"] else []

lemma legible_entryOfHeaders {hs : List (Text × Text)} (h : ∀ p ∈ hs, LegibleHeader p)
    (fuzzy : Bool) : (entryOfHeaders hs fuzzy).Legible where
  comments := by constructor <;> simp [Entry.writtenComments, entryOfHeaders]
  flags := by
    cases fuzzy with
    | false => exact ⟨by simp [entryOfHeaders], by simp [entryOfHeaders]⟩
    | true =>
      refine ⟨by simp [entryOfHeaders], fun f hf => ?_⟩
      obtain rfl : f = ("fuzzy" : Text) := List.mem_singleton.mp hf
      decide
  previousMsgctxt := by simp [entryOfHeaders]
  previousMsgid := by simp [entryOfHeaders]
  msgctxt := by simp [entryOfHeaders]
  msgid := by simp [Escapable, entryOfHeaders]
  msgidPlural := by simp [entryOfHeaders]
  msgstr := by
    intro t ht
    rw [List.mem_singleton.mp ht]
    exact escapable_headerText h
  single := fun _ => rfl
  several := fun hgiven => absurd hgiven Bool.false_ne_true

/-! ### The whole file -/

lemma intercalate_cons (ls : List Text) (lss : List (List Text)) :
    [[]].intercalate (ls :: lss) = ls ++ lss.flatMap ([] :: ·) := by
  induction lss generalizing ls with
  | nil => simp [List.intercalate]
  | cons ls' lss ih =>
    have hsplit : [[]].intercalate (ls :: ls' :: lss) = ls ++ [] :: [[]].intercalate (ls' :: lss) := by
      simp [List.intercalate]
    rw [hsplit, ih, List.flatMap_cons, List.cons_append]

lemma oneLine_blocks {ls : List Text} {lss : List (List Text)}
    (h : ∀ block ∈ ls :: lss, ∀ l ∈ block, OneLine l) {m : Text}
    (hm : m ∈ [[]].intercalate (ls :: lss)) : OneLine m := by
  rw [intercalate_cons] at hm
  rcases List.mem_append.mp hm with hm | hm
  · exact h ls List.mem_cons_self m hm
  · obtain ⟨block, hblock, hm⟩ := List.mem_flatMap.mp hm
    rcases List.mem_cons.mp hm with rfl | hm
    · intro c hc
      exact absurd hc List.not_mem_nil
    · exact h block (List.mem_cons_of_mem ls hblock) m hm

/-- The first line of a file that begins with a comment is no mark of the file. -/
lemma fileLines_unlines {l : Text} {ls : List Text} (h : ∀ m ∈ ('#' :: l) :: ls, OneLine m) :
    fileLines (unlines (('#' :: l) :: ls)) = ('#' :: l) :: ls := by
  rw [fileLines, lines_unlines h]
  rfl

lemma sameEntry_self (r : Record) : r.sameEntry r = true := by
  simp [Record.sameEntry]

/-- What is read from records of which only the first is a live one without message id. -/
lemma ofText_of_records {t : Text} {s : State} {w : Option Text} {r : Record} {rs : List Record}
    (hread : readLines {} none 1 (fileLines t) = .ok (s, w)) (hrecords : recordsOf s w = r :: rs)
    (hlive : r.obsolete = false) (hid : r.msgid = [])
    (hrs : ∀ x ∈ rs, x.obsolete = true ∨ x.msgid ≠ []) :
    ofText t = .ok {
      header := s.header
      headers := headersOf r.msgstr
      headersFlagged := !r.flags.isEmpty
      records := rs } := by
  have hothers : rs.filter (fun x => !x.obsolete && x.msgid.isEmpty) = [] := by
    apply List.filter_eq_nil_iff.mpr
    intro x hx
    rcases hrs x hx with hx | hx
    · simp [hx]
    · simp [hx]
  have hheader : headerRecord? (r :: rs) = some r := by
    rw [headerRecord?, List.filter_cons_of_pos (by simp [hlive, hid]), hothers]
  have herase : (r :: rs).eraseP (fun other => other.sameEntry r) = rs :=
    List.eraseP_cons_of_pos (sameEntry_self r)
  simp only [ofText, ofLines, hread, bind, Except.bind, hrecords, hheader, herase]
  rfl

/-- A file that is written is read again, if its headers can be put in order: every entry keeps its
place behind the headers. -/
theorem exists_ofText_print_of_order {width : Int} (h : width ≤ 0 ∨ 3 ≤ width) {c : Catalog}
    {hs : List (Text × Text)} (horder : orderedHeaders c.headers = .ok hs)
    (hheaders : ∀ p ∈ c.headers.entries, LegibleHeader p)
    (hcomment : WritableTopComment c.headerComment)
    (hes : ∀ e ∈ writtenEntries c, e.Legible ∧ (e.obsolete = true ∨ e.msgid ≠ [])) :
    ∃ t d, print width c = .ok t ∧ t ≠ [] ∧ ofText t = .ok d ∧
      d.header = c.headerComment ∧ d.headers.entries = hs ∧
      d.headersFlagged = c.headerFuzzy ∧ d.records = (writtenEntries c).map recordOf := by
  have hperm := orderedHeaders_perm horder
  have hlegible : ∀ p ∈ hs, LegibleHeader p := fun p hp => hheaders p (hperm.mem_iff.mp hp)
  have hnodup : (hs.map Prod.fst).Nodup := (hperm.map Prod.fst).nodup_iff.mpr c.headers.distinct
  have hentry : headerEntry c = .ok (entryOfHeaders hs c.headerFuzzy) := by
    rw [headerEntry, horder]
    rfl
  -- The reader goes through the comment at the top, the entry of the headers, and then the
  -- other entries.
  obtain ⟨ls, hls, hone, hread⟩ :=
    exists_closes_entryLines h (legible_entryOfHeaders hlegible c.headerFuzzy)
  obtain ⟨lss, hlss, hones, hreads⟩ := exists_closes_entries h fun e he => (hes e he).1
  obtain ⟨s, hpass, hcollects⟩ := exists_passes_topComment hcomment
  obtain ⟨s₁, hclose₁, hs₁⟩ := hread hcollects (Or.inl rfl)
  obtain ⟨s₂, D, r, hclose₂, hs₂, hrecords⟩ := hreads (hpass.closes hclose₁) hs₁
  obtain ⟨l, ms, htop⟩ := exists_commentLines_cons c.headerComment
  -- The printer joins blocks with blank lines, and the reader cuts the whole text into lines.
  have hprint : print width c =
      .ok (unlines (('#' :: l) :: ms ++ (ls ++ lss.flatMap ([] :: ·)))) := by
    rw [unlines_append, ← htop, ← topComment_eq hcomment, ← intercalate_cons, ← join_map_unlines]
    have hblocks : ((entryOfHeaders hs c.headerFuzzy :: writtenEntries c).mapM fun e => do
        return join "\n" (← entryLines width e) : Except Failure _) =
          .ok ((ls :: lss).map unlines) := by
      rw [List.mapM_cons, hls, hlss, List.map_cons, ← join_append_nil]
      rfl
    rw [print, hentry]
    exact congrArg (· >>= fun blocks => .ok (topComment c.headerComment ++ join "\n" blocks)) hblocks
  have hlines : ∀ m ∈ ('#' :: l) :: ms ++ (ls ++ lss.flatMap ([] :: ·)), OneLine m := by
    intro m hm
    rcases List.mem_append.mp hm with hm | hm
    · rw [← htop] at hm
      obtain ⟨k, hk, rfl⟩ := List.mem_map.mp hm
      exact oneLine_commentLine (hcomment.text k hk).1
    · exact oneLine_blocks (List.forall_mem_cons.mpr ⟨hone, hones⟩) (intercalate_cons ls lss ▸ hm)
  obtain ⟨w, hw, hend⟩ := hclose₂ none 1 []
  rw [List.append_nil, htop, List.append_assoc, readLines] at hend
  rw [List.cons_append] at hend hlines
  -- Records are read in the order of their entries, and the one of the headers comes first.
  have hfinal : recordsOf s₂ (some w) =
      recordOf (entryOfHeaders hs c.headerFuzzy) :: (writtenEntries c).map recordOf := by
    rw [recordsOf, hw, hs₂.current, hs₂.done]
    simpa using hrecords
  have hlive : ∀ x ∈ (writtenEntries c).map recordOf, x.obsolete = true ∨ x.msgid ≠ [] := by
    intro x hx
    obtain ⟨e, he, rfl⟩ := List.mem_map.mp hx
    exact (hes e he).2
  refine ⟨_, _, hprint, by simp, ofText_of_records ?_ hfinal rfl rfl hlive, hs₂.header, ?_, ?_, rfl⟩
  · rw [List.cons_append, fileLines_unlines hlines]
    exact hend
  · exact entries_headersOf hnodup hlegible
  · show (!(if c.headerFuzzy then _ else _ : List Text).isEmpty) = c.headerFuzzy
    cases c.headerFuzzy <;> rfl

/-- A file that is written is read again: every entry keeps its place behind the headers. -/
theorem exists_ofText_print {width : Int} (h : width ≤ 0 ∨ 3 ≤ width) {c : Catalog}
    (hheaders : ∀ p ∈ c.headers.entries, WritableHeader p)
    (hcomment : WritableTopComment c.headerComment)
    (hes : ∀ e ∈ writtenEntries c, e.Writable ∧ (e.obsolete = true ∨ e.msgid ≠ [])) :
    ∃ t d, print width c = .ok t ∧ t ≠ [] ∧ ofText t = .ok d ∧
      d.header = c.headerComment ∧ d.headers.entries.Perm c.headers.entries ∧
      d.headersFlagged = c.headerFuzzy ∧ d.records = (writtenEntries c).map recordOf := by
  obtain ⟨hs, horder⟩ := exists_orderedHeaders fun p hp => (hheaders p hp).1
  obtain ⟨t, d, hprint, ht, hread, hheader, hentries, hrest⟩ :=
    exists_ofText_print_of_order h horder (fun p hp => (hheaders p hp).legible) hcomment
      fun e he => ⟨(hes e he).1.legible, (hes e he).2⟩
  exact ⟨t, d, hprint, ht, hread, hheader, hentries ▸ orderedHeaders_perm horder, hrest⟩

end MessageCatalog.Document
