import Mathlib
import MessageCatalog.Proofs.Document.Headers

/-!
# What is read from a file

Whatever a file holds, what is read from it can be written and read again: its texts hold no line
boundary but those that are written as escapes, its comments are made of whole lines, and its flags
and headers have no white space around them. This holds of every line, every step of the reader
keeps it, and so it holds of the whole file.
-/

namespace MessageCatalog.Document

open Text Failure

/-! ### Lines -/

/-- A line of a comment: it holds no line boundary and does not end in white space. -/
def IsCommentLine (l : Text) : Prop := OneLine l ∧ NoTrailingBlank l

/-- A place of use that is read from a word. -/
def Occurrence.Legible (o : Occurrence) : Prop := ∃ w, IsWord w ∧ o = Line.occurrenceOf w

/-- What is read from a line can be written and read again. -/
def LineContent.Legible : LineContent → Prop
  | .comment line => IsCommentLine line
  | .extracted text => text ≠ [] ∧ IsCommentLine text
  | .occurrences places => ∀ o ∈ places, o.Legible
  | .flags names => names ≠ [] ∧ LegibleFlags names
  | .field _ value => Escapable value
  | .indexed index value => index < 10 ∧ Escapable value
  | .continuation value => Escapable value

lemma escapable_unquoted {t : Text} (h : OneLine t) : Escapable (Line.unquoted t) := by
  have hinner : (inner t).Sublist t := (List.dropLast_sublist _).trans (List.drop_sublist 1 t)
  exact (h.sublist hinner).escapable.unescape

lemma digitValue?_lt {c : Char} {n : Nat} (h : digitValue? c = some n) : n < 10 := by
  unfold digitValue? at h
  split at h
  · split at h
    · rename_i hdigit
      simp only [Bool.and_eq_true, decide_eq_true_eq] at hdigit
      obtain rfl := Option.some.inj h
      omega
    · cases h
  · obtain ⟨start, hstart, rfl⟩ := Option.map_eq_some_iff.mp h
    have hbounds := List.find?_some hstart
    simp only [Bool.and_eq_true, decide_eq_true_eq] at hbounds
    omega

/-- A line of flags that holds more than white space. -/
lemma legibleFlags_flagsOf {t : Text} (h : OneLine t) (hne : trimRight t ≠ []) :
    Line.flagsOf t ≠ [] ∧ LegibleFlags (Line.flagsOf t) := by
  have hnil : Line.flagsOf t ≠ [] := by
    simpa [Line.flagsOf] using splitOn_ne_nil ',' t
  refine ⟨hnil, ?_, ?_⟩
  · intro hempty
    -- A single piece is the whole text.
    obtain ⟨p, hp, htrim⟩ := List.map_eq_singleton_iff.mp hempty
    have hjoin := join_splitOn ',' t
    rw [hp, join_singleton] at hjoin
    rw [hjoin, ← trimLeft_trimRight] at htrim
    have hlast := noTrailingBlank_trimRight t
    cases hright : trimRight t with
    | nil => exact hne hright
    | cons c u =>
      rw [hright] at htrim hlast
      have hblank : ∀ d ∈ c :: u, isBlank d = true := by
        simpa [trimLeft, List.dropWhile_eq_nil_iff] using htrim
      have hmem := List.getLast_mem (List.cons_ne_nil c u)
      have hnot := hlast _ (List.getLast_mem_getLast? (List.cons_ne_nil c u))
      rw [hblank _ hmem] at hnot
      exact Bool.false_ne_true hnot.symm
  · intro f hf
    obtain ⟨p, hp, rfl⟩ := List.mem_map.mp hf
    obtain ⟨hcomma, hsub⟩ := of_mem_splitOn hp
    exact ⟨fun hmem => hcomma ((trim_sublist p).subset hmem),
      h.sublist ((trim_sublist p).trans hsub), trim_trim p⟩

lemma legible_keywordOf {name : Field} {value : Text} {content : LineContent}
    (hvalue : OneLine value) (h : Line.keywordOf name value = .ok (some content)) :
    content.Legible := by
  unfold Line.keywordOf at h
  split at h
  · cases h
  · cases h
    exact escapable_unquoted hvalue

lemma legible_indexedOf {line : Text} {content : LineContent} (hline : OneLine line)
    (h : Line.indexedOf line = .ok content) : content.Legible := by
  unfold Line.indexedOf at h
  split at h
  · rename_i index hindex
    obtain ⟨c, -, hc⟩ := Option.bind_eq_some_iff.mp hindex
    cases h
    refine ⟨digitValue?_lt hc, ?_⟩
    split
    · rename_i before after hcut
      obtain ⟨-, rfl⟩ := of_cutFirst_eq_some hcut
      have hsub : after.dropLast.Sublist (before ++ '"' :: after) :=
        (List.dropLast_sublist after).trans
          ((List.sublist_cons_self '"' after).trans (List.sublist_append_right before _))
      exact (hline.sublist hsub).escapable.unescape
    · exact (hline.sublist (List.dropLast_sublist line)).escapable.unescape
  · cases h

lemma legible_previousOf {line : Text} {words : List Text} {content : LineContent}
    (hline : OneLine line) (h : Line.previousOf line words = .ok (some content)) :
    content.Legible := by
  have hbody : OneLine (trimLeft (line.drop 2)) :=
    hline.sublist ((List.dropWhile_sublist isBlank).trans (List.drop_sublist 2 line))
  unfold Line.previousOf at h
  dsimp only at h
  split at h
  · cases h
  · split at h
    · cases h
      exact escapable_unquoted hbody
    · split at h
      · cases h
      · split at h
        · cases h
          exact escapable_unquoted (hbody.sublist
            ((List.dropWhile_sublist isBlank).trans (List.drop_sublist _ _)))
        · cases h

/-- What a trimmed line holds can be written and read again. -/
lemma legible_contentOf {n : Nat} {line first : Text} {more : List Text} {content : LineContent}
    (hline : OneLine line) (htrim : trim line = line)
    (hwords : leadingWords (n + 1) line = first :: more)
    (h : Line.contentOf line first more = .ok (some content)) : content.Legible := by
  have hlast := noTrailingBlank_of_trim htrim
  -- Behind a mark of two characters and a blank there is more than white space.
  have hrest : ∀ m, first = ['#', m] → more.isEmpty = false →
      trimRight (line.drop 3) ≠ [] ∧ OneLine (line.drop 3) ∧ NoTrailingBlank (line.drop 3) := by
    rintro m rfl hmore
    obtain ⟨b, rest, rfl, -, hne, -⟩ :=
      exists_of_leadingWords htrim hwords (by simpa using hmore)
    exact ⟨hne, hline.sublist (List.drop_sublist 3 _), hlast.suffix (List.drop_suffix 3 _)⟩
  -- The cases follow the order in which the reader looks for the marks.
  unfold Line.contentOf at h
  split at h
  · exact legible_keywordOf
      (hline.sublist ((List.dropWhile_sublist isBlank).trans (List.drop_sublist _ _))) h
  · split at h
    · split at h
      · cases h
      · cases h
        intro o ho
        obtain ⟨w, hw, rfl⟩ := List.mem_map.mp ho
        exact ⟨w, isWord_of_mem_words hw, rfl⟩
    · split at h
      · split at h
        · cases h
        · cases h
          exact escapable_unquoted hline
      · split at h
        · cases hindexed : Line.indexedOf line with
          | error f =>
            rw [hindexed] at h
            cases h
          | ok content' =>
            rw [hindexed] at h
            cases h
            exact legible_indexedOf hline hindexed
        · split at h
          · rename_i hfirst
            split at h
            · cases h
            · rename_i hmore
              cases h
              obtain ⟨hne, hone, -⟩ := hrest ',' hfirst (by simpa using hmore)
              exact legibleFlags_flagsOf hone hne
          · split at h
            · cases h
              exact ⟨hline, hlast⟩
            · split at h
              · rename_i hfirst
                split at h
                · cases h
                · rename_i hmore
                  cases h
                  obtain ⟨hne, hone, hend⟩ := hrest '.' hfirst (by simpa using hmore)
                  exact ⟨fun hnil => hne (by rw [hnil]; rfl), hone, hend⟩
              · split at h
                · exact legible_previousOf hline h
                · cases h

/-- What is read from a line can be written and read again. -/
theorem legible_ofText? {t : Text} {line : Line} {content : LineContent} (ht : OneLine t)
    (hline : Line.ofText? (trim t) = some line) (h : line.content = .ok (some content)) :
    content.Legible := by
  have hone : OneLine (trim t) := ht.sublist (trim_sublist t)
  have hlast := noTrailingBlank_of_trim (trim_trim t)
  unfold Line.ofText? at hline
  split at hline
  · cases hline
  · rename_i first more hwords
    split at hline
    · cases hline
      cases h
    · split at hline
      · rename_i second rest hmark
        cases hline
        split at hmark
        · rename_i hfirst
          subst hmark
          subst hfirst
          obtain ⟨b, u, hsplit, -, hne, hmore⟩ :=
            exists_of_leadingWords (trim_trim t) hwords (List.cons_ne_nil _ _)
          have hdrop : (trim t).drop 3 = u := by rw [hsplit]; rfl
          rw [hsplit] at hlast hone
          have hu : NoTrailingBlank u :=
            hlast.suffix ((List.suffix_cons b u).trans (List.suffix_append _ _))
          refine legible_contentOf (n := 0) (hone.sublist ?_) (trim_trim _) ?_ h
          · rw [hdrop]
            exact (trim_sublist u).trans
              ((List.sublist_cons_self b u).trans (List.sublist_append_right _ _))
          · rw [hdrop, leadingWords_trim hu]
            exact hmore.symm
        · cases hmark
      · cases hline
        exact legible_contentOf hone (trim_trim t) hwords h

/-! ### Comments -/

/-- A comment of the translator, or at the top of a file, that is read again where it is written. -/
def IsWhole (t : Text) : Prop := IsCommentText t ∧ t.head? ≠ some '\n'

/-- A comment made of lines that hold something. -/
def IsDense (t : Text) : Prop := IsCommentText t ∧ (t ≠ [] → [] ∉ splitOn '\n' t)

lemma isCommentText_nil : IsCommentText [] := by
  intro l hl
  obtain rfl : l = [] := by simpa [splitOn] using hl
  exact ⟨fun c hc => absurd hc List.not_mem_nil, by simp [NoTrailingBlank]⟩

lemma isWhole_nil : IsWhole [] := ⟨isCommentText_nil, by simp⟩

lemma isDense_nil : IsDense [] := ⟨isCommentText_nil, fun h => absurd rfl h⟩

lemma IsCommentLine.suffix {l m : Text} (h : IsCommentLine m) (hs : l <:+ m) : IsCommentLine l :=
  ⟨h.1.sublist hs.sublist, h.2.suffix hs⟩

lemma addLine_nil (l : Text) : Record.addLine [] l = l := rfl

/-- A line that is added to a comment is its last line. -/
lemma splitOn_addLine {t l : Text} (ht : t ≠ []) (hl : '\n' ∉ l) :
    splitOn '\n' (Record.addLine t l) = splitOn '\n' t ++ [l] := by
  rw [Record.addLine, if_neg (by simpa using ht), splitOn_append_splitOn, splitOn_of_not_mem hl]

lemma isCommentText_addLine {t l : Text} (ht : IsCommentText t) (hl : IsCommentLine l) :
    IsCommentText (Record.addLine t l) := by
  intro m hm
  by_cases hnil : t = []
  · rw [hnil, addLine_nil, splitOn_of_not_mem hl.1.newline_not_mem] at hm
    rw [List.mem_singleton.mp hm]
    exact hl
  · rw [splitOn_addLine hnil hl.1.newline_not_mem] at hm
    rcases List.mem_append.mp hm with hm | hm
    · exact ht m hm
    · rw [List.mem_singleton.mp hm]
      exact hl

lemma IsWhole.addLine {t l : Text} (ht : IsWhole t) (hl : IsCommentLine l) :
    IsWhole (Record.addLine t l) := by
  refine ⟨isCommentText_addLine ht.1 hl, ?_⟩
  cases t with
  | nil =>
    intro hhead
    exact hl.1.newline_not_mem (List.mem_of_mem_head? hhead)
  | cons c t => exact ht.2

lemma IsDense.addLine {t l : Text} (ht : IsDense t) (hne : l ≠ []) (hl : IsCommentLine l) :
    IsDense (Record.addLine t l) := by
  refine ⟨isCommentText_addLine ht.1 hl, fun _ hmem => ?_⟩
  by_cases hnil : t = []
  · rw [hnil, addLine_nil, splitOn_of_not_mem hl.1.newline_not_mem] at hmem
    exact hne (List.mem_singleton.mp hmem).symm
  · rw [splitOn_addLine hnil hl.1.newline_not_mem] at hmem
    rcases List.mem_append.mp hmem with hmem | hmem
    · exact ht.2 hnil hmem
    · exact hne (List.mem_singleton.mp hmem).symm

/-! ### Records -/

/-- A record that can be written and read again. -/
structure Record.Legible (r : Record) : Prop where
  msgid : Escapable r.msgid
  msgstr : Escapable r.msgstr
  plural : ∀ x ∈ r.msgstrPlural, x.1 < 10 ∧ Escapable x.2
  indices : (r.msgstrPlural.map Prod.fst).Nodup
  msgctxt : ∀ t ∈ r.msgctxt, Escapable t
  msgidPlural : Escapable r.msgidPlural
  occurrences : ∀ o ∈ r.occurrences, o.Legible
  translatorComment : IsWhole r.translatorComment
  extractedComment : IsDense r.extractedComment
  flags : LegibleFlags r.flags
  previousMsgctxt : ∀ t ∈ r.previousMsgctxt, Escapable t
  previousMsgid : ∀ t ∈ r.previousMsgid, Escapable t

lemma escapable_nil : Escapable [] := fun _ hc => absurd hc List.not_mem_nil

lemma Record.legible_empty : Record.Legible {} where
  msgid := escapable_nil
  msgstr := escapable_nil
  plural := by simp
  indices := by simp
  msgctxt := by simp
  msgidPlural := escapable_nil
  occurrences := by simp
  translatorComment := isWhole_nil
  extractedComment := isDense_nil
  flags := ⟨by simp, by simp⟩
  previousMsgctxt := by simp
  previousMsgid := by simp

lemma escapable_getD_append {t : Option Text} {v : Text} (ht : ∀ u ∈ t, Escapable u)
    (hv : Escapable v) : Escapable (t.getD [] ++ v) := by
  refine escapable_append.mpr ⟨?_, hv⟩
  cases t with
  | none => exact escapable_nil
  | some u => exact ht u rfl

namespace Record.Legible

variable {r : Record}

lemma setField (h : r.Legible) (name : Field) {v : Text} (hv : Escapable v) :
    (r.setField name v).Legible := by
  have hsome : ∀ t ∈ some v, Escapable t := by simpa using hv
  cases name
  case context => exact { h with msgctxt := hsome }
  case id => exact { h with msgid := hv }
  case idPlural => exact { h with msgidPlural := hv }
  case str => exact { h with msgstr := hv }
  case previousContext => exact { h with previousMsgctxt := hsome }
  case previousId => exact { h with previousMsgid := hsome }
  case previousIdPlural => exact { h with }

lemma extendField (h : r.Legible) (name : Field) {v : Text} (hv : Escapable v) :
    (r.extendField name v).Legible := by
  cases name
  case context =>
    exact { h with msgctxt := by simpa [Record.extendField] using escapable_getD_append h.msgctxt hv }
  case id => exact { h with msgid := escapable_append.mpr ⟨h.msgid, hv⟩ }
  case idPlural => exact { h with msgidPlural := escapable_append.mpr ⟨h.msgidPlural, hv⟩ }
  case str => exact { h with msgstr := escapable_append.mpr ⟨h.msgstr, hv⟩ }
  case previousContext =>
    exact { h with
      previousMsgctxt := by
        simpa [Record.extendField] using escapable_getD_append h.previousMsgctxt hv }
  case previousId =>
    exact { h with
      previousMsgid := by
        simpa [Record.extendField] using escapable_getD_append h.previousMsgid hv }
  case previousIdPlural => exact { h with }

lemma mem_setPlural {index : Nat} {v : Text} {l : List (Nat × Text)} {x : Nat × Text}
    (hx : x ∈ Record.setPlural index v l) : x = (index, v) ∨ x ∈ l := by
  induction l with
  | nil => exact Or.inl (List.mem_singleton.mp hx)
  | cons y l ih =>
    obtain ⟨i, u⟩ := y
    rw [Record.setPlural] at hx
    split at hx
    · rcases List.mem_cons.mp hx with rfl | hx
      · exact Or.inl rfl
      · exact Or.inr (List.mem_cons_of_mem _ hx)
    · rcases List.mem_cons.mp hx with rfl | hx
      · exact Or.inr List.mem_cons_self
      · exact (ih hx).imp_right (List.mem_cons_of_mem _)

lemma nodup_setPlural {index : Nat} {v : Text} {l : List (Nat × Text)}
    (h : (l.map Prod.fst).Nodup) : ((Record.setPlural index v l).map Prod.fst).Nodup := by
  induction l with
  | nil => simp [Record.setPlural]
  | cons y l ih =>
    obtain ⟨i, u⟩ := y
    rw [List.map_cons, List.nodup_cons] at h
    rw [Record.setPlural]
    split
    · rename_i hi
      rw [List.map_cons, List.nodup_cons]
      exact ⟨hi ▸ h.1, h.2⟩
    · rename_i hi
      rw [List.map_cons, List.nodup_cons]
      refine ⟨fun hmem => ?_, ih h.2⟩
      obtain ⟨x, hx, hxi⟩ := List.mem_map.mp hmem
      rcases mem_setPlural hx with rfl | hx
      · exact hi hxi.symm
      · exact h.1 (hxi ▸ List.mem_map_of_mem hx)

lemma setPlural (h : r.Legible) {index : Nat} (hindex : index < 10) {v : Text} (hv : Escapable v) :
    ({ r with msgstrPlural := Record.setPlural index v r.msgstrPlural } : Record).Legible :=
  { h with
    plural := by
      intro x hx
      rcases mem_setPlural hx with rfl | hx
      · exact ⟨hindex, hv⟩
      · exact h.plural x hx
    indices := nodup_setPlural h.indices }

end Record.Legible

/-! ### States -/

/-- All records of a state, and the comment at the top, can be written and read again. -/
structure State.Legible (s : State) : Prop where
  current : s.current.Legible
  done : ∀ r ∈ s.done, r.Legible
  header : IsWhole s.header
  index : s.index < 10

lemma State.legible_start : State.Legible {} :=
  ⟨Record.legible_empty, by simp, isWhole_nil, by decide⟩

lemma State.Legible.turnOver {s : State} (h : s.Legible) : s.turnOver.Legible := by
  unfold State.turnOver
  split
  · exact { h with
      current := Record.legible_empty
      done := List.forall_mem_cons.mpr ⟨h.current, h.done⟩ }
  · exact h

/-- The text behind the marks of a comment line. -/
lemma IsCommentLine.text {line : Text} (h : IsCommentLine line) :
    IsCommentLine (match line.dropWhile (· = '#') with
      | ' ' :: rest => rest
      | other => other) := by
  have hbare : IsCommentLine (line.dropWhile (· = '#')) := h.suffix (List.dropWhile_suffix _)
  split
  · rename_i rest hrest
    rw [hrest] at hbare
    exact hbare.suffix (List.suffix_cons ' ' rest)
  · exact hbare

/-- A step of the reader keeps that everything can be written and read again. -/
theorem State.Legible.step {s s' : State} {obsolete : Bool} {content : LineContent}
    (h : s.Legible) (hcontent : content.Legible) (hs : s.step obsolete content = some s') :
    s'.Legible := by
  have hturn := h.turnOver
  cases content with
  | comment line =>
    have hline : IsCommentLine line := hcontent
    have htext := hline.text
    have htop := h.header.addLine (hline.suffix (List.drop_suffix 2 line))
    -- Until a record has begun, a comment belongs to the comment at the top.
    rw [State.step] at hs
    split at hs
    · cases hs
      exact { h with header := htop }
    · cases hs
      exact { h with header := htop }
    · cases hs
    · cases hs
      exact { hturn with
        current := { hturn.current with
          translatorComment := hturn.current.translatorComment.addLine htext } }
  | extracted text =>
    cases hs
    exact { hturn with
      current := { hturn.current with
        extractedComment := hturn.current.extractedComment.addLine hcontent.1 hcontent.2 } }
  | occurrences places =>
    cases hs
    exact { hturn with
      current := { hturn.current with
        occurrences := fun o ho =>
          (List.mem_append.mp ho).elim (hturn.current.occurrences o) (hcontent o) } }
  | flags names =>
    cases hs
    obtain ⟨hne, hnames⟩ := hcontent
    refine { hturn with
      current := { hturn.current with
        flags := ⟨?_, fun f hf =>
          (List.mem_append.mp hf).elim (hturn.current.flags.flag f) (hnames.flag f)⟩ } }
    -- Two lines of flags make more than one flag.
    intro hone
    rcases List.append_eq_singleton_iff.mp hone with ⟨-, hsecond⟩ | ⟨-, hsecond⟩
    · exact hnames.empty hsecond
    · exact hne hsecond
  | field name value =>
    rw [State.step] at hs
    split at hs
    · cases hs
      -- A field that opens a record closes the one before, if that is complete.
      have hopen : (if State.opensRecord name then s.turnOver else s).Legible := by
        split
        · exact hturn
        · exact h
      have hset := hopen.current.setField name hcontent
      refine { hopen with current := ?_ }
      split
      · exact { hset with }
      · exact hset
    · cases hs
  | indexed index value =>
    obtain ⟨hindex, hvalue⟩ := hcontent
    rw [State.step] at hs
    split at hs
    case h_5 => cases hs
    all_goals
      cases hs
      exact { h with current := h.current.setPlural hindex hvalue, index := hindex }
  | continuation value =>
    rw [State.step] at hs
    split at hs
    · cases hs
      exact { h with current := h.current.extendField _ hcontent }
    · cases hs
      -- The value is put behind the translation under the latest index, if there is one.
      refine { h with current := h.current.setPlural h.index (escapable_append.mpr ⟨?_, hcontent⟩) }
      cases hlookup : s.current.msgstrPlural.lookup s.index with
      | none => exact escapable_nil
      | some v =>
        obtain ⟨before, after, hplural, -⟩ := List.lookup_eq_some_iff.mp hlookup
        exact (h.current.plural (s.index, v) (by rw [hplural]; simp)).2
    · cases hs

/-- Going through lines keeps that everything can be written and read again. -/
theorem State.Legible.readLines {s s' : State} {w w' : Option Text} {n : Nat} {ls : List Text}
    (h : s.Legible) (hls : ∀ l ∈ ls, OneLine l) (hread : readLines s w n ls = .ok (s', w')) :
    s'.Legible := by
  induction ls generalizing s w n with
  | nil =>
    cases hread
    exact h
  | cons l ls ih =>
    have hrest : ∀ m ∈ ls, OneLine m := fun m hm => hls m (List.mem_cons_of_mem l hm)
    rw [Document.readLines] at hread
    split at hread
    · exact ih h hrest hread
    · rename_i line hline
      split at hread
      · cases hread
      · exact ih h hrest hread
      · rename_i content hcontent
        split at hread
        · rename_i s₁ hstep
          have hlegible := legible_ofText? (hls l List.mem_cons_self) hline hcontent
          exact ih (h.step hlegible hstep) hrest hread
        · cases hread

/-! ### Headers -/

lemma legibleHeader_of_line {name value line : Text} (hline : OneLine line)
    (hcut : cutFirst ':' line = some (name, value)) : LegibleHeader (name, trim value) := by
  obtain ⟨hcolon, rfl⟩ := of_cutFirst_eq_some hcut
  have hname : OneLine name := hline.sublist (List.sublist_append_left name _)
  have hvalue : OneLine (trim value) := hline.sublist ((trim_sublist value).trans
    ((List.sublist_cons_self ':' value).trans (List.sublist_append_right name _)))
  have hsplit : splitOn '\n' (trim value) = [trim value] :=
    splitOn_of_not_mem hvalue.newline_not_mem
  refine ⟨hcolon, hname, ?_, ?_⟩
  · intro l hl
    rw [hsplit, List.mem_singleton] at hl
    rw [hl]
    exact ⟨hvalue, trim_trim value⟩
  · intro l hl
    rw [hsplit] at hl
    exact absurd hl List.not_mem_nil

/-- A line without colon can go on with any header. -/
lemma LegibleHeader.extend {name value line : Text} (h : LegibleHeader (name, value))
    (hline : OneLine line) (hcolon : ':' ∉ line) :
    LegibleHeader (name, value ++ '\n' :: trim line) := by
  have htrim : OneLine (trim line) := hline.sublist (trim_sublist line)
  have hsplit : splitOn '\n' (value ++ '\n' :: trim line) = splitOn '\n' value ++ [trim line] := by
    rw [splitOn_append_splitOn, splitOn_of_not_mem htrim.newline_not_mem]
  refine ⟨h.colon, h.oneLine, ?_, ?_⟩
  · intro l hl
    rw [hsplit] at hl
    rcases List.mem_append.mp hl with hl | hl
    · exact h.value.line l hl
    · rw [List.mem_singleton.mp hl]
      exact ⟨htrim, trim_trim line⟩
  · intro l hl
    rw [hsplit, List.tail_append_of_ne_nil (splitOn_ne_nil '\n' value)] at hl
    rcases List.mem_append.mp hl with hl | hl
    · exact h.value.colon l hl
    · rw [List.mem_singleton.mp hl]
      exact fun hmem => hcolon ((trim_sublist line).subset hmem)

/-- Headers that have been read can be written and read again, and the latest name is one of
theirs. -/
structure LegibleHeaders (s : OrderedMap Text × Option Text) : Prop where
  header : ∀ p ∈ s.1.entries, LegibleHeader p
  latest : ∀ name ∈ s.2, ∃ value, s.1.get? name = some value

lemma LegibleHeaders.insert {s : OrderedMap Text × Option Text} (h : LegibleHeaders s)
    {name value : Text} (hp : LegibleHeader (name, value)) :
    LegibleHeaders (s.1.insert name value, some name) where
  header := by
    intro p hmem
    rcases OrderedMap.mem_entries_insert.mp hmem with rfl | ⟨-, hmem⟩
    · exact hp
    · exact h.header p hmem
  latest := by
    rintro _ ⟨⟩
    exact ⟨value, by rw [OrderedMap.get?_insert, if_pos rfl]⟩

/-- Taking in a line keeps that the headers can be written and read again. -/
lemma LegibleHeaders.addHeader {s : OrderedMap Text × Option Text} (h : LegibleHeaders s)
    {line : Text} (hline : OneLine line) : LegibleHeaders (addHeader s.1 s.2 line) := by
  simp only [Document.addHeader]
  cases hcut : cutFirst ':' line with
  | some cut => exact h.insert (legibleHeader_of_line hline hcut)
  | none =>
    cases hlatest : s.2 with
    | none => exact ⟨h.header, by simp⟩
    | some name =>
      obtain ⟨value, hvalue⟩ := h.latest name hlatest
      have hlegible := h.header _ (OrderedMap.get?_eq_some_iff.mp hvalue)
      simp only [hvalue, Option.getD_some]
      exact h.insert (hlegible.extend hline (not_mem_of_cutFirst_eq_none hcut))

/-- Headers that are read can be written and read again, whatever the text is. -/
theorem legible_headersOf (t : Text) : ∀ p ∈ (headersOf t).entries, LegibleHeader p := by
  have hstart : LegibleHeaders (OrderedMap.empty, none) :=
    ⟨by simp [OrderedMap.empty], by simp⟩
  have hread := List.foldlRecOn (motive := LegibleHeaders) (lines t)
    (fun s line => addHeader s.1 s.2 line) hstart
    fun _ hs _ hline => hs.addHeader (oneLine_of_mem_lines hline)
  exact hread.header

/-! ### Files -/

lemma oneLine_of_mem_fileLines {t l : Text} (h : l ∈ fileLines t) : OneLine l := by
  unfold fileLines withoutMark at h
  split at h
  · rename_i tail rest hlines
    have hmem : ∀ m ∈ ('\ufeff' :: tail) :: rest, OneLine m := by
      intro m hm
      exact oneLine_of_mem_lines (hlines ▸ hm)
    rcases List.mem_cons.mp h with rfl | h
    · exact (hmem _ List.mem_cons_self).sublist (List.sublist_cons_self _ _)
    · exact hmem l (List.mem_cons_of_mem _ h)
  · exact oneLine_of_mem_lines h

/-- A file that has been read can be written and read again. -/
structure Legible (d : Document) : Prop where
  header : IsWhole d.header
  headers : ∀ p ∈ d.headers.entries, LegibleHeader p
  records : ∀ r ∈ d.records, r.Legible

theorem legible_ofText {t : Text} {d : Document} (h : ofText t = .ok d) : d.Legible := by
  obtain ⟨⟨s, w⟩, hread, h⟩ := bind_eq_ok_iff.mp h
  have hs : s.Legible :=
    State.legible_start.readLines (fun l hl => oneLine_of_mem_fileLines hl) hread
  have hrecords : ∀ r ∈ recordsOf s w, r.Legible := by
    have hall : ∀ r ∈ s.current :: s.done, r.Legible :=
      List.forall_mem_cons.mpr ⟨hs.current, hs.done⟩
    intro r hr
    unfold recordsOf at hr
    split at hr
    · split at hr
      · exact hs.done r (List.mem_reverse.mp hr)
      · exact hall r (List.mem_reverse.mp hr)
    · exact hs.done r (List.mem_reverse.mp hr)
  dsimp only at h
  split at h
  · obtain rfl := pure_eq_ok_iff.mp h
    exact ⟨hs.header, by simp [OrderedMap.empty], hrecords⟩
  · obtain rfl := pure_eq_ok_iff.mp h
    exact ⟨hs.header, legible_headersOf _, fun r hr => hrecords r (List.mem_of_mem_eraseP hr)⟩

end MessageCatalog.Document
