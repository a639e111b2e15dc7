import Mathlib
import MessageCatalog.Document.Reader
import MessageCatalog.Proofs.Document.Lines

/-!
# Reading written fields

Reading takes a state over some lines to another state. Such passages are put together line by
line; the main statements here are that a field can be written at every admissible width, and that
reading its lines sets the field to the text that was written.
-/

namespace MessageCatalog.Document

open Text

/-! ### Passages -/

/-- Reading goes from one state to another over some lines, wherever they stand. -/
def Passes (s : State) (ls : List Text) (s' : State) : Prop :=
  ∀ w n rest, ∃ w', readLines s w n (ls ++ rest) = readLines s' w' (n + ls.length) rest

/-- A passage after which a file may end: its last line is no comment. -/
def Closes (s : State) (ls : List Text) (s' : State) : Prop :=
  ∀ w n rest, ∃ w', startsWith w' ['#'] = false ∧
    readLines s w n (ls ++ rest) = readLines s' (some w') (n + ls.length) rest

lemma Passes.refl (s : State) : Passes s [] s := fun w _ _ => ⟨w, rfl⟩

lemma Passes.trans {s s' s'' : State} {as bs : List Text} (h : Passes s as s')
    (h' : Passes s' bs s'') : Passes s (as ++ bs) s'' := by
  intro w n rest
  obtain ⟨w', hw'⟩ := h w n (bs ++ rest)
  obtain ⟨w'', hw''⟩ := h' w' (n + as.length) rest
  refine ⟨w'', ?_⟩
  rw [List.append_assoc, hw', hw'', List.length_append, Nat.add_assoc]

lemma Passes.closes {s s' s'' : State} {as bs : List Text} (h : Passes s as s')
    (h' : Closes s' bs s'') : Closes s (as ++ bs) s'' := by
  intro w n rest
  obtain ⟨w', hw'⟩ := h w n (bs ++ rest)
  obtain ⟨w'', hmark, hw''⟩ := h' w' (n + as.length) rest
  refine ⟨w'', hmark, ?_⟩
  rw [List.append_assoc, hw', hw'', List.length_append, Nat.add_assoc]

lemma Closes.passes {s s' : State} {ls : List Text} (h : Closes s ls s') : Passes s ls s' := by
  intro w n rest
  obtain ⟨w', -, hw'⟩ := h w n rest
  exact ⟨some w', hw'⟩

/-- A line that the reader takes in. -/
lemma passes_line {s s' : State} {l w : Text} {obsolete : Bool} {content : LineContent}
    (hl : Line.ofText? (trim l) = some ⟨w, obsolete, .ok (some content)⟩)
    (hs : s.step obsolete content = some s') : Passes s [l] s' := by
  intro w₀ n rest
  refine ⟨some w, ?_⟩
  rw [List.cons_append, List.nil_append, readLines, hl]
  simp only [hs]
  rfl

lemma closes_line {s s' : State} {l w : Text} {obsolete : Bool} {content : LineContent}
    (hl : Line.ofText? (trim l) = some ⟨w, obsolete, .ok (some content)⟩)
    (hs : s.step obsolete content = some s') (hw : startsWith w ['#'] = false) :
    Closes s [l] s' := by
  intro w₀ n rest
  refine ⟨w, hw, ?_⟩
  rw [List.cons_append, List.nil_append, readLines, hl]
  simp only [hs]
  rfl

/-- A line that says nothing. -/
lemma passes_silent {l w : Text} {obsolete : Bool}
    (hl : Line.ofText? (trim l) = some ⟨w, obsolete, .ok none⟩) (s : State) : Passes s [l] s := by
  intro w₀ n rest
  refine ⟨some w, ?_⟩
  rw [List.cons_append, List.nil_append, readLines, hl]
  rfl

lemma passes_blank (s : State) : Passes s [[]] s := by
  intro w n rest
  exact ⟨w, rfl⟩

/-! ### Writing a field -/

/-- A text is written in pieces, at every width but one and two. -/
lemma exists_pieces {width : Int} (h : width ≤ 0 ∨ 3 ≤ width) (nameWidth : Nat) (t : Text) :
    ∃ p ps, pieces width nameWidth t = .ok (p :: ps) ∧ p ++ ps.flatten = t := by
  simp only [pieces]
  split
  · exact ⟨[], _, rfl, flatten_linesWithEnds t⟩
  · split
    · rename_i hlong
      obtain ⟨ls, hls, hflat⟩ := exists_wrap_escape (width - 2).toNat t
      rw [if_pos (by omega), hls]
      refine ⟨[], _, rfl, ?_⟩
      simp only [List.map_map, Function.comp_def, unescape_escape, List.map_id', hflat,
        List.nil_append]
    · exact ⟨t, [], rfl, by simp⟩

/-- The lines of a field whose text has been cut into pieces. -/
def pieceLines (mark label p : Text) (ps : List Text) : List Text :=
  (mark ++ (label ++ ' ' :: quotedPiece p)) :: ps.map fun q => mark ++ quotedPiece q

lemma exists_fieldLines {width : Int} (h : width ≤ 0 ∨ 3 ≤ width) (mark label : Text)
    (extra : Nat) (t : Text) :
    ∃ p ps, fieldLines width mark label extra t = .ok (pieceLines mark label p ps) ∧
      p ++ ps.flatten = t := by
  obtain ⟨p, ps, hps, hflat⟩ := exists_pieces h (label.length + extra + 3) t
  refine ⟨p, ps, ?_, hflat⟩
  simp only [fieldLines, hps, pieceLines, List.append_assoc]
  rfl

lemma oneLine_quotedPiece {p : Text} (h : Escapable p) : OneLine (quotedPiece p) := by
  have hmark : OneLine ['"'] := by
    simp [OneLine]
    decide
  exact (hmark.append h.oneLine_escape).append hmark

lemma oneLine_pieceLines {mark label p : Text} {ps : List Text} (hmark : OneLine mark)
    (hlabel : OneLine label) (h : Escapable (p ++ ps.flatten)) :
    ∀ l ∈ pieceLines mark label p ps, OneLine l := by
  have hspace : OneLine [' '] := by
    simp [OneLine]
    decide
  intro l hl
  rcases List.mem_cons.mp hl with rfl | hl
  · have hp : Escapable p := fun c hc => h c (List.mem_append_left _ hc)
    exact hmark.append (hlabel.append (hspace.append (oneLine_quotedPiece hp)))
  · obtain ⟨q, hq, rfl⟩ := List.mem_map.mp hl
    have hq' : Escapable q := fun c hc =>
      h c (List.mem_append_right _ (List.mem_flatten.mpr ⟨q, hq, hc⟩))
    exact hmark.append (oneLine_quotedPiece hq')

/-! ### Reading a field -/

/-- A field that is set and then extended by further pieces holds them all. -/
lemma foldl_extendField (name : Field) (r : Record) (p : Text) (ps : List Text) :
    ps.foldl (fun r q => r.extendField name q) (r.setField name p) =
      r.setField name (p ++ ps.flatten) := by
  induction ps generalizing p with
  | nil => simp
  | cons q ps ih =>
    have hstep : (r.setField name p).extendField name q = r.setField name (p ++ q) := by
      cases name <;> rfl
    rw [List.foldl_cons, hstep, ih, List.flatten_cons, List.append_assoc]

/-- The further lines of a field extend it. -/
lemma passes_continuations (mark : Text) {name : Field} (ps : List Text)
    (hread : ∀ q, ∃ w o, Line.ofText? (trim (mark ++ quotedPiece q)) =
      some ⟨w, o, .ok (some (.continuation q))⟩) {s : State} (hs : s.position = .field name) :
    Passes s (ps.map fun q => mark ++ quotedPiece q)
      { s with current := ps.foldl (fun r q => r.extendField name q) s.current } := by
  induction ps generalizing s with
  | nil => exact Passes.refl s
  | cons q ps ih =>
    obtain ⟨w, o, hw⟩ := hread q
    have hstep : s.step o (.continuation q) =
        some { s with current := s.current.extendField name q } := by
      simp only [State.step, hs]
    exact (passes_line hw hstep).trans (ih (s := { s with current := _ }) hs)

/-- The same of the fields of an entry, whose lines are no comments. -/
lemma closes_pieceLines {obsolete : Bool} {label p : Text} {name : Field}
    (hlabel : Line.fieldOf? label = some name) (ps : List Text) {s s' : State}
    (hstep : s.step obsolete (.field name p) = some s') (hs' : s'.position = .field name) :
    Closes s (pieceLines (entryMark obsolete) label p ps)
      { s' with current := ps.foldl (fun r q => r.extendField name q) s'.current } := by
  obtain ⟨t, rfl, -⟩ := label_shape hlabel
  have hfirst := closes_line (ofText?_label obsolete hlabel p) hstep rfl
  -- the last line closes, so the induction is on the end of the list
  induction ps using List.reverseRecOn with
  | nil => exact hfirst
  | append_singleton ps q ih =>
    obtain ⟨w, hw⟩ := ofText?_continuation obsolete q
    have hnext : State.step
        { s' with current := ps.foldl (fun r q => r.extendField name q) s'.current } obsolete
        (.continuation q) = some { s' with
          current := (ps ++ [q]).foldl (fun r q => r.extendField name q) s'.current } := by
      simp only [State.step, hs', List.foldl_append, List.foldl_cons, List.foldl_nil]
    have hlines : pieceLines (entryMark obsolete) ('m' :: t) p (ps ++ [q]) =
        pieceLines (entryMark obsolete) ('m' :: t) p ps ++ [entryMark obsolete ++ quotedPiece q] := by
      simp [pieceLines]
    rw [hlines]
    exact ih.passes.closes (closes_line hw hnext rfl)

/-- A field is written in lines whose reading sets it, if each of its pieces may begin here. The
state after the field is `b`, but for the record that is being built. -/
theorem closes_field {width : Int} (h : width ≤ 0 ∨ 3 ≤ width) (obsolete : Bool) (label : Text)
    {name : Field} (hlabel : Line.fieldOf? label = some name) {t : Text} (ht : Escapable t) :
    ∃ ls, fieldLines width (entryMark obsolete) label 0 t = .ok ls ∧ (∀ l ∈ ls, OneLine l) ∧
      ∀ (s b : State) (r : Record), b.position = .field name →
        (∀ p, s.step obsolete (.field name p) = some { b with current := r.setField name p }) →
        Closes s ls { b with current := r.setField name t } := by
  obtain ⟨p, ps, hls, rfl⟩ := exists_fieldLines h (entryMark obsolete) label 0 t
  refine ⟨_, hls, ?_, ?_⟩
  · have hmark : OneLine (entryMark obsolete) := by
      cases obsolete <;> simp [OneLine, entryMark_true, entryMark_false]
      decide
    have hword : OneLine label := by
      unfold Line.fieldOf? at hlabel
      split_ifs at hlabel with hl hl hl hl
      all_goals
        rw [hl]
        simp [OneLine]
        decide
    exact oneLine_pieceLines hmark hword ht
  · intro s b r hb hstep
    have hclose := closes_pieceLines hlabel ps (hstep p) hb
    rwa [foldl_extendField] at hclose

/-! ### One of several translations -/

lemma setPlural_of_not_mem {i : Nat} {v : Text} {l : List (Nat × Text)}
    (h : ∀ x ∈ l, x.1 ≠ i) : Record.setPlural i v l = l ++ [(i, v)] := by
  induction l with
  | nil => rfl
  | cons x l ih =>
    have hx := h x List.mem_cons_self
    have hl := ih fun y hy => h y (List.mem_cons_of_mem x hy)
    simp [Record.setPlural, hx, hl]

lemma setPlural_append_self {i : Nat} {v v' : Text} {l : List (Nat × Text)}
    (h : ∀ x ∈ l, x.1 ≠ i) : Record.setPlural i v' (l ++ [(i, v)]) = l ++ [(i, v')] := by
  induction l with
  | nil => simp [Record.setPlural]
  | cons x l ih =>
    have hx := h x List.mem_cons_self
    have hl := ih fun y hy => h y (List.mem_cons_of_mem x hy)
    simp [Record.setPlural, hx, hl]

lemma lookup_append_self {i : Nat} {v : Text} {l : List (Nat × Text)}
    (h : ∀ x ∈ l, x.1 ≠ i) : (l ++ [(i, v)]).lookup i = some v := by
  induction l with
  | nil => simp
  | cons x l ih =>
    have hx : (i == x.1) = false := by simpa using (h x List.mem_cons_self).symm
    obtain ⟨j, u⟩ := x
    rw [List.cons_append, List.lookup_cons, hx]
    exact ih fun y hy => h y (List.mem_cons_of_mem _ hy)

/-- The state behind a translation with an index. -/
def State.withIndexed (s : State) (i : Nat) (t : Text) : State :=
  { s with
    position := .indexed
    index := i
    current := { s.current with msgstrPlural := s.current.msgstrPlural ++ [(i, t)] } }

/-- Where a translation with an index may stand. -/
def State.AllowsIndexed (s : State) : Prop :=
  s.position = .field .id ∨ s.position = .field .idPlural ∨ s.position = .indexed

lemma oneLine_indexLabel {i : Nat} (hi : i < 10) :
    OneLine ("msgstr[" ++ Decimal.ofNat i ++ "]" : Text) := by
  rw [Decimal.ofNat, if_pos hi]
  interval_cases i
  all_goals
    simp [OneLine]
    decide

lemma closes_indexed {width : Int} (h : width ≤ 0 ∨ 3 ≤ width) (obsolete : Bool) {i : Nat}
    (hi : i < 10) {t : Text} (ht : Escapable t) :
    ∃ ls, fieldLines width (entryMark obsolete) ("msgstr[" ++ Decimal.ofNat i ++ "]") 0 t =
        .ok ls ∧ (∀ l ∈ ls, OneLine l) ∧
      ∀ s : State, s.AllowsIndexed → (∀ x ∈ s.current.msgstrPlural, x.1 ≠ i) →
        Closes s ls (s.withIndexed i t) := by
  obtain ⟨p, ps, hls, rfl⟩ :=
    exists_fieldLines h (entryMark obsolete) ("msgstr[" ++ Decimal.ofNat i ++ "]") 0 t
  refine ⟨_, hls, ?_, ?_⟩
  · have hmark : OneLine (entryMark obsolete) := by
      cases obsolete <;> simp [OneLine, entryMark_true, entryMark_false]
      decide
    exact oneLine_pieceLines hmark (oneLine_indexLabel hi) ht
  · intro s hs hfresh
    obtain ⟨w, hw⟩ := ofText?_indexed obsolete hi p
    have hstep : s.step obsolete (.indexed i p) = some (s.withIndexed i p) := by
      rcases hs with hs | hs | hs
      all_goals simp only [State.step, hs, setPlural_of_not_mem hfresh, State.withIndexed]
    have hfirst := closes_line hw hstep rfl
    clear hls ht
    induction ps using List.reverseRecOn with
    | nil => simpa [pieceLines] using hfirst
    | append_singleton ps q ih =>
      obtain ⟨w', hw'⟩ := ofText?_continuation obsolete q
      have hnext : (s.withIndexed i (p ++ ps.flatten)).step obsolete (.continuation q) =
          some (s.withIndexed i (p ++ (ps ++ [q]).flatten)) := by
        simp only [State.step, State.withIndexed, lookup_append_self hfresh,
          setPlural_append_self hfresh]
        simp
      have hlines : ∀ label : Text, pieceLines (entryMark obsolete) label p (ps ++ [q]) =
          pieceLines (entryMark obsolete) label p ps ++ [entryMark obsolete ++ quotedPiece q] := by
        simp [pieceLines]
      rw [hlines]
      exact ih.passes.closes (closes_line hw' hnext rfl)

end MessageCatalog.Document
