import Mathlib
import MessageCatalog.Proofs.Failure
import MessageCatalog.Proofs.OrderedMap
import MessageCatalog.Proofs.Document.Entries

/-!
# Reading written headers

The headers are written as lines of one text, those with a fixed place first and the others in the
order of their names. Names whose digits are all of ASCII can be compared with each other, so the
headers can be put in order, and reading the text gives back the headers in that order.
-/

namespace MessageCatalog.Document

open Text Failure

/-- A name of a header that can be compared with every other and read again. -/
@[mk_iff]
structure WritableHeaderName (name : Text) : Prop where
  colon : ':' ∉ name
  oneLine : OneLine name
  digits : ∀ part ∈ cutDigits false name, part ≠ [] → part.all isDigitLike = true →
    part.all isAsciiDigit = true ∧ part.length ≤ Decimal.maxDigits

instance (name : Text) : Decidable (WritableHeaderName name) :=
  decidable_of_iff' _ (writableHeaderName_iff name)

/-- A value of a header that is read again: its lines have no blanks around them, and only the
first may hold a colon. -/
@[mk_iff]
structure WritableHeaderValue (value : Text) : Prop where
  line : ∀ l ∈ splitOn '\n' value, OneLine l ∧ trim l = l
  colon : ∀ l ∈ (splitOn '\n' value).tail, ':' ∉ l

instance (value : Text) : Decidable (WritableHeaderValue value) :=
  decidable_of_iff' _ (writableHeaderValue_iff value)

/-! ### Parts of names -/

/-- Texts without ASCII digits and runs of ASCII digits by turns; the flag tells which come
first. -/
def IsRuns : Bool → List Text → Prop
  | _, [] => True
  | digits, p :: ps =>
    (∀ c ∈ p, isAsciiDigit c = digits) ∧ (digits = true → p ≠ []) ∧ IsRuns (!digits) ps

lemma exists_cutDigits (digits : Bool) (t : Text) :
    ∃ p ps, cutDigits digits t = p :: ps ∧ (∀ c ∈ p, isAsciiDigit c = digits) ∧
      IsRuns (!digits) ps := by
  induction t generalizing digits with
  | nil =>
    cases digits with
    | true => exact ⟨[], [[]], rfl, by simp, by simp [IsRuns]⟩
    | false => exact ⟨[], [], rfl, by simp, trivial⟩
  | cons c t ih =>
    rw [cutDigits]
    by_cases hc : isAsciiDigit c = digits
    · obtain ⟨p, ps, hcut, hp, hps⟩ := ih digits
      rw [if_pos hc, hcut]
      exact ⟨c :: p, ps, rfl, List.forall_mem_cons.mpr ⟨hc, hp⟩, hps⟩
    · obtain ⟨p, ps, hcut, hp, hps⟩ := ih (!digits)
      have hc' : isAsciiDigit c = !digits := Bool.eq_not.mpr hc
      rw [if_neg hc, hcut]
      refine ⟨[], (c :: p) :: ps, rfl, by simp, ?_, by simp, hps⟩
      exact List.forall_mem_cons.mpr ⟨hc', hp⟩

lemma isRuns_cutDigits (name : Text) : IsRuns false (cutDigits false name) := by
  obtain ⟨p, ps, hcut, hp, hps⟩ := exists_cutDigits false name
  rw [hcut]
  exact ⟨hp, by simp, hps⟩

/-- Texts and numbers by turns; the flag tells whether a number comes first. -/
def TakesTurns : Bool → List NamePart → Prop
  | _, [] => True
  | true, .number _ :: ps => TakesTurns false ps
  | false, .text _ :: ps => TakesTurns true ps
  | _, _ => False

lemma digitValue?_of_isAsciiDigit {c : Char} (h : isAsciiDigit c = true) :
    digitValue? c = some (c.toNat - 0x30) := by
  rw [isAsciiDigit, Bool.and_eq_true, decide_eq_true_eq, decide_eq_true_eq] at h
  rw [digitValue?, if_pos (by omega), if_pos]
  simp [h]

lemma exists_digits? {t : Text} (hne : t ≠ []) (h : ∀ c ∈ t, isAsciiDigit c = true) :
    ∃ ds, Decimal.digits? t = some ds ∧ ds.length = t.length := by
  induction t with
  | nil => exact absurd rfl hne
  | cons c t ih =>
    have hc := digitValue?_of_isAsciiDigit (h c List.mem_cons_self)
    cases t with
    | nil => exact ⟨[c.toNat - 0x30], by rw [Decimal.digits?, hc], rfl⟩
    | cons d t =>
      obtain ⟨ds, hds, hlen⟩ :=
        ih (List.cons_ne_nil d t) fun x hx => h x (List.mem_cons_of_mem c hx)
      have hd : d ≠ '_' := by
        rintro rfl
        exact absurd (h '_' (by simp)) (by decide)
      refine ⟨(c.toNat - 0x30) :: ds, ?_, by simpa using hlen⟩
      rw [Decimal.digits?, hc]
      simp [hds]

lemma exists_mapM_partOf {digits : Bool} {ps : List Text} (hruns : IsRuns digits ps)
    (h : ∀ part ∈ ps, part ≠ [] → part.all isDigitLike = true →
      part.all isAsciiDigit = true ∧ part.length ≤ Decimal.maxDigits) :
    ∃ ns, ps.mapM partOf = .ok ns ∧ TakesTurns digits ns := by
  induction ps generalizing digits with
  | nil => exact ⟨[], rfl, by cases digits <;> trivial⟩
  | cons p ps ih =>
    obtain ⟨hp, hne, hps⟩ := hruns
    obtain ⟨ns, hns, hturns⟩ := ih hps fun q hq => h q (List.mem_cons_of_mem p hq)
    cases digits with
    | true =>
      have hlike : p.all isDigitLike = true := by
        apply List.all_eq_true.mpr
        intro c hc
        rw [isDigitLike, isDecimal, digitValue?_of_isAsciiDigit (hp c hc)]
        rfl
      obtain ⟨ds, hds, hlen⟩ := exists_digits? (hne rfl) hp
      have hmax := (h p List.mem_cons_self (hne rfl) hlike).2
      have hpart : partOf p = .ok (.number (Decimal.value ds)) := by
        simp only [partOf, hlike, Decimal.natOf?, hds]
        simp [hne rfl, hlen, hmax]
      exact ⟨.number (Decimal.value ds) :: ns, by rw [List.mapM_cons, hpart, hns]; rfl, hturns⟩
    | false =>
      -- If a part without digits looked like a number, the name would promise that it has some.
      have hpart : partOf p = .ok (.text (lower p)) := by
        rw [partOf, if_neg]
        intro hlike
        rw [Bool.and_eq_true] at hlike
        cases p with
        | nil => exact Bool.false_ne_true hlike.1
        | cons c p =>
          have hall := (h _ List.mem_cons_self (List.cons_ne_nil c p) hlike.2).1
          have hc := List.all_eq_true.mp hall c List.mem_cons_self
          rw [hp c List.mem_cons_self] at hc
          exact Bool.false_ne_true hc
      exact ⟨.text (lower p) :: ns, by rw [List.mapM_cons, hpart, hns]; rfl, hturns⟩

/-- Parts that come by the same turns can be compared. -/
lemma isSome_compareParts {number : Bool} {as bs : List NamePart} (ha : TakesTurns number as)
    (hb : TakesTurns number bs) : (compareParts as bs).isSome = true := by
  induction as generalizing number bs with
  | nil => cases bs <;> rfl
  | cons a as ih =>
    cases bs with
    | nil => rfl
    | cons b bs =>
      by_cases hab : a = b
      · subst hab
        have htail : ∃ number', TakesTurns number' as ∧ TakesTurns number' bs := by
          cases number <;> cases a <;> simp only [TakesTurns] at ha hb
          · exact ⟨true, ha, hb⟩
          · exact ⟨false, ha, hb⟩
        obtain ⟨_, has, hbs⟩ := htail
        simpa [compareParts] using ih has hbs
      · cases number <;> cases a <;> cases b <;> simp only [TakesTurns] at ha hb
        · simp [compareParts, mt (congrArg NamePart.text) hab]
        · simp [compareParts, mt (congrArg NamePart.number) hab]

/-! ### The order of the headers -/

/-- Each header is kept beside the parts of its name. -/
lemma keyed_cons_eq_ok_iff {p : Text × Text} {hs : List (Text × Text)}
    {keyed : List (List NamePart × (Text × Text))} :
    ((p :: hs).mapM fun p => do return ((← nameParts p.1), p) : Except Failure _) = .ok keyed ↔
      ∃ ns rest, nameParts p.1 = .ok ns ∧
        (hs.mapM fun p => do return ((← nameParts p.1), p) : Except Failure _) = .ok rest ∧
        keyed = (ns, p) :: rest := by
  rw [List.mapM_cons, bind_eq_ok_iff]
  constructor
  · rintro ⟨k, hk, h⟩
    obtain ⟨ns, hns, hk⟩ := bind_eq_ok_iff.mp hk
    obtain rfl := pure_eq_ok_iff.mp hk
    obtain ⟨rest, hrest, h⟩ := bind_eq_ok_iff.mp h
    exact ⟨ns, rest, hns, hrest, (pure_eq_ok_iff.mp h).symm⟩
  · rintro ⟨ns, rest, hns, hrest, rfl⟩
    refine ⟨(ns, p), ?_, ?_⟩
    · rw [hns]
      rfl
    · rw [hrest]
      rfl

lemma map_snd_of_keyed {hs : List (Text × Text)} {keyed : List (List NamePart × (Text × Text))}
    (h : (hs.mapM fun p => do return ((← nameParts p.1), p) : Except Failure _) = .ok keyed) :
    keyed.map Prod.snd = hs := by
  induction hs generalizing keyed with
  | nil =>
    obtain rfl := pure_eq_ok_iff.mp h
    rfl
  | cons p hs ih =>
    obtain ⟨ns, rest, -, hrest, rfl⟩ := keyed_cons_eq_ok_iff.mp h
    rw [List.map_cons, ih hrest]

lemma exists_keyed {hs : List (Text × Text)} (h : ∀ p ∈ hs, WritableHeaderName p.1) :
    ∃ keyed, (hs.mapM fun p => do return ((← nameParts p.1), p) : Except Failure _) = .ok keyed ∧
      ∀ k ∈ keyed, TakesTurns false k.1 := by
  induction hs with
  | nil => exact ⟨[], rfl, by simp⟩
  | cons p hs ih =>
    obtain ⟨keyed, hkeyed, hturns⟩ := ih fun q hq => h q (List.mem_cons_of_mem p hq)
    obtain ⟨ns, hns, hns'⟩ :=
      exists_mapM_partOf (isRuns_cutDigits p.1) (h p List.mem_cons_self).digits
    exact ⟨(ns, p) :: keyed, keyed_cons_eq_ok_iff.mpr ⟨ns, keyed, hns, hkeyed, rfl⟩,
      List.forall_mem_cons.mpr ⟨hns', hturns⟩⟩

lemma sortHeaders_eq_ok_iff {hs sorted : List (Text × Text)} :
    sortHeaders hs = .ok sorted ↔ ∃ keyed,
      (hs.mapM fun p => do return ((← nameParts p.1), p) : Except Failure _) = .ok keyed ∧
      (∀ a ∈ keyed, ∀ b ∈ keyed, (compareParts a.1 b.1).isSome = true) ∧
      sorted = (keyed.mergeSort fun a b => compareParts a.1 b.1 != some .gt).map Prod.snd := by
  rw [sortHeaders, bind_eq_ok_iff]
  refine exists_congr fun keyed => and_congr_right fun _ => ?_
  dsimp only
  split
  · rename_i hcompare
    have hall : ∀ a ∈ keyed, ∀ b ∈ keyed, (compareParts a.1 b.1).isSome = true := by
      simpa only [List.all_eq_true] using hcompare
    rw [pure_eq_ok_iff, eq_comm, and_iff_right hall]
  · rename_i hcompare
    constructor
    · intro h
      cases h
    · rintro ⟨hall, -⟩
      exact absurd (by simpa only [List.all_eq_true] using hall) hcompare

/-- Sorting headers loses none and makes none up. -/
lemma sortHeaders_perm {hs sorted : List (Text × Text)} (h : sortHeaders hs = .ok sorted) :
    sorted.Perm hs := by
  obtain ⟨keyed, hkeyed, -, rfl⟩ := sortHeaders_eq_ok_iff.mp h
  exact map_snd_of_keyed hkeyed ▸ (List.mergeSort_perm keyed _).map Prod.snd

/-- Writable names can be put in order. -/
lemma exists_sortHeaders {hs : List (Text × Text)} (h : ∀ p ∈ hs, WritableHeaderName p.1) :
    ∃ sorted, sortHeaders hs = .ok sorted := by
  obtain ⟨keyed, hkeyed, hturns⟩ := exists_keyed h
  exact ⟨_, sortHeaders_eq_ok_iff.mpr ⟨keyed, hkeyed,
    fun a ha b hb => isSome_compareParts (hturns a ha) (hturns b hb), rfl⟩⟩

/-- The headers with a fixed place are all that have their names. -/
lemma leading_perm (headers : OrderedMap Text) :
    (leadingHeaders.filterMap fun name => (headers.get? name).map (name, ·)).Perm
      (headers.entries.filter fun p => leadingHeaders.contains p.1) := by
  -- Neither list repeats a header, so it is enough that they have the same members.
  have hnodup : headers.entries.Nodup := headers.distinct.of_map
  refine (List.perm_ext_iff_of_nodup ?_ (hnodup.filter _)).mpr ?_
  · refine List.Nodup.filterMap ?_ (by simp [leadingHeaders])
    intro a a' b hb hb'
    simp only [Option.mem_def, Option.map_eq_some_iff] at hb hb'
    obtain ⟨v, -, rfl⟩ := hb
    obtain ⟨v', -, hv'⟩ := hb'
    exact (congrArg Prod.fst hv').symm
  · rintro ⟨k, v⟩
    simp only [List.mem_filterMap, List.mem_filter, Option.map_eq_some_iff, Prod.mk.injEq,
      OrderedMap.get?_eq_some_iff, List.contains_iff_mem]
    constructor
    · rintro ⟨name, hname, w, hw, rfl, rfl⟩
      exact ⟨hw, hname⟩
    · rintro ⟨hmem, hname⟩
      exact ⟨k, hname, v, hmem, rfl, rfl⟩

lemma orderedHeaders_eq_ok_iff {headers : OrderedMap Text} {hs : List (Text × Text)} :
    orderedHeaders headers = .ok hs ↔ ∃ sorted,
      sortHeaders (headers.entries.filter fun h => !leadingHeaders.contains h.1) = .ok sorted ∧
        hs = (leadingHeaders.filterMap fun name => (headers.get? name).map (name, ·)) ++ sorted := by
  rw [orderedHeaders, bind_eq_ok_iff]
  exact exists_congr fun sorted => and_congr_right fun _ => pure_eq_ok_iff.trans eq_comm

/-- The headers in the order in which they are written are the same headers. -/
lemma orderedHeaders_perm {headers : OrderedMap Text} {hs : List (Text × Text)}
    (h : orderedHeaders headers = .ok hs) : hs.Perm headers.entries := by
  obtain ⟨sorted, hsorted, rfl⟩ := orderedHeaders_eq_ok_iff.mp h
  exact ((leading_perm headers).append (sortHeaders_perm hsorted)).trans
    (List.filter_append_perm (fun p => leadingHeaders.contains p.1) headers.entries)

/-- Headers with writable names can be put in the order in which they are written. -/
theorem exists_orderedHeaders {headers : OrderedMap Text}
    (h : ∀ p ∈ headers.entries, WritableHeaderName p.1) :
    ∃ hs, orderedHeaders headers = .ok hs := by
  have hothers : ∀ p ∈ headers.entries.filter fun p => !leadingHeaders.contains p.1,
      WritableHeaderName p.1 := fun p hp => h p (List.mem_of_mem_filter hp)
  obtain ⟨sorted, hsorted⟩ := exists_sortHeaders hothers
  exact ⟨_, orderedHeaders_eq_ok_iff.mpr ⟨sorted, hsorted, rfl⟩⟩

/-! ### The text of the headers -/

/-- The lines in which a header is written. -/
def headerLines (h : Text × Text) : List Text := splitOn '\n' (h.1 ++ ": " ++ h.2)

lemma headerText_eq (hs : List (Text × Text)) : headerText hs = unlines (hs.flatMap headerLines) := by
  induction hs with
  | nil => rfl
  | cons h hs ih =>
    rw [List.flatMap_cons, unlines_append, headerLines, unlines_splitOn, ← ih]
    rfl

/-- A header that can be written and read again. -/
def WritableHeader (h : Text × Text) : Prop := WritableHeaderName h.1 ∧ WritableHeaderValue h.2

instance (h : Text × Text) : Decidable (WritableHeader h) :=
  inferInstanceAs (Decidable (WritableHeaderName h.1 ∧ WritableHeaderValue h.2))

/-- A header that is read again where it is written, whether its name can be compared or not. -/
structure LegibleHeader (h : Text × Text) : Prop where
  colon : ':' ∉ h.1
  oneLine : OneLine h.1
  value : WritableHeaderValue h.2

lemma WritableHeader.legible {h : Text × Text} (hh : WritableHeader h) : LegibleHeader h :=
  ⟨hh.1.colon, hh.1.oneLine, hh.2⟩

/-- The first line of a header holds its name, and the others go on with the value. -/
lemma exists_headerLines {h : Text × Text} (hh : LegibleHeader h) :
    ∃ l ls, splitOn '\n' h.2 = l :: ls ∧ headerLines h = (h.1 ++ ':' :: ' ' :: l) :: ls := by
  cases hsplit : splitOn '\n' h.2 with
  | nil => exact absurd hsplit (splitOn_ne_nil '\n' h.2)
  | cons l ls =>
    refine ⟨l, ls, rfl, ?_⟩
    have hname : '\n' ∉ h.1 ++ [':', ' '] := by
      simpa using hh.oneLine.newline_not_mem
    have happ := splitOn_append hname hsplit
    simpa [headerLines] using happ

lemma oneLine_headerLines {h : Text × Text} (hh : LegibleHeader h) :
    ∀ l ∈ headerLines h, OneLine l := by
  obtain ⟨l, ls, hsplit, hlines⟩ := exists_headerLines hh
  have hvalue : ∀ m ∈ l :: ls, OneLine m := fun m hm => (hh.value.line m (hsplit ▸ hm)).1
  rw [hlines]
  refine List.forall_mem_cons.mpr ⟨?_, fun m hm => hvalue m (List.mem_cons_of_mem l hm)⟩
  have hmark : OneLine [':', ' '] := by
    simp [OneLine]
    decide
  exact hh.oneLine.append (hmark.append (hvalue l List.mem_cons_self))

/-- Reading the lines of a header puts its value at its name. -/
lemma foldl_headerLines {h : Text × Text} (hh : LegibleHeader h) (m : OrderedMap Text)
    (latest : Option Text) :
    (headerLines h).foldl (fun s l => addHeader s.1 s.2 l) (m, latest) =
      (m.insert h.1 h.2, some h.1) := by
  obtain ⟨l, ls, hsplit, hlines⟩ := exists_headerLines hh
  -- A line without a colon is glued to the value so far, which is general here.
  have hrest : ∀ (ls : List Text) (v : Text), (∀ l ∈ ls, trim l = l ∧ ':' ∉ l) →
      ls.foldl (fun s l => addHeader s.1 s.2 l) (m.insert h.1 v, some h.1) =
        (m.insert h.1 (join ['\n'] (v :: ls)), some h.1) := by
    intro ls
    induction ls with
    | nil => simp
    | cons l ls ih =>
      intro v hls
      obtain ⟨htrim, hcolon⟩ := hls l List.mem_cons_self
      have hstep : addHeader (m.insert h.1 v) (some h.1) l =
          (m.insert h.1 (v ++ ['\n'] ++ l), some h.1) := by
        rw [addHeader, cutFirst_eq_none hcolon]
        simp [OrderedMap.get?_insert, htrim, OrderedMap.insert_insert]
      rw [List.foldl_cons, hstep, ih _ fun k hk => hls k (List.mem_cons_of_mem l hk), join_glue]
  have hfirst : addHeader m latest (h.1 ++ ':' :: ' ' :: l) = (m.insert h.1 l, some h.1) := by
    have htrim : trim (' ' :: l) = l := by
      rw [trim, trimLeft_cons_of_blank (by decide)]
      exact (hh.value.line l (by rw [hsplit]; exact List.mem_cons_self)).2
    simp only [addHeader, cutFirst_append hh.colon, htrim]
  have hvalue := join_splitOn '\n' h.2
  rw [hsplit] at hvalue
  rw [hlines, List.foldl_cons, hfirst, hrest, hvalue]
  intro k hk
  exact ⟨(hh.value.line k (by rw [hsplit]; exact List.mem_cons_of_mem l hk)).2,
    hh.value.colon k (by rw [hsplit]; exact hk)⟩

/-- Reading the text of the headers gives back the headers. -/
theorem entries_headersOf {hs : List (Text × Text)} (hnodup : (hs.map Prod.fst).Nodup)
    (h : ∀ p ∈ hs, LegibleHeader p) : (headersOf (headerText hs)).entries = hs := by
  have hfold : ∀ (hs : List (Text × Text)) (m : OrderedMap Text) (latest : Option Text),
      (∀ p ∈ hs, LegibleHeader p) →
        ((hs.flatMap headerLines).foldl (fun s l => addHeader s.1 s.2 l) (m, latest)).1 =
          hs.foldl (fun m p => m.insert p.1 p.2) m := by
    intro hs
    induction hs with
    | nil => simp
    | cons p hs ih =>
      intro m latest h
      rw [List.flatMap_cons, List.foldl_append, foldl_headerLines (h p List.mem_cons_self),
        List.foldl_cons]
      exact ih _ _ fun q hq => h q (List.mem_cons_of_mem p hq)
  have hlines : ∀ l ∈ hs.flatMap headerLines, OneLine l := by
    intro l hl
    obtain ⟨p, hp, hl⟩ := List.mem_flatMap.mp hl
    exact oneLine_headerLines (h p hp) l hl
  rw [headersOf, headerText_eq, lines_unlines hlines, hfold hs _ _ h]
  exact OrderedMap.entries_ofList hnodup

end MessageCatalog.Document
