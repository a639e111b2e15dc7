import MessageCatalog.Proofs.Reference

/-!
# Which references are selected

Of each file the first references are allowed, up to the limit for a file. The first of these are
selected, up to the limit on all. So nothing that is passed over could have been selected as well.
-/

namespace MessageCatalog.Reference

open Failure (bind_eq_ok_iff bind_eq_error_iff pure_eq_ok_iff)

variable {o : ReferenceOptions} {m f : ℕ∞} {refs : List Text}

/-- The file that a reference names. -/
def fileOf (ref : Text) : Text := (split ref).1

/-- How many references name a file. -/
def timesIn (refs : List Text) (file : Text) : ℕ := refs.countP fun ref => fileOf ref = file

@[simp] lemma timesIn_nil (file : Text) : timesIn [] file = 0 := rfl

lemma timesIn_append (refs more : List Text) (file : Text) :
    timesIn (refs ++ more) file = timesIn refs file + timesIn more file := List.countP_append

lemma timesIn_cons (ref : Text) (refs : List Text) (file : Text) :
    timesIn (ref :: refs) file = timesIn refs file + if fileOf ref = file then 1 else 0 := by
  simp [timesIn, List.countP_cons]

/-! ### References of a file -/

/-- The references with their positions, of each file no more than the first `f`. -/
def leading (f : ℕ∞) (refs : List Text) : List (Text × ℕ) :=
  refs.zipIdx.filter fun p => (timesIn (refs.take p.2) (fileOf p.1) : ℕ∞) < f

/-- Those of them that come after others. -/
def leadingAfter (f : ℕ∞) (before refs : List Text) : List (Text × ℕ) :=
  (refs.zipIdx before.length).filter fun p =>
    (timesIn ((before ++ refs).take p.2) (fileOf p.1) : ℕ∞) < f

lemma leadingAfter_nil (f : ℕ∞) (refs : List Text) : leadingAfter f [] refs = leading f refs := rfl

lemma leadingAfter_cons (f : ℕ∞) (before refs : List Text) (ref : Text) :
    leadingAfter f before (ref :: refs) =
      if (timesIn before (fileOf ref) : ℕ∞) < f then
        (ref, before.length) :: leadingAfter f (before ++ [ref]) refs
      else leadingAfter f (before ++ [ref]) refs := by
  have happend : before ++ ref :: refs = before ++ [ref] ++ refs := by simp
  have hlength : before.length + 1 = (before ++ [ref]).length := by simp
  rw [leadingAfter, List.zipIdx_cons, List.filter_cons, List.take_left, happend, hlength]
  simp only [decide_eq_true_eq]
  rfl

/-- Of each file as many references are leading as there are, up to `f`. -/
lemma timesIn_leadingAfter (f : ℕ∞) (before refs : List Text) (file : Text) :
    (timesIn ((leadingAfter f before refs).map Prod.fst) file : ℕ∞) + min f (timesIn before file) =
      min f (timesIn (before ++ refs) file) := by
  induction refs generalizing before with
  | nil => simp [leadingAfter]
  | cons ref refs ih =>
    have hrest := ih (before ++ [ref])
    rw [List.append_assoc, List.singleton_append, timesIn_append before [ref], timesIn_cons,
      timesIn_nil, Nat.zero_add] at hrest
    rw [leadingAfter_cons, ← hrest]
    by_cases hfile : fileOf ref = file
    · rw [if_pos hfile, hfile]
      split
      · next hlt =>
        have hle : ((timesIn before file + 1 : ℕ) : ℕ∞) ≤ f := by
          exact_mod_cast Order.add_one_le_of_lt hlt
        rw [List.map_cons, timesIn_cons, if_pos hfile, min_eq_right hle, min_eq_right hlt.le]
        push_cast
        ring
      · next hnot =>
        have hle : f ≤ timesIn before file := not_lt.mp hnot
        have hle' : f ≤ ((timesIn before file + 1 : ℕ) : ℕ∞) :=
          hle.trans (by exact_mod_cast Nat.le_succ _)
        rw [min_eq_left hle, min_eq_left hle']
    · rw [if_neg hfile, Nat.add_zero]
      split
      · rw [List.map_cons, timesIn_cons, if_neg hfile, Nat.add_zero]
      · rfl

lemma timesIn_leading (f : ℕ∞) (refs : List Text) (file : Text) :
    (timesIn ((leading f refs).map Prod.fst) file : ℕ∞) = min f (timesIn refs file) := by
  simpa [leadingAfter_nil] using timesIn_leadingAfter f [] refs file

/-! ### All references -/

section TakeUpTo

variable {α : Type}

/-- The first elements of a list, up to a number of them. -/
def takeUpTo (m : ℕ∞) (xs : List α) : List α :=
  if m < xs.length then xs.take m.toNat else xs

lemma takeUpTo_of_le {xs : List α} (h : xs.length ≤ m) : takeUpTo m xs = xs :=
  if_neg (not_lt.mpr h)

lemma takeUpTo_sublist (m : ℕ∞) (xs : List α) : (takeUpTo m xs).Sublist xs := by
  rw [takeUpTo]
  split
  · exact List.take_sublist _ _
  · exact List.Sublist.refl _

lemma takeUpTo_eq_take {n : ℕ} (xs : List α) (h : (n : ℕ∞) = min m xs.length) :
    takeUpTo m xs = xs.take n := by
  rw [takeUpTo]
  split
  · next hlt =>
    rw [min_eq_left hlt.le] at h
    rw [← h, ENat.toNat_natCast]
  · next hle =>
    rw [min_eq_right (not_lt.mp hle)] at h
    rw [ENat.natCast_inj.mp h, List.take_length]

end TakeUpTo

lemma timesIn_takeUpTo_le (m f : ℕ∞) (refs : List Text) (file : Text) :
    (timesIn ((takeUpTo m (leading f refs)).map Prod.fst) file : ℕ∞) ≤ f := by
  have hle : timesIn ((takeUpTo m (leading f refs)).map Prod.fst) file ≤
      timesIn ((leading f refs).map Prod.fst) file :=
    ((takeUpTo_sublist _ _).map _).countP_le
  calc (timesIn ((takeUpTo m (leading f refs)).map Prod.fst) file : ℕ∞)
      ≤ timesIn ((leading f refs).map Prod.fst) file := by exact_mod_cast hle
    _ = min f (timesIn refs file) := timesIn_leading f refs file
    _ ≤ f := min_le_left _ _

/-- If all leading references are taken, there are as many as allowed of the file of any other. -/
lemma timesIn_eq_of_not_mem {p : Text × ℕ} (hp : p ∈ refs.zipIdx)
    (hnot : p ∉ takeUpTo m (leading f refs)) (hroom : (leading f refs).length ≤ m) :
    (timesIn ((takeUpTo m (leading f refs)).map Prod.fst) (fileOf p.1) : ℕ∞) = f := by
  rw [takeUpTo_of_le hroom] at hnot ⊢
  have hmany : f ≤ timesIn (refs.take p.2) (fileOf p.1) := by
    simpa [leading, hp] using hnot
  have hle : timesIn (refs.take p.2) (fileOf p.1) ≤ timesIn refs (fileOf p.1) :=
    (List.take_sublist _ _).countP_le
  rw [timesIn_leading, min_eq_left (hmany.trans (by exact_mod_cast hle))]

/-- The loop selects the first of the leading references, as many as there is room for. -/
lemma exists_chosen {kept : ℕ} {files before selected : List Text}
    (h : selectFrom o kept files refs = .ok selected) (hkept : (kept : ℕ∞) ≤ Limit.cap o.max)
    (hfiles : ∀ file, files.count file = timesIn before file) :
    ∃ chosen : List (Text × ℕ), chosen.map Prod.fst = selected ∧
      chosen <+: leadingAfter (Limit.cap o.perFile) before refs ∧
      ((kept + chosen.length : ℕ) : ℕ∞) =
        min (Limit.cap o.max)
          (kept + (leadingAfter (Limit.cap o.perFile) before refs).length : ℕ) := by
  -- the files of what comes before are counted, whether or not it has been selected
  induction refs generalizing kept files before selected with
  | nil =>
    obtain rfl := Except.ok.inj h
    exact ⟨[], rfl, List.nil_prefix, by simp [leadingAfter, hkept]⟩
  | cons ref refs ih =>
    have hfiles' : ∀ file, (fileOf ref :: files).count file = timesIn (before ++ [ref]) file := by
      intro file
      rw [List.count_cons, hfiles, timesIn_append, timesIn_cons]
      simp
    obtain ⟨full, hfull, h⟩ := bind_eq_ok_iff.mp h
    obtain ⟨-, rfl⟩ := Limit.countExceeds_eq_ok_iff.mp hfull
    rw [leadingAfter_cons]
    split at h
    · next hfull =>
      obtain rfl := pure_eq_ok_iff.mp h
      have hcap : Limit.cap o.max = kept := by
        refine le_antisymm (ENat.lt_natCast_add_one_iff.mp ?_) hkept
        simpa using hfull
      refine ⟨[], rfl, List.nil_prefix, ?_⟩
      rw [hcap, min_eq_left (by exact_mod_cast Nat.le_add_right _ _)]
      simp
    · next hroom =>
      obtain ⟨often, hoften, h⟩ := bind_eq_ok_iff.mp h
      obtain ⟨-, rfl⟩ := Limit.countExceeds_eq_ok_iff.mp hoften
      have hoften : (Limit.cap o.perFile < ((files.count (split ref).1 + 1 : ℕ) : ℕ∞)) ↔
          ¬(timesIn before (fileOf ref) : ℕ∞) < Limit.cap o.perFile := by
        rw [← hfiles, not_lt, fileOf]
        exact_mod_cast ENat.lt_natCast_add_one_iff
      split at h
      · next hmany =>
        rw [if_neg (hoften.mp (by simpa using hmany))]
        exact ih h hkept hfiles'
      · next hfew =>
        rw [if_pos (by_contra fun hmany => hfew (by simpa using hoften.mpr hmany))]
        obtain ⟨rest, hrest, h⟩ := bind_eq_ok_iff.mp h
        obtain rfl := pure_eq_ok_iff.mp h
        obtain ⟨chosen, rfl, hprefix, hlength⟩ := ih hrest (by simpa using hroom) hfiles'
        refine ⟨(ref, before.length) :: chosen, rfl, (List.prefix_cons_inj _).mpr hprefix, ?_⟩
        rw [List.length_cons, List.length_cons, ← Nat.add_assoc, ← Nat.add_assoc,
          Nat.add_right_comm, hlength, Nat.add_right_comm]

/-- What is selected, if selecting succeeds. -/
lemma select_eq {selected : List Text} (h : select o refs = .ok selected) :
    selected = (takeUpTo (Limit.cap o.max) (leading (Limit.cap o.perFile) refs)).map Prod.fst ∧
      (selected.length : ℕ∞) =
        min (Limit.cap o.max) (leading (Limit.cap o.perFile) refs).length := by
  have hnone : ∀ file, ([] : List Text).count file = timesIn [] file := fun _ => rfl
  obtain ⟨chosen, rfl, hprefix, hlength⟩ := exists_chosen h (by simp) hnone
  rw [leadingAfter_nil] at hprefix hlength
  rw [Nat.zero_add, Nat.zero_add] at hlength
  rw [List.length_map, takeUpTo_eq_take _ hlength]
  exact ⟨congrArg _ (List.prefix_iff_eq_take.mp hprefix), hlength⟩

/-- Selecting fails only at a limit that is too large a number. -/
lemma eq_numberTooLarge_of_selectFrom {kept : ℕ} {files : List Text} {e : Failure}
    (h : selectFrom o kept files refs = .error e) : e = .numberTooLarge := by
  induction refs generalizing kept files with
  | nil => cases h
  | cons ref refs ih =>
    rcases bind_eq_error_iff.mp h with h | ⟨full, -, h⟩
    · exact Limit.countExceeds_eq_error h
    split at h
    · cases h
    rcases bind_eq_error_iff.mp h with h | ⟨often, -, h⟩
    · exact Limit.countExceeds_eq_error h
    split at h
    · exact ih h
    rcases bind_eq_error_iff.mp h with h | ⟨rest, -, h⟩
    · exact ih h
    · cases h

/-- Whether selecting succeeds depends on the limits that are looked at. -/
lemma exists_select_iff : (∃ selected, select o refs = .ok selected) ↔
    refs = [] ∨ Limit.IsReadable o.max ∧ (Limit.cap o.max = 0 ∨ Limit.IsReadable o.perFile) := by
  constructor
  · rintro ⟨selected, h⟩
    cases refs with
    | nil => exact .inl rfl
    | cons ref refs =>
      obtain ⟨full, hfull, h⟩ := bind_eq_ok_iff.mp h
      obtain ⟨hmax, rfl⟩ := Limit.countExceeds_eq_ok_iff.mp hfull
      refine .inr ⟨hmax, ?_⟩
      split at h
      · next hfull => exact .inl (Order.lt_one_iff.mp (by simpa using hfull))
      · obtain ⟨often, hoften, -⟩ := bind_eq_ok_iff.mp h
        exact .inr (Limit.countExceeds_eq_ok_iff.mp hoften).1
  · rintro (rfl | ⟨hmax, hzero | hperFile⟩)
    · exact ⟨[], rfl⟩
    · cases refs with
      | nil => exact ⟨[], rfl⟩
      | cons ref refs =>
        refine ⟨[], bind_eq_ok_iff.mpr ⟨true, Limit.countExceeds_eq_ok_iff.mpr ⟨hmax, ?_⟩, rfl⟩⟩
        simp [hzero]
    · exact exists_selectFrom hmax hperFile 0 [] refs

/-- The selected references are the first of the leading references, up to the limit on all, if the
limits can be read that are looked at; otherwise selecting fails. So they keep the order of the
references and both limits, and a reference is passed over only when there are as many as allowed of
all references or of its file. -/
theorem select_spec (o : ReferenceOptions) (refs : List Text) :
    (refs = [] ∨
        Limit.IsReadable o.max ∧ (Limit.cap o.max = 0 ∨ Limit.IsReadable o.perFile) →
      ∃ selected, select o refs = .ok selected ∧
        selected =
          (takeUpTo (Limit.cap o.max) (leading (Limit.cap o.perFile) refs)).map Prod.fst ∧
        selected.Sublist refs ∧
        (selected.length : ℕ∞) ≤ Limit.cap o.max ∧
        (∀ file, (timesIn selected file : ℕ∞) ≤ Limit.cap o.perFile) ∧
        ∀ p ∈ refs.zipIdx,
          p ∉ takeUpTo (Limit.cap o.max) (leading (Limit.cap o.perFile) refs) →
            (selected.length : ℕ∞) = Limit.cap o.max ∨
              (timesIn selected (fileOf p.1) : ℕ∞) = Limit.cap o.perFile) ∧
    (¬(refs = [] ∨
        Limit.IsReadable o.max ∧ (Limit.cap o.max = 0 ∨ Limit.IsReadable o.perFile)) →
      select o refs = .error .numberTooLarge) := by
  rw [← exists_select_iff]
  constructor
  · rintro ⟨selected, h⟩
    obtain ⟨hselected, hlength⟩ := select_eq h
    refine ⟨selected, h, hselected, selectFrom_sublist h, hlength.trans_le (min_le_left _ _),
      fun file => ?_, fun p hp hnot => ?_⟩
    · rw [hselected]
      exact timesIn_takeUpTo_le _ _ _ _
    · rcases le_total (Limit.cap o.max) (leading (Limit.cap o.perFile) refs).length with hle | hle
      · exact .inl (hlength.trans (min_eq_left hle))
      · rw [hselected]
        exact .inr (timesIn_eq_of_not_mem hp hnot hle)
  · intro hnone
    cases h : select o refs with
    | ok selected => exact absurd ⟨selected, h⟩ hnone
    | error e => rw [eq_numberTooLarge_of_selectFrom h]

/-- At most two and a half references, and one of each file. -/
def sparse : ReferenceOptions := { max := .float (.finite false 5 (-1)), perFile := .int 1 }

/-- The limit is a number beyond the range of double precision. -/
def endless : ReferenceOptions := { max := .int (10 ^ 309 : ℕ) }

def tour : List Text := ["a.py:1", "a.py:2", "b.py:3", "c.py:4"]

theorem select_spec_tour :
    (Limit.IsReadable sparse.max ∧ Limit.cap sparse.max = 2 ∧
      Limit.IsReadable sparse.perFile ∧ Limit.cap sparse.perFile = 1 ∧
      (takeUpTo 2 (leading 1 tour)).map Prod.fst = (["a.py:1", "b.py:3"] : List Text) ∧
      select sparse tour = .ok ["a.py:1", "b.py:3"]) ∧
    ¬Limit.IsReadable endless.max ∧ Limit.cap endless.max = (10 ^ 309 : ℕ) ∧
      select endless tour = .error .numberTooLarge := by
  have hmax : Limit.IsReadable sparse.max := nofun
  have hperFile : Limit.IsReadable sparse.perFile := by
    rintro n ⟨⟩
    decide +kernel
  have hcap : Limit.cap sparse.max = 2 := by
    have hfloor : ⌊(5 / 2 : ℚ)⌋₊ = 2 := by norm_num [Nat.floor_eq_iff]
    have hamount : sparse.max.amount? = some (5 / 2) := by
      norm_num [sparse, Value.amount?, Binary64.toRat?]
    rw [Limit.cap_of_amount? hamount (by norm_num), hfloor, Nat.cast_ofNat]
  have hcapFile : Limit.cap sparse.perFile = 1 := Limit.cap_int 1
  have hlarge : ¬Limit.IsReadable endless.max := fun h =>
    absurd (h _ rfl) (by decide +kernel)
  have hchosen : (takeUpTo 2 (leading 1 tour)).map Prod.fst =
      (["a.py:1", "b.py:3"] : List Text) := by
    decide +kernel
  obtain ⟨selected, hselect, hselected, -⟩ :=
    (select_spec sparse tour).1 (.inr ⟨hmax, .inr hperFile⟩)
  rw [hcap, hcapFile, hchosen] at hselected
  refine ⟨⟨hmax, hcap, hperFile, hcapFile, hchosen, hselected ▸ hselect⟩, hlarge, Limit.cap_int _,
    (select_spec endless tour).2 ?_⟩
  rintro (h | ⟨h, -⟩)
  · cases h
  · exact hlarge h

end MessageCatalog.Reference
