import Mathlib
import MessageCatalog.Reference.Layout
import MessageCatalog.Proofs.Failure
import MessageCatalog.Proofs.Number.Limit
import MessageCatalog.Proofs.Text.Lines

/-!
# Reference comments

A reference comment can be made of any references, as long as no limit is a whole number beyond
the range of double precision. No line of it is broken unless a reference is.
-/

namespace MessageCatalog

open Failure Text

/-- No limit is a whole number beyond the range of double precision. -/
def ReferenceOptions.Readable (o : ReferenceOptions) : Prop :=
  ∀ v ∈ [o.max, o.perFile, o.perLine, o.lineLength], ∀ n, v = .int n →
    n.natAbs < Binary64.overflowBound

namespace Reference

variable {o : ReferenceOptions}

lemma exists_selectFrom (hmax : Limit.IsReadable o.max) (hperFile : Limit.IsReadable o.perFile)
    (kept : Nat) (files refs : List Text) :
    ∃ selected, selectFrom o kept files refs = .ok selected := by
  induction refs generalizing kept files with
  | nil => exact ⟨[], rfl⟩
  | cons ref refs ih =>
    rw [selectFrom]
    simp only [Limit.countExceeds_of_isReadable hmax, Limit.countExceeds_of_isReadable hperFile,
      bind, Except.bind]
    cases decide (Limit.cap o.max < ((kept + 1 : ℕ) : ℕ∞)) with
    | true => exact ⟨[], rfl⟩
    | false =>
      cases decide (Limit.cap o.perFile < ((files.count (split ref).1 + 1 : ℕ) : ℕ∞)) with
      | true => exact ih kept _
      | false =>
        obtain ⟨selected, hselected⟩ := ih (kept + 1) ((split ref).1 :: files)
        exact ⟨ref :: selected, by simp [hselected, pure, Except.pure]⟩

/-- When it can be told whether a line has room for one more reference, and what is told. -/
lemma isFull_eq_ok_iff {line ref : Text} {count : ℕ} {b : Bool} :
    isFull o line count ref = .ok b ↔ Limit.IsReadable o.perLine ∧
      if Limit.cap o.perLine < ((count + 1 : ℕ) : ℕ∞) then b = true
      else if count = 0 then b = false
      else Limit.IsReadable o.lineLength ∧
        decide (Limit.cap o.lineLength < ((line.length + ref.length + 1 : ℕ) : ℕ∞)) = b := by
  -- The length is only looked at when the line has begun and another reference is allowed.
  rw [isFull, bind_eq_ok_iff]
  constructor
  · rintro ⟨many, hmany, h⟩
    obtain ⟨hperLine, rfl⟩ := Limit.countExceeds_eq_ok_iff.mp hmany
    refine ⟨hperLine, ?_⟩
    split at h
    · next hlt =>
      rw [if_pos (of_decide_eq_true hlt)]
      exact (pure_eq_ok_iff.mp h).symm
    · next hle =>
      rw [if_neg fun hlt => hle (decide_eq_true hlt)]
      split at h
      · next hcount =>
        rw [if_pos hcount]
        exact (pure_eq_ok_iff.mp h).symm
      · next hcount =>
        rw [if_neg hcount]
        exact Limit.countExceeds_eq_ok_iff.mp h
  · rintro ⟨hperLine, h⟩
    refine ⟨_, Limit.countExceeds_eq_ok_iff.mpr ⟨hperLine, rfl⟩, ?_⟩
    split at h
    · next hlt =>
      rw [if_pos (decide_eq_true hlt), h]
      rfl
    · next hle =>
      rw [if_neg fun hlt => hle (of_decide_eq_true hlt)]
      split at h
      · next hcount =>
        rw [if_pos hcount, h]
        rfl
      · next hcount =>
        rw [if_neg hcount]
        exact Limit.countExceeds_eq_ok_iff.mpr h

lemma exists_isFull (line : Text) (count : ℕ) (ref : Text)
    (hperLine : Limit.IsReadable o.perLine)
    (hlength : count = 0 ∨ Limit.cap o.perLine ≤ 1 ∨ Limit.IsReadable o.lineLength) :
    ∃ b, isFull o line count ref = .ok b := by
  simp only [isFull_eq_ok_iff]
  by_cases hmany : Limit.cap o.perLine < ((count + 1 : ℕ) : ℕ∞)
  · exact ⟨true, hperLine, by rw [if_pos hmany]⟩
  by_cases hcount : count = 0
  · exact ⟨false, hperLine, by rw [if_neg hmany, if_pos hcount]⟩
  have hreadable : Limit.IsReadable o.lineLength := by
    refine (hlength.resolve_left hcount).resolve_left fun hone => hmany (hone.trans_lt ?_)
    exact_mod_cast Nat.succ_lt_succ (Nat.pos_of_ne_zero hcount)
  exact ⟨_, hperLine, by rw [if_neg hmany, if_neg hcount]; exact ⟨hreadable, rfl⟩⟩

/-- Lines can be filled when the limits on them can be read, of which that on their length counts
only if a line can hold more than one reference. -/
lemma exists_layoutFrom (hperLine : Limit.IsReadable o.perLine)
    (hlength : Limit.cap o.perLine ≤ 1 ∨ Limit.IsReadable o.lineLength) (line : Text)
    (count : Nat) (refs : List Text) : ∃ ls, layoutFrom o line count refs = .ok ls := by
  induction refs generalizing line count with
  | nil => exact ⟨_, rfl⟩
  | cons ref refs ih =>
    obtain ⟨full, hfull⟩ := exists_isFull line count ref hperLine (.inr hlength)
    rw [layoutFrom, hfull]
    simp only [bind, Except.bind]
    split
    · obtain ⟨ls, hls⟩ := ih ref 1
      exact ⟨line :: ls, by rw [hls]; rfl⟩
    · exact ih _ _

/-- A reference comment can be made of any references. -/
theorem exists_comment (h : o.Readable) (refs : List Text) : ∃ t, comment o refs = .ok t := by
  obtain ⟨selected, hselected⟩ :=
    exists_selectFrom (h o.max (by simp)) (h o.perFile (by simp)) 0 [] refs
  obtain ⟨ls, hls⟩ :=
    exists_layoutFrom (h o.perLine (by simp)) (.inr (h o.lineLength (by simp))) [] 0 selected
  have hselect : select o refs = .ok selected := hselected
  have hlayout : layout o selected = .ok ls := hls
  refine ⟨Text.join "\n" ls, ?_⟩
  rw [comment, hselect]
  simp only [bind, Except.bind, hlayout]
  rfl

/-! ### Lines -/

lemma selectFrom_sublist {kept : Nat} {files refs selected : List Text}
    (h : selectFrom o kept files refs = .ok selected) : selected.Sublist refs := by
  induction refs generalizing kept files selected with
  | nil =>
    cases h
    exact List.Sublist.refl _
  | cons ref refs ih =>
    obtain ⟨full, -, h⟩ := bind_eq_ok_iff.mp h
    cases full with
    | true =>
      obtain rfl := pure_eq_ok_iff.mp h
      exact List.nil_sublist _
    | false =>
      obtain ⟨often, -, h⟩ := bind_eq_ok_iff.mp h
      cases often with
      | true => exact (ih h).cons ref
      | false =>
        obtain ⟨rest, hrest, h⟩ := bind_eq_ok_iff.mp h
        obtain rfl := pure_eq_ok_iff.mp h
        exact (ih hrest).cons_cons ref

lemma oneLine_of_layoutFrom {line : Text} {count : Nat} {refs ls : List Text}
    (h : layoutFrom o line count refs = .ok ls) (hline : OneLine line)
    (hrefs : ∀ ref ∈ refs, OneLine ref) : ∀ l ∈ ls, OneLine l := by
  induction refs generalizing line count ls with
  | nil =>
    obtain rfl := Except.ok.inj h
    split
    · simp
    · simpa using hline
  | cons ref refs ih =>
    have href := hrefs ref List.mem_cons_self
    have hrest := fun r hr => hrefs r (List.mem_cons_of_mem ref hr)
    obtain ⟨full, -, h⟩ := bind_eq_ok_iff.mp h
    split at h
    · obtain ⟨rest, hlayout, h⟩ := bind_eq_ok_iff.mp h
      obtain rfl := pure_eq_ok_iff.mp h
      exact List.forall_mem_cons.mpr ⟨hline, ih hlayout href hrest⟩
    · have hspace : OneLine [' '] := by
        simp [OneLine]
        decide
      refine ih h (hline.append ?_) hrest
      split
      · exact hspace.append href
      · exact href

/-- The lines of a reference comment hold no other line boundary, if no reference does. -/
theorem oneLine_of_comment {refs : List Text} {t : Text} (h : comment o refs = .ok t)
    (hrefs : ∀ ref ∈ refs, OneLine ref) : ∀ l ∈ splitOn '\n' t, OneLine l := by
  obtain ⟨selected, hselect, h⟩ := bind_eq_ok_iff.mp h
  obtain ⟨ls, hlayout, h⟩ := bind_eq_ok_iff.mp h
  obtain rfl := pure_eq_ok_iff.mp h
  have hls : ∀ l ∈ ls, OneLine l := oneLine_of_layoutFrom hlayout (by simp [OneLine])
    fun ref href => hrefs ref ((selectFrom_sublist hselect).subset href)
  intro l hl
  by_cases hnil : ls = []
  · obtain rfl : l = [] := by simpa [hnil, splitOn] using hl
    simp [OneLine]
  · rw [show ("\n" : Text) = ['\n'] from rfl, splitOn_join '\n' hnil] at hl
    obtain ⟨m, hm, hl⟩ := List.mem_flatMap.mp hl
    exact (hls m hm).sublist (of_mem_splitOn hl).2

end Reference

end MessageCatalog
