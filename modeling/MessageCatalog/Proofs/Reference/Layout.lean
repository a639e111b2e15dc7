import Mathlib
import MessageCatalog.Proofs.Reference

/-!
# Words of reference comments

Where the lines of a reference comment are broken depends on the limits on lines, but no reference
is ever cut or glued to another one: the comment holds the words of the references that are
selected, in their order, and the selection does not look at lines.
-/

namespace MessageCatalog

open Failure Text

/-- The options with other limits on lines. -/
def ReferenceOptions.withLines (o : ReferenceOptions) (perLine lineLength : Value) :
    ReferenceOptions :=
  { o with perLine, lineLength }

namespace Reference

variable {o : ReferenceOptions} {refs : List Text}

/-- The lines hold the words of the line that is begun and of the references after it. A line
without references is empty, so nothing stands before the first one. -/
lemma words_of_layoutFrom {line : Text} {count : Nat} {ls : List Text}
    (h : layoutFrom o line count refs = .ok ls) (hline : count = 0 → line = []) :
    ls.flatMap words = words line ++ refs.flatMap words := by
  induction refs generalizing line count ls with
  | nil =>
    obtain rfl := Except.ok.inj h
    cases line <;> simp
  | cons ref refs ih =>
    obtain ⟨full, -, h⟩ := bind_eq_ok_iff.mp h
    split at h
    · -- The line ends here, and the reference begins the next one.
      obtain ⟨rest, hrest, h⟩ := bind_eq_ok_iff.mp h
      obtain rfl := pure_eq_ok_iff.mp h
      rw [List.flatMap_cons, List.flatMap_cons, ih hrest (by simp)]
    · rw [ih h (by simp), List.flatMap_cons, ← List.append_assoc]
      congr 1
      by_cases hcount : count = 0
      · simp [hcount, hline hcount]
      · have hspace : isBlank ' ' = true := by decide
        rw [if_pos (Nat.pos_of_ne_zero hcount), words_append_blank _ _ hspace]

/-- A reference comment holds the words of the selected references. -/
lemma words_of_comment {t : Text} (h : comment o refs = .ok t) :
    ∃ selected, select o refs = .ok selected ∧ words t = selected.flatMap words := by
  obtain ⟨selected, hselect, h⟩ := bind_eq_ok_iff.mp h
  obtain ⟨ls, hlayout, h⟩ := bind_eq_ok_iff.mp h
  obtain rfl := pure_eq_ok_iff.mp h
  have hend : isBlank '\n' = true := by decide
  have hwords := words_of_layoutFrom hlayout (fun _ => rfl)
  exact ⟨selected, hselect, (words_join_blank hend ls).trans hwords⟩

lemma selectFrom_withLines (perLine lineLength : Value) (kept : Nat) (files : List Text) :
    selectFrom (o.withLines perLine lineLength) kept files refs = selectFrom o kept files refs := by
  induction refs generalizing kept files with
  | nil => rfl
  | cons ref refs ih =>
    simp only [selectFrom, ih]
    rfl

/-- With other limits on lines a reference comment has the same words. -/
theorem words_of_comment_withLines {perLine lineLength : Value} {t t' : Text}
    (h : comment o refs = .ok t) (h' : comment (o.withLines perLine lineLength) refs = .ok t') :
    words t' = words t := by
  obtain ⟨selected, hselect, hwords⟩ := words_of_comment h
  obtain ⟨selected', hselect', hwords'⟩ := words_of_comment h'
  rw [select, selectFrom_withLines] at hselect'
  obtain rfl := Except.ok.inj (hselect.symm.trans hselect')
  rw [hwords, hwords']

end Reference

end MessageCatalog
