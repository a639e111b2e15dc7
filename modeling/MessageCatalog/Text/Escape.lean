import MessageCatalog.Text.Basic

/-!
# Escapes

The texts of a catalog file stand between quotation marks. A backslash, a quotation mark and the
control characters that have a letter of their own are written as a backslash and one character.
Reading takes every such pair back and leaves other backslashes alone, so that it undoes writing.
-/

namespace MessageCatalog.Text

/-- The character that stands behind the backslash for an escaped character. -/
def escapeLetter? (c : Char) : Option Char :=
  match c with
  | '\\' => some '\\'
  | '"' => some '"'
  | '\t' => some 't'
  | '\r' => some 'r'
  | '\n' => some 'n'
  | '\x0b' => some 'v'
  | '\x08' => some 'b'
  | '\x0c' => some 'f'
  | _ => none

/-- The character that a letter behind a backslash stands for. -/
def escapedChar? (letter : Char) : Option Char :=
  match letter with
  | '\\' => some '\\'
  | '"' => some '"'
  | 't' => some '\t'
  | 'r' => some '\r'
  | 'n' => some '\n'
  | 'v' => some '\x0b'
  | 'b' => some '\x08'
  | 'f' => some '\x0c'
  | _ => none

def escape : Text → Text
  | [] => []
  | c :: rest => match escapeLetter? c with
    | some letter => '\\' :: letter :: escape rest
    | none => c :: escape rest

def unescape : Text → Text
  | [] => []
  | '\\' :: letter :: rest => match escapedChar? letter with
    | some c => c :: unescape rest
    | none => '\\' :: unescape (letter :: rest)
  | c :: rest => c :: unescape rest

theorem escapedChar?_of_escapeLetter? {c letter : Char} (h : escapeLetter? c = some letter) :
    escapedChar? letter = some c := by
  unfold escapeLetter? at h
  split at h <;> simp_all [escapedChar?] <;> (subst h; rfl)

theorem ne_backslash_of_escapeLetter?_eq_none {c : Char} (h : escapeLetter? c = none) :
    c ≠ '\\' := by
  rintro rfl
  simp [escapeLetter?] at h

/-- Reading undoes writing. -/
theorem unescape_escape (t : Text) : unescape (escape t) = t := by
  induction t with
  | nil => rfl
  | cons c rest ih =>
    cases h : escapeLetter? c with
    | some letter =>
      simp [escape, h, unescape, escapedChar?_of_escapeLetter? h, ih]
    | none =>
      have hc := ne_backslash_of_escapeLetter?_eq_none h
      rw [escape, h]
      simp only
      rw [unescape, ih]
      intro _ _ hcons _
      exact hc hcons

/-- Whether a quotation mark stands without a backslash right before it; `before` is the character
before the text. -/
def hasBareMark (before : Option Char) : Text → Bool
  | [] => false
  | c :: rest => (c = '"' && before ≠ some '\\') || hasBareMark (some c) rest

/-- The text between the first and the last character. -/
def inner (t : Text) : Text := (t.drop 1).dropLast

end MessageCatalog.Text
