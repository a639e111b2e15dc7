import MessageCatalog.Text.Class

/-!
# Texts

A text is the list of its characters. This module holds the operations on texts that the rest of
the library is built from: trimming, words, lines, splitting and joining, order and small letters.
Everything is structural recursion, and the small laws stand beside the definitions.
-/

namespace MessageCatalog

/-- A text: a list of characters. -/
abbrev Text := List Char

instance : Coe String Text := ⟨String.toList⟩

namespace Text

/-! ### Trimming -/

/-- Drop the white space at the start. -/
def trimLeft (t : Text) : Text := t.dropWhile isBlank

/-- Drop the white space at the end. -/
def trimRight (t : Text) : Text := (t.reverse.dropWhile isBlank).reverse

/-- Drop the white space at both ends. -/
def trim (t : Text) : Text := t.trimLeft.trimRight

/-! ### Words -/

/-- The words of a text: its longest pieces without white space. -/
def words : Text → List Text
  | [] => []
  | c :: rest =>
    if isBlank c then words rest
    else match rest with
      | [] => [[c]]
      | d :: _ =>
        if isBlank d then [c] :: words rest
        else match words rest with
          | [] => [[c]]
          | w :: ws => (c :: w) :: ws

/-- The first `n` words, and then what is left, its leading white space dropped. -/
def leadingWords : Nat → Text → List Text
  | 0, t => match t.trimLeft with
    | [] => []
    | rest => [rest]
  | n + 1, t => match t.trimLeft with
    | [] => []
    | rest =>
      rest.takeWhile (fun c => !isBlank c) :: leadingWords n (rest.dropWhile fun c => !isBlank c)

/-! ### Lines -/

/-- The lines of a text, each with the boundary that ends it; a carriage return and a line feed
together are one boundary. -/
def linesWithEnds : Text → List Text
  | [] => []
  | '\r' :: '\n' :: rest => ['\r', '\n'] :: linesWithEnds rest
  | c :: rest =>
    if endsLine c then [c] :: linesWithEnds rest
    else match linesWithEnds rest with
      | [] => [[c]]
      | line :: lines => (c :: line) :: lines

/-- The lines of a text without their boundaries. -/
def lines (t : Text) : List Text :=
  t.linesWithEnds.map fun line => line.takeWhile fun c => !endsLine c

/-- The text with a line feed for every carriage return and for every carriage return with a line
feed. -/
def unifyLineEnds : Text → Text
  | [] => []
  | '\r' :: '\n' :: rest => '\n' :: unifyLineEnds rest
  | c :: rest => (if c = '\r' then '\n' else c) :: unifyLineEnds rest

/-- Nothing is lost by cutting a text into lines. -/
@[simp] theorem flatten_linesWithEnds (t : Text) : t.linesWithEnds.flatten = t := by
  fun_induction linesWithEnds t with
  | case1 => rfl
  | case2 rest ih => simp [ih]
  | case3 c rest _ hc ih => simp [ih]
  | case4 c rest _ hc hr ih => simpa [hr] using ih
  | case5 c rest _ hc line lines hr ih => simpa [hr] using ih

/-! ### Splitting and joining -/

/-- Cut a text at every occurrence of a character. There is always at least one piece. -/
def splitOn (sep : Char) : Text → List Text
  | [] => [[]]
  | c :: rest =>
    if c = sep then [] :: splitOn sep rest
    else match splitOn sep rest with
      | [] => [[c]]
      | piece :: pieces => (c :: piece) :: pieces

/-- Put a separator between the pieces. -/
def join (sep : Text) (pieces : List Text) : Text := sep.intercalate pieces

def cutFirst (sep : Char) : Text → Option (Text × Text)
  | [] => none
  | c :: rest =>
    if c = sep then some ([], rest)
    else (cutFirst sep rest).map fun (before, after) => (c :: before, after)

def cutLast (sep : Char) : Text → Option (Text × Text)
  | [] => none
  | c :: rest => match cutLast sep rest with
    | some (before, after) => some (c :: before, after)
    | none => if c = sep then some ([], rest) else none

theorem splitOn_ne_nil (sep : Char) (t : Text) : splitOn sep t ≠ [] := by
  fun_cases splitOn sep t <;> simp

/-- A text cut at a character and joined by it is the same text. -/
theorem join_splitOn (sep : Char) (t : Text) : join [sep] (splitOn sep t) = t := by
  induction t with
  | nil => simp [splitOn, join, List.intercalate]
  | cons c rest ih =>
    have hne := splitOn_ne_nil sep rest
    unfold splitOn
    split
    · rename_i hc
      cases hs : splitOn sep rest with
      | nil => exact absurd hs hne
      | cons piece pieces => simpa [hs, join, List.intercalate, hc] using ih
    · cases hs : splitOn sep rest with
      | nil => exact absurd hs hne
      | cons piece pieces =>
        cases pieces <;> simpa [hs, join, List.intercalate] using ih

/-! ### Searching -/

/-- Whether a text begins with another. -/
def startsWith (t start : Text) : Bool := start.isPrefixOf t

/-- Whether a text occurs in another. -/
def contains (part : Text) : Text → Bool
  | [] => part.isEmpty
  | c :: rest => part.isPrefixOf (c :: rest) || contains part rest

/-! ### Order -/

/-- Texts are ordered like dictionaries, by the code points of their characters. -/
def compare : Text → Text → Ordering
  | [], [] => .eq
  | [], _ :: _ => .lt
  | _ :: _, [] => .gt
  | a :: as, b :: bs =>
    if a.toNat < b.toNat then .lt else if b.toNat < a.toNat then .gt else compare as bs

/-- At most, in the order of `Text.compare`. -/
def atMost (a b : Text) : Bool := compare a b != .gt

/-- The texts in rising order. -/
def sort (ts : List Text) : List Text := ts.mergeSort atMost

/-! ### Small letters -/

/-- The small form of a letter that has one of a single character, or the character itself. -/
def lowerChar (c : Char) : Char :=
  match ClassTable.lowerRuns.find? fun r =>
      r.first ≤ c.toNat && c.toNat ≤ r.last && (c.toNat - r.first) % r.stride == 0 with
  | some r => Char.ofNat ((c.toNat : Int) + r.distance).toNat
  | none => c

/-- Whether the nearest character that is not passed over is a letter with case. -/
def meetsCased (t : Text) : Bool :=
  match t.dropWhile fun c => inRuns c.toNat ClassTable.caseIgnorableRuns with
  | [] => false
  | c :: _ => inRuns c.toNat ClassTable.casedRuns

/-- Small letters; `before` holds the characters already passed, the latest first. A capital sigma
at the end of a word has a small form of its own. -/
def lowerFrom (before : Text) : Text → Text
  | [] => []
  | c :: rest =>
    let small : Text :=
      if c.toNat = 0x130 then ['i', Char.ofNat 0x307]
      else if c.toNat = 0x3a3 then
        [Char.ofNat (if meetsCased before && !meetsCased rest then 0x3c2 else 0x3c3)]
      else [lowerChar c]
    small ++ lowerFrom (c :: before) rest

/-- The text in small letters. -/
def lower (t : Text) : Text := lowerFrom [] t

end Text

end MessageCatalog
