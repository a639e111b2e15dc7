import MessageCatalog.Text.Escape
import MessageCatalog.Failure

/-!
# Lines of a catalog file

A catalog file is read line by line. This module tells, from a line alone, what kind of line it is
and what it carries; where a line may stand is decided by `MessageCatalog.Document.Reader`.
-/

namespace MessageCatalog.Document

open Text

/-- A place where a message is used: a file, and the digits of a line number or nothing. -/
structure Occurrence where
  file : Text
  line : Text
  deriving DecidableEq, Inhabited

/-- The fields that a quoted text can belong to. -/
inductive Field where
  | context
  | id
  | idPlural
  | str
  | previousContext
  | previousId
  | previousIdPlural
  deriving DecidableEq, Repr

/-- What a line carries. -/
inductive LineContent where
  /-- A comment of the translator, as it is written. -/
  | comment (line : Text)
  /-- A comment taken from the source. -/
  | extracted (comment : Text)
  | occurrences (places : List Occurrence)
  | flags (names : List Text)
  /-- The start of a field, its text unescaped. -/
  | field (name : Field) (value : Text)
  /-- The start of one of several translations. -/
  | indexed (index : Nat) (value : Text)
  /-- More text for the field before. -/
  | continuation (value : Text)
  deriving DecidableEq

/-- A line that is not blank. -/
structure Line where
  /-- The first word, after the mark of an obsolete entry. -/
  firstWord : Text
  /-- Whether the line has the mark of an obsolete entry. -/
  obsolete : Bool
  /-- The content, if the line is not passed over, or what is wrong with it. -/
  content : Except LineFault (Option LineContent)

namespace Line

/-- The field that a keyword begins. -/
def fieldOf? (word : Text) : Option Field :=
  if word = ("msgctxt" : Text) then some .context
  else if word = ("msgid" : Text) then some .id
  else if word = ("msgstr" : Text) then some .str
  else if word = ("msgid_plural" : Text) then some .idPlural
  else none

/-- The field that a keyword begins in a line about the previous text. -/
def previousFieldOf? (word : Text) : Option Field :=
  if word = ("msgctxt" : Text) then some .previousContext
  else if word = ("msgid" : Text) then some .previousId
  else if word = ("msgid_plural" : Text) then some .previousIdPlural
  else none

/-- The text between the marks of a quoted text. -/
def unquoted (t : Text) : Text := unescape (inner t)

/-- A place of use as one word: the line number stands behind the last colon. -/
def occurrenceOf (word : Text) : Occurrence :=
  match cutLast ':' word with
  | some (file, line) =>
    if !line.isEmpty && line.all isDigitLike then ⟨file, line⟩ else ⟨word, []⟩
  | none => ⟨word, []⟩

def flagsOf (t : Text) : List Text := (splitOn ',' t).map trim

/-- One of several translations: the index is the single character behind the bracket. -/
def indexedOf (line : Text) : Except LineFault LineContent :=
  match (line.drop 7).head?.bind digitValue? with
  | some index =>
    let value := match cutFirst '"' line with
      | some (_, after) => after.dropLast
      | none => line.dropLast
    .ok (.indexed index (unescape value))
  | none => .error .misplaced

/-- The content of a line about the previous text; `words` are its words behind the mark. -/
def previousOf (line : Text) (words : List Text) : Except LineFault (Option LineContent) :=
  let body := trimLeft (line.drop 2)
  match words with
  | [] => .error .misplaced
  | word :: more =>
    if startsWith word ['"'] then .ok (some (.continuation (unquoted body)))
    else if more.isEmpty then .error .badContinuation
    else match previousFieldOf? word with
      | some name => .ok (some (.field name (unquoted (trimLeft (body.drop word.length)))))
      | none => .error (.unknownField word)

def keywordOf (name : Field) (value : Text) : Except LineFault (Option LineContent) :=
  if hasBareMark none (inner value) then .error .unescapedMark
  else .ok (some (.field name (unquoted value)))

/-- The content of a line given with its words, of which there is at least one; of more than three
words the last ones are taken together. -/
def contentOf (line : Text) (first : Text) (more : List Text) :
    Except LineFault (Option LineContent) :=
  match (if more.isEmpty then none else fieldOf? first) with
  | some name => keywordOf name (trimLeft (line.drop first.length))
  | none =>
    if first = ("#:" : Text) then
      .ok (if more.isEmpty then none
        else some (.occurrences ((words (line.drop 3)).map occurrenceOf)))
    else if startsWith line ['"'] then
      if hasBareMark none (inner line) then .error .unescapedMark
      else .ok (some (.continuation (unquoted line)))
    else if startsWith line "msgstr[" then (indexedOf line).map some
    else if first = ("#," : Text) then
      .ok (if more.isEmpty then none else some (.flags (flagsOf (line.drop 3))))
    else if first = ("#" : Text) || startsWith first "##" then .ok (some (.comment line))
    else if first = ("#." : Text) then
      .ok (if more.isEmpty then none else some (.extracted (line.drop 3)))
    else if first = ("#|" : Text) then previousOf line more
    else .error .misplaced

/-- Read a line whose ends are trimmed; a blank line is none. -/
def ofText? (line : Text) : Option Line :=
  match leadingWords 2 line with
  | [] => none
  | first :: more =>
    if first = ("#~|" : Text) then some ⟨first, false, .ok none⟩
    else match (if first = ("#~" : Text) then more else []) with
      | second :: rest =>
        some ⟨second, true, contentOf (trim (line.drop 3)) second rest⟩
      | [] => some ⟨first, false, contentOf line first more⟩

end Line

end MessageCatalog.Document
