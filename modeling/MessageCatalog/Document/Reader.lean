import MessageCatalog.Document.Line
import MessageCatalog.OrderedMap

/-!
# Reading catalog files

The reader goes through the lines with a small state: the kind of the last line, the record that
is being built and the records that are complete. A line that may not follow the last one is a
failure at its line number. The record without message id holds the headers; it is taken out of
the records at the end.
-/

namespace MessageCatalog

open Text

namespace Document

/-- One record of a catalog file, as it is written there. -/
structure Record where
  msgid : Text := []
  msgstr : Text := []
  msgstrPlural : List (Nat × Text) := []
  msgctxt : Option Text := none
  msgidPlural : Text := []
  occurrences : List Occurrence := []
  translatorComment : Text := []
  extractedComment : Text := []
  flags : List Text := []
  previousMsgctxt : Option Text := none
  previousMsgid : Option Text := none
  previousMsgidPlural : Option Text := none
  obsolete : Bool := false
  deriving DecidableEq, Inhabited

namespace Record

/-- Put a text at an index, in its place if the index is there. -/
def setPlural (index : Nat) (value : Text) : List (Nat × Text) → List (Nat × Text)
  | [] => [(index, value)]
  | (i, v) :: rest =>
    if i = index then (index, value) :: rest else (i, v) :: setPlural index value rest

def setField (r : Record) (name : Field) (value : Text) : Record :=
  match name with
  | .context => { r with msgctxt := some value }
  | .id => { r with msgid := value }
  | .idPlural => { r with msgidPlural := value }
  | .str => { r with msgstr := value }
  | .previousContext => { r with previousMsgctxt := some value }
  | .previousId => { r with previousMsgid := some value }
  | .previousIdPlural => { r with previousMsgidPlural := some value }

/-- Add more text to a field. -/
def extendField (r : Record) (name : Field) (value : Text) : Record :=
  match name with
  | .context => { r with msgctxt := some (r.msgctxt.getD [] ++ value) }
  | .id => { r with msgid := r.msgid ++ value }
  | .idPlural => { r with msgidPlural := r.msgidPlural ++ value }
  | .str => { r with msgstr := r.msgstr ++ value }
  | .previousContext => { r with previousMsgctxt := some (r.previousMsgctxt.getD [] ++ value) }
  | .previousId => { r with previousMsgid := some (r.previousMsgid.getD [] ++ value) }
  | .previousIdPlural =>
    { r with previousMsgidPlural := some (r.previousMsgidPlural.getD [] ++ value) }

def addLine (comment line : Text) : Text :=
  if comment.isEmpty then line else comment ++ '\n' :: line

/-- Order places of use by file and line. -/
def occurrenceAtMost (a b : Occurrence) : Bool :=
  (Text.compare a.file b.file).then (Text.compare a.line b.line) != .gt

/-- A context for comparison: an empty one is like none. -/
def contextKey (context : Option Text) : Text :=
  match context with
  | some (c :: rest) => c :: rest
  | _ => "0"

/-- Whether two records are equal as entries; comments and flags do not count. -/
def sameEntry (a b : Record) : Bool :=
  a.obsolete == b.obsolete &&
    a.occurrences.mergeSort occurrenceAtMost == b.occurrences.mergeSort occurrenceAtMost &&
    contextKey a.msgctxt == contextKey b.msgctxt &&
    contextKey (some a.msgidPlural) == contextKey (some b.msgidPlural) &&
    a.msgstrPlural.map Prod.snd == b.msgstrPlural.map Prod.snd &&
    a.msgid == b.msgid && a.msgstr == b.msgstr

end Record

/-! ### One line after another -/

/-- The kind of the last line. -/
inductive Position where
  | start
  | header
  | comment
  | extracted
  | occurrences
  | flags
  | field (name : Field)
  | indexed
  deriving DecidableEq, Repr

/-- The state between two lines. -/
structure State where
  position : Position := .start
  current : Record := {}
  /-- The complete records, latest first. -/
  done : List Record := []
  header : Text := []
  /-- The index of the latest of several translations. -/
  index : Nat := 0

namespace State

/-- Whether the record that is being built has its translation. -/
def isComplete (s : State) : Bool :=
  match s.position with
  | .field .str | .indexed => true
  | _ => false

/-- Begin a new record if the last one is complete. -/
def turnOver (s : State) : State :=
  if s.isComplete then { s with done := s.current :: s.done, current := {} } else s

/-- Whether a field may begin after the given position. -/
def allows (position : Position) : Field → Bool
  | .context => match position with
    | .field .context | .field .id | .field .idPlural => false
    | _ => true
  | .id => match position with
    | .field .id | .field .idPlural => false
    | _ => true
  | .idPlural => match position with
    | .comment | .extracted | .field .previousContext | .field .previousId
    | .field .previousIdPlural | .field .id => true
    | _ => false
  | .str => match position with
    | .field .id | .field .idPlural | .comment => true
    | _ => false
  | .previousContext | .previousId | .previousIdPlural => true

/-- Whether a field belongs to a record that may have to be begun. -/
def opensRecord : Field → Bool
  | .idPlural | .str => false
  | _ => true

/-- Take in one line; no answer means that it may not stand here. -/
def step (s : State) (obsolete : Bool) : LineContent → Option State
  | .comment line => match s.position with
    | .start | .header =>
      some { s with position := .header, header := Record.addLine s.header (line.drop 2) }
    | .field .context => none
    | _ =>
      let s := s.turnOver
      let bare := line.dropWhile (· = '#')
      let text := match bare with
        | ' ' :: rest => rest
        | other => other
      let comment := Record.addLine s.current.translatorComment text
      some { s with position := .comment, current := { s.current with translatorComment := comment } }
  | .extracted line =>
    let s := s.turnOver
    let comment := Record.addLine s.current.extractedComment line
    some { s with position := .extracted, current := { s.current with extractedComment := comment } }
  | .occurrences places =>
    let s := s.turnOver
    let all := s.current.occurrences ++ places
    some { s with position := .occurrences, current := { s.current with occurrences := all } }
  | .flags names =>
    let s := s.turnOver
    let all := s.current.flags ++ names
    some { s with position := .flags, current := { s.current with flags := all } }
  | .field name value =>
    if allows s.position name then
      let s := if opensRecord name then s.turnOver else s
      let record := s.current.setField name value
      let record := if name = .id then { record with obsolete } else record
      some { s with position := .field name, current := record }
    else none
  | .indexed index value => match s.position with
    | .field .id | .indexed | .field .idPlural | .comment =>
      let all := Record.setPlural index value s.current.msgstrPlural
      some { s with position := .indexed, index, current := { s.current with msgstrPlural := all } }
    | _ => none
  | .continuation value => match s.position with
    | .field name => some { s with current := s.current.extendField name value }
    | .indexed =>
      let old := (s.current.msgstrPlural.lookup s.index).getD []
      let all := Record.setPlural s.index (old ++ value) s.current.msgstrPlural
      some { s with current := { s.current with msgstrPlural := all } }
    | _ => none

end State

/-- Go through the lines, the first of which has the given number. The answer tells the state at
the end, and the first word of the last line that is not blank. -/
def readLines (s : State) (lastWord : Option Text) (number : Nat) :
    List Text → Except Failure (State × Option Text)
  | [] => .ok (s, lastWord)
  | text :: rest =>
    match Line.ofText? (trim text) with
    | none => readLines s lastWord (number + 1) rest
    | some line => match line.content with
      | .error fault => .error (.catalogSyntax number fault)
      | .ok none => readLines s (some line.firstWord) (number + 1) rest
      | .ok (some content) => match s.step line.obsolete content with
        | some s => readLines s (some line.firstWord) (number + 1) rest
        | none => .error (.catalogSyntax number .misplaced)

/-! ### Headers -/

/-- The record that holds the headers: a live one without message id. Of several the last one
without context counts, or else the first. -/
def headerRecord? (records : List Record) : Option Record :=
  match records.filter fun r => !r.obsolete && r.msgid.isEmpty with
  | [] => none
  | [r] => some r
  | r :: rest =>
    match ((r :: rest).filter fun r => (r.msgctxt.getD []).isEmpty).getLast? with
    | some last => some last
    | none => some r

/-- Take in one line of the headers; `latest` is the name of the header before. A line without
colon goes on with the header before. -/
def addHeader (headers : OrderedMap Text) (latest : Option Text) (line : Text) :
    OrderedMap Text × Option Text :=
  match cutFirst ':' line with
  | some (name, value) => (headers.insert name (trim value), some name)
  | none => match latest with
    | some name =>
      (headers.insert name ((headers.get? name).getD [] ++ '\n' :: trim line), some name)
    | none => (headers, none)

def headersOf (t : Text) : OrderedMap Text :=
  ((lines t).foldl (fun (headers, latest) line => addHeader headers latest line)
    (OrderedMap.empty, none)).1

end Document

/-! ### The whole file -/

/-- A catalog file: the comment at its top, the headers and the other records. -/
structure Document where
  header : Text
  headers : OrderedMap Text
  headersFlagged : Bool
  records : List Document.Record
  deriving Inhabited

namespace Document

/-- Lines without the mark that may stand at the start of a file. -/
def withoutMark : List Text → List Text
  | ('\ufeff' :: tail) :: rest => tail :: rest
  | ls => ls

/-- The lines of a text that is there as a whole. -/
def fileLines (t : Text) : List Text := withoutMark (lines t)

/-- The lines of a file that is opened and read line by line: only line feeds and carriage returns
end them. -/
def openedLines (t : Text) : List Text := withoutMark (splitOn '\n' (unifyLineEnds t))

/-- All records of a file: the last one counts unless the file ends with a comment. -/
def recordsOf (s : State) (lastWord : Option Text) : List Record :=
  match lastWord with
  | some word => if startsWith word ['#'] then s.done.reverse else (s.current :: s.done).reverse
  | none => s.done.reverse

def ofLines (ls : List Text) : Except Failure Document := do
  let (s, lastWord) ← readLines {} none 1 ls
  let records := recordsOf s lastWord
  match headerRecord? records with
  | none => return { header := s.header, headers := .empty, headersFlagged := false, records }
  | some r =>
    return {
      header := s.header
      headers := headersOf r.msgstr
      headersFlagged := !r.flags.isEmpty
      records := records.eraseP fun other => other.sameEntry r }

def ofText (t : Text) : Except Failure Document := ofLines (fileLines t)

end Document

end MessageCatalog
