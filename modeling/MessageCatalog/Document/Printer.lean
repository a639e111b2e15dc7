import MessageCatalog.Text.Escape
import MessageCatalog.Text.Wrap
import MessageCatalog.Catalog
import MessageCatalog.Failure
import MessageCatalog.Number.Decimal

/-!
# Writing catalog files

Every field is written between quotation marks after its name. A text of several lines, or one
that is too long for its line, begins with an empty line and goes on below. Comments are written
line by line as they are.
-/

namespace MessageCatalog.Document

open Text

/-! ### Fields -/

/-- The number of characters of a text that are escaped. -/
def escapedCount (t : Text) : Nat := (t.filter fun c => (escapeLetter? c).isSome).length

/-- The pieces in which a text is written, when its name takes `nameWidth` columns. A width that is
not positive means that no text is wrapped. -/
def pieces (width : Int) (nameWidth : Nat) (t : Text) : Except Failure (List Text) :=
  let all := linesWithEnds t
  if 1 < all.length then .ok ([] :: all)
  else
    let room : Int := width - nameWidth + escapedCount t
    if 0 < width ∧ room < t.length then
      if 0 < width - 2 then .ok ([] :: (wrap (width - 2).toNat (escape t)).map unescape)
      else .error (.badWidth (width - 2))
    else .ok [t]

/-- A text between quotation marks, with escapes. -/
def quotedPiece (t : Text) : Text := '"' :: escape t ++ ['"']

/-- The lines of a field. `label` is what the line begins with, `extra` the number of columns that
count besides the name and are not written, and `mark` stands before every line. -/
def fieldLines (width : Int) (mark label : Text) (extra : Nat) (t : Text) :
    Except Failure (List Text) := do
  match ← pieces width (label.length + extra + 3) t with
  | [] => return []
  | first :: rest =>
    return (mark ++ label ++ ' ' :: quotedPiece first) :: rest.map fun p => mark ++ quotedPiece p

/-- The lines of a field that may be absent. -/
def optionalLines (width : Int) (mark label : Text) (extra : Nat) :
    Option Text → Except Failure (List Text)
  | some t => fieldLines width mark label extra t
  | none => .ok []

/-- The lines of several translations, the first with the given index. -/
def indexedLines (width : Int) (mark : Text) (index : Nat) :
    List Text → Except Failure (List Text)
  | [] => .ok []
  | t :: rest => do
    let first ← fieldLines width mark ("msgstr[" ++ Decimal.ofNat index ++ "]") 0 t
    return first ++ (← indexedLines width mark (index + 1) rest)

/-! ### Entries -/

/-- The comment lines of an entry. An obsolete entry has only those of the translator. -/
def commentLines (e : Entry) : List Text :=
  let c := e.comments.getD {}
  let block (mark : Text) (t : Option Text) : List Text :=
    if isGiven t then (splitOn '\n' (t.getD [])).map fun line => mark ++ line else []
  let references : List Text :=
    if isGiven c.reference then
      ((splitOn '\n' (c.reference.getD [])).filter fun line => !line.isEmpty).map
        fun line => "#: " ++ line
    else []
  (if e.obsolete then [] else block "#. " c.extracted) ++ block "# " c.translator ++
    (if e.obsolete then [] else references)

def flagLines (flags : List Text) : List Text :=
  if flags.isEmpty then [] else ["#, " ++ join ", " flags]

def translationLines (width : Int) (mark : Text) (e : Entry) : Except Failure (List Text) :=
  let single := fieldLines width mark "msgstr" 0 (e.msgstr.head?.getD [])
  if isGiven e.msgidPlural then
    if e.msgstr.isEmpty then fieldLines width mark "msgstr" 0 [] else indexedLines width mark 0 e.msgstr
  else single

/-- The lines of an entry; the last one is empty. -/
def entryLines (width : Int) (e : Entry) : Except Failure (List Text) := do
  let previousMark : Text := if e.obsolete then "#~| " else "#| "
  let mark : Text := if e.obsolete then "#~ " else ""
  -- a previous text is wrapped as if the word `previous_` stood before its name
  let previousContext ← optionalLines width previousMark "msgctxt" 9 e.previousMsgctxt
  let previousId ← optionalLines width previousMark "msgid" 9 e.previousMsgid
  let context ← optionalLines width mark "msgctxt" 0 e.msgctxt
  let id ← fieldLines width mark "msgid" 0 e.msgid
  let plural ← if isGiven e.msgidPlural then
      optionalLines width mark "msgid_plural" 0 e.msgidPlural
    else .ok []
  let translations ← translationLines width mark e
  return commentLines e ++ flagLines e.flags ++ previousContext ++ previousId ++ context ++ id ++
    plural ++ translations ++ [[]]

/-! ### Headers -/

/-- The headers with a fixed place, in the order in which they are written. -/
def leadingHeaders : List Text :=
  ["Project-Id-Version", "Report-Msgid-Bugs-To", "POT-Creation-Date", "PO-Revision-Date",
    "Last-Translator", "Language-Team", "Language", "MIME-Version", "Content-Type",
    "Content-Transfer-Encoding", "Plural-Forms"]

/-- A part of a name for comparison: a number, or a text in small letters. -/
inductive NamePart where
  | number (n : Nat)
  | text (t : Text)
  deriving DecidableEq

def isAsciiDigit (c : Char) : Bool := 0x30 ≤ c.toNat && c.toNat ≤ 0x39

/-- Cut a name into texts and runs of ASCII digits by turns, a text first; `inDigits` tells which
kind the current part is. -/
def cutDigits (inDigits : Bool) : Text → List Text
  | [] => if inDigits then [[], []] else [[]]
  | c :: rest =>
    if isAsciiDigit c = inDigits then
      match cutDigits inDigits rest with
      | part :: parts => (c :: part) :: parts
      | [] => [[c]]
    else
      match cutDigits (!inDigits) rest with
      | part :: parts => [] :: (c :: part) :: parts
      | [] => [[], [c]]

/-- A part of a name: what consists of digits of any kind must be a number. -/
def partOf (t : Text) : Except Failure NamePart :=
  if !t.isEmpty && t.all isDigitLike then
    match Decimal.natOf? t with
    | some n => .ok (.number n)
    | none => .error (.badNumber t.quoted)
  else .ok (.text (lower t))

def nameParts (name : Text) : Except Failure (List NamePart) := (cutDigits false name).mapM partOf

/-- Order names part by part; a number and a text cannot be compared. -/
def compareParts : List NamePart → List NamePart → Option Ordering
  | [], [] => some .eq
  | [], _ :: _ => some .lt
  | _ :: _, [] => some .gt
  | a :: as, b :: bs =>
    if a = b then compareParts as bs
    else match a, b with
      | .number m, .number n => some (if m < n then .lt else .gt)
      | .text s, .text t => some (Text.compare s t)
      | _, _ => none

/-- The headers without a fixed place in the order of their names. -/
def sortHeaders (headers : List (Text × Text)) : Except Failure (List (Text × Text)) := do
  let keyed ← headers.mapM fun h => do return ((← nameParts h.1), h)
  let comparable := keyed.all fun a => keyed.all fun b => (compareParts a.1 b.1).isSome
  if comparable then
    return (keyed.mergeSort fun a b => compareParts a.1 b.1 != some .gt).map (·.2)
  else .error .wrongType

def orderedHeaders (headers : OrderedMap Text) : Except Failure (List (Text × Text)) := do
  let leading := leadingHeaders.filterMap fun name => (headers.get? name).map (name, ·)
  let others := headers.entries.filter fun h => !leadingHeaders.contains h.1
  return leading ++ (← sortHeaders others)

/-- The text of the entry that holds the headers. -/
def headerText (headers : List (Text × Text)) : Text :=
  headers.flatMap fun h => h.1 ++ ": " ++ h.2 ++ ['\n']

def headerEntry (c : Catalog) : Except Failure Entry := do
  return {
    msgid := []
    msgstr := [headerText (← orderedHeaders c.headers)]
    flags := if c.headerFuzzy then ["fuzzy"] else [] }

def topComment (t : Text) : Text :=
  (splitOn '\n' t).flatMap fun line => match line with
    | [] => "#\n"
    | c :: _ => (if c = ',' || c = ':' then ['#'] else ['#', ' ']) ++ line ++ ['\n']

/-! ### Files -/

/-- The entries of a catalog in the order in which they are written: the live ones with a message
id, context by context, then the obsolete ones. -/
def writtenEntries (c : Catalog) : List Entry :=
  let all := (c.translations.values.flatMap fun bucket =>
    bucket.values.filter fun e => !e.msgid.isEmpty) ++ c.obsolete
  (all.filter fun e => !e.obsolete) ++ all.filter fun e => e.obsolete

def print (width : Int) (c : Catalog) : Except Failure Text := do
  let header ← headerEntry c
  let blocks ← (header :: writtenEntries c).mapM fun e => do
    return join "\n" (← entryLines width e)
  return topComment c.headerComment ++ join "\n" blocks

end MessageCatalog.Document
