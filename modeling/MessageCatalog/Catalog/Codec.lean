import MessageCatalog.Document.Reader
import MessageCatalog.Document.Printer
import MessageCatalog.Text.Charset

/-!
# Catalogs as files

The passage between a catalog and the bytes of its file. Reading groups the records of the file by
context and keeps the headers both as headers and as the text of an entry with an empty message
id. Writing puts everything back in a fixed layout.
-/

namespace MessageCatalog.Catalog

open Text

/-! ### From records to entries -/

/-- The text of a place of use. -/
def occurrenceText (o : Document.Occurrence) : Text :=
  if o.line.isEmpty then o.file else o.file ++ ':' :: o.line

/-- A text, if it is not empty. -/
def nonempty (t : Text) : Option Text := if t.isEmpty then none else some t

/-- The translations of a record: those with an index in rising order if it has a plural. -/
def translationsOf (r : Document.Record) : List Text :=
  if r.msgidPlural.isEmpty then [r.msgstr]
  else match (r.msgstrPlural.mergeSort fun a b => decide (a.1 ≤ b.1)).map (·.2) with
    | [] => [[]]
    | all => all

def entryOf (r : Document.Record) : Entry :=
  let comments : EntryComments :=
    { translator := nonempty r.translatorComment
      extracted := nonempty r.extractedComment
      reference := nonempty (join " " (r.occurrences.map occurrenceText)) }
  { msgid := r.msgid
    msgstr := translationsOf r
    msgctxt := r.msgctxt
    msgidPlural := nonempty r.msgidPlural
    comments := if comments.isGiven then some comments else none
    flags := r.flags
    previousMsgid := r.previousMsgid
    previousMsgctxt := r.previousMsgctxt
    obsolete := r.obsolete }

/-! ### Charset of the headers -/

/-- The charset that a content type names. -/
def charsetIn? (value : Text) : Option Text :=
  (splitOn ';' value).findSome? fun part =>
    match cutFirst '=' (trim part) with
    | some (name, charset) =>
      if lower (trim name) = ("charset" : Text) then nonempty (trim charset) else none
    | none => none

/-- Whether a charset is the placeholder of a template, in letters of any case; the long s is a
small form of the same letter. -/
def isPlaceholder (charset : Text) : Bool :=
  decide ((charset.map fun c => if c = 'ſ' then 'S' else c.toUpper) = ("CHARSET" : Text))

/-- The charset that the headers name, or the default. -/
def charsetOf (headers : OrderedMap Text) (default : Text) : Text :=
  match headers.entries.findSome? fun h =>
      if lower h.1 = ("content-type" : Text) then charsetIn? h.2 else none with
  | some charset => if isPlaceholder charset then default else charset
  | none => default

/-! ### Reading -/

/-- Put an entry into its place: the obsolete ones in a list, the others into their context. -/
def addEntry (c : Catalog) (e : Entry) : Catalog :=
  if e.obsolete then { c with obsolete := c.obsolete ++ [e] }
  else
    let context := e.msgctxt.getD []
    let bucket := (c.translations.get? context).getD .empty
    { c with translations := c.translations.insert context (bucket.insert e.msgid e) }

/-- The catalog of a file that has been read, with the charset to assume by default. -/
def ofDocument (d : Document) (charset : Text) : Catalog :=
  let headerEcho : Entry := { msgid := [], msgstr := [Document.headerText d.headers.entries] }
  let start : Catalog :=
    { headers := d.headers
      translations := OrderedMap.empty.insert [] (OrderedMap.empty.insert [] headerEcho)
      headerComment := d.header
      headerFuzzy := d.headersFlagged
      charset := charsetOf d.headers charset }
  (d.records.map entryOf).foldl addEntry start

/-- Read the text of a catalog file. The text stands for itself; that it may be the name of a file
is the concern of `MessageCatalog.Catalog.Files`. -/
def parse (t : Text) (charset : Text) : Except Failure Catalog := do
  return ofDocument (← Document.ofText t) charset

/-- Read the bytes of a catalog file in a charset. -/
def parseBytes (bytes : ByteArray) (charset : Text) : Except Failure Catalog := do
  parse (← Charset.decodeNamed charset bytes) charset

/-! ### Writing -/

def defaultWidth : Int := 78

/-- Write a catalog in its charset. -/
def render (c : Catalog) (width : Int) : Except Failure ByteArray := do
  Charset.encodeNamed c.charset (← Document.print width c)

end MessageCatalog.Catalog
