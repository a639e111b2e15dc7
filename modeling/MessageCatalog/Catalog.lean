import MessageCatalog.OrderedMap

/-!
# Catalogs

A catalog holds the translations of one language. Its entries are grouped by context and, within a
context, found by their message id. The context without name also holds an entry with an empty
message id, which repeats the headers of the catalog.
-/

namespace MessageCatalog

/-- The comments of an entry. -/
structure EntryComments where
  translator : Option Text := none
  extracted : Option Text := none
  reference : Option Text := none
  deriving DecidableEq, Inhabited

/-- Whether a text is there and not empty. -/
def isGiven : Option Text → Bool
  | some (_ :: _) => true
  | _ => false

def EntryComments.isGiven (c : EntryComments) : Bool :=
  MessageCatalog.isGiven c.translator || MessageCatalog.isGiven c.extracted ||
    MessageCatalog.isGiven c.reference

/-- One message of a catalog and its translations. -/
structure Entry where
  msgid : Text
  msgstr : List Text := [[]]
  msgctxt : Option Text := none
  msgidPlural : Option Text := none
  comments : Option EntryComments := none
  flags : List Text := []
  previousMsgid : Option Text := none
  previousMsgctxt : Option Text := none
  obsolete : Bool := false
  deriving DecidableEq, Inhabited

namespace Entry

/-- Whether at least one translation is not empty. -/
def isTranslated (e : Entry) : Bool := e.msgstr.any fun t => !t.isEmpty

def reference (e : Entry) : Option Text := e.comments.bind (·.reference)

def extracted (e : Entry) : Option Text := e.comments.bind (·.extracted)

/-- Whether the translation waits for a review. -/
def isFuzzy (e : Entry) : Bool := e.flags.any (· = ("fuzzy" : Text))

end Entry

/-- The entries of one context, by message id. -/
abbrev Bucket := OrderedMap Entry

/-- A catalog: headers, the entries by context, and the obsolete entries. -/
structure Catalog where
  headers : OrderedMap Text := .empty
  translations : OrderedMap Bucket := OrderedMap.empty.insert [] .empty
  headerComment : Text := []
  headerFuzzy : Bool := false
  obsolete : List Entry := []
  charset : Text := "utf-8"

namespace Catalog

instance : Inhabited Catalog := ⟨{}⟩

/-- The catalog with the entries of one context replaced. -/
def withContext (c : Catalog) (context : Text) (bucket : Bucket) : Catalog :=
  { c with translations := c.translations.insert context bucket }

/-- The number of entries of a context that have a message id. -/
def count (c : Catalog) (context : Text) : Nat :=
  match c.translations.get? context with
  | some bucket => (bucket.keys.filter fun msgid => !msgid.isEmpty).length
  | none => 0

/-- The value of a header, whose name is compared in small letters. Of several headers with the
name the last one counts. -/
def header? (c : Catalog) (name : Text) : Option Text :=
  (c.headers.entries.reverse.find? fun h => Text.lower h.1 = name).map (·.2)

/-- The language a catalog names in its headers. -/
def language (c : Catalog) : Text :=
  match c.header? "language" with
  | some (ch :: rest) => ch :: rest
  | _ => "unknown"

end Catalog

end MessageCatalog
