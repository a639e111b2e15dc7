import MessageCatalog.Catalog
import MessageCatalog.Reference.Basic
import MessageCatalog.Value.Basic

/-!
# Orders of entries

The orders in which the entries of a context can be written. Four of them are built in; a caller
can also bring a comparison of its own, which is known by a name. Sorting is stable, so entries
that an order does not tell apart keep their places.
-/

namespace MessageCatalog

/-- The position of each message id in the catalog that a merge started from. -/
abbrev SourceOrder := OrderedMap Nat

/-- A comparison of entries: negative, zero or positive. -/
abbrev Comparison := Entry → Entry → SourceOrder → Int

/-- An order of entries. -/
inductive SortOrder where
  /-- The order of the source catalog, new entries last. -/
  | source
  /-- By message id, then by context. -/
  | msgid
  /-- Falling by message id, then by context. -/
  | msgidDesc
  /-- By first reference, then by message id; entries without reference last. -/
  | reference
  /-- A comparison brought by the caller. -/
  | custom (name : Text) (compare : Comparison)

namespace SortOrder

def sign : Ordering → Int
  | .lt => -1
  | .eq => 0
  | .gt => 1

/-- Order positions; a missing position comes after all others. -/
def comparePositions : Option Nat → Option Nat → Ordering
  | some a, some b => if a < b then .lt else if b < a then .gt else .eq
  | some _, none => .lt
  | none, some _ => .gt
  | none, none => .eq

/-- By position in the source catalog. -/
def bySource (a b : Entry) (order : SourceOrder) : Ordering :=
  comparePositions (order.get? a.msgid) (order.get? b.msgid)

/-- By message id, then by context. -/
def byMsgid (a b : Entry) : Ordering :=
  (Text.compare a.msgid b.msgid).then (Text.compare (a.msgctxt.getD []) (b.msgctxt.getD []))

def firstReference (e : Entry) : Option Text := e.reference.bind fun t => (Text.words t).head?

/-- Order first references; an entry without comes last. -/
def compareFirst : Option Text → Option Text → Ordering
  | some a, some b => Reference.compare a b
  | some _, none => .lt
  | none, some _ => .gt
  | none, none => .eq

/-- By first reference, then by message id. -/
def byReference (a b : Entry) : Ordering :=
  (compareFirst (firstReference a) (firstReference b)).then (byMsgid a b)

def compare : SortOrder → Comparison
  | .source, a, b, order => sign (bySource a b order)
  | .msgid, a, b, _ => sign (byMsgid a b)
  | .msgidDesc, a, b, _ => -sign (byMsgid a b)
  | .reference, a, b, _ => sign (byReference a b)
  | .custom _ f, a, b, order => f a b order

def ofName? (name : Text) : Option SortOrder :=
  if name = ("source" : Text) then some .source
  else if name = ("msgid" : Text) then some .msgid
  else if name = ("msgid-desc" : Text) then some .msgidDesc
  else if name = ("reference" : Text) then some .reference
  else none

def name : SortOrder → Text
  | .source => "source"
  | .msgid => "msgid"
  | .msgidDesc => "msgid-desc"
  | .reference => "reference"
  | .custom name _ => name

def sortEntries (by' : SortOrder) (order : SourceOrder) (entries : List Entry) : List Entry :=
  entries.mergeSort fun a b => decide (by'.compare a b order ≤ 0)

/-- The entries of a context in a given order, found by their own message ids. -/
def sortBucket (by' : SortOrder) (order : SourceOrder) (bucket : Bucket) : Bucket :=
  .ofList ((by'.sortEntries order bucket.values).map fun e => (e.msgid, e))

/-- The positions of message ids in a list. -/
def positions (msgids : List Text) : SourceOrder :=
  .ofList (msgids.zipIdx.map fun p => (p.1, p.2))

end SortOrder

end MessageCatalog
