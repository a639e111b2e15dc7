import MessageCatalog.Catalog
import MessageCatalog.Reference.Layout

/-!
# Comments of merged entries

A merge sets two comments of an entry: its references and the comments that were extracted with
the message. Each setting tells the change it made, if it is one. References that are only laid
out anew are set, but are no change.
-/

namespace MessageCatalog

/-- The comments that a merge sets. -/
inductive CommentField where
  | reference
  | extracted
  deriving DecidableEq, Repr

def CommentField.name : CommentField → Text
  | .reference => "comments.reference"
  | .extracted => "comments.extracted"

/-- A comment that a merge has changed. -/
structure Change where
  field : CommentField
  old : Option Text
  new : Option Text
  deriving DecidableEq

namespace Entry

def commentWords (t : Option Text) : List Text := Text.words (t.getD [])

/-- Set the reference comment. Only other words are a change. -/
def setReference (o : ReferenceOptions) (refs : List Text) (e : Entry) :
    Except Failure (Entry × Option Change) := do
  let text ← Reference.comment o refs
  let new := if text.isEmpty then none else some text
  let changed := commentWords e.reference ≠ commentWords new
  return ({ e with comments := some { e.comments.getD {} with reference := new } },
    if changed then some ⟨.reference, e.reference, new⟩ else none)

/-- The extracted comment that counts: one beside other comments counts even if it is empty. -/
def countedExtracted (e : Entry) : Option Text :=
  match e.comments with
  | some c => if c.isGiven then c.extracted else none
  | none => none

/-- Set the extracted comment to lines, or take it away if they hold nothing. -/
def setExtracted (lines : List Text) (e : Entry) : Entry × Option Change :=
  let text := Text.join "\n" lines
  let old := e.countedExtracted
  let set (new : Option Text) : Entry :=
    { e with comments := some { e.comments.getD {} with extracted := new } }
  if text.isEmpty then
    if isGiven old then (set none, some ⟨.extracted, old, none⟩) else (e, none)
  else if old = some text then (e, none)
  else (set (some text), some ⟨.extracted, old, some text⟩)

/-- Take away the comments that belong to places in the source. -/
def clearPlaces (e : Entry) : Entry :=
  { e with comments := e.comments.map fun c => { c with extracted := none, reference := none } }

end Entry

end MessageCatalog
