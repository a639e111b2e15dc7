import MessageCatalog.Catalog
import MessageCatalog.Failure

/-!
# Auditing a catalog

An audit lists the entries of a context that need work: those without translation, those that wait
for a review, and, for the whole catalog, those that are obsolete.
-/

namespace MessageCatalog

/-- The message ids of the entries that need work. -/
structure AuditIssues where
  untranslated : List Text := []
  fuzzy : List Text := []
  obsolete : List Text := []
  deriving DecidableEq

/-- The audit of one catalog. -/
structure AuditReport where
  file : Text
  language : Text
  issues : AuditIssues
  deriving DecidableEq

namespace AuditReport

/-- The number of entries without translation. -/
def untranslated (r : AuditReport) : Nat := r.issues.untranslated.length

/-- The number of entries that wait for a review. -/
def fuzzy (r : AuditReport) : Nat := r.issues.fuzzy.length

/-- The number of obsolete entries. -/
def obsolete (r : AuditReport) : Nat := r.issues.obsolete.length

/-- The number of issues of all kinds. -/
def total (r : AuditReport) : Nat := r.untranslated + r.fuzzy + r.obsolete

end AuditReport

/-- The entries of a context that have a message id and pass a test, by message id. -/
def Bucket.select (b : Bucket) (test : Entry → Bool) : List Text :=
  (b.values.filter fun e => !e.msgid.isEmpty && test e).map (·.msgid)

def Catalog.audit (c : Catalog) (file context : Text) : Except Failure AuditReport :=
  match c.translations.get? context with
  | none => .error (.missingContextIn context file)
  | some bucket => .ok {
      file
      language := c.language
      issues := {
        untranslated := bucket.select fun e => !e.isTranslated
        fuzzy := bucket.select Entry.isFuzzy
        obsolete := c.obsolete.map (·.msgid) } }

end MessageCatalog
