import MessageCatalog.Audit.Basic
import MessageCatalog.Notice
import MessageCatalog.Number.Decimal
import MessageCatalog.Value.Printer

/-!
# Summaries of audits

The audits of several files together: as lines for the user, with the files that need most work
first among those that need any, and as the text of a report.
-/

namespace MessageCatalog

/-- The audits of several files. -/
structure AuditSummary where
  reports : List AuditReport := []

namespace AuditSummary

/-- A count over all files. -/
def sum (s : AuditSummary) (count : AuditReport → Nat) : Nat := (s.reports.map count).foldr (· + ·) 0

/-! ### Lines for the user -/

/-- Whether every entry of a file has a translation. -/
def isComplete (r : AuditReport) : Bool := r.untranslated = 0

/-- The line about a file whose entries all have translations. -/
def completeNotice (r : AuditReport) : Notice :=
  ⟨r.file ++ " has no missing translations", some .green⟩

/-- The lines about a file with entries that have no translation. -/
def incompleteNotices (r : AuditReport) : List Notice :=
  ⟨r.file ++ " has " ++ Decimal.ofNat r.untranslated ++ " untranslated messages", some .yellow⟩ ::
    r.issues.untranslated.map fun msgid => ⟨"    " ++ msgid, none⟩

/-- The files with entries that have no translation, those with most of them first. -/
def incomplete (s : AuditSummary) : List AuditReport :=
  (s.reports.filter fun r => !isComplete r).mergeSort fun a b =>
    decide (b.untranslated ≤ a.untranslated)

/-- The lines about all files, complete ones first. -/
def notices (s : AuditSummary) : List Notice :=
  (s.reports.filter isComplete).map completeNotice ++ s.incomplete.flatMap incompleteNotices

/-! ### The report -/

def number (n : Nat) : Value := .int n

/-- Texts in the report. -/
def texts (ts : List Text) : Value := .list (ts.map .text)

/-- The part of the report about one file. -/
def reportValue (r : AuditReport) : Value :=
  .object [
    ("file", .text r.file),
    ("language", .text r.language),
    ("issues", .object [
      ("untranslated", texts r.issues.untranslated),
      ("fuzzy", texts r.issues.fuzzy),
      ("obsolete", texts r.issues.obsolete)]),
    ("counts", .object [
      ("untranslated", number r.untranslated),
      ("fuzzy", number r.fuzzy),
      ("obsolete", number r.obsolete)])]

/-- The report about all files. -/
def toValue (s : AuditSummary) : Value :=
  .object [
    ("summary", .object [
      ("totalFiles", number s.reports.length),
      ("totalIssues", number (s.sum AuditReport.total)),
      ("untranslatedStrings", number (s.sum AuditReport.untranslated)),
      ("fuzzyTranslations", number (s.sum AuditReport.fuzzy)),
      ("obsoleteTranslations", number (s.sum AuditReport.obsolete))]),
    ("reports", .list (s.reports.map reportValue))]

end AuditSummary

end MessageCatalog
