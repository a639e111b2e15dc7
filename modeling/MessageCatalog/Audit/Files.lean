import MessageCatalog.Audit.Summary
import MessageCatalog.Catalog.Files
import MessageCatalog.Workspace.Glob
import MessageCatalog.Workspace.Session

/-!
# Auditing catalog files

Catalog files are found by patterns, read and audited; the report goes into a file of its own.
-/

namespace MessageCatalog

namespace Catalog

def load (path : Path) (charset : Text) : Action Catalog := do
  let s ← get
  Action.ofExcept (do
    let bytes ← s.tree.readPath (s.current.toPath.append path)
    ofContent s.tree s.current bytes charset)

end Catalog

/-- What an audit looks at. -/
structure AuditOptions where
  context : Text := []
  baseDir : Path := ⟨[], []⟩
  charset : Text := "utf-8"

namespace AuditOptions

/-- Read and audit the catalog file at a path. -/
def auditFile (o : AuditOptions) (path : Path) : Action AuditReport := do
  let c ← Catalog.load path o.charset
  let current := (← get).current
  let base := (current.resolve o.baseDir).toPath
  Action.ofExcept (c.audit (Path.relativeText current base path) o.context)

def auditAll (o : AuditOptions) (patterns : Value) : Action AuditSummary := do
  let s ← get
  let files ← Action.ofExcept (s.tree.glob (s.current.resolve o.baseDir) patterns)
  if files.isEmpty then Action.say "No files found" (some .yellow)
  else Action.say ("Processing " ++ Decimal.ofNat files.length ++ " files") (some .blue)
  return ⟨← files.mapM fun file => o.auditFile file.toPath⟩

end AuditOptions

namespace AuditSummary

def fileName : Text := "audit-report.json"

/-- Write the report into a directory. -/
def save (s : AuditSummary) (directory : Location) : Action Unit :=
  Action.writeValue (directory ++ [fileName]) s.toValue

end AuditSummary

end MessageCatalog
