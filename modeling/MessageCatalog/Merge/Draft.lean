import MessageCatalog.Merge.Basic

/-!
# Merging into what may be no catalog

A caller may bring a value that is no catalog at all, or a catalog whose headers or translations
were replaced by values of no fixed type. Both are refused unless the parts are maps.
-/

namespace MessageCatalog.Merge

/-- What a caller brings as the catalog of a merge. -/
inductive Draft where
  /-- A value that is no catalog. -/
  | value (v : Value)
  /-- A catalog; its translations or headers may be replaced. -/
  | catalog (c : Catalog) (translations headers : Option Value)

namespace Draft

def headerText : Value → Text
  | .text t => t
  | v => if v.truthy then v.shown else []

/-- The catalog of a draft. A map of translations that replaces the own ones has empty
contexts. -/
def toCatalog : Draft → Except Failure Catalog
  | .value v => .error (.notCatalog v.typeName)
  | .catalog c translations headers => do
    let c ← match translations with
      | none => .ok c
      | some (.object fields) =>
        .ok { c with translations := .ofList (fields.map fun f => (f.1, .empty)) }
      | some _ => .error .translationsNotMap
    match headers with
    | none => return c
    | some (.object fields) =>
      return { c with headers := .ofList (fields.map fun f => (f.1, headerText f.2)) }
    | some _ => .error .headersNotMap

def merge (d : Draft) (messages : Value) (o : MergeOptions) : Outcome :=
  match d.toCatalog with
  | .error f => .failed f
  | .ok c => c.merge messages o

end Draft

end MessageCatalog.Merge
