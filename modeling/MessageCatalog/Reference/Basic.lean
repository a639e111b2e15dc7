import MessageCatalog.Number.Decimal

/-!
# References

A reference tells where a message was found: a file and a line, as in `src/app.py:12`. Main
definitions: `split` takes a reference apart, and `compare` orders references by file and then by
line number. A reference without a number stands before every line of its file.
-/

namespace MessageCatalog.Reference

open Text

/-- The file and the line number of a reference; without a readable number the whole reference is
the file and the line is `-1`. -/
def split (ref : Text) : Text × Int :=
  match cutLast ':' ref with
  | some (path, line) => match Decimal.int? line with
    | some n => (path, n)
    | none => (ref, -1)
  | none => (ref, -1)

def ofLine (file : Text) (line : Nat) : Text := file ++ ':' :: Decimal.ofNat line

/-- Order whole numbers. -/
def compareLines (a b : Int) : Ordering :=
  if a < b then .lt else if b < a then .gt else .eq

/-- Order pairs of a file and a line. -/
def compareParts (a b : Text × Int) : Ordering :=
  (Text.compare a.1 b.1).then (compareLines a.2 b.2)

/-- Order references by file, then by line number. -/
def compare (a b : Text) : Ordering := compareParts (split a) (split b)

/-- References in rising order; equal ones keep their order. -/
def sort (refs : List Text) : List Text := refs.mergeSort fun a b => compare a b != .gt

end MessageCatalog.Reference
