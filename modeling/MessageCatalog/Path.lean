import MessageCatalog.Text.Basic

/-!
# Paths

A path is a root and its components. Empty components and single dots vanish when a path is read;
double dots stay until the path is resolved. A location is the component list of an absolute path
without double dots.
-/

namespace MessageCatalog

open Text

/-- An absolute path without double dots, from the root down. -/
abbrev Location := List Text

/-- A path as it is written. Two slashes at the start are a root of their own. -/
structure Path where
  root : Text
  parts : List Text
  deriving DecidableEq, Inhabited

namespace Path

/-- The components of a written path. -/
def partsOf (t : Text) : List Text := (splitOn '/' t).filter fun p => p ≠ [] ∧ p ≠ ['.']

def ofText (t : Text) : Path :=
  let slashes := (t.takeWhile (· = '/')).length
  let root : Text := if slashes = 0 then "" else if slashes = 2 then "//" else "/"
  ⟨root, partsOf t⟩

/-- Whether a path starts at the root. -/
def isAbsolute (p : Path) : Bool := !p.root.isEmpty

/-- Write a path with slashes; the empty path is a dot. -/
def toText (p : Path) : Text :=
  match p.root, p.parts with
  | [], [] => "."
  | root, parts => root ++ join "/" parts

/-- A path seen from another one. -/
def append (p q : Path) : Path := if q.isAbsolute then q else ⟨p.root, p.parts ++ q.parts⟩

/-- The path without its last component. -/
def parent (p : Path) : Path := ⟨p.root, p.parts.dropLast⟩

end Path

namespace Location

/-- One step along a path: double dots go up, and stay at the root. -/
def step (loc : Location) (part : Text) : Location :=
  if part = ['.', '.'] then loc.dropLast else loc ++ [part]

/-- Go along the components of a path. -/
def follow (loc : Location) (parts : List Text) : Location := parts.foldl step loc

def resolve (base : Location) (p : Path) : Location :=
  if p.isAbsolute then follow [] p.parts else follow base p.parts

def toText (loc : Location) : Text := '/' :: join "/" loc

def toPath (loc : Location) : Path := ⟨"/", loc⟩

/-- The steps from one location to another: up to the last common directory, and down again. -/
def stepsTo : Location → Location → List Text
  | a :: base, b :: file =>
    if a = b then stepsTo base file
    else List.replicate (base.length + 1) ['.', '.'] ++ b :: file
  | base, file => List.replicate base.length ['.', '.'] ++ file

def relativeTo (file base : Location) : Path := ⟨"", stepsTo base file⟩

end Location

namespace Path

/-- The text of a path relative to a base directory. A path that is relative already is only
tidied up. -/
def relativeText (current : Location) (base file : Path) : Text :=
  if file.isAbsolute then
    ((Location.resolve current file).relativeTo (Location.resolve current base)).toText
  else file.toText

end Path

end MessageCatalog
