import MessageCatalog.Workspace.FileTree
import MessageCatalog.Workspace.NamePattern
import MessageCatalog.Value.Basic

/-!
# Finding files by patterns

A pattern of paths is followed component by component: a plain name is looked up, double dots lead
up, a pattern of names is tried on all names of the directory, and two stars stand for any number
of directories. The name of a file that is there stands for that file, whatever characters it has.
Every file is found once.
-/

namespace MessageCatalog

/-- One component of a pattern of paths. -/
inductive GlobStep where
  | name (t : Text)
  | up
  | names (p : NamePattern)
  | anyDepth

namespace Glob

/-- Read one component. Two stars cannot be a part of a longer component. -/
def step (component : Text) : Except Failure GlobStep :=
  if component = ("**" : Text) then .ok .anyDepth
  else if component = (".." : Text) then .ok .up
  else if Text.contains "**" component then .error (.badGlob component)
  else if component.any fun c => c = '*' || c = '?' || c = '[' then
    .ok (.names (.ofText component))
  else .ok (.name component)

/-- A place that has been reached: the components of the path to it, and its location. -/
structure Place where
  parts : List Text
  location : Location

/-- The place that a name leads to. -/
def Place.enter (p : Place) (name : Text) : Place := ⟨p.parts ++ [name], p.location ++ [name]⟩

/-- Whether what was found may be followed: all but the last component have to be directories. -/
def mayFollow (t : FileTree) (rest : List GlobStep) (p : Place) : Bool :=
  if rest.isEmpty then t.isPresent p.location else t.isDirectory p.location

/-- The places that steps lead to. -/
def places (t : FileTree) : List GlobStep → Place → List Place
  | [], p => [p]
  | .name n :: rest, p =>
    if mayFollow t rest (p.enter n) then places t rest (p.enter n) else []
  | .up :: rest, p => places t rest ⟨p.parts ++ [['.', '.']], p.location.dropLast⟩
  | .names pattern :: rest, p =>
    (((t.names p.location).filter pattern.accepts).map p.enter).flatMap fun q =>
      if mayFollow t rest q then places t rest q else []
  | .anyDepth :: rest, p =>
    (t.below p.location).flatMap fun way => places t rest ⟨p.parts ++ way, p.location ++ way⟩

/-- Order paths by their components. -/
def compareParts : List Text → List Text → Ordering
  | [], [] => .eq
  | [], _ :: _ => .lt
  | _ :: _, [] => .gt
  | a :: as, b :: bs => (Text.compare a b).then (compareParts as bs)

/-- The places of a pattern of paths, from the root, in the order of their paths. -/
def search (t : FileTree) (parts : List Text) : Except Failure (List Place) := do
  if parts.isEmpty then throw .emptyGlob
  let steps ← parts.mapM step
  return (places t steps ⟨[], []⟩).mergeSort fun p q => compareParts p.parts q.parts != .gt

/-- The files that one pattern finds, seen from a base directory. -/
def select (t : FileTree) (base : Location) (pattern : Text) : Except Failure (List Location) := do
  let path := base.toPath.append (Path.ofText pattern)
  match t.walk? [] path.parts with
  | some loc => if t.isFile loc then return [loc]
  | none => pure ()
  return ((← search t path.parts).map (·.location)).filter t.isFile

/-- The items without those that occurred before. -/
def distinct : List Location → List Location
  | [] => []
  | loc :: rest => loc :: (distinct rest).filter (· ≠ loc)

def patternsOf : Value → Except Failure (List Value)
  | .text t => .ok [.text t]
  | .list items => .ok items
  | .object fields => .ok (fields.map fun f => .text f.1)
  | _ => .error .wrongType

/-- The files that one value finds. -/
def selectValue (t : FileTree) (base : Location) : Value → Except Failure (List Location)
  | .text pattern => select t base pattern
  | _ => .error .wrongType

end Glob

/-- The files that patterns find, in the order of the patterns, each once. -/
def FileTree.glob (t : FileTree) (base : Location) (patterns : Value) :
    Except Failure (List Location) := do
  let patterns ← Glob.patternsOf patterns
  if patterns.isEmpty then throw .noGlobs
  return Glob.distinct (← patterns.mapM (Glob.selectValue t base)).flatten

end MessageCatalog
