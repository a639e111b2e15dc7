import MessageCatalog.Path
import MessageCatalog.Failure

/-!
# File trees

The files and directories that a program works on. A path is followed component by component, so a
step up leads out of a directory only if the directory is there.
-/

namespace MessageCatalog

/-- Files with their contents, and directories. -/
structure FileTree where
  files : List (Location × ByteArray) := []
  directories : List Location := [[]]

namespace FileTree

instance : Inhabited FileTree := ⟨{}⟩

/-! ### Looking -/

def content? (t : FileTree) (loc : Location) : Option ByteArray := t.files.lookup loc

def isFile (t : FileTree) (loc : Location) : Bool := (t.content? loc).isSome

def isDirectory (t : FileTree) (loc : Location) : Bool := t.directories.any (· = loc)

/-- Whether there is anything at a location. -/
def isPresent (t : FileTree) (loc : Location) : Bool := t.isFile loc || t.isDirectory loc

/-- Why the way to a location is blocked: something on it is missing or no directory. -/
def obstacle? (t : FileTree) (loc : Location) : Option Failure :=
  if t.isDirectory loc then none
  else if t.isFile loc then some (.notDirectory loc.toText)
  else some (.fileNotFound loc.toText)

/-- The first obstacle on the way from a location along names. -/
def obstacleAlong? (t : FileTree) (loc : Location) : List Text → Option Failure
  | [] => none
  | name :: rest => match t.obstacle? loc with
    | some f => some f
    | none => t.obstacleAlong? (loc ++ [name]) rest

/-- Follow the components of a path from a location. -/
def walk? (t : FileTree) (loc : Location) : List Text → Option Location
  | [] => some loc
  | part :: rest =>
    if t.isDirectory loc then t.walk? (Location.step loc part) rest else none

def names (t : FileTree) (loc : Location) : List Text :=
  ((t.files.map (·.1) ++ t.directories).filter fun l => !l.isEmpty && l.dropLast = loc).filterMap
    (·.getLast?)

/-- The ways from a directory down to the directories in and below it. -/
def below (t : FileTree) (loc : Location) : List (List Text) :=
  t.directories.filterMap fun dir => loc.isPrefixOf? dir

/-! ### Reading and changing -/

def read (t : FileTree) (loc : Location) : Except Failure ByteArray :=
  match t.content? loc with
  | some bytes => .ok bytes
  | none =>
    if t.isDirectory loc then .error (.isDirectory loc.toText)
    else match t.obstacleAlong? [] loc with
      | some (.notDirectory _) => .error (.notDirectory loc.toText)
      | _ => .error (.fileNotFound loc.toText)

def readPath (t : FileTree) (p : Path) : Except Failure ByteArray :=
  match t.walk? [] p.parts with
  | some loc => t.read loc
  | none => .error (.fileNotFound p.toText)

/-- The file that a path, written as a text, leads to from a directory. A path with a slash or a
single dot at its end leads to no file. -/
def fileNamed? (t : FileTree) (current : Location) (path : Text) : Option Location :=
  let p := Path.ofText path
  if (Text.splitOn '/' path).getLast? ∈ [some [], some ['.']] then none
  else (t.walk? (if p.isAbsolute then [] else current) p.parts).filter t.isFile

def putContent (loc : Location) (bytes : ByteArray) :
    List (Location × ByteArray) → List (Location × ByteArray)
  | [] => [(loc, bytes)]
  | (l, b) :: rest => if l = loc then (l, bytes) :: rest else (l, b) :: putContent loc bytes rest

/-- Set the content of a file, whatever is around it. -/
def put (t : FileTree) (loc : Location) (bytes : ByteArray) : FileTree :=
  { t with files := putContent loc bytes t.files }

/-- Take a file away. -/
def erase (t : FileTree) (loc : Location) : FileTree :=
  { t with files := t.files.filter fun f => f.1 ≠ loc }

def write (t : FileTree) (loc : Location) (bytes : ByteArray) : Except Failure FileTree :=
  if t.isDirectory loc then .error (.isDirectory loc.toText)
  else match t.obstacleAlong? [] loc with
    | some (.notDirectory _) => .error (.notDirectory loc.toText)
    | some _ => .error (.fileNotFound loc.toText)
    | none => .ok (t.put loc bytes)

/-- The directories on the way to a location, itself included. -/
def ancestors (loc : Location) : List Location :=
  (List.range (loc.length + 1)).map fun n => loc.take n

/-- Add a directory and those on the way to it, whatever is there. -/
def addDirectory (t : FileTree) (loc : Location) : FileTree :=
  { t with directories :=
      t.directories ++ (ancestors loc).filter fun dir => !t.isDirectory dir }

/-- Make a directory and those on the way to it, unless they are there. -/
def makeDirectory (t : FileTree) (loc : Location) : Except Failure FileTree :=
  if t.isFile loc then .error (.fileExists loc.toText)
  else if (ancestors loc).any t.isFile then .error (.notDirectory loc.toText)
  else .ok (t.addDirectory loc)

/-- Add a file with the directories on the way to it. -/
def addFile (t : FileTree) (loc : Location) (bytes : ByteArray) : FileTree :=
  (t.addDirectory loc.dropLast).put loc bytes

/-! ### Laws -/

theorem lookup_putContent_self (loc : Location) (bytes : ByteArray)
    (files : List (Location × ByteArray)) :
    (putContent loc bytes files).lookup loc = some bytes := by
  induction files with
  | nil => simp [putContent]
  | cons f rest ih =>
    obtain ⟨l, b⟩ := f
    by_cases h : l = loc
    · subst h; simp [putContent]
    · have h' : (loc == l) = false := by simpa using fun h2 : loc = l => h h2.symm
      simp [putContent, h, h', ih, List.lookup_cons]

theorem lookup_putContent_of_ne {loc l' : Location} (bytes : ByteArray)
    (files : List (Location × ByteArray)) (hne : l' ≠ loc) :
    (putContent loc bytes files).lookup l' = files.lookup l' := by
  induction files with
  | nil => simp [putContent, hne]
  | cons f rest ih =>
    obtain ⟨l, b⟩ := f
    by_cases h : l = loc
    · subst h
      have h' : (l' == l) = false := by simpa using hne
      simp [putContent, List.lookup_cons, h']
    · simp only [putContent, if_neg h, List.lookup_cons, ih]

/-- A file that was written has the content that was written. -/
@[simp] theorem content?_put_self (t : FileTree) (loc : Location) (bytes : ByteArray) :
    (t.put loc bytes).content? loc = some bytes := lookup_putContent_self ..

/-- Writing a file leaves all others as they are. -/
theorem content?_put_of_ne (t : FileTree) {loc l' : Location} (bytes : ByteArray)
    (h : l' ≠ loc) : (t.put loc bytes).content? l' = t.content? l' :=
  lookup_putContent_of_ne _ _ h

end FileTree

end MessageCatalog
