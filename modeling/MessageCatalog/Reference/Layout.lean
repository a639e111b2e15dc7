import MessageCatalog.Reference.Basic
import MessageCatalog.Options.Reference
import MessageCatalog.Number.Limit

/-!
# Layout of reference comments

A reference comment is made in two steps: `select` keeps the references that the limits on their
number allow, and `layout` fills lines with them, each line as long as the limits on lines allow.
-/

namespace MessageCatalog.Reference

/-- Select references, when `kept` are selected already and `files` are the files of those passed.
Selection ends when the limit on all references is reached; a reference too many of its file is
passed over. -/
def selectFrom (o : ReferenceOptions) (kept : Nat) (files : List Text) :
    List Text → Except Failure (List Text)
  | [] => .ok []
  | ref :: rest => do
    if ← Limit.countExceeds (kept + 1) o.max then return []
    let file := (split ref).1
    if ← Limit.countExceeds (files.count file + 1) o.perFile then
      selectFrom o kept (file :: files) rest
    else
      return ref :: (← selectFrom o (kept + 1) (file :: files) rest)

/-- The references that the limits on their number allow. -/
def select (o : ReferenceOptions) (refs : List Text) : Except Failure (List Text) :=
  selectFrom o 0 [] refs

/-- Whether a line of `count` references has no room for one more. -/
def isFull (o : ReferenceOptions) (line : Text) (count : Nat) (ref : Text) :
    Except Failure Bool := do
  if ← Limit.countExceeds (count + 1) o.perLine then return true
  else if count = 0 then return false
  else Limit.countExceeds (line.length + ref.length + 1) o.lineLength

/-- Fill lines with references, when `line` holds the last `count` of them. -/
def layoutFrom (o : ReferenceOptions) (line : Text) (count : Nat) :
    List Text → Except Failure (List Text)
  | [] => .ok (if line.isEmpty then [] else [line])
  | ref :: rest => do
    if (← isFull o line count ref) && !line.isEmpty then
      return line :: (← layoutFrom o ref 1 rest)
    else
      layoutFrom o (line ++ (if 0 < count then ' ' :: ref else ref)) (count + 1) rest

def layout (o : ReferenceOptions) (refs : List Text) : Except Failure (List Text) :=
  layoutFrom o [] 0 refs

def comment (o : ReferenceOptions) (refs : List Text) : Except Failure Text := do
  return Text.join "\n" (← layout o (← select o refs))

end MessageCatalog.Reference
