import MessageCatalog.Options.Extraction
import MessageCatalog.Regex.Reader
import MessageCatalog.Source.Token

/-!
# What comments say

A comment can declare a key of its own, can have the calls on its line ignored, and is otherwise
kept for the key of a call on its line or the next one. The comments that are kept are used once.
-/

namespace MessageCatalog

/-- A key found on a line of a file, with the comment that belongs to it. -/
structure Occurrence where
  key : Text
  line : Nat
  comment : Option Text := none
  deriving DecidableEq, Inhabited

/-- How comments are read: whether they are kept, which declare keys, and which have calls
ignored. -/
structure CommentRules where
  keep : Bool
  key : Option Regex
  ignore : Option Regex
  deriving Inhabited

namespace CommentRules

/-- The pattern that a value stands for; an empty one is none. -/
def pattern? (name : Text) (v : Value) : Except Failure (Option Regex) :=
  if !v.truthy then .ok none
  else match v with
    | .text t => match Regex.ofText? t with
      | some r => .ok (some r)
      | none => .error (.patternSyntax name)
    | _ => .error .wrongType

def ofOptions (o : CommentOptions) : Except Failure CommentRules := do
  let key ← pattern? "comments.key_regex" o.keyPattern
  let ignore ← pattern? "comments.ignore_regex" o.ignorePattern
  return ⟨o.extract.truthy, key, ignore⟩

end CommentRules

/-- What the comments of a file have come to: the keys they declare, the comments that are kept,
and the lines whose calls are ignored. -/
structure CommentNotes where
  declared : List Occurrence := []
  kept : List Source.Comment := []
  ignored : List Nat := []
  deriving Inhabited

namespace CommentNotes

/-- The comment kept for a line. -/
def at? (n : CommentNotes) (line : Nat) : Option Text :=
  (n.kept.find? fun c => c.line == line).map (·.text)

/-- Keep no comment for a line any more. -/
def drop (n : CommentNotes) (line : Nat) : CommentNotes :=
  { n with kept := n.kept.filter fun c => c.line != line }

def keep (n : CommentNotes) (c : Source.Comment) : CommentNotes := { n with kept := c :: n.kept }

def takeAt (n : CommentNotes) (line : Nat) : Option Text × CommentNotes := (n.at? line, n.drop line)

/-- Take the comments kept for a line and the one before it, one below the other; nothing if
there is no text in them. -/
def takeAround (n : CommentNotes) (line : Nat) : Option Text × CommentNotes :=
  let texts := (n.at? (line - 1)).toList ++ (n.at? line).toList
  (match Text.join "\n" texts with
    | [] => none
    | t => some t, (n.drop (line - 1)).drop line)

/-- The key that a match declares: what the first group has matched. -/
def keyOf (r : Regex) (s : Regex.Spot) : Except Failure Text :=
  match s.group? 1 with
  | some t => .ok t.trim
  | none => if r.hasGroup 1 then .error .groupUnmatched else .error .noSuchGroup

/-- Declare the key of a comment, if it has one. The comment on the line before belongs to the
key. -/
def declare (rules : CommentRules) (n : CommentNotes) (c : Source.Comment) :
    Except Failure CommentNotes :=
  match rules.key with
  | none => .ok n
  | some r => match r.search c.text with
    | none => .ok n
    | some s => do
      let key ← keyOf r s
      let (comment, n) := n.takeAt (c.line - 1)
      return { n.drop c.line with declared := n.declared ++ [⟨key, c.line, comment⟩] }

def add (rules : CommentRules) (n : CommentNotes) (c : Source.Comment) :
    Except Failure CommentNotes := do
  let n := if rules.keep then n.keep c else n
  let n ← n.declare rules c
  if rules.ignore.any fun r => r.occursIn c.text then
    return { n.drop c.line with ignored := c.line :: n.ignored }
  else return n

/-- Note the comments of a file, from the first to the last. -/
def ofComments (rules : CommentRules) (cs : List Source.Comment) : Except Failure CommentNotes :=
  cs.foldlM (add rules) {}

end CommentNotes

end MessageCatalog
