import MessageCatalog.Text.Basic

/-!
# Regular expressions

A regular expression is matched from a spot in a text. All spots at which a match can end are
listed in the order of preference, so the match that counts is the first of the list. What a group
has matched is kept with the spot; a branch that fails leaves nothing behind.
-/

namespace MessageCatalog

/-- The members of a set of characters. -/
inductive CharRange where
  /-- The code points from the first to the last. -/
  | codes (first last : Nat)
  | digit
  | blank
  | word
  /-- All characters but some. -/
  | but (r : CharRange)
  deriving DecidableEq, Repr

namespace CharRange

def char (c : Char) : CharRange := .codes c.toNat c.toNat

def accepts (c : Char) : CharRange → Bool
  | .codes first last => first ≤ c.toNat && c.toNat ≤ last
  | .digit => Text.isDecimal c
  | .blank => Text.isBlank c
  | .word => Text.isWordChar c
  | .but r => !r.accepts c

@[simp] theorem accepts_char {c d : Char} : (char d).accepts c = true ↔ c = d := by
  constructor
  · intro h
    simp only [char, accepts, Bool.and_eq_true, decide_eq_true_eq] at h
    exact Char.toNat_inj.1 (by omega)
  · rintro rfl
    simp [char, accepts]

end CharRange

/-- Conditions on a spot. -/
inductive Anchor where
  /-- The start of the text. -/
  | start
  /-- The end of the text, or a line feed that ends it. -/
  | finish
  /-- The very end of the text. -/
  | ending
  /-- A place where a word begins or ends. -/
  | boundary
  /-- Any other place. -/
  | noBoundary
  deriving DecidableEq, Repr

/-- A regular expression. -/
inductive Regex where
  | empty
  /-- One character that is in one of the ranges, or in none of them. -/
  | one (negated : Bool) (ranges : List CharRange)
  | anchor (a : Anchor)
  | seq (first second : Regex)
  | either (first second : Regex)
  /-- A number of repetitions: as many as possible, or as few. -/
  | repeated (least : Nat) (most : Option Nat) (few : Bool) (r : Regex)
  | group (number : Nat) (r : Regex)
  deriving Inhabited

namespace Regex

/-- A place in a text that a match has come to: the character before it, what follows, and what the
groups have matched, the latest first. -/
structure Spot where
  before : Option Char
  rest : Text
  groups : List (Nat × Text)
  deriving Inhabited

namespace Spot

def next? (s : Spot) : Option (Char × Spot) :=
  match s.rest with
  | [] => none
  | c :: rest => some (c, { s with before := some c, rest })

/-- Whether a word begins or ends here. -/
def isBoundary (s : Spot) : Bool :=
  (s.before.map Text.isWordChar).getD false != (s.rest.head?.map Text.isWordChar).getD false

/-- Whether a condition holds here. -/
def satisfies (s : Spot) : Anchor → Bool
  | .start => s.before.isNone
  | .finish => s.rest.isEmpty || s.rest == ['\n']
  | .ending => s.rest.isEmpty
  | .boundary => s.isBoundary
  | .noBoundary => !s.isBoundary

/-- Note what a group has matched: the text from one spot to another. -/
def close (number : Nat) (opened closed : Spot) : Spot :=
  let text := opened.rest.take (opened.rest.length - closed.rest.length)
  { closed with groups := (number, text) :: closed.groups }

end Spot

/-- Repeat a step. Once the least number of repetitions is reached, one that does not move is not
repeated. -/
def repetitions (step : Spot → List Spot) (few : Bool) :
    Nat → Nat → Option Nat → Spot → List Spot
  | 0, _, _, s => [s]
  | fuel + 1, least, most, s =>
    if most = some 0 then [s]
    else
      let further := (step s).flatMap fun t =>
        if least = 0 && t.rest.length == s.rest.length then []
        else repetitions step few fuel (least - 1) (most.map (· - 1)) t
      if 0 < least then further
      else if few then s :: further else further ++ [s]

/-- The spots at which a match from a spot can end, the preferred ones first. -/
def ends : Regex → Spot → List Spot
  | .empty, s => [s]
  | .one negated ranges, s => match s.next? with
    | some (c, t) => if (ranges.any fun r => r.accepts c) != negated then [t] else []
    | none => []
  | .anchor a, s => if s.satisfies a then [s] else []
  | .seq a b, s => (a.ends s).flatMap b.ends
  | .either a b, s => a.ends s ++ b.ends s
  | .repeated least most few r, s =>
    repetitions r.ends few (s.rest.length + least + 1) least most s
  | .group number r, s => (r.ends s).map fun t => Spot.close number s t

/-- The first match at or after a place in a text. -/
def searchFrom (r : Regex) (before : Option Char) : Text → Option Spot
  | [] => (r.ends ⟨before, [], []⟩).head?
  | c :: rest => match (r.ends ⟨before, c :: rest, []⟩).head? with
    | some s => some s
    | none => searchFrom r (some c) rest

/-- The first match in a text: where it ends, with what its groups have matched. -/
def search (r : Regex) (t : Text) : Option Spot := r.searchFrom none t

/-- Whether a text has a match. -/
def occursIn (r : Regex) (t : Text) : Bool := (r.search t).isSome

/-- Whether an expression has a group of a number. -/
def hasGroup (number : Nat) : Regex → Bool
  | .group n r => n == number || r.hasGroup number
  | .seq a b | .either a b => a.hasGroup number || b.hasGroup number
  | .repeated _ _ _ r => r.hasGroup number
  | .empty | .one .. | .anchor _ => false

/-- What a group of a match has matched, if it took part. -/
def Spot.group? (s : Spot) (number : Nat) : Option Text := s.groups.lookup number

end Regex

end MessageCatalog
