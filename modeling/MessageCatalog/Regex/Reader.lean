import MessageCatalog.Regex.Basic

/-!
# Reading regular expressions

An expression is read from left to right by a machine with a stack of open groups. The syntax has
literal characters, the dot, sets in brackets, the escapes for classes, anchors and characters that
cannot be typed, groups with and without a number, names of groups, alternatives, and repetitions
that prefer many or few. An expression that looks around, refers back to a group or sets flags is
not read.
-/

namespace MessageCatalog.Regex

/-- A part of a sequence, and whether it can be repeated. -/
structure Item where
  regex : Regex
  repeatable : Bool := true

/-- An open group: its number, if it has one, its finished alternatives, and the items of the
alternative that is being read, the latest first. -/
structure Frame where
  number : Option Nat := none
  branches : List Regex := []
  items : List Item := []

namespace Frame

/-- Add an item. -/
def push (f : Frame) (item : Item) : Frame := { f with items := item :: f.items }

def sequence (f : Frame) : Regex :=
  match f.items with
  | [] => .empty
  | last :: earlier => earlier.foldl (fun r i => .seq i.regex r) last.regex

/-- Go on with the next alternative. -/
def alternative (f : Frame) : Frame :=
  { f with branches := f.branches ++ [f.sequence], items := [] }

/-- The expression of all alternatives. -/
def regex (f : Frame) : Regex :=
  let choice := f.branches.foldr Regex.either f.sequence
  match f.number with
  | some n => .group n choice
  | none => choice

end Frame

/-- The state of reading: the innermost open group, those around it, the number of groups so far,
and their names. -/
structure Reading where
  frame : Frame := {}
  outer : List Frame := []
  count : Nat := 0
  names : List Text := []

namespace Reading

/-- Add an item to the innermost group. -/
def push (s : Reading) (item : Item) : Reading := { s with frame := s.frame.push item }

def openGroup (s : Reading) (number : Option Nat) : Reading :=
  { s with frame := { number }, outer := s.frame :: s.outer }

def openNumbered (s : Reading) : Reading :=
  { s.openGroup (some (s.count + 1)) with count := s.count + 1 }

/-- Close the innermost group. -/
def close (s : Reading) : Option Reading :=
  match s.outer with
  | [] => none
  | f :: outer => some { s with frame := f.push { regex := s.frame.regex }, outer }

end Reading

/-! ### Sets and escapes -/

/-- The characters that letters after a backslash stand for. -/
def namedChar? : Char → Option Char
  | 'n' => some '\n'
  | 't' => some '\t'
  | 'r' => some '\r'
  | 'f' => some '\x0c'
  | 'v' => some '\x0b'
  | 'a' => some '\x07'
  | _ => none

/-- The classes that letters after a backslash stand for. -/
def namedClass? : Char → Option CharRange
  | 'd' => some .digit
  | 'D' => some (.but .digit)
  | 's' => some .blank
  | 'S' => some (.but .blank)
  | 'w' => some .word
  | 'W' => some (.but .word)
  | _ => none

/-- The anchors that letters after a backslash stand for. -/
def namedAnchor? : Char → Option Anchor
  | 'A' => some .start
  | 'Z' => some .ending
  | 'b' => some .boundary
  | 'B' => some .noBoundary
  | _ => none

/-- The character that a character after a backslash stands for. Letters and digits without a
meaning are not allowed. -/
def escapedChar? (c : Char) : Option Char :=
  match namedChar? c with
  | some d => some d
  | none => if c.isAlphanum then none else some c

/-- What a character after a backslash stands for outside of sets. -/
def escapedItem? (c : Char) : Option Item :=
  match namedClass? c, namedAnchor? c with
  | some r, _ => some { regex := .one false [r] }
  | none, some a => some { regex := .anchor a, repeatable := false }
  | none, none => (escapedChar? c).map fun d => { regex := .one false [.char d] }

/-- A member of a set: a single character, or a class. -/
def setMember? : Text → Option ((Char ⊕ CharRange) × Text)
  | '\\' :: c :: rest => match namedClass? c with
    | some r => some (.inr r, rest)
    | none => if c = 'b' then some (.inl '\x08', rest)
      else (escapedChar? c).map fun d => (.inl d, rest)
  | '\\' :: [] => none
  | c :: rest => some (.inl c, rest)
  | [] => none

/-- The range of a member on its own. -/
def memberRange : Char ⊕ CharRange → CharRange
  | .inl c => .char c
  | .inr r => r

/-- The members of a set up to its closing bracket, which is a member itself where it comes
first. -/
def setMembers : Nat → List CharRange → Text → Option (List CharRange × Text)
  | 0, _, _ => none
  | fuel + 1, found, t =>
    if t.head? = some ']' && !found.isEmpty then some (found.reverse, t.tail)
    else match setMember? t with
      | none => none
      | some (a, '-' :: ']' :: rest) =>
        some ((CharRange.char '-' :: memberRange a :: found).reverse, rest)
      | some (a, '-' :: rest) => match a, setMember? rest with
        | .inl first, some (.inl last, rest) =>
          if first.toNat ≤ last.toNat then
            setMembers fuel (.codes first.toNat last.toNat :: found) rest
          else none
        | _, _ => none
      | some (a, rest) => setMembers fuel (memberRange a :: found) rest

/-- A set whose opening bracket has been read. -/
def set? (t : Text) : Option (Regex × Text) :=
  let negated := t.head? = some '^'
  let body := if negated then t.tail else t
  (setMembers (body.length + 1) [] body).map fun (ranges, rest) => (.one negated ranges, rest)

/-! ### Repetitions -/

/-- The number at the start of a text, if there is one. -/
def count? (t : Text) : Option Nat × Text :=
  let digits := t.takeWhile Char.isDigit
  let value := digits.foldl (fun n c => 10 * n + (c.toNat - '0'.toNat)) 0
  (if digits.isEmpty then none else some value, t.drop digits.length)

/-- The bounds between braces, the first of which has been read; braces with anything else between
them are plain characters. -/
def bounds? (t : Text) : Option ((Nat × Option Nat) × Text) :=
  let (least, afterLeast) := count? t
  match afterLeast with
  | ',' :: rest => match count? rest with
    | (most, '\x7d' :: rest) => some ((least.getD 0, most), rest)
    | _ => none
  | '\x7d' :: rest => least.map fun n => ((n, some n), rest)
  | _ => none

/-- The bounds of a repetition that a character begins. -/
def repetition? (c : Char) (rest : Text) : Option ((Nat × Option Nat) × Text) :=
  match c with
  | '*' => some ((0, none), rest)
  | '+' => some ((1, none), rest)
  | '?' => some ((0, some 1), rest)
  | '\x7b' => bounds? rest
  | _ => none

/-- Repeat the latest item. -/
def Reading.repeatLast (s : Reading) (least : Nat) (most : Option Nat) (rest : Text) :
    Option (Reading × Text) :=
  if most.any (· < least) then none
  else match s.frame.items with
    | [] => none
    | item :: items =>
      if !item.repeatable then none
      else
        let few := rest.head? = some '?'
        let again : Item := { regex := .repeated least most few item.regex, repeatable := false }
        some ({ s with frame := { s.frame with items := again :: items } },
          if few then rest.tail else rest)

/-! ### Groups -/

def isGroupName : Text → Bool
  | [] => false
  | c :: rest => Text.isNameStart c && rest.all Text.isNameContinue

/-- Open a group whose parenthesis has been read. -/
def Reading.opened (s : Reading) : Text → Option (Reading × Text)
  | '?' :: ':' :: rest => some (s.openGroup none, rest)
  | '?' :: 'P' :: '<' :: rest => match Text.cutFirst '>' rest with
    | some (name, rest) =>
      if isGroupName name && !s.names.contains name then
        some ({ s.openNumbered with names := name :: s.names }, rest)
      else none
    | none => none
  | '?' :: _ => none
  | rest => some (s.openNumbered, rest)

/-! ### Whole expressions -/

/-- One step: what a character and those after it mean. -/
def step (s : Reading) (c : Char) (rest : Text) : Option (Reading × Text) :=
  match repetition? c rest with
  | some ((least, most), rest) => s.repeatLast least most rest
  | none => match c with
    | '(' => s.opened rest
    | ')' => s.close.map (·, rest)
    | '|' => some ({ s with frame := s.frame.alternative }, rest)
    | '[' => (set? rest).map fun (r, rest) => (s.push { regex := r }, rest)
    | '.' => some (s.push { regex := .one true [.char '\n'] }, rest)
    | '^' => some (s.push { regex := .anchor .start, repeatable := false }, rest)
    | '$' => some (s.push { regex := .anchor .finish, repeatable := false }, rest)
    | '\\' => match rest with
      | d :: rest => (escapedItem? d).map fun item => (s.push item, rest)
      | [] => none
    | c => some (s.push { regex := .one false [.char c] }, rest)

/-- Take steps up to the end of the text. Every step takes a character at least. -/
def run : Nat → Reading → Text → Option Reading
  | _, s, [] => some s
  | 0, _, _ => none
  | fuel + 1, s, c :: rest => (step s c rest).bind fun (s, rest) => run fuel s rest

/-- Read an expression; nothing if it is malformed or of a form that is not read. -/
def ofText? (t : Text) : Option Regex :=
  (run t.length {} t).bind fun s => if s.outer.isEmpty then some s.frame.regex else none

end MessageCatalog.Regex
