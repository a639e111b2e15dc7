import MessageCatalog.Text.Basic

/-!
# Notices

Lines that tell the user what is going on, each with the colour it is shown in, if any.
-/

namespace MessageCatalog

/-- The colours of notices. -/
inductive Colour where
  | blue | green | yellow | red | cyan
  deriving DecidableEq, Repr

def Colour.name : Colour → Text
  | .blue => "blue"
  | .green => "green"
  | .yellow => "yellow"
  | .red => "red"
  | .cyan => "cyan"

/-- A line for the user. -/
structure Notice where
  text : Text
  colour : Option Colour := none
  deriving DecidableEq, Inhabited

namespace Notice

/-- Whether a text begins with a sequence that sets colours on a terminal. -/
def beginsStyle : Text → Bool
  | '\x1b' :: '[' :: rest =>
    ((rest.dropWhile fun c => c = ';' || c = '?' || c.isDigit).head?.map Char.isAlpha).getD false
  | _ => false

/-- Leave out the sequences that set colours; `inside` tells whether the text begins inside of
one, which its first letter ends. -/
def plainFrom (inside : Bool) : Text → Text
  | [] => []
  | c :: rest =>
    if inside then plainFrom (!c.isAlpha) rest
    else if beginsStyle (c :: rest) then plainFrom true rest
    else c :: plainFrom false rest

/-- The text without the sequences that set colours. -/
def plain (t : Text) : Text := plainFrom false t

/-- The text of a line as it is printed where there are no colours. -/
def plainText (n : Notice) : Text := plain n.text

end Notice

end MessageCatalog
