import MessageCatalog.Text.Charset

/-!
# Codecs

A codec reads the bytes of a source file as a text. Which codecs there are is a matter of the
surroundings of a run. The codecs of this module are those of the charsets, and the one that reads
two bytes at a time and asks for a mark that tells their order.
-/

namespace MessageCatalog

/-- Why a codec does not read bytes. -/
inductive CodecFault where
  /-- Some of the bytes stand for no character. -/
  | bytes
  /-- The bytes could be read, but what they are as a whole is no text of the codec: a mark is
  missing that has to be there, or there is half a character. -/
  | form
  deriving DecidableEq, Repr

/-- A way to read bytes as a text. -/
structure Codec where
  decode : ByteArray → Except CodecFault Text

/-- The failure to read a text with the codec of a name. -/
def CodecFault.failure (name : Text) : CodecFault → Failure
  | .bytes => .undecodable name
  | .form => .malformed name

namespace Codec

def ofCharset (cs : Charset) : Codec where
  decode bytes := match cs.decode bytes with
    | some t => .ok t
    | none => .error .bytes

/-! ### Two bytes at a time -/

/-- The numbers that pairs of bytes stand for, given how a pair is read. -/
def units? (number : Nat → Nat → Nat) : List UInt8 → Option (List Nat)
  | [] => some []
  | [_] => none
  | a :: b :: rest => (units? number rest).map (number a.toNat b.toNat :: ·)

/-- The text of code units: a character beyond the first plane is a high half and a low half. -/
def textOfUnits? : List Nat → Option Text
  | [] => some []
  | unit :: rest =>
    if unit < 0xd800 ∨ 0xe000 ≤ unit then (textOfUnits? rest).map (Char.ofNat unit :: ·)
    else match rest with
      | [] => none
      | low :: rest =>
        if unit < 0xdc00 ∧ 0xdc00 ≤ low ∧ low < 0xe000 then
          (textOfUnits? rest).map
            (Char.ofNat (0x10000 + (unit - 0xd800) * 0x400 + (low - 0xdc00)) :: ·)
        else none

def littleEndian (a b : Nat) : Nat := b * 0x100 + a

def bigEndian (a b : Nat) : Nat := a * 0x100 + b

/-- The text of pairs of bytes, given how a pair is read. -/
def textOfPairs? (number : Nat → Nat → Nat) (bytes : List UInt8) : Option Text :=
  (units? number bytes).bind textOfUnits?

/-- UTF-16 with a mark at the start. Bytes without the mark are looked at as if it were that of the
usual order, and only then found to be no such text. -/
def utf16 : Codec where
  decode bytes :=
    let read (t : Option Text) : Except CodecFault Text := t.elim (.error .bytes) .ok
    match bytes.toList with
    | [] => .ok []
    | 0xff :: 0xfe :: rest => read (textOfPairs? littleEndian rest)
    | 0xfe :: 0xff :: rest => read (textOfPairs? bigEndian rest)
    | unmarked => match textOfPairs? littleEndian unmarked with
      | some _ => .error .form
      | none => .error .bytes

/-! ### Names -/

def utf16Names : List Text := ["utf_16", "u16", "utf16"]

/-- The codec of a name. -/
def ofName? (name : Text) : Option Codec :=
  if utf16Names.contains (Charset.plainName name) then some utf16
  else (Charset.ofName name).toOption.map ofCharset

/-- Bytes without a mark are not read, although they could be. -/
example : (utf16.decode "_('x')".toByteArray).toOption = none ∧
    textOfPairs? littleEndian "_('x')".toByteArray.toList ≠ none := by
  decide +kernel

end Codec

end MessageCatalog
