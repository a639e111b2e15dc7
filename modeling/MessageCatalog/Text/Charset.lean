import MessageCatalog.Text.Basic
import MessageCatalog.Failure

/-!
# Charsets

The charsets that texts are stored in. Reading and writing are strict: bytes that stand for no
character and characters that have no bytes are failures.

Catalog files are kept in one of five charsets, and every other name is an unknown charset here,
even if elsewhere there is a charset of that name. Source files can be read with any codec of the
session: see `MessageCatalog.Text.Codec`.
-/

namespace MessageCatalog

/-- A charset: one of the five that catalog files are kept in. -/
inductive Charset where
  | utf8
  | ascii
  | latin1
  | latin9
  | windows1252
  deriving DecidableEq, Repr

namespace Charset

/-! ### Names -/

/-- Whether a character of a charset name counts when names are compared. -/
def isNameChar (c : Char) : Bool :=
  let n := c.toNat
  (0x30 ≤ n && n ≤ 0x39) || (0x41 ≤ n && n ≤ 0x5a) || (0x61 ≤ n && n ≤ 0x7a) || c = '.'

/-- A charset name in small letters, with one low line for all that stands between its parts. -/
def plainName (name : Text) : Text :=
  let marked := name.map fun c =>
    if isNameChar c then (if 0x41 ≤ c.toNat ∧ c.toNat ≤ 0x5a then Char.ofNat (c.toNat + 32) else c)
    else ' '
  Text.join "_" (Text.words marked)

/-- The known names of a charset, in plain form. -/
def names : Charset → List Text
  | .utf8 => ["utf_8", "utf8", "utf", "u8", "utf8_ucs2", "utf8_ucs4", "cp65001"]
  | .ascii =>
    ["ascii", "us_ascii", "us", "646", "ansi_x3.4_1968", "ansi_x3.4_1986", "ansi_x3_4_1968", "cp367",
      "csascii", "ibm367", "iso646_us", "iso_646.irv_1991", "iso_ir_6"]
  | .latin1 =>
    ["latin_1", "latin1", "iso_8859_1", "iso8859_1", "8859", "cp819", "csisolatin1", "ibm819",
      "iso8859", "iso_8859_1_1987", "iso_ir_100", "l1", "latin"]
  | .latin9 => ["iso8859_15", "iso_8859_15", "l9", "latin9"]
  | .windows1252 => ["cp1252", "1252", "windows_1252"]

def all : List Charset := [.utf8, .ascii, .latin1, .latin9, .windows1252]

/-- The charset of a name; one that is not among the five is unknown. -/
def ofName (name : Text) : Except Failure Charset :=
  match all.find? fun cs => cs.names.contains (plainName name) with
  | some cs => .ok cs
  | none => .error (.unknownCharset name)

/-! ### Single bytes -/

/-- The bytes of a single-byte charset that do not stand for the code point of the same number,
with the code point they stand for, if there is one. -/
def exceptions : Charset → List (Nat × Option Nat)
  | .latin9 =>
    [(0xa4, some 0x20ac), (0xa6, some 0x160), (0xa8, some 0x161), (0xb4, some 0x17d),
      (0xb8, some 0x17e), (0xbc, some 0x152), (0xbd, some 0x153), (0xbe, some 0x178)]
  | .windows1252 =>
    [(0x80, some 0x20ac), (0x81, none), (0x82, some 0x201a), (0x83, some 0x192),
      (0x84, some 0x201e), (0x85, some 0x2026), (0x86, some 0x2020), (0x87, some 0x2021),
      (0x88, some 0x2c6), (0x89, some 0x2030), (0x8a, some 0x160), (0x8b, some 0x2039),
      (0x8c, some 0x152), (0x8d, none), (0x8e, some 0x17d), (0x8f, none), (0x90, none),
      (0x91, some 0x2018), (0x92, some 0x2019), (0x93, some 0x201c), (0x94, some 0x201d),
      (0x95, some 0x2022), (0x96, some 0x2013), (0x97, some 0x2014), (0x98, some 0x2dc),
      (0x99, some 0x2122), (0x9a, some 0x161), (0x9b, some 0x203a), (0x9c, some 0x153),
      (0x9d, none), (0x9e, some 0x17e), (0x9f, some 0x178)]
  | _ => []

/-- One more than the greatest byte of a charset. -/
def byteBound : Charset → Nat
  | .ascii => 0x80
  | _ => 0x100

def charOf? (cs : Charset) (byte : Nat) : Option Char :=
  match cs.exceptions.lookup byte with
  | some code => code.map Char.ofNat
  | none => if byte < cs.byteBound then some (Char.ofNat byte) else none

def byteOf? (cs : Charset) (c : Char) : Option UInt8 :=
  match cs.exceptions.find? fun e => e.2 = some c.toNat with
  | some e => some e.1.toUInt8
  | none =>
    if c.toNat < cs.byteBound ∧ (cs.exceptions.lookup c.toNat).isNone then some c.toNat.toUInt8
    else none

/-! ### Texts -/

/-- The text that bytes stand for. -/
def decode (cs : Charset) (bytes : ByteArray) : Option Text :=
  match cs with
  | .utf8 => bytes.utf8Decode?.map (·.toList)
  | cs => bytes.toList.mapM fun b => cs.charOf? b.toNat

/-- The bytes of a text. -/
def encode (cs : Charset) (t : Text) : Option ByteArray :=
  match cs with
  | .utf8 => some (String.ofList t).toByteArray
  | cs => (t.mapM cs.byteOf?).map fun bytes => ⟨bytes.toArray⟩

/-- Every text can be stored in UTF-8, and reading gives it back. -/
theorem decode_encode_utf8 (t : Text) : (encode .utf8 t).bind (decode .utf8) = some t := by
  simp [encode, decode]

/-- Read bytes in the charset of a name. Without bytes the name is not looked at. -/
def decodeNamed (name : Text) (bytes : ByteArray) : Except Failure Text :=
  if bytes.isEmpty then .ok []
  else do
    let cs ← ofName name
    match cs.decode bytes with
    | some t => return t
    | none => .error (.undecodable name)

def encodeNamed (name : Text) (t : Text) : Except Failure ByteArray := do
  let cs ← ofName name
  match cs.encode t with
  | some bytes => return bytes
  | none => .error (.unencodable name)

end Charset

end MessageCatalog
