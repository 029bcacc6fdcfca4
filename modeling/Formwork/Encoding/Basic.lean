import Formwork.Text.Quoted

/-!
# Encodings by name

Files hold bytes, and an encoding says which text they stand for.  An encoding is selected by a
name, and names are spelled freely: case does not matter, and neither does what separates the
letters and digits of a name, so `UTF-8`, `utf_8` and ` utf 8 ` are one name.  Each encoding has a
few names.

Coding fails in a few ways, gathered in `CodingError`, each with the stretch of bytes or
characters at fault.
-/

namespace Formwork

/-- A sequence of bytes. -/
abbrev Bytes := List UInt8

/-- The encodings of files. -/
inductive Encoding where
  | ascii
  | latin1
  | cp1252
  | utf8
  /-- UTF-8 with a byte order mark in front. -/
  | utf8Sig
  /-- UTF-16 with a byte order mark in front. -/
  | utf16
  | utf16le
  | utf16be
  deriving Repr, DecidableEq

namespace Encoding

/-! ## Names -/

/-- Whether a character counts in the name of an encoding: an ASCII letter or digit, or a point. -/
def isNameChar (c : Char) : Bool := c.isAlphanum || c == '.'

/-- A name in its plain spelling: the words in small letters with an underscore between them. -/
def plainName (name : Text) : Text :=
  List.intercalate ['_'] ((Text.words (fun c => !isNameChar c) name).map fun w =>
    w.map Char.toLower)

/-- The plain names under which each encoding is known. -/
def knownNames : List (Encoding × List String) :=
  [(ascii, ["ascii", "646", "ansi_x3.4_1968", "ansi_x3_4_1968", "ansi_x3.4_1986", "cp367",
      "csascii", "ibm367", "iso646_us", "iso_646.irv_1991", "iso_ir_6", "us", "us_ascii"]),
    (latin1, ["latin_1", "8859", "cp819", "csisolatin1", "ibm819", "iso8859", "iso8859_1",
      "iso_8859_1", "iso_8859_1_1987", "iso_ir_100", "l1", "latin", "latin1"]),
    (cp1252, ["cp1252", "1252", "windows_1252"]),
    (utf8, ["utf_8", "u8", "utf", "utf8", "utf8_ucs2", "utf8_ucs4", "cp65001"]),
    (utf8Sig, ["utf_8_sig"]),
    (utf16, ["utf_16", "u16", "utf16"]),
    (utf16le, ["utf_16_le", "unicodelittleunmarked", "utf_16le"]),
    (utf16be, ["utf_16_be", "unicodebigunmarked", "utf_16be"])]

/-- The other names of an encoding: all but the first one listed. -/
def isAlias (names : List String) (name : Text) : Bool :=
  names.tail.any fun n => n.toList == name

/-- Whether one of the names is meant.  In a name other than the first a point may stand for an
underscore. -/
def isMeant (names : List String) (name : Text) : Bool :=
  names.any (fun n => n.toList == name)
    || isAlias names (name.map fun c => if c = '.' then '_' else c)

/-- Why a name selects no encoding. -/
inductive NameError where
  | unknown (name : Text)
  /-- A name cannot hold the null character. -/
  | nullCharacter
  /-- What goes by this name does not stand between bytes and texts. -/
  | notText (name : Text)
  deriving Repr, DecidableEq

def NameError.message : NameError → Text
  | unknown name => "unknown encoding: " ++ name
  | nullCharacter => "embedded null character"
  | notText name =>
    "'" ++ name ++ "' is not a text encoding; use codecs.open() to handle arbitrary codecs"

def ofName (name : Text) : Except NameError Encoding :=
  if name.contains '\x00' then .error .nullCharacter
  else
    match knownNames.find? fun e => isMeant e.2 (plainName name) with
    | some (encoding, _) => .ok encoding
    | none => .error (.unknown name)

end Encoding

/-! ## Errors -/

/-- Why bytes stand for no text, or a text has no bytes.  Positions count from zero, and `last`
is the last one at fault. -/
inductive CodingError where
  | undecodable (codec : Text) (byte : UInt8) (first last : Nat) (reason : Text)
  | unencodable (codec : Text) (char : Char) (first last : Nat) (reason : Text)
  /-- UTF-16 without the mark that tells the order of its bytes. -/
  | noByteOrderMark
  deriving Repr, DecidableEq

def CodingError.message : CodingError → Text
  | undecodable codec byte first last reason =>
    "'" ++ codec ++ "' codec can't decode "
      ++ (if first = last then
          "byte 0x" ++ Text.hexDigits 2 byte.toNat ++ " in position " ++ Nat.toDigits 10 first
        else
          "bytes in position " ++ Nat.toDigits 10 first ++ "-" ++ Nat.toDigits 10 last)
      ++ ": " ++ reason
  | unencodable codec char first last reason =>
    "'" ++ codec ++ "' codec can't encode "
      ++ (if first = last then
          "character '" ++ Text.numbered char ++ "' in position " ++ Nat.toDigits 10 first
        else
          "characters in position " ++ Nat.toDigits 10 first ++ "-" ++ Nat.toDigits 10 last)
      ++ ": " ++ reason
  | noByteOrderMark => "UTF-16 stream does not start with BOM"

end Formwork
