import Formwork.Encoding.Basic

/-!
# Encodings with one byte to a character

ASCII, Latin-1 and code page 1252 give each of their characters one byte.  Latin-1 numbers its
characters as Unicode does; code page 1252 differs from it in the thirty-two places from 128 on,
five of which it leaves empty.
-/

namespace Formwork.Encoding

/-- The characters of code page 1252 from number 128 on; zero marks an empty place. -/
def cp1252Upper : List Nat :=
  [0x20ac, 0, 0x201a, 0x192, 0x201e, 0x2026, 0x2020, 0x2021, 0x2c6, 0x2030, 0x160, 0x2039, 0x152,
  0, 0x17d, 0, 0, 0x2018, 0x2019, 0x201c, 0x201d, 0x2022, 0x2013, 0x2014, 0x2dc, 0x2122, 0x161,
  0x203a, 0x153, 0, 0x17e, 0x178]

/-- The character of a byte in code page 1252. -/
def cp1252Char? (b : UInt8) : Option Char :=
  if b < 0x80 || 0xa0 ≤ b then some (Char.ofNat b.toNat)
  else
    match cp1252Upper[b.toNat - 0x80]? with
    | some n => if n == 0 then none else some (Char.ofNat n)
    | none => none

def cp1252Byte? (c : Char) : Option UInt8 :=
  if c.toNat < 0x80 || (0xa0 ≤ c.toNat && c.toNat < 0x100) then some (UInt8.ofNat c.toNat)
  else if c.toNat < 0x100 then none
  else (cp1252Upper.findIdx? (· == c.toNat)).map fun i => UInt8.ofNat (0x80 + i)

/-- The character of a byte, where the first `limit` characters of Unicode have one. -/
def lowChar? (limit : Nat) (b : UInt8) : Option Char :=
  if b.toNat < limit then some (Char.ofNat b.toNat) else none

/-- The byte of a character, where the first `limit` characters of Unicode have one. -/
def lowByte? (limit : Nat) (c : Char) : Option UInt8 :=
  if c.toNat < limit then some (UInt8.ofNat c.toNat) else none

/-- Decodes byte by byte; the first byte without a character is at fault. -/
def decodeBytes (char? : UInt8 → Option Char) (codec reason : Text) (offset : Nat) :
    Bytes → Except CodingError Text
  | [] => .ok []
  | b :: r =>
    match char? b with
    | some c => (decodeBytes char? codec reason (offset + 1) r).map (c :: ·)
    | none => .error (.undecodable codec b offset offset reason)

/-- Encodes character by character; the first run of characters without a byte is at fault. -/
def encodeChars (byte? : Char → Option UInt8) (codec reason : Text) (offset : Nat) :
    Text → Except CodingError Bytes
  | [] => .ok []
  | c :: r =>
    match byte? c with
    | some b => (encodeChars byte? codec reason (offset + 1) r).map (b :: ·)
    | none =>
      let run := (r.takeWhile fun d => (byte? d).isNone).length
      .error (.unencodable codec c offset (offset + run) reason)

end Formwork.Encoding
