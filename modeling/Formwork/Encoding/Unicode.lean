import Formwork.Encoding.Basic

/-!
# UTF-8 and UTF-16

Both encodings spread a character over several units.  A decoder reads unit by unit and keeps
the sequence under way; it refuses the first unit that cannot continue it, so the bytes at fault
are those of the sequence so far.
-/

namespace Formwork.Encoding

/-! ## UTF-8 -/

/-- A sequence under way: where it began and with which byte, the bits gathered, how many bytes
are still to come, and the bounds of the next one. -/
structure Pending where
  start : Nat
  lead : UInt8
  bits : Nat
  remaining : Nat
  low : UInt8
  high : UInt8
  deriving Repr, DecidableEq

/-- The sequence that a byte above the ASCII range begins.  The bounds of the second byte keep out
spellings that are longer than need be, the halves of UTF-16 pairs, and numbers that are too
large. -/
def Pending.ofLead? (offset : Nat) (b : UInt8) : Option Pending :=
  if b < 0xc2 then none
  else if b < 0xe0 then some ⟨offset, b, b.toNat - 0xc0, 1, 0x80, 0xbf⟩
  else if b < 0xf0 then
    some ⟨offset, b, b.toNat - 0xe0, 2, if b = 0xe0 then 0xa0 else 0x80,
      if b = 0xed then 0x9f else 0xbf⟩
  else if b < 0xf5 then
    some ⟨offset, b, b.toNat - 0xf0, 3, if b = 0xf0 then 0x90 else 0x80,
      if b = 0xf4 then 0x8f else 0xbf⟩
  else none

/-- The bits with those of one more byte. -/
def Pending.extend (p : Pending) (b : UInt8) : Nat := p.bits * 64 + (b.toNat - 0x80)

/-- Decodes UTF-8 from an offset on, with the sequence under way. -/
def decodeUtf8From (pending : Option Pending) (offset : Nat) :
    Bytes → Except CodingError Text
  | [] =>
    match pending with
    | none => .ok []
    | some p =>
      .error (.undecodable "utf-8" p.lead p.start (offset - 1) "unexpected end of data")
  | b :: r =>
    match pending with
    | none =>
      if b < 0x80 then (decodeUtf8From none (offset + 1) r).map (Char.ofNat b.toNat :: ·)
      else
        match Pending.ofLead? offset b with
        | none => .error (.undecodable "utf-8" b offset offset "invalid start byte")
        | some p => decodeUtf8From (some p) (offset + 1) r
    | some p =>
      if p.low ≤ b && b ≤ p.high then
        if p.remaining ≤ 1 then
          (decodeUtf8From none (offset + 1) r).map (Char.ofNat (p.extend b) :: ·)
        else
          decodeUtf8From (some ⟨p.start, p.lead, p.extend b, p.remaining - 1, 0x80, 0xbf⟩)
            (offset + 1) r
      else
        .error (.undecodable "utf-8" p.lead p.start (offset - 1) "invalid continuation byte")

def decodeUtf8 (bytes : Bytes) : Except CodingError Text := decodeUtf8From none 0 bytes

def encodeUtf8 (s : Text) : Bytes := s.flatMap String.utf8EncodeChar

def utf8Mark : Bytes := [0xef, 0xbb, 0xbf]

/-- Decodes UTF-8 after a mark, which may be absent.  Bytes that only begin a mark stand for
nothing, and positions count from behind the mark. -/
def decodeUtf8Sig (bytes : Bytes) : Except CodingError Text :=
  if bytes.length < 3 && bytes.isPrefixOf utf8Mark then .ok []
  else if utf8Mark.isPrefixOf bytes then decodeUtf8 (bytes.drop 3)
  else decodeUtf8 bytes

/-! ## UTF-16 -/

/-- Which of the two bytes of a unit comes first. -/
inductive ByteOrder where
  | little
  | big
  deriving Repr, DecidableEq

namespace ByteOrder

/-- The name under which errors are reported. -/
def codec : ByteOrder → Text
  | little => "utf-16-le"
  | big => "utf-16-be"

def unit : ByteOrder → UInt8 → UInt8 → Nat
  | little, a, b => a.toNat + 256 * b.toNat
  | big, a, b => 256 * a.toNat + b.toNat

def bytes : ByteOrder → Nat → Bytes
  | little, n => [UInt8.ofNat (n % 256), UInt8.ofNat (n / 256)]
  | big, n => [UInt8.ofNat (n / 256), UInt8.ofNat (n % 256)]

def mark (order : ByteOrder) : Bytes := order.bytes 0xfeff

end ByteOrder

/-- Whether a unit is the first half of a pair. -/
def isHighHalf (n : Nat) : Bool := 0xd800 ≤ n && n < 0xdc00

/-- Whether a unit is the second half of a pair. -/
def isLowHalf (n : Nat) : Bool := 0xdc00 ≤ n && n < 0xe000

/-- Decodes UTF-16 from an offset on.  `high` is the first half of a pair with its offset and its
first byte. -/
def decodeUtf16From (order : ByteOrder) (high : Option (Nat × Nat × UInt8)) (offset : Nat) :
    Bytes → Except CodingError Text
  | [] =>
    match high with
    | none => .ok []
    | some (_, start, lead) =>
      .error (.undecodable order.codec lead start (offset - 1) "unexpected end of data")
  | [a] =>
    match high with
    | none => .error (.undecodable order.codec a offset offset "truncated data")
    | some (_, start, lead) =>
      .error (.undecodable order.codec lead start offset "unexpected end of data")
  | a :: b :: r =>
    let n := order.unit a b
    match high with
    | none =>
      if isHighHalf n then decodeUtf16From order (some (n, offset, a)) (offset + 2) r
      else if isLowHalf n then
        .error (.undecodable order.codec a offset (offset + 1) "illegal encoding")
      else (decodeUtf16From order none (offset + 2) r).map (Char.ofNat n :: ·)
    | some (h, start, lead) =>
      if isLowHalf n then
        (decodeUtf16From order none (offset + 2) r).map
          (Char.ofNat (0x10000 + (h - 0xd800) * 0x400 + (n - 0xdc00)) :: ·)
      else
        .error (.undecodable order.codec lead start (start + 1) "illegal UTF-16 surrogate")

/-- Decodes UTF-16 in a known byte order. -/
def decodeUtf16In (order : ByteOrder) (bytes : Bytes) : Except CodingError Text :=
  decodeUtf16From order none 0 bytes

def utf16Units (c : Char) : List Nat :=
  if c.toNat < 0x10000 then [c.toNat]
  else [0xd800 + (c.toNat - 0x10000) / 0x400, 0xdc00 + (c.toNat - 0x10000) % 0x400]

def encodeUtf16In (order : ByteOrder) (s : Text) : Bytes :=
  s.flatMap fun c => (utf16Units c).flatMap order.bytes

/-- Decodes UTF-16 after a mark.  Bytes without one are read in the little-endian order first, so
that what is wrong with them is reported before the absence of the mark. -/
def decodeUtf16 (bytes : Bytes) : Except CodingError Text :=
  if (ByteOrder.mark .little).isPrefixOf bytes then
    decodeUtf16From .little none 2 (bytes.drop 2)
  else if (ByteOrder.mark .big).isPrefixOf bytes then
    decodeUtf16From .big none 2 (bytes.drop 2)
  else do
    let s ← decodeUtf16In .little bytes
    if bytes.isEmpty then return s else throw .noByteOrderMark

end Formwork.Encoding
