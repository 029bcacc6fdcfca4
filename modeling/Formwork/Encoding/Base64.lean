import Formwork.Encoding.Basic

/-!
# Base 64

Bytes as a text of letters, digits, plus signs and slashes, each of which stands for six bits.
Reading is lenient: characters outside the alphabet are skipped, and reading ends with the equals
signs that complete a group of four.  Only a text that stops within a group is refused.
-/

namespace Formwork.Base64

/-- The six bits that a character stands for. -/
def value? (c : Char) : Option Nat :=
  if 'A' ≤ c && c ≤ 'Z' then some (c.toNat - 65)
  else if 'a' ≤ c && c ≤ 'z' then some (c.toNat - 71)
  else if '0' ≤ c && c ≤ '9' then some (c.toNat + 4)
  else if c == '+' then some 62
  else if c == '/' then some 63
  else none

/-- The bytes of a text, from a place within a group on.  `place` characters of the group have
been read, `left` are the bits of them that no byte holds yet, and `pads` equals signs follow. -/
def decodeFrom (place left pads : Nat) : Text → Option Bytes
  | [] => if place == 0 then some [] else none
  | c :: r =>
    if c == '=' then
      if place < 2 then decodeFrom place left pads r
      else if 4 ≤ place + pads + 1 then some []
      else decodeFrom place left (pads + 1) r
    else
      match value? c with
      | none => decodeFrom place left pads r
      | some v =>
        match place with
        | 0 => decodeFrom 1 v 0 r
        | 1 => (decodeFrom 2 (v % 16) 0 r).map (UInt8.ofNat (4 * left + v / 16) :: ·)
        | 2 => (decodeFrom 3 (v % 4) 0 r).map (UInt8.ofNat (16 * left + v / 4) :: ·)
        | _ => (decodeFrom 0 0 0 r).map (UInt8.ofNat (64 * left + v) :: ·)

def decode (s : Text) : Option Bytes := decodeFrom 0 0 0 s

end Formwork.Base64
