import Formwork.Text.Basic

/-!
# Blank characters and digits

The characters that count as space: the ASCII controls that move the cursor, the four ASCII
separators, and the Unicode spaces and line separators.  A text is *stripped* by trimming them,
and it is blank when nothing else is in it.

Many scripts have ten digits of their own, which stand one after the other from zero to nine.  A
number may be written with any of them.  `plainDigits` writes a text with the usual ten, and with
the usual space for every blank character outside ASCII.
-/

namespace Formwork.Text

/-- The closed ranges of blank characters. -/
def blankRanges : List (Nat × Nat) :=
  [(0x9, 0xd), (0x1c, 0x20), (0x85, 0x85), (0xa0, 0xa0), (0x1680, 0x1680), (0x2000, 0x200a),
  (0x2028, 0x2029), (0x202f, 0x202f), (0x205f, 0x205f), (0x3000, 0x3000)]

def isBlank (c : Char) : Bool :=
  blankRanges.any fun r => r.1 ≤ c.toNat && c.toNat ≤ r.2

/-- The text without the blank characters at its two ends. -/
def strip (s : Text) : Text := trim isBlank s

def allBlank (s : Text) : Bool := s.all isBlank

@[simp] theorem strip_nil : strip [] = [] := rfl

/-! ## Decimal digits -/

/-- The numbers of the digits zero. -/
def zeros : List Nat :=
  [0x30, 0x660, 0x6f0, 0x7c0, 0x966, 0x9e6, 0xa66, 0xae6, 0xb66, 0xbe6, 0xc66, 0xce6, 0xd66,
  0xde6, 0xe50, 0xed0, 0xf20, 0x1040, 0x1090, 0x17e0, 0x1810, 0x1946, 0x19d0, 0x1a80, 0x1a90,
  0x1b50, 0x1bb0, 0x1c40, 0x1c50, 0xa620, 0xa8d0, 0xa900, 0xa9d0, 0xa9f0, 0xaa50, 0xabf0,
  0xff10, 0x104a0, 0x10d30, 0x11066, 0x110f0, 0x11136, 0x111d0, 0x112f0, 0x11450, 0x114d0,
  0x11650, 0x116c0, 0x11730, 0x118e0, 0x11950, 0x11c50, 0x11d50, 0x11da0, 0x16a60, 0x16ac0,
  0x16b50, 0x1d7ce, 0x1d7d8, 0x1d7e2, 0x1d7ec, 0x1d7f6, 0x1e140, 0x1e2f0, 0x1e950, 0x1fbf0]

/-- The value of a decimal digit of any script. -/
def digitValue? (c : Char) : Option Nat :=
  (zeros.find? fun z => z ≤ c.toNat && c.toNat < z + 10).map fun z => c.toNat - z

/-- The text with the digits and the space of ASCII for those outside it. -/
def plainDigits (s : Text) : Text :=
  s.map fun c =>
    if c.toNat < 0x80 then c
    else if isBlank c then ' '
    else
      match digitValue? c with
      | some d => Char.ofNat (0x30 + d)
      | none => c

end Formwork.Text
