/-!
# Double-precision numbers

A finite double is a sign, a significand below `2 ^ 53` and a power of two; two infinities and
one value that is no number stand beside them.  The exact data are kept, not a machine word, so
every operation is a computation on natural numbers: form the exact result as a ratio, then
round it once.

Rounding goes to the nearest double, and of two equally near ones to that with the even
significand.  The significand of a rounded number is at least `2 ^ 52`, unless the exponent is
already the least one, `-1074`; so a number has one form.
-/

namespace Formwork

/-- A double: `significand * 2 ^ exponent` with a sign, an infinity, or no number. -/
inductive Double where
  | finite (negative : Bool) (significand : Nat) (exponent : Int)
  | infinite (negative : Bool)
  | nan
  deriving Repr, DecidableEq

namespace Double

/-- The least exponent of a double. -/
def minExponent : Int := -1074

def zero (negative : Bool) : Double := finite negative 0 minExponent

/-- A ratio `num / den` times two to a power, as a ratio. -/
def scale (num den : Nat) (power : Int) : Nat × Nat :=
  if 0 ≤ power then (num * Nat.pow 2 power.toNat, den)
  else (num, den * Nat.pow 2 (-power).toNat)

/-- The nearest integer to a ratio; halfway between two it is the even one. -/
def roundEven (num den : Nat) : Nat :=
  let q := num / den
  let twice := 2 * (num % den)
  if den < twice || (twice == den && q % 2 == 1) then q + 1 else q

/-- The exponent that gives the ratio a significand of 53 binary digits. -/
def exponentFor (num den : Nat) : Int :=
  let guess : Int := (num.log2 : Int) - (den.log2 : Int) - 52
  let (n, d) := scale num den (-guess)
  if n / d < Nat.pow 2 52 then guess - 1
  else if Nat.pow 2 53 ≤ n / d then guess + 1
  else guess

/-- The double nearest to a ratio. -/
def ofRatio (negative : Bool) (num den : Nat) : Double :=
  if num == 0 then zero negative
  else
    let exponent := max minExponent (exponentFor num den)
    let (n, d) := scale num den (-exponent)
    let m := roundEven n d
    let (m, exponent) := if m == Nat.pow 2 53 then (Nat.pow 2 52, exponent + 1) else (m, exponent)
    if 971 < exponent then infinite negative else finite negative m exponent

/-- The double nearest to `digits * 10 ^ power`.  Far outside the range of doubles the answer
does not depend on the digits, and is given without forming the power. -/
def ofDecimal (negative : Bool) (digits : Nat) (power : Int) : Double :=
  if digits == 0 then zero negative
  else
    let size : Int := (digits.log2 : Int) / 4 + power
    if 310 < size then infinite negative
    else if size + digits.log2 < -330 then zero negative
    else if 0 ≤ power then ofRatio negative (digits * Nat.pow 10 power.toNat) 1
    else ofRatio negative digits (Nat.pow 10 (-power).toNat)

def ofInt (n : Int) : Double := ofRatio (n < 0) n.natAbs 1

/-- The integer that a double is equal to, if it is one. -/
def toInt? : Double → Option Int
  | finite negative m e =>
    let signed (n : Nat) : Int := if negative then -(n : Int) else n
    if 0 ≤ e then some (signed (m * Nat.pow 2 e.toNat))
    else if m % Nat.pow 2 (-e).toNat == 0 then some (signed (m / Nat.pow 2 (-e).toNat))
    else none
  | _ => none

def neg : Double → Double
  | finite negative m e => finite (!negative) m e
  | infinite negative => infinite (!negative)
  | nan => nan

def mul : Double → Double → Double
  | nan, _ => nan
  | _, nan => nan
  | infinite a, infinite b => infinite (a != b)
  | infinite a, finite b m _ => if m == 0 then nan else infinite (a != b)
  | finite a m _, infinite b => if m == 0 then nan else infinite (a != b)
  | finite a m e, finite b n f =>
    let (num, den) := scale (m * n) 1 (e + f)
    ofRatio (a != b) num den

def add : Double → Double → Double
  | nan, _ => nan
  | _, nan => nan
  | infinite a, infinite b => if a == b then infinite a else nan
  | infinite a, finite _ _ _ => infinite a
  | finite _ _ _, infinite b => infinite b
  | finite a m e, finite b n f =>
    let least := min e f
    let signed (negative : Bool) (k : Nat) (g : Int) : Int :=
      let k : Int := (k * Nat.pow 2 (g - least).toNat : Nat)
      if negative then -k else k
    let sum := signed a m e + signed b n f
    let (num, den) := scale sum.natAbs 1 least
    if sum == 0 then zero (a && b) else ofRatio (sum < 0) num den

end Double

end Formwork
