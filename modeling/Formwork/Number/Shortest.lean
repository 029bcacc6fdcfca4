import Formwork.Number.Double
import Formwork.Text.Basic

/-!
# The shortest decimal of a double

A double is written with as few decimal digits as tell it apart from all other doubles: the
fewest that read back as the same number, and of those the digits nearest to it.

Which decimals read back is a matter of an interval, half a step to either side of the number,
whose ends belong to it when the significand is even.  If the decimals of some number of digits
meet the interval at all, then one of the two next to the number does; so it is enough to try
these two for one digit, two digits, and so on.  Seventeen digits always suffice.

How the digits are laid out, with or without an exponent, is the choice of a `Layout`.
-/

namespace Formwork.Double

/-! ## The digits -/

/-- How far the interval of a double reaches down and up, in quarters of a step: below a power of
two the steps are half as wide. -/
def reach (m : Nat) (e : Int) : Nat × Nat :=
  if m == Nat.pow 2 52 && minExponent < e then (1, 2) else (2, 2)

/-- The number of decimal digits in front of the point, or minus the number of zeros after it. -/
def pointPlace (num den : Nat) : Int :=
  let guess : Int := (Nat.toDigits 10 num).length - (Nat.toDigits 10 den).length
  let atLeast :=
    if 0 ≤ guess then den * Nat.pow 10 guess.toNat ≤ num
    else den ≤ num * Nat.pow 10 (-guess).toNat
  if atLeast then guess + 1 else guess

/-- The digit grid `10 ^ power` as a ratio. -/
def gridStep (power : Int) : Nat × Nat :=
  if 0 ≤ power then (Nat.pow 10 power.toNat, 1) else (1, Nat.pow 10 (-power).toNat)

/-- The multiple of `10 ^ power` that reads back as `m * 2 ^ e`, if one does; the nearer of two,
and of two equally near ones the even one. -/
def candidate? (m : Nat) (e : Int) (power : Int) : Option Nat :=
  let (below, above) := reach m e
  let (quarter, den) := scale 1 1 (e - 2)
  let (gridNum, gridDen) := gridStep power
  -- from here on all lengths are counted in units of `1 / (den * gridDen)`
  let value := 4 * m * quarter * gridDen
  let grid := gridNum * den
  let low := value - below * quarter * gridDen
  let high := value + above * quarter * gridDen
  let inside (k : Nat) : Bool :=
    if m % 2 == 0 then low ≤ k * grid && k * grid ≤ high
    else low < k * grid && k * grid < high
  let k := value / grid
  let down := inside k
  let up := inside (k + 1)
  if down && up then
    let left := value - k * grid
    let right := (k + 1) * grid - value
    some (if left < right || (left == right && k % 2 == 0) then k else k + 1)
  else if down then some k
  else if up then some (k + 1)
  else none

/-- Tries grids from coarse to fine until one has a candidate. -/
def firstCandidate (m : Nat) (e : Int) (place : Int) : (digits : List Nat) → Nat × Int
  | [] => (0, 0)
  | n :: rest =>
    match candidate? m e (place - n) with
    | some k => (k, place - n)
    | none => firstCandidate m e place rest

/-- The shortest decimal `digits * 10 ^ power` of `m * 2 ^ e`. -/
def shortest (m : Nat) (e : Int) : Nat × Int :=
  let (num, den) := scale m 1 e
  firstCandidate m e (pointPlace num den) ((List.range 17).map (· + 1))

/-! ## The layout -/

/-- How a decimal is laid out.  It is positional when the point stands within the given places,
counted from the first digit; otherwise it has an exponent of at least `exponentDigits` digits. -/
structure Layout where
  leastPlace : Int
  greatestPlace : Int
  exponentDigits : Nat
  infinity : Text
  notANumber : Text

def dropTrailingZeros (ds : Text) : Text :=
  (ds.reverse.dropWhile (· == '0')).reverse

def padZeros (width : Nat) (s : Text) : Text := List.replicate (width - s.length) '0' ++ s

/-- The digits with a point at the given place; a whole number ends in a zero after the point. -/
def positional (ds : Text) (place : Int) : Text :=
  if place ≤ 0 then '0' :: '.' :: (List.replicate (-place).toNat '0' ++ ds)
  else
    let n := place.toNat
    if ds.length ≤ n then ds ++ List.replicate (n - ds.length) '0' ++ ['.', '0']
    else ds.take n ++ '.' :: ds.drop n

/-- The digits with a point after the first one and an exponent. -/
def exponential (l : Layout) (ds : Text) (place : Int) : Text :=
  let exponent := place - 1
  let mantissa :=
    match ds with
    | [] => []
    | [d] => [d]
    | d :: r => d :: '.' :: r
  mantissa ++ 'e' :: (if exponent < 0 then '-' else '+')
    :: padZeros l.exponentDigits (Nat.toDigits 10 exponent.natAbs)

/-- A double in its shortest decimal form. -/
def text (l : Layout) : Double → Text
  | nan => l.notANumber
  | infinite negative => if negative then '-' :: l.infinity else l.infinity
  | finite negative m e =>
    let unsigned :=
      if m == 0 then ['0', '.', '0']
      else
        let (digits, power) := shortest m e
        let all := Nat.toDigits 10 digits
        let place : Int := all.length + power
        let ds := dropTrailingZeros all
        if l.leastPlace ≤ place && place ≤ l.greatestPlace then positional ds place
        else exponential l ds place
    if negative then '-' :: unsigned else unsigned

end Formwork.Double
