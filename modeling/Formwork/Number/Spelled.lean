import Formwork.Json.Reader
import Formwork.Text.Blank
import Formwork.Text.Quoted

/-!
# Numbers as a text spells them

Outside of JSON numbers are spelled with more freedom: blanks may surround them, a plus sign may
stand in front, and the digits may be those of any script.  An integer has a base, whose usual
mark may precede its digits; a double may also be one of the words for infinity and for what is
no number.
-/

namespace Formwork.Spelled

/-- Why a text spells no number. -/
inductive Refusal where
  | notInteger (base : Nat) (s : Text)
  | tooManyDigits (digits : Nat)
  | notReal (s : Text)
  deriving Repr, DecidableEq

/-- How much of a text is shown in the complaint that it is no integer. -/
def shownLength : Nat := 200

def Refusal.message : Refusal → Text
  | notInteger base s =>
    "invalid literal for int() with base " ++ Nat.toDigits 10 base ++ ": "
      ++ (Text.quoted s).take shownLength
  | tooManyDigits digits => Json.tooManyDigitsMessage digits
  | notReal s => "could not convert string to float: " ++ Text.quoted s

/-- The blanks of ASCII that may surround a number. -/
def isPadding (c : Char) : Bool := c == ' ' || ('\t' ≤ c && c ≤ '\r')

def sign (s : Text) : Bool × Text :=
  match s with
  | '-' :: r => (true, r)
  | '+' :: r => (false, r)
  | r => (false, r)

/-! ## Integers -/

/-- The letter that marks a base. -/
def baseMark? : Nat → Option Char
  | 2 => some 'b'
  | 8 => some 'o'
  | 16 => some 'x'
  | _ => none

/-- The text without the mark of its base. -/
def dropMark (base : Nat) (s : Text) : Text :=
  match s with
  | '0' :: c :: r => if baseMark? base == some c.toLower then r else s
  | _ => s

def isDigitIn (base : Nat) (c : Char) : Bool := (Json.hexValue? c).any (· < base)

def natural (base : Nat) (ds : Text) : Nat :=
  ds.foldl (fun n d => base * n + (Json.hexValue? d).getD 0) 0

/-- The integer that a text spells in a base.  Only decimal digits are limited in number, and the
limit is felt before what follows them. -/
def integer (base : Nat) (s : Text) : Except Refusal Int :=
  let (negative, unsigned) := sign ((Text.plainDigits s).dropWhile isPadding)
  let body := dropMark base unsigned
  let digits := body.takeWhile (isDigitIn base)
  if base == 10 && Json.maxDigits < digits.length then .error (.tooManyDigits digits.length)
  else if digits.isEmpty || !(body.drop digits.length).all isPadding then .error (.notInteger base s)
  else
    let n : Int := natural base digits
    .ok (if negative then -n else n)

/-! ## Doubles -/

/-- The double that digits, an optional fraction and an optional exponent spell. -/
def decimal? (negative : Bool) (s : Text) : Option Double :=
  let (mantissa, exponent) := s.span fun c => c != 'e' && c != 'E'
  let (whole, fraction) := (Text.cutAt? '.' mantissa).getD (mantissa, [])
  let power? :=
    match exponent with
    | [] => some 0
    | _ :: e => Json.exponent? e
  if (whole ++ fraction).isEmpty || !(whole ++ fraction).all Char.isDigit then none
  else power?.map fun power =>
    Double.ofDecimal negative (Json.decimal (whole ++ fraction)) (power - fraction.length)

/-- The double that a text spells. -/
def real (s : Text) : Except Refusal Double :=
  let (negative, unsigned) := sign (Text.trim isPadding (Text.plainDigits s))
  let word := unsigned.map Char.toLower
  if word == "inf".toList || word == "infinity".toList then .ok (.infinite negative)
  else if word == "nan".toList then .ok .nan
  else
    match decimal? negative unsigned with
    | some x => .ok x
    | none => .error (.notReal s)

end Formwork.Spelled
