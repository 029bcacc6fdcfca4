import Formwork.Json.Basic
import Formwork.Json.Token

/-!
# Reading a JSON text

The tokens of a text are read by a machine with a stack.  The stack holds the arrays and objects
that are open, the innermost first; beside it stands what may come next.  Each token is one step,
so reading ends with the tokens.

A text that is not JSON is *malformed*, and nothing more is said about it.  An integer is limited
to 4300 digits, and a longer one is an error of its own, as is half of a character.
-/

namespace Formwork.Json

/-- Why a text has no JSON value. -/
inductive ReadError where
  | malformed
  /-- An integer with this many digits. -/
  | tooManyDigits (digits : Nat)
  /-- A string with half of a character that takes two numbers. -/
  | halfCharacter
  deriving Repr, DecidableEq

def maxDigits : Nat := 4300

def tooManyDigitsMessage (digits : Nat) : Text :=
  "Exceeds the limit (" ++ Nat.toDigits 10 maxDigits
    ++ " digits) for integer string conversion: value has " ++ Nat.toDigits 10 digits
    ++ " digits; use sys.set_int_max_str_digits() to increase the limit"

/-! ## Words -/

def decimal (ds : Text) : Nat := ds.foldl (fun n d => 10 * n + (d.toNat - 48)) 0

/-- An integer part: a zero, or digits that do not begin with one. -/
def isWholePart : Text → Bool
  | [] => false
  | ['0'] => true
  | c :: r => c != '0' && c.isDigit && r.all Char.isDigit

/-- The exponent that a text spells: an optional sign and digits. -/
def exponent? : Text → Option Int
  | '-' :: ds => if !ds.isEmpty && ds.all Char.isDigit then some (-(decimal ds : Int)) else none
  | '+' :: ds => if !ds.isEmpty && ds.all Char.isDigit then some (decimal ds) else none
  | ds => if !ds.isEmpty && ds.all Char.isDigit then some (decimal ds) else none

/-- Whether a text begins with a fraction or an exponent. -/
def startsReal : Text → Bool
  | '.' :: d :: _ => d.isDigit
  | e :: d :: r =>
    (e == 'e' || e == 'E')
      && (d.isDigit || ((d == '-' || d == '+') && r.head?.any Char.isDigit))
  | _ => false

/-- The digits of the integer that a word begins with, if they are too many.  The limit is felt
before what follows them, unless that makes a double of the number. -/
def excessDigits? (w : Text) : Option Nat :=
  let digits := w.takeWhile Char.isDigit
  if maxDigits < digits.length && digits.head? != some '0' && !startsReal (w.drop digits.length)
  then some digits.length else none

/-- The number that a word without a sign spells. -/
def grammaticalNumber (negative : Bool) (w : Text) : Except ReadError Json :=
  let (mantissa, power) :=
    match w.span fun c => c != 'e' && c != 'E' with
    | (m, []) => (m, some none)
    | (m, _ :: e) => (m, (exponent? e).map some)
  let (whole, fraction) :=
    match Text.cutAt? '.' mantissa with
    | none => (mantissa, some [])
    | some (a, b) => (a, if !b.isEmpty && b.all Char.isDigit then some b else none)
  match power, fraction with
  | some power, some fraction =>
    if !isWholePart whole then .error .malformed
    else if power.isNone && fraction.isEmpty then
      let n : Int := decimal whole
      .ok (.integer (if negative then -n else n))
    else
      .ok (.real (Double.ofDecimal negative (decimal (whole ++ fraction))
        (power.getD 0 - fraction.length)))
  | _, _ => .error .malformed

/-- The number that a word without a sign spells, if it has not too many digits. -/
def unsignedNumber (negative : Bool) (w : Text) : Except ReadError Json :=
  match excessDigits? w with
  | some digits => .error (.tooManyDigits digits)
  | none => grammaticalNumber negative w

def ofWord (w : Text) : Except ReadError Json :=
  if w == "true".toList then .ok (.bool true)
  else if w == "false".toList then .ok (.bool false)
  else if w == "null".toList then .ok .null
  else if w == "NaN".toList then .ok (.real .nan)
  else if w == "Infinity".toList then .ok (.real (.infinite false))
  else if w == "-Infinity".toList then .ok (.real (.infinite true))
  else
    match w with
    | '-' :: r => unsignedNumber true r
    | r => unsignedNumber false r

/-! ## The machine -/

/-- An array or object that is open.  An object remembers the name whose value is under way. -/
inductive Frame where
  | array (itemsReversed : List Json)
  | object (members : List (Text × Json)) (name : Text)

/-- What may come next. -/
inductive Expectation where
  /-- A value. -/
  | value
  /-- A value or the end of the array just opened. -/
  | valueOrClose
  /-- The name of a member. -/
  | name
  /-- The name of a member or the end of the object just opened. -/
  | nameOrClose
  /-- The colon after this name. -/
  | colon (name : Text)
  /-- A comma or the end of the innermost array or object. -/
  | commaOrClose
  deriving Repr, DecidableEq

/-- The state of the machine: the open arrays and objects and what may come next, or the value
that the whole text has given. -/
inductive Machine where
  | reading (stack : List Frame) (next : Expectation)
  | finished (value : Json)

/-- The state after a value has been read. -/
def Machine.deliver (stack : List Frame) (v : Json) : Machine :=
  match stack with
  | [] => .finished v
  | .array items :: rest => .reading (.array (v :: items) :: rest) .commaOrClose
  | .object members name :: rest =>
    .reading (.object (Table.setEntry name v members) name :: rest) .commaOrClose

def Machine.valueToken (stack : List Frame) : Token → Except ReadError Machine
  | .openObject => .ok (.reading (.object [] [] :: stack) .nameOrClose)
  | .openArray => .ok (.reading (.array [] :: stack) .valueOrClose)
  | .string s => .ok (Machine.deliver stack (.text s))
  | .word w => (ofWord w).map (Machine.deliver stack)
  | .half => .error .halfCharacter
  | _ => .error .malformed

/-- The state after one more token. -/
def Machine.step : Machine → Token → Except ReadError Machine
  | .finished _, _ => .error .malformed
  | .reading stack .value, t => Machine.valueToken stack t
  | .reading (.array _ :: stack) .valueOrClose, .closeArray =>
    .ok (Machine.deliver stack (.array []))
  | .reading stack .valueOrClose, t => Machine.valueToken stack t
  | .reading (.object _ _ :: stack) .nameOrClose, .closeObject =>
    .ok (Machine.deliver stack (.object []))
  | .reading stack .nameOrClose, .string s => .ok (.reading stack (.colon s))
  | .reading stack .name, .string s => .ok (.reading stack (.colon s))
  | .reading _ .nameOrClose, .half => .error .halfCharacter
  | .reading _ .name, .half => .error .halfCharacter
  | .reading (.object members _ :: stack) (.colon name), .colon =>
    .ok (.reading (.object members name :: stack) .value)
  | .reading (.array items :: stack) .commaOrClose, .comma =>
    .ok (.reading (.array items :: stack) .value)
  | .reading (.array items :: stack) .commaOrClose, .closeArray =>
    .ok (Machine.deliver stack (.array items.reverse))
  | .reading (.object members name :: stack) .commaOrClose, .comma =>
    .ok (.reading (.object members name :: stack) .name)
  | .reading (.object members _ :: stack) .commaOrClose, .closeObject =>
    .ok (Machine.deliver stack (.object members))
  | .reading _ _, _ => .error .malformed

def ofTokens (ts : List Token) : Except ReadError Json := do
  match ← ts.foldlM Machine.step (.reading [] .value) with
  | .finished v => return v
  | .reading _ _ => throw .malformed

def read (s : Text) : Except ReadError Json := ofTokens (Token.scan s)

end Formwork.Json
