import Formwork.Fields.Basic
import Formwork.Json.Reader
import Formwork.Template.Basic
import Formwork.Text.Blank

/-!
# Reading the parts of a record

Readers for the kinds of fields that the records of this library have.  They are lenient where
there is one sensible reading: a truth value may be spelled as a number or a word, an integer as
a text or as a double without a fraction.  A text must be a text.
-/

namespace Formwork.Fields

/-! ## Single values -/

def text : Json → Checked Text
  | .text s => .ok s
  | _ => .fail .notText

def identifier (j : Json) : Checked Text := do
  let s ← text j
  if isIdentifier s then return s else .fail .wrongPattern

/-- The words that mean true, and those that mean false. -/
def trueWords : List Text := ["1", "on", "t", "true", "y", "yes"]

@[inherit_doc trueWords]
def falseWords : List Text := ["0", "off", "f", "false", "n", "no"]

structure IntegerRange where
  least : Int
  greatest : Int

/-- The integers of 64 binary digits. -/
def IntegerRange.wide : IntegerRange := ⟨-Int.pow 2 63, Int.pow 2 63 - 1⟩

/-- The integers of at most eighteen decimal digits. -/
def IntegerRange.eighteenDigits : IntegerRange := ⟨-(Int.pow 10 18 - 1), Int.pow 10 18 - 1⟩

def IntegerRange.contains (r : IntegerRange) (n : Int) : Bool := r.least ≤ n && n ≤ r.greatest

/-- The size from which on a double stands for no integer. -/
def doubleBound : Nat := Nat.pow 2 63

/-- A truth value, or a number or a word that stands for one.  Only integers of the range are
considered, and doubles that stand for integers. -/
def bool (range : IntegerRange) : Json → Checked Bool
  | .bool b => .ok b
  | .integer n => if range.contains n then ofInt n else .fail .notBool
  | .real x =>
    match x.toInt? with
    | some n => if n.natAbs < doubleBound then ofInt n else .fail .notBool
    | none => .fail .notBool
  | .text s =>
    let word := s.map Char.toLower
    if trueWords.contains word then .ok true
    else if falseWords.contains word then .ok false
    else .fail .unreadableBool
  | _ => .fail .notBool
where
  /-- Zero and one stand for truth values. -/
  ofInt (n : Int) : Checked Bool :=
    if n == 0 then .ok false else if n == 1 then .ok true else .fail .unreadableBool

/-! ## Integers as texts -/

/-- The blank characters that may surround a number: all but the ASCII separators. -/
def isPadding (c : Char) : Bool := Text.isBlank c && !('\x1c' ≤ c && c ≤ '\x1f')

/-- The text without a point and the zeros after it. -/
def dropZeroFraction (s : Text) : Text :=
  match Text.cutAt? '.' s with
  | some (whole, zeros) => if !zeros.isEmpty && zeros.all (· == '0') then whole else s
  | none => s

/-- The text without needless zeros in front, among which there may be underscores.  After them a
digit must follow, or a sign; zeros alone are one zero. -/
def dropLeadingZeros? (s : Text) : Option Text :=
  match s with
  | '0' :: r =>
    match r.dropWhile fun c => c == '0' || c == '_' with
    | [] => s.getLast?.map fun c => [c]
    | c :: rest => if c.isDigit || c == '-' then some (c :: rest) else none
  | c :: _ => if c.isDigit then some s else none
  | [] => none

/-- The text without underscores, if each of them stands alone between other characters. -/
def dropUnderscores (s : Text) : Text :=
  if (s.splitOn '_').all fun part => !part.isEmpty then s.filter (· != '_') else s

/-- The plain spelling of an integer that is spelled more freely: with blanks around it, a sign, a
point with zeros after it, zeros in front and underscores. -/
def plainInteger? (s : Text) : Option Text :=
  let number := Text.trim isPadding s
  let digits (r : Text) : Option Text :=
    (dropLeadingZeros? (dropZeroFraction r)).map dropUnderscores
  match number with
  | '-' :: r => (digits r).map ('-' :: ·)
  | '+' :: '-' :: _ => none
  | '+' :: r => digits r
  | r => digits r

/-- The integer of a plain spelling: a minus sign and a whole part. -/
def integerOfPlain? (s : Text) : Option Int :=
  match s with
  | '-' :: r => if Json.isWholePart r then some (-(Json.decimal r : Int)) else none
  | r => if Json.isWholePart r then some (Json.decimal r) else none

/-- The length of the minus sign and the digits at the front of a text. -/
def leadingSize (s : Text) : Nat :=
  match s with
  | '-' :: r => 1 + (r.takeWhile Char.isDigit).length
  | r => (r.takeWhile Char.isDigit).length

/-- The integer that a text spells.  Its length is limited, sign included, whatever follows it. -/
def integerOfText (s : Text) : Checked Int :=
  match plainInteger? s with
  | none => .fail .unreadableInteger
  | some plain =>
    if Json.maxDigits < leadingSize plain then .fail .hugeInteger
    else
      match integerOfPlain? plain with
      | some n => .ok n
      | none => .fail .unreadableInteger

/-! ## Integers -/

/-- An integer, or something that stands for one. -/
def integer : Json → Checked Int
  | .integer n => .ok n
  | .bool b => .ok (if b then 1 else 0)
  | .real x =>
    match x, x.toInt? with
    | _, some n => if n.natAbs < doubleBound then .ok n else .fail .hugeInteger
    | .finite _ _ _, none => .fail .fractionalInteger
    | _, none => .fail .infiniteInteger
  | .text s => integerOfText s
  | _ => .fail .notInteger

/-- An integer that is at least the given number. -/
def atLeast (least : Nat) (j : Json) : Checked Nat := do
  let n ← integer j
  if (least : Int) ≤ n then return n.toNat else .fail .tooSmall

def constant (s : Text) : Json → Checked Unit
  | .text t => if t = s then .ok () else .fail .wrongConstant
  | _ => .fail .wrongConstant

/-! ## Lists and tables -/

/-- A list whose items are read alike. -/
def tuple {α : Type} (item : Json → Checked α) : Json → Checked (List α)
  | .array items => .each item items
  | _ => .fail .notTuple

/-- A list that stands for a set of texts. -/
def textSet : Json → Checked (List Text)
  | .array items => (Checked.each text items).map Names.distinct
  | _ => .fail .notSet

/-- The members of a table, each under its name, whose values are read alike. -/
def memberValues {α : Type} (value : Json → Checked α) :
    List (Text × Json) → Checked (List (Text × α))
  | [] => .ok []
  | (name, j) :: ms =>
    (Checked.both (.under (.field name) (value j)) (memberValues value ms)).map fun (v, vs) =>
      (name, v) :: vs

/-- A table whose values are read alike. -/
def table {α : Type} (value : Json → Checked α) : Json → Checked (Table α)
  | .object ms => (memberValues value ms).map Table.ofList
  | _ => .fail .notTable

/-! ## Fields of a record -/

def required {α : Type} (name : Text) (read : Json → Checked α)
    (members : List (Text × Json)) : Checked α :=
  .under (.field name) <|
    match Json.member? name members with
    | some j => read j
    | none => .fail .missing

def optional {α : Type} (name : Text) (default : α) (read : Json → Checked α)
    (members : List (Text × Json)) : Checked α :=
  .under (.field name) <|
    match Json.member? name members with
    | some j => read j
    | none => .ok default

def record {α : Type} (read : List (Text × Json) → Checked α) : Json → Checked α
  | .object ms => read ms
  | _ => .fail .notRecord

end Formwork.Fields
