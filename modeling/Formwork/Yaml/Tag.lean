import Formwork.Calendar
import Formwork.Text.Basic

/-!
# The kinds of nodes

A tag says what kind of value a node stands for.  The tags of the YAML type repository are known
here, and any other one is `unknown`.  A scalar that is written plainly and has no tag gets the
one that the form of its text suggests: `true` is a truth value, `12` a number, `2001-01-01` a
date.  The forms are those of YAML 1.1.
-/

namespace Formwork.Yaml

inductive Tag where
  | null
  | bool
  | integer
  | real
  | text
  | binary
  | timestamp
  | sequence
  | mapping
  | set
  /-- A sequence of single entries whose order counts. -/
  | orderedMapping
  /-- A sequence of single entries whose keys may repeat. -/
  | pairs
  /-- Marks a key whose value is a mapping, or several, with further entries. -/
  | merge
  /-- Marks a key whose value stands for the whole mapping. -/
  | value
  | unknown
  deriving Repr, DecidableEq

namespace Tag

/-- How the tags of the repository begin. -/
def repository : Text := "tag:yaml.org,2002:"

/-- The tags of the repository by the rest of their names. -/
def names : List (String × Tag) :=
  [("null", null), ("bool", bool), ("int", integer), ("float", real), ("str", text),
    ("binary", binary), ("timestamp", timestamp), ("seq", sequence), ("map", mapping),
    ("set", set), ("omap", orderedMapping), ("pairs", pairs), ("merge", merge), ("value", value)]

def ofName (name : Text) : Tag :=
  if repository.isPrefixOf name then
    let rest := name.drop repository.length
    ((names.find? fun e => e.1.toList == rest).map Prod.snd).getD unknown
  else unknown

end Tag

/-! ## Timestamps -/

def oneOrTwoDigits : Text → Option (Nat × Text)
  | a :: b :: r =>
    if a.isDigit && b.isDigit then some (10 * (a.toNat - 48) + (b.toNat - 48), r)
    else if a.isDigit then some (a.toNat - 48, b :: r)
    else none
  | [a] => if a.isDigit then some (a.toNat - 48, []) else none
  | [] => none

def twoDigits (s : Text) : Option (Nat × Text) :=
  match s with
  | _ :: b :: _ => if b.isDigit then oneOrTwoDigits s else none
  | _ => none

/-- The rest of a text after the given character. -/
def after? (c : Char) : Text → Option Text
  | d :: r => if d == c then some r else none
  | [] => none

def dropBlanks (s : Text) : Text := s.dropWhile fun c => c == ' ' || c == '\t'

/-- An offset from universal time, in minutes: `Z`, or a sign, hours and possibly minutes. -/
def offsetOf : Text → Option Int
  | ['Z'] => some 0
  | sign :: r => do
    let (hours, r) ← oneOrTwoDigits r
    let minutes ← if r.isEmpty then some 0 else do
      let (m, r) ← twoDigits (← after? ':' r)
      if r.isEmpty then some m else none
    let n : Int := 60 * hours + minutes
    if sign == '+' then some n else if sign == '-' then some (-n) else none
  | [] => none

/-- The first six digits of a fraction of a second, as microseconds. -/
def microseconds (ds : Text) : Nat :=
  ((ds ++ List.replicate 6 '0').take 6).foldl (fun n d => 10 * n + (d.toNat - 48)) 0

def timeOf (date : Calendar.Date) (s : Text) : Option Calendar.Moment := do
  let s ← match s with
    | 'T' :: r => some r
    | 't' :: r => some r
    | ' ' :: r => some (dropBlanks r)
    | '\t' :: r => some (dropBlanks r)
    | _ => none
  let (hour, s) ← oneOrTwoDigits s
  let (minute, s) ← twoDigits (← after? ':' s)
  let (second, s) ← twoDigits (← after? ':' s)
  let fraction := (((after? '.' s).map fun r => r.takeWhile Char.isDigit)).getD []
  let s := ((after? '.' s).map fun r => r.dropWhile Char.isDigit).getD s
  let offset ← if s.isEmpty then some none else (offsetOf (dropBlanks s)).map some
  return ⟨date, hour, minute, second, microseconds fraction, offset⟩

/-- A date with or without a time after it; its parts may be out of range. -/
def timestampOf (s : Text) : Option (Calendar.Date × Option Calendar.Moment) := do
  let (century, r) ← twoDigits s
  let (year, r) ← twoDigits r
  let (month, r) ← oneOrTwoDigits (← after? '-' r)
  let (day, r) ← oneOrTwoDigits (← after? '-' r)
  let date : Calendar.Date := ⟨100 * century + year, month, day⟩
  if r.isEmpty then return (date, none)
  else return (date, some (← timeOf date r))

/-! ## The forms of plain scalars -/

/-- The text without a single newline at its end, which the forms leave out of account. -/
def dropFinalNewline (s : Text) : Text := if s.getLast? == some '\n' then s.dropLast else s

def isDigitOrUnderscore (c : Char) : Bool := c.isDigit || c == '_'

def unsigned (s : Text) : Text :=
  match s with
  | '-' :: r => r
  | '+' :: r => r
  | r => r

def truthWords : List String :=
  ["yes", "Yes", "YES", "no", "No", "NO", "true", "True", "TRUE", "false", "False", "FALSE",
    "on", "On", "ON", "off", "Off", "OFF"]

def nullWords : List String := ["~", "null", "Null", "NULL", ""]

def isOneOf (words : List String) (s : Text) : Bool := words.any fun w => w.toList == s

/-- A number below sixty, without needless zeros beyond two digits. -/
def isBelowSixty : Text → Bool
  | [a] => a.isDigit
  | [a, b] => '0' ≤ a && a ≤ '5' && b.isDigit
  | _ => false

/-- Digits, and numbers below sixty after colons, at least one. -/
def isSexagesimal (s : Text) : Bool :=
  match s.splitOn ':' with
  | first :: rest => first.all isDigitOrUnderscore && !rest.isEmpty && rest.all isBelowSixty
  | [] => false

/-- Whether the text is empty or an exponent, whose sign must be given. -/
def isExponent : Text → Bool
  | [] => true
  | e :: sign :: r =>
    (e == 'e' || e == 'E') && (sign == '-' || sign == '+') && !r.isEmpty && r.all Char.isDigit
  | _ => false

/-- Digits with a point among them or after them. -/
def isPositional (s : Text) : Bool :=
  (s.head?).any Char.isDigit
    && match Text.cutAt? '.' s with
      | none => false
      | some (whole, r) =>
        (whole.all isDigitOrUnderscore && isExponent (r.dropWhile isDigitOrUnderscore))
          || (isSexagesimal whole && r.all isDigitOrUnderscore)

def isRealForm (s : Text) : Bool :=
  isPositional (unsigned s)
    || (match s with
      | '.' :: d :: r => d.isDigit && isExponent (r.dropWhile isDigitOrUnderscore)
      | _ => false)
    || isOneOf [".inf", ".Inf", ".INF"] (unsigned s)
    || isOneOf [".nan", ".NaN", ".NAN"] s

def isIntegerForm (s : Text) : Bool :=
  match unsigned s with
  | ['0'] => true
  | '0' :: 'b' :: r => !r.isEmpty && r.all fun c => c == '0' || c == '1' || c == '_'
  | '0' :: 'x' :: r =>
    !r.isEmpty && r.all fun c =>
      c.isDigit || ('a' ≤ c && c ≤ 'f') || ('A' ≤ c && c ≤ 'F') || c == '_'
  | '0' :: r => !r.isEmpty && r.all fun c => ('0' ≤ c && c ≤ '7') || c == '_'
  | c :: r => c.isDigit && (r.all isDigitOrUnderscore || isSexagesimal (c :: r))
  | [] => false

/-- The form of a timestamp: a date alone has two digits for month and day. -/
def isTimestampForm (s : Text) : Bool :=
  match timestampOf s with
  | some (_, none) => s.length == 10
  | some (_, some _) => true
  | none => false

/-- The tag that the form of a text suggests. -/
def Tag.ofForm (s : Text) : Tag :=
  let t := dropFinalNewline s
  if isOneOf truthWords t then .bool
  else if isRealForm t then .real
  else if isIntegerForm t then .integer
  else if t == ['<', '<'] then .merge
  else if s.isEmpty || (!t.isEmpty && isOneOf nullWords t) then .null
  else if isTimestampForm t then .timestamp
  else if t == ['='] then .value
  else if t == ['!'] || t == ['&'] || t == ['*'] then .unknown
  else .text

end Formwork.Yaml
