import Formwork.Encoding.Base64
import Formwork.Number.Spelled
import Formwork.Text.Letter
import Formwork.Yaml.Tag
import Formwork.Yaml.Token

/-!
# The values of scalars

An atom is what a scalar stands for.  Its tag says of which kind, and the text is read
accordingly.  A tag that was written out may be at odds with the text; then there is no atom, for
one of the reasons in `Refusal`.

Atoms serve as keys, so it matters when two of them are the same key: numbers and truth values
are compared as numbers, whatever they are written as, and times by the instant.
-/

namespace Formwork.Yaml

/-- What a scalar stands for. -/
inductive Atom where
  | null
  | bool (value : Bool)
  | integer (value : Int)
  | real (value : Double)
  | text (value : Text)
  | bytes (value : Bytes)
  | date (value : Calendar.Date)
  | moment (value : Calendar.Moment)
  deriving Repr, DecidableEq

/-- Why a text has no value. -/
inductive Refusal where
  /-- It cannot be read. -/
  | unreadable (cause : LexError)
  /-- A number ends before its digits. -/
  | emptyNumber
  | number (cause : Spelled.Refusal)
  /-- A part of a number counts more than the greatest double. -/
  | hugeUnit
  /-- A truth value is spelled by another word. -/
  | notBool (word : Text)
  | notTimestamp
  /-- A mapping stands where the text of a timestamp belongs. -/
  | timestampOfMapping
  | calendar (cause : Calendar.Fault)
  deriving Repr, DecidableEq

/-- The reason in words; about a text that is not YAML nothing is said. -/
def Refusal.message : Refusal → Text
  | unreadable .malformed => []
  | unreadable .noSuchCharacter => "chr() arg not in range(0x110000)"
  | unreadable .hugeCharacter => "Python int too large to convert to C int"
  | unreadable .halfCharacter => "surrogates not allowed"
  | unreadable (.longNumber digits) => Json.tooManyDigitsMessage digits
  | emptyNumber => "string index out of range"
  | number cause => cause.message
  | hugeUnit => "int too large to convert to float"
  | notBool word => Text.quoted word
  | notTimestamp => "'NoneType' object has no attribute 'groupdict'"
  | timestampOfMapping => "expected string or bytes-like object, got 'list'"
  | calendar cause => cause.message

/-- What the class of the error is called.  Values that are out of range have one class, and each
kind of text that is of another form than its tag says has its own. -/
def Refusal.className : Refusal → Text
  | unreadable .hugeCharacter => "OverflowError"
  | unreadable _ => "ValueError"
  | number _ => "ValueError"
  | hugeUnit => "OverflowError"
  | calendar _ => "ValueError"
  | emptyNumber => "IndexError"
  | notBool _ => "KeyError"
  | notTimestamp => "AttributeError"
  | timestampOfMapping => "TypeError"

/-- The reason that the text is not YAML. -/
def Refusal.malformed : Refusal := .unreadable .malformed

namespace Atom

/-! ## Reading -/

def truthValues : List (String × Bool) :=
  [("yes", true), ("no", false), ("true", true), ("false", false), ("on", true), ("off", false)]

def readBool (s : Text) : Except Refusal Atom :=
  let word := Text.toLower s
  match truthValues.find? fun e => e.1.toList == word with
  | some (_, b) => .ok (.bool b)
  | none => .error (.notBool word)

/-- A number with parts of sixty, the last part first. -/
def ofSixties (parts : List Int) : Int := parts.foldr (fun part n => part + 60 * n) 0

/-- An integer.  Underscores are left out; a zero in front makes it octal, and marks may make it
binary or hexadecimal. -/
def readInteger (s : Text) : Except Refusal Atom := do
  let (negative, unsigned) := Spelled.sign (s.filter (· != '_'))
  let digits (base : Nat) (ds : Text) : Except Refusal Int :=
    (Spelled.integer base ds).mapError .number
  let n ←
    match unsigned with
    | [] => throw .emptyNumber
    | ['0'] => pure 0
    | '0' :: 'b' :: r => digits 2 r
    | '0' :: 'x' :: r => digits 16 r
    | '0' :: r => digits 8 ('0' :: r)
    | ds =>
      if ds.contains ':' then do
        let parts ← (ds.splitOn ':').mapM (digits 10)
        pure (ofSixties parts.reverse)
      else digits 10 ds
  return .integer (if negative then -n else n)

/-- The sum of parts that count one, sixty, and so on, each sum rounded; the last part first.  What
a part counts must be in the range of doubles, even if the part is zero. -/
def realOfSixties (total : Double) (unit : Nat) : List Double → Except Refusal Double
  | [] => .ok total
  | part :: parts =>
    match Double.ofInt unit with
    | .infinite _ => .error .hugeUnit
    | x => realOfSixties (total.add (part.mul x)) (60 * unit) parts

/-- Whether a text is the word for what is no number; a sign may stand in front of it. -/
def spellsNan (s : Text) : Bool :=
  (Spelled.sign (Text.toLower (s.filter (· != '_')))).2 == ".nan".toList

/-- A double.  Underscores are left out. -/
def readReal (s : Text) : Except Refusal Atom := do
  let spelled := Text.toLower (s.filter (· != '_'))
  if spelled.isEmpty then throw .emptyNumber
  let (negative, unsigned) := Spelled.sign spelled
  let digits (ds : Text) : Except Refusal Double := (Spelled.real ds).mapError .number
  let x ←
    if unsigned == ".inf".toList then pure (.infinite false)
    else if unsigned == ".nan".toList then pure .nan
    else if unsigned.contains ':' then do
      let parts ← (unsigned.splitOn ':').mapM digits
      realOfSixties (Double.zero false) 1 parts.reverse
    else digits unsigned
  return .real (if negative then x.neg else x)

def readTimestamp (s : Text) : Except Refusal Atom :=
  match timestampOf (dropFinalNewline s) with
  | none => .error .notTimestamp
  | some (d, none) => ((Calendar.checkDate d).map .date).mapError .calendar
  | some (_, some m) => ((Calendar.checkMoment m).map .moment).mapError .calendar

def readBytes (s : Text) : Except Refusal Atom :=
  if s.all fun c => c.toNat < 0x80 then
    match Base64.decode s with
    | some bs => .ok (.bytes bs)
    | none => .error .malformed
  else .error .malformed

/-- The atom of a text under a tag for scalars. -/
def read (tag : Tag) (s : Text) : Except Refusal Atom :=
  match tag with
  | .null => .ok .null
  | .bool => readBool s
  | .integer => readInteger s
  | .real => readReal s
  | .text => .ok (.text s)
  | .binary => readBytes s
  | .timestamp => readTimestamp s
  | _ => .error .malformed

/-! ## Keys -/

def number? : Atom → Option (Int ⊕ Double)
  | bool b => some (.inl (if b then 1 else 0))
  | integer n => some (.inl n)
  | real x =>
    match x.toInt? with
    | some n => some (.inl n)
    | none => some (.inr x)
  | _ => none

def sameKey (a b : Atom) : Bool :=
  match a.number?, b.number? with
  | some x, some y => x == y
  | none, none =>
    match a, b with
    | moment m, moment n => m.same n
    | _, _ => a == b
  | _, _ => false

end Atom

end Formwork.Yaml
