import Formwork.Text.Basic

/-!
# The tokens of a JSON text

A JSON text is a sequence of brackets, commas, colons, strings and words with blanks between
them.  A *word* is a run of letters, digits, signs and points; whether it is a number, one of the
named constants or nothing at all is decided when it is read as a value.

The text is scanned character by character.  A `Scan` is the state between two characters: the
scanner stands between tokens, in a word, in a string, or behind a backslash in a string.  At the
first character that fits nowhere the scan gives the token `bad` and ignores the rest.  So it does, with
the token `half`, at a number that stands for half of a character: texts are made of characters.
-/

namespace Formwork.Json

inductive Token where
  | openObject
  | closeObject
  | openArray
  | closeArray
  | comma
  | colon
  | string (value : Text)
  | word (letters : Text)
  /-- What fits nowhere. -/
  | bad
  /-- A string with half of a character that takes two numbers. -/
  | half
  deriving Repr, DecidableEq

/-- Where the scanner stands; texts under way are in reverse. -/
inductive Scan where
  | between
  | inWord (letters : Text)
  | inString (value : Text)
  | afterBackslash (value : Text)
  /-- Within the four digits of a character number.  `high` is the first half of a character
  that takes two numbers. -/
  | inNumber (value : Text) (high : Option Nat) (digits : Text)
  /-- After the first half of a character that takes two numbers. -/
  | afterHigh (value : Text) (high : Nat)
  | afterHighBackslash (value : Text) (high : Nat)
  | stopped
  deriving Repr, DecidableEq

def isSpace (c : Char) : Bool := c == ' ' || c == '\t' || c == '\n' || c == '\r'

def isWordChar (c : Char) : Bool := c.isAlphanum || c == '-' || c == '+' || c == '.'

/-- The token of a character that is one by itself. -/
def Token.ofChar? : Char → Option Token
  | '{' => some .openObject
  | '}' => some .closeObject
  | '[' => some .openArray
  | ']' => some .closeArray
  | ',' => some .comma
  | ':' => some .colon
  | _ => none

/-- The character that a backslash and a letter stand for. -/
def unescape? : Char → Option Char
  | '"' => some '"'
  | '\\' => some '\\'
  | '/' => some '/'
  | 'b' => some '\x08'
  | 'f' => some '\x0c'
  | 'n' => some '\n'
  | 'r' => some '\r'
  | 't' => some '\t'
  | _ => none

def hexValue? (c : Char) : Option Nat :=
  if '0' ≤ c && c ≤ '9' then some (c.toNat - 48)
  else if 'a' ≤ c && c ≤ 'f' then some (c.toNat - 87)
  else if 'A' ≤ c && c ≤ 'F' then some (c.toNat - 55)
  else none

/-- The number that hexadecimal digits, last one first, stand for. -/
def hexNumber : Text → Nat
  | [] => 0
  | d :: r => 16 * hexNumber r + (hexValue? d).getD 0

/-- What a complete character number does: a character is added, a first half is kept, and a half
without its partner ends the scan. -/
def Scan.ofNumber (value : Text) (high : Option Nat) (n : Nat) : Scan :=
  match high with
  | some h =>
    if 0xDC00 ≤ n && n < 0xE000 then
      .inString (Char.ofNat (0x10000 + (h - 0xD800) * 0x400 + (n - 0xDC00)) :: value)
    else .stopped
  | none =>
    if 0xD800 ≤ n && n < 0xDC00 then .afterHigh value n
    else if 0xDC00 ≤ n && n < 0xE000 then .stopped
    else .inString (Char.ofNat n :: value)

/-- The state after a character that is met between tokens, and the token it completes. -/
def Scan.begin (c : Char) : Scan × List Token :=
  if isSpace c then (.between, [])
  else if c == '"' then (.inString [], [])
  else if isWordChar c then (.inWord [c], [])
  else
    match Token.ofChar? c with
    | some t => (.between, [t])
    | none => (.stopped, [.bad])

/-- Notes the half of a character at which the scan has ended. -/
def Scan.orHalf (s : Scan) : Scan × List Token :=
  match s with
  | .stopped => (.stopped, [.half])
  | s => (s, [])

/-- The state after one more character, and the tokens it completes. -/
def Scan.step : Scan → Char → Scan × List Token
  | .between, c => Scan.begin c
  | .inWord w, c =>
    if isWordChar c then (.inWord (c :: w), [])
    else
      let (s, ts) := Scan.begin c
      (s, .word w.reverse :: ts)
  | .inString v, c =>
    if c == '"' then (.between, [.string v.reverse])
    else if c == '\\' then (.afterBackslash v, [])
    else if c.toNat < 0x20 then (.stopped, [.bad])
    else (.inString (c :: v), [])
  | .afterBackslash v, c =>
    if c == 'u' then (.inNumber v none [], [])
    else
      match unescape? c with
      | some d => (.inString (d :: v), [])
      | none => (.stopped, [.bad])
  | .inNumber v high ds, c =>
    if (hexValue? c).isSome then
      if ds.length == 3 then (Scan.ofNumber v high (hexNumber (c :: ds))).orHalf
      else (.inNumber v high (c :: ds), [])
    else (.stopped, [.bad])
  | .afterHigh v high, c => if c == '\\' then (.afterHighBackslash v high, []) else (.stopped, [.half])
  | .afterHighBackslash v high, c =>
    if c == 'u' then (.inNumber v (some high) [], [])
    else if (unescape? c).isSome then (.stopped, [.half])
    else (.stopped, [.bad])
  | .stopped, _ => (.stopped, [])

/-- The tokens that the end of the text completes. -/
def Scan.finish : Scan → List Token
  | .between => []
  | .inWord w => [.word w.reverse]
  | .stopped => []
  | _ => [.bad]

def Scan.tokens (s : Scan) : Text → List Token
  | [] => s.finish
  | c :: r =>
    let (s', ts) := s.step c
    ts ++ s'.tokens r

def Token.scan (s : Text) : List Token := Scan.between.tokens s

end Formwork.Json
