import Formwork.Text.Basic
import Formwork.Text.Printable

/-!
# Quoted texts

How a message shows a text that may hold anything.  The text stands between single quotes, or
between double quotes when it holds a single quote and no double one.  A backslash, the quote in
use and the three common controls are written with a backslash; any other character that is not
printable is written by its number, with two, four or eight hexadecimal digits.
-/

namespace Formwork.Text

/-- A digit below sixteen in small hexadecimal. -/
def hexDigit (n : Nat) : Char := if n < 10 then Char.ofNat (48 + n) else Char.ofNat (87 + n)

/-- The last `width` hexadecimal digits of a number. -/
def hexDigits : (width : Nat) → Nat → Text
  | 0, _ => []
  | w + 1, n => hexDigits w (n / 16) ++ [hexDigit (n % 16)]

/-- A character by its number, with as few of two, four and eight digits as hold it. -/
def numbered (c : Char) : Text :=
  if c.toNat < 0x100 then '\\' :: 'x' :: hexDigits 2 c.toNat
  else if c.toNat < 0x10000 then '\\' :: 'u' :: hexDigits 4 c.toNat
  else '\\' :: 'U' :: hexDigits 8 c.toNat

/-- A character as it stands inside the given quotes. -/
def quotedChar (quote c : Char) : Text :=
  if c = quote || c = '\\' then ['\\', c]
  else if c = '\n' then ['\\', 'n']
  else if c = '\r' then ['\\', 'r']
  else if c = '\t' then ['\\', 't']
  else if isPrintable c then [c]
  else numbered c

/-- The quote that surrounds a text: double only when that saves escaping single ones. -/
def quoteFor (s : Text) : Char :=
  if s.contains '\'' && !s.contains '"' then '"' else '\''

def quoted (s : Text) : Text :=
  let q := quoteFor s
  q :: s.flatMap (quotedChar q) ++ [q]

end Formwork.Text
