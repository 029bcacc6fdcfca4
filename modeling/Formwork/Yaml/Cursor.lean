import Formwork.Text.Basic

/-!
# Moving through a YAML text

YAML is laid out by lines and columns, so its reader moves a `Cursor`: the rest of the text, with
the number of characters passed, the line and the column.  Five characters end a line; a carriage
return before a newline ends it together with the newline.  The byte order mark takes no column.
-/

namespace Formwork.Yaml

/-! ## Classes of characters -/

def isBreak (c : Char) : Bool :=
  c == '\n' || c == '\r' || c == '\u0085' || c == '\u2028' || c == '\u2029'

def isSpaceOrTab (c : Char) : Bool := c == ' ' || c == '\t'

def isWordChar (c : Char) : Bool := c.isAlphanum || c == '-' || c == '_'

/-- The characters that a YAML text may hold. -/
def isAllowed (c : Char) : Bool :=
  let n := c.toNat
  n == 0x9 || n == 0xa || n == 0xd || (0x20 ≤ n && n ≤ 0x7e) || n == 0x85
    || (0xa0 ≤ n && n ≤ 0xfffd) || 0x10000 ≤ n

/-! ## The cursor -/

/-- The rest of a text, with the place where it begins. -/
structure Cursor where
  rest : Text
  index : Nat := 0
  line : Nat := 0
  column : Nat := 0
  deriving Repr, DecidableEq

namespace Cursor

def peek? (c : Cursor) : Option Char := c.rest.head?

/-- The character after `n` others. -/
def peekAt? (c : Cursor) (n : Nat) : Option Char := c.rest[n]?

def sees (c : Cursor) (p : Char → Bool) : Bool := c.peek?.any p

def seesChar (c : Cursor) (ch : Char) : Bool := c.peek? == some ch

def atLineEnd (c : Cursor) : Bool := c.peek?.all isBreak

/-- Whether a space or the end of the line stands `n` characters ahead. -/
def spaceAhead (c : Cursor) (n : Nat) : Bool :=
  (c.peekAt? n).all fun ch => ch == ' ' || isBreak ch

/-- Whether a space, a tab or the end of the line stands `n` characters ahead. -/
def gapAhead (c : Cursor) (n : Nat) : Bool :=
  (c.peekAt? n).all fun ch => isSpaceOrTab ch || isBreak ch

def next (c : Cursor) : Cursor :=
  match c.rest with
  | [] => c
  | ch :: r =>
    if isBreak ch && !(ch == '\r' && r.head? == some '\n') then ⟨r, c.index + 1, c.line + 1, 0⟩
    else if ch == '\ufeff' then ⟨r, c.index + 1, c.line, c.column⟩
    else ⟨r, c.index + 1, c.line, c.column + 1⟩

def skip (c : Cursor) : Nat → Cursor
  | 0 => c
  | n + 1 => c.next.skip n

def skipWhile (c : Cursor) (p : Char → Bool) : Cursor := c.skip (c.rest.takeWhile p).length

def skipLine (c : Cursor) : Cursor := c.skipWhile fun ch => !isBreak ch

def skipComment (c : Cursor) : Cursor := if c.seesChar '#' then c.skipLine else c

def skipSpaces (c : Cursor) : Cursor := c.skipWhile (· == ' ')

/-- The end of the line that stands here, as it counts in the text of a scalar, and the cursor
past it. -/
def lineBreak? (c : Cursor) : Option (Char × Cursor) :=
  match c.rest with
  | '\r' :: '\n' :: _ => some ('\n', c.skip 2)
  | ch :: _ =>
    if ch == '\u2028' || ch == '\u2029' then some (ch, c.next)
    else if isBreak ch then some ('\n', c.next)
    else none
  | [] => none

/-- Whether a document mark stands here: three hyphens or three points and a gap. -/
def atDocumentMark (c : Cursor) : Bool :=
  (['-', '-', '-'].isPrefixOf c.rest || ['.', '.', '.'].isPrefixOf c.rest) && c.gapAhead 3

end Cursor

end Formwork.Yaml
