import Formwork.Json.Token
import Formwork.Yaml.Token

/-!
# Quoted scalars

A scalar in quotes may run over several lines.  The end of a line, with the blanks around it,
then counts as one space, and further empty lines count as newlines.  In single quotes a quote is
written twice and nothing else is special; in double quotes a backslash begins an escape, and a
backslash at the end of a line joins it to the next.
-/

namespace Formwork.Yaml

/-- The character that a backslash and a letter stand for in double quotes. -/
def escapes : List (Char × Char) :=
  [('0', '\x00'), ('a', '\x07'), ('b', '\x08'), ('t', '\t'), ('\t', '\t'), ('n', '\n'),
    ('v', '\x0b'), ('f', '\x0c'), ('r', '\r'), ('e', '\x1b'), (' ', ' '), ('"', '"'), ('\\', '\\'),
    ('/', '/'), ('N', '\u0085'), ('_', '\u00a0'), ('L', '\u2028'), ('P', '\u2029')]

/-- How many hexadecimal digits follow the letter of a numbered character. -/
def escapeWidth? : Char → Option Nat
  | 'x' => some 2
  | 'u' => some 4
  | 'U' => some 8
  | _ => none

def numberedChar (digits : Text) : Lexed Char :=
  if !digits.all fun d => (Json.hexValue? d).isSome then .error .malformed
  else
    let n := Json.hexNumber digits.reverse
    if 0x80000000 ≤ n then .error .hugeCharacter
    else if 0x110000 ≤ n then .error .noSuchCharacter
    else if 0xD800 ≤ n && n < 0xE000 then .error .halfCharacter
    else .ok (Char.ofNat n)

/-- Past the empty lines after a line end and the blanks in front of the next text; the empty
lines count as their line ends.  A document mark may not stand there. -/
def quotedBreaks (c : Cursor) : Lexed (Text × Cursor) :=
  if c.atDocumentMark then .error .malformed
  else
    let d := c.skipWhile isSpaceOrTab
    match d.lineBreak? with
    | none => .ok ([], d)
    | some (b, e) =>
      if _shorter : e.rest.length < c.rest.length then
        (quotedBreaks e).map fun (bs, f) => (b :: bs, f)
      else .error .malformed
termination_by c.rest.length

/-- What a line end and the empty lines after it count as. -/
def foldBreak (b : Char) (empty : Text) : Text :=
  if b != '\n' then b :: empty else if empty.isEmpty then [' '] else empty

/-- One step inside quotes: the text it adds and the cursor past it, or nothing at the end. -/
def quotedStep (double : Bool) (c : Cursor) : Lexed (Option (Text × Cursor)) :=
  match c.rest with
  | [] => .error .malformed
  | ch :: r =>
    if !double && ch == '\'' then
      if r.head? == some '\'' then .ok (some (['\''], c.skip 2)) else .ok none
    else if double && ch == '"' then .ok none
    else if double && ch == '\\' then
      match r with
      | [] => .error .malformed
      | e :: s =>
        match escapes.find? fun p => p.1 == e with
        | some (_, x) => .ok (some ([x], c.skip 2))
        | none =>
          match escapeWidth? e with
          | some width =>
            if s.length < width then .error .malformed
            else (numberedChar (s.take width)).map fun x => some ([x], c.skip (2 + width))
          | none =>
            match c.next.lineBreak? with
            | some (_, d) => (quotedBreaks d).map some
            | none => .error .malformed
    else if isSpaceOrTab ch || isBreak ch then
      let blanks := c.rest.takeWhile isSpaceOrTab
      let d := c.skip blanks.length
      match d.lineBreak? with
      | some (b, e) => (quotedBreaks e).map fun (empty, f) => some (foldBreak b empty, f)
      | none => if d.rest.isEmpty then .error .malformed else .ok (some (blanks, d))
    else .ok (some ([ch], c.next))

/-- The text of a scalar up to its closing quote. -/
def quotedText (double : Bool) (c : Cursor) : Lexed (Text × Cursor) := do
  match ← quotedStep double c with
  | none => return ([], c.next)
  | some (s, d) =>
    if _shorter : d.rest.length < c.rest.length then
      let (t, e) ← quotedText double d
      return (s ++ t, e)
    else throw .malformed
termination_by c.rest.length

/-- A scalar in quotes, from its opening quote on. -/
def quotedScalar (c : Cursor) : Lexed (Text × Cursor) := quotedText (c.seesChar '"') c.next

end Formwork.Yaml
