import Formwork.Yaml.BlockScalar
import Formwork.Yaml.PlainScalar
import Formwork.Yaml.Property

/-!
# From a YAML text to its tokens

The reader goes through a text token by token and keeps track of the layout.

* Outside brackets, the columns where block collections begin are kept; a token to the left of
  the innermost one ends it, and one to the right of it that can begin an entry begins a new one.
* A colon makes a key of what stands before it on its line.  So the place of every token that may
  turn out to begin a key is kept, one for each level of brackets, until a colon or the end of
  the line settles the matter.  Where a block mapping expects a key, there must be one.

The tokens of the layout are put in where they belong when they are known, in front of a key if
need be.
-/

namespace Formwork.Yaml

/-- A token that may turn out to begin a key. -/
structure PossibleKey where
  /-- The level of brackets where it stands. -/
  level : Nat
  /-- The number of tokens in front of it. -/
  place : Nat
  /-- Whether a key must stand here. -/
  required : Bool
  cursor : Cursor
  deriving Repr

/-- The state between two tokens. -/
structure Layout where
  cursor : Cursor
  tokens : Array Token := #[]
  /-- How many brackets are open. -/
  level : Nat := 0
  /-- The column of the innermost block collection. -/
  indent : Int := -1
  /-- The columns of those around it. -/
  outer : List Int := []
  /-- Whether a key may begin at the next token. -/
  keyAllowed : Bool := true
  keys : List PossibleKey := []

namespace Layout

def inFlow (s : Layout) : Bool := s.level != 0

def column (s : Layout) : Int := s.cursor.column

/-- Adds a token and goes on from the cursor. -/
def add (s : Layout) (t : Token) (c : Cursor) : Layout :=
  { s with tokens := s.tokens.push t, cursor := c }

/-- Puts tokens in at a place among those already there. -/
def insertAt (s : Layout) (place : Nat) (ts : Array Token) : Layout :=
  { s with tokens := s.tokens.extract 0 place ++ ts ++ s.tokens.extract place s.tokens.size }

/-! ## Possible keys -/

/-- How far a colon may stand from the beginning of its key. -/
def maxKeyLength : Nat := 1024

/-- Whether a possible key stands on an earlier line or too far back. -/
def isStale (s : Layout) (k : PossibleKey) : Bool :=
  k.cursor.line != s.cursor.line || maxKeyLength < s.cursor.index - k.cursor.index

def dropStale (s : Layout) : Lexed Layout :=
  if s.keys.any fun k => s.isStale k && k.required then .error .malformed
  else .ok { s with keys := s.keys.filter fun k => !s.isStale k }

/-- The tokens in front of all possible keys.  No token will be put in among them. -/
def settled (s : Layout) : List Token :=
  let place := (s.keys.filter fun k => !s.isStale k).foldl (fun n k => min n k.place) s.tokens.size
  (s.tokens.extract 0 place).toList

def dropKey (s : Layout) : Lexed Layout :=
  if s.keys.any fun k => k.level == s.level && k.required then .error .malformed
  else .ok { s with keys := s.keys.filter fun k => k.level != s.level }

/-- Notes that the next token may begin a key. -/
def noteKey (s : Layout) : Lexed Layout :=
  if s.keyAllowed then do
    let t ← s.dropKey
    let required := !s.inFlow && s.indent == s.column
    return { t with keys := ⟨s.level, s.tokens.size, required, s.cursor⟩ :: t.keys }
  else return s

/-! ## Columns -/

/-- The columns left when the block collections to the right of a column end, and how many do. -/
def closing (column : Int) (indent : Int) : List Int → Int × List Int × Nat
  | [] => (indent, [], 0)
  | o :: os =>
    if column < indent then
      let (i, rest, n) := closing column o os
      (i, rest, n + 1)
    else (indent, o :: os, 0)

/-- Ends the block collections to the right of a column. -/
def unwind (s : Layout) (column : Int) : Layout :=
  if s.inFlow then s
  else
    let (indent, outer, n) := closing column s.indent s.outer
    { s with indent, outer, tokens := s.tokens ++ Array.replicate n .blockEnd }

/-- Begins a block collection at a column, if it lies to the right of the present one. -/
def beginBlock (s : Layout) (column : Int) (t : Token) (place : Nat) : Layout :=
  if s.indent < column then
    { s.insertAt place #[t] with indent := column, outer := s.indent :: s.outer }
  else s

/-! ## Tokens -/

def documentMark (s : Layout) (t : Token) : Lexed Layout := do
  let u ← (s.unwind (-1)).dropKey
  return { u.add t (u.cursor.skip 3) with keyAllowed := false }

def directive (s : Layout) : Lexed Layout := do
  let u ← (s.unwind (-1)).dropKey
  let (d, c) ← directiveLine u.cursor
  return { u.add (.directive d) c with keyAllowed := false }

def openFlow (s : Layout) (t : Token) : Lexed Layout := do
  let u ← s.noteKey
  return { u.add t u.cursor.next with level := u.level + 1, keyAllowed := true }

/-- A closing bracket; one without its partner is refused. -/
def closeFlow (s : Layout) (t : Token) : Lexed Layout := do
  let u ← s.dropKey
  if u.level == 0 then throw .malformed
  return { u.add t u.cursor.next with level := u.level - 1, keyAllowed := false }

def flowEntry (s : Layout) : Lexed Layout := do
  let u ← s.dropKey
  return { u.add .flowEntry u.cursor.next with keyAllowed := true }

def blockEntry (s : Layout) : Lexed Layout := do
  if !s.inFlow && !s.keyAllowed then throw .malformed
  let t := if s.inFlow then s else s.beginBlock s.column .blockSequenceStart s.tokens.size
  let u ← t.dropKey
  return { u.add .blockEntry u.cursor.next with keyAllowed := true }

def keyMark (s : Layout) : Lexed Layout := do
  if !s.inFlow && !s.keyAllowed then throw .malformed
  let t := if s.inFlow then s else s.beginBlock s.column .blockMappingStart s.tokens.size
  let u ← t.dropKey
  return { u.add .key u.cursor.next with keyAllowed := !u.inFlow }

/-- The colon in front of a value.  What may begin a key at this level is the key. -/
def valueMark (s : Layout) : Lexed Layout := do
  match s.keys.find? fun k => k.level == s.level with
  | some k =>
    let t := { s with keys := s.keys.filter fun k => k.level != s.level }
    let u := t.insertAt k.place #[.key]
    let v := if u.inFlow then u else u.beginBlock k.cursor.column .blockMappingStart k.place
    return { v.add .value v.cursor.next with keyAllowed := false }
  | none =>
    if !s.inFlow && !s.keyAllowed then throw .malformed
    let t := if s.inFlow then s else s.beginBlock s.column .blockMappingStart s.tokens.size
    let u ← t.dropKey
    return { u.add .value u.cursor.next with keyAllowed := !u.inFlow }

/-- A token that may begin a key and after which none begins. -/
def keyLike (s : Layout) (read : Cursor → Lexed (Token × Cursor)) : Lexed Layout := do
  let u ← s.noteKey
  let (t, c) ← read u.cursor
  return { u.add t c with keyAllowed := false }

def block (s : Layout) : Lexed Layout := do
  let u ← s.dropKey
  let (text, c) ← blockScalar u.indent u.cursor
  return { u.add (.scalar text false) c with keyAllowed := true }

/-- A plain scalar; a key may follow it at the beginning of a line. -/
def plain (s : Layout) : Lexed Layout := do
  let u ← s.noteKey
  let p := plainFrom u.inFlow (u.indent + 1) u.cursor
  return { u.add (.scalar p.text true) p.cursor with keyAllowed := p.newLine }

/-- Past the spaces, comments and line ends in front of the next token.  Outside brackets a key may
begin after a line end. -/
def skipGaps (flow keyAllowed : Bool) (c : Cursor) : Bool × Cursor :=
  let d := c.skipSpaces.skipComment
  match d.lineBreak? with
  | none => (keyAllowed, d)
  | some (_, e) =>
    if _shorter : e.rest.length < c.rest.length then skipGaps flow (keyAllowed || !flow) e
    else (keyAllowed, d)
termination_by c.rest.length

/-- Goes to the next token and settles what its place settles. -/
def approach (s : Layout) : Lexed Layout := do
  let c := if s.cursor.index == 0 && s.cursor.seesChar '\ufeff' then s.cursor.next else s.cursor
  let (keyAllowed, d) := skipGaps s.inFlow s.keyAllowed c
  let t ← { s with cursor := d, keyAllowed }.dropStale
  return t.unwind d.column

/-- Reads the token that begins with the given character. -/
def token (s : Layout) (ch : Char) : Lexed Layout :=
  let c := s.cursor
  if ch == '%' && c.column == 0 then s.directive
  else if c.column == 0 && c.atDocumentMark then
    s.documentMark (if ch == '-' then .documentStart else .documentEnd)
  else if ch == '[' then s.openFlow .flowSequenceStart
  else if ch == '{' then s.openFlow .flowMappingStart
  else if ch == ']' then s.closeFlow .flowSequenceEnd
  else if ch == '}' then s.closeFlow .flowMappingEnd
  else if ch == ',' then s.flowEntry
  else if ch == '-' && c.gapAhead 1 then s.blockEntry
  else if ch == '?' && (s.inFlow || c.gapAhead 1) then s.keyMark
  else if ch == ':' && (s.inFlow || c.gapAhead 1) then s.valueMark
  else if ch == '*' then
    s.keyLike fun c => (anchorName c).map fun (n, d) => (.alias n, d)
  else if ch == '&' then
    s.keyLike fun c => (anchorName c).map fun (n, d) => (.anchor n, d)
  else if ch == '!' then
    s.keyLike fun c => (tagOf c).map fun ((h, t), d) => (.tag h t, d)
  else if (ch == '|' || ch == '>') && !s.inFlow then s.block
  else if ch == '\'' || ch == '"' then
    s.keyLike fun c => (quotedScalar c).map fun (t, d) => (.scalar t false, d)
  else if plainStarts s.inFlow c then s.plain
  else .error .malformed

/-- Reads one token, unless the text has ended, and tells whether it has. -/
def step (s : Layout) : Lexed (Layout × Bool) := do
  let t ← s.approach
  match t.cursor.peek? with
  | none => return (← (t.unwind (-1)).dropKey, true)
  | some ch => return (← t.token ch, false)

/-- The tokens up to the end of the text, or to where reading fails. -/
def run (s : Layout) : List Token :=
  match s.step with
  | .error cause => s.settled ++ [.failure cause]
  | .ok (t, ended) =>
    if ended then t.tokens.toList
    else if _shorter : t.cursor.rest.length < s.cursor.rest.length then t.run
    else s.settled ++ [.failure .malformed]
termination_by s.cursor.rest.length

end Layout

/-- The tokens of a YAML text. -/
def Token.scan (s : Text) : List Token :=
  if s.all isAllowed then Layout.run { cursor := { rest := s } } else [.failure .malformed]

end Formwork.Yaml
