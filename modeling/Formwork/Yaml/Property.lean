import Formwork.Encoding.Unicode
import Formwork.Json.Reader
import Formwork.Yaml.Token

/-!
# Anchors, tags and directives

The parts of a YAML text that say something about a node or a document: names after `&` and `*`,
tags after `!`, and the directives in front of a document.  A tag consists of a handle and a
suffix, where the handle stands for the beginning of the tag; a percent sign in it introduces a
byte of a character in UTF-8.
-/

namespace Formwork.Yaml

/-! ## Names -/

/-- The name of an anchor or an alias, from its indicator on. -/
def anchorName (c : Cursor) : Lexed (Text × Cursor) :=
  let name := c.next.rest.takeWhile isWordChar
  let d := c.next.skip name.length
  let ends := d.gapAhead 0 || d.sees fun ch => "?:,]\x7d%@\x60".toList.contains ch
  if name.isEmpty || !ends then .error .malformed else .ok (name, d)

/-! ## Tags -/

/-- A character of a tag, besides the percent sign. -/
def isTagChar (c : Char) : Bool := c.isAlphanum || "-;/?:@&=+$,_.!~*'()[]".toList.contains c

/-- The bytes that percent signs with two digits introduce. -/
def percentBytes (c : Cursor) : Lexed (Bytes × Cursor) :=
  match c.rest with
  | '%' :: a :: b :: _ =>
    match Json.hexValue? a, Json.hexValue? b with
    | some x, some y =>
      let d := c.skip 3
      if _shorter : d.rest.length < c.rest.length then
        (percentBytes d).map fun (bs, e) => (UInt8.ofNat (16 * x + y) :: bs, e)
      else .error .malformed
    | _, _ => .error .malformed
  | '%' :: _ => .error .malformed
  | _ => .ok ([], c)
termination_by c.rest.length

def tagChars (c : Cursor) : Lexed (Text × Cursor) :=
  if c.seesChar '%' then do
    let (bytes, d) ← percentBytes c
    match Encoding.decodeUtf8 bytes with
    | .error _ => throw .malformed
    | .ok s =>
      if _shorter : d.rest.length < c.rest.length then
        let (t, e) ← tagChars d
        return (s ++ t, e)
      else throw .malformed
  else
    match c.rest with
    | ch :: _ =>
      if isTagChar ch then
        if _shorter : c.next.rest.length < c.rest.length then
          (tagChars c.next).map fun (t, e) => (ch :: t, e)
        else .error .malformed
      else .ok ([], c)
    | [] => .ok ([], c)
termination_by c.rest.length

/-- The characters of a tag, at least one. -/
def tagUri (c : Cursor) : Lexed (Text × Cursor) :=
  if c.seesChar '%' || c.sees isTagChar then tagChars c else .error .malformed

/-- A tag handle: an exclamation mark, or a word between two of them. -/
def tagHandle (c : Cursor) : Lexed (Text × Cursor) :=
  match c.rest with
  | '!' :: r =>
    if r.head? == some ' ' then .ok (['!'], c.next)
    else
      let word := r.takeWhile isWordChar
      if (r.drop word.length).head? == some '!' then
        .ok ('!' :: word ++ ['!'], c.skip (word.length + 2))
      else .error .malformed
  | _ => .error .malformed

/-- A tag: its handle, unless it stands in angle brackets, and the rest of it. -/
def tagOf (c : Cursor) : Lexed ((Option Text × Text) × Cursor) := do
  let (tag, d) : (Option Text × Text) × Cursor ←
    if c.peekAt? 1 == some '<' then do
      let (uri, d) ← tagUri (c.skip 2)
      if d.seesChar '>' then pure ((none, uri), d.next) else throw .malformed
    else if c.gapAhead 1 then pure ((none, ['!']), c.next)
    else do
      let word := c.next.rest.takeWhile fun ch => !(ch == ' ' || isBreak ch)
      let (handle, d) ← if word.contains '!' then tagHandle c else pure (['!'], c.next)
      let (uri, e) ← tagUri d
      pure ((some handle, uri), e)
  if d.spaceAhead 0 then return (tag, d) else throw .malformed

/-! ## Directives -/

/-- A run of digits, of which there may not be too many. -/
def digitsHere (c : Cursor) : Lexed (Nat × Cursor) :=
  let ds := c.rest.takeWhile Char.isDigit
  if ds.isEmpty then .error .malformed
  else if Json.maxDigits < ds.length then .error (.longNumber ds.length)
  else .ok (ds.foldl (fun n d => 10 * n + (d.toNat - 48)) 0, c.skip ds.length)

/-- The rest of a directive line, where only a comment may stand. -/
def directiveEnd (c : Cursor) : Lexed Cursor :=
  let d := c.skipSpaces.skipComment
  if d.atLineEnd then .ok ((d.lineBreak?.map Prod.snd).getD d) else .error .malformed

def directiveLine (c : Cursor) : Lexed (Directive × Cursor) := do
  let name := c.next.rest.takeWhile isWordChar
  let d := c.next.skip name.length
  if name.isEmpty || !d.spaceAhead 0 then throw .malformed
  if name == "YAML".toList then
    let (major, e) ← digitsHere d.skipSpaces
    if !e.seesChar '.' then throw .malformed
    let (_, f) ← digitsHere e.next
    if !f.spaceAhead 0 then throw .malformed
    return (.version major, ← directiveEnd f)
  else if name == "TAG".toList then
    let (handle, e) ← tagHandle d.skipSpaces
    if !e.seesChar ' ' then throw .malformed
    let (stem, f) ← tagUri e.skipSpaces
    if !f.spaceAhead 0 then throw .malformed
    return (.tag handle stem, ← directiveEnd f)
  else return (.other, ← directiveEnd d.skipLine)

end Formwork.Yaml
