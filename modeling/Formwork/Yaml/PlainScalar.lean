import Formwork.Yaml.QuotedScalar

/-!
# Plain scalars

A scalar without quotes ends where something else can begin: at a comment, at a colon before a
gap, and inside brackets at a comma, a question mark or a bracket.  It may run over several lines
as long as these are indented deep enough; line ends fold as they do in quotes.
-/

namespace Formwork.Yaml

def plainStarts (flow : Bool) (c : Cursor) : Bool :=
  match c.peek? with
  | none => false
  | some ch =>
    !(isSpaceOrTab ch || isBreak ch || "-?:,[]\x7b\x7d#&*!|>'\"%@\x60".toList.contains ch)
      || (!c.gapAhead 1 && (ch == '-' || (!flow && (ch == '?' || ch == ':'))))

/-- Whether a plain scalar is interrupted at the head of the text. -/
def plainStops (flow : Bool) : Text → Bool
  | [] => true
  | ch :: r =>
    isSpaceOrTab ch || isBreak ch
      || (ch == ':' && r.head?.all fun d =>
          isSpaceOrTab d || isBreak d || (flow && ",[]\x7b\x7d".toList.contains d))
      || (flow && ",?[]\x7b\x7d".toList.contains ch)

/-- The number of characters until a plain scalar is interrupted. -/
def plainLength (flow : Bool) : Text → Nat
  | [] => 0
  | ch :: r => if plainStops flow (ch :: r) then 0 else plainLength flow r + 1

/-- Past the empty lines inside a plain scalar; nothing if a document mark ends it. -/
def plainBreaks (c : Cursor) : Option Text × Cursor :=
  let d := c.skipSpaces
  match d.lineBreak? with
  | none => (some [], d)
  | some (b, e) =>
    if e.atDocumentMark then (none, e)
    else if _shorter : e.rest.length < c.rest.length then
      let (bs, f) := plainBreaks e
      (bs.map (b :: ·), f)
    else (some [], d)
termination_by c.rest.length

/-- What lies between two pieces of a plain scalar. -/
structure PlainGap where
  /-- The text that it counts as if another piece follows; none when the scalar ends here. -/
  text : Text
  /-- Whether a line end lies in it. -/
  newLine : Bool
  cursor : Cursor

/-- Past the spaces and line ends after a piece of a plain scalar. -/
def plainGap (c : Cursor) : PlainGap :=
  let d := c.skipSpaces
  match d.lineBreak? with
  | none => ⟨c.rest.takeWhile (· == ' '), false, d⟩
  | some (b, e) =>
    if e.atDocumentMark then ⟨[], true, e⟩
    else
      match plainBreaks e with
      | (none, f) => ⟨[], true, f⟩
      | (some empty, f) => ⟨foldBreak b empty, true, f⟩

structure PlainScalar where
  text : Text
  /-- Whether it ended at the beginning of a line, where a key may stand. -/
  newLine : Bool
  cursor : Cursor

/-- The text of a plain scalar from here on, which must be indented by `indent` columns. -/
def plainFrom (flow : Bool) (indent : Int) (c : Cursor) : PlainScalar :=
  let n := if c.seesChar '#' then 0 else plainLength flow c.rest
  let g := plainGap (c.skip n)
  let ends := g.text.isEmpty || g.cursor.seesChar '#'
    || (!flow && (g.cursor.column : Int) < indent)
  let piece := c.rest.take n
  if ends then ⟨piece, g.newLine, g.cursor⟩
  else if g.cursor.seesChar '#' || plainLength flow g.cursor.rest == 0 then
    ⟨piece, g.newLine, g.cursor⟩
  else if _shorter : g.cursor.rest.length < c.rest.length then
    let s := plainFrom flow indent g.cursor
    ⟨piece ++ g.text ++ s.text, s.newLine, s.cursor⟩
  else ⟨piece, g.newLine, g.cursor⟩
termination_by c.rest.length

end Formwork.Yaml
