import Formwork.Yaml.QuotedScalar

/-!
# Block scalars

A scalar after `|` or `>` stands on the following lines, indented deeper than its parent.  The
header may give the depth as a digit, and say with a sign what becomes of the line ends after the
text: with a minus all are dropped, with a plus all are kept, without a sign one is.  After `|`
the lines are kept; after `>` they are folded, except around lines that begin with a blank.
-/

namespace Formwork.Yaml

/-- What becomes of the line ends after the text. -/
inductive Chomping where
  | strip
  | clip
  | keep
  deriving Repr, DecidableEq

def Chomping.ofSign? : Char → Option Chomping
  | '+' => some .keep
  | '-' => some .strip
  | _ => none

/-- The header of a block scalar: chomping and depth, in either order. -/
def blockHeader (c : Cursor) : Lexed ((Chomping × Option Nat) × Cursor) := do
  let sign? (c : Cursor) : Option Chomping × Cursor :=
    match c.peek?.bind Chomping.ofSign? with
    | some ch => (some ch, c.next)
    | none => (none, c)
  let depth? (c : Cursor) : Lexed (Option Nat × Cursor) :=
    match c.peek? with
    | some d =>
      if d == '0' then .error .malformed
      else if d.isDigit then .ok (some (d.toNat - 48), c.next)
      else .ok (none, c)
    | none => .ok (none, c)
  let (first, d) := sign? c
  let (depth, e) ← depth? d
  let (second, f) := if first.isNone && depth.isSome then sign? e else (none, e)
  if !f.spaceAhead 0 then throw .malformed
  let g := f.skipSpaces.skipComment
  if !g.atLineEnd then throw .malformed
  let h := (g.lineBreak?.map Prod.snd).getD g
  return (((first.or second).getD .clip, depth), h)

/-- Past the blank lines in front of the text: their line ends, and the greatest column of the
spaces among them. -/
def blockIndentation (c : Cursor) : Text × Nat × Cursor :=
  let d := c.skipSpaces
  match d.lineBreak? with
  | none => ([], d.column, d)
  | some (b, e) =>
    if _shorter : e.rest.length < c.rest.length then
      let (bs, n, f) := blockIndentation e
      (b :: bs, max d.column n, f)
    else ([], d.column, d)
termination_by c.rest.length

/-- Past at most the spaces up to a column. -/
def skipToColumn (indent : Nat) (c : Cursor) : Cursor :=
  c.skip (min (c.rest.takeWhile (· == ' ')).length (indent - c.column))

/-- Past the blank lines between two lines of the text, and the indentation of the next one. -/
def blockBreaks (indent : Nat) (c : Cursor) : Text × Cursor :=
  let d := skipToColumn indent c
  match d.lineBreak? with
  | none => ([], d)
  | some (b, e) =>
    if _shorter : e.rest.length < c.rest.length then
      let (bs, f) := blockBreaks indent e
      (b :: bs, f)
    else ([], d)
termination_by c.rest.length

/-- The text of a block scalar from a line on, after the line ends `breaks`. -/
def blockLines (folded : Bool) (chomping : Chomping) (indent : Nat) (breaks : Text) (c : Cursor) :
    Text × Cursor :=
  if c.column != indent || c.rest.isEmpty then
    (if chomping = .keep then breaks else [], c)
  else
    let line := c.rest.takeWhile fun ch => !isBreak ch
    let d := c.skipLine
    let (ending, e) : Text × Cursor :=
      match d.lineBreak? with
      | some (b, e) => ([b], e)
      | none => ([], d)
    let (empty, f) := blockBreaks indent e
    if f.column != indent || f.rest.isEmpty then
      (breaks ++ line ++ (if chomping = .strip then [] else ending)
        ++ (if chomping = .keep then empty else []), f)
    else
      let folds := folded && ending == ['\n'] && !c.sees isSpaceOrTab && !f.sees isSpaceOrTab
      let joint := if folds then (if empty.isEmpty then [' '] else []) else ending
      if _shorter : f.rest.length < c.rest.length then
        let (rest, g) := blockLines folded chomping indent empty f
        (breaks ++ line ++ joint ++ rest, g)
      else (breaks ++ line, f)
termination_by c.rest.length

/-- A block scalar, from its indicator on, under a parent at the column `parent`. -/
def blockScalar (parent : Int) (c : Cursor) : Lexed (Text × Cursor) := do
  let ((chomping, depth), d) ← blockHeader c.next
  let least := (max 1 (parent + 1)).toNat
  let (indent, breaks, e) :=
    match depth with
    | some n =>
      let indent := least + n - 1
      let (breaks, e) := blockBreaks indent d
      (indent, breaks, e)
    | none =>
      let (breaks, n, e) := blockIndentation d
      (max least n, breaks, e)
  return blockLines (c.seesChar '>') chomping indent breaks e

end Formwork.Yaml
