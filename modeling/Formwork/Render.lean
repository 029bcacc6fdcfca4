import Formwork.Fault
import Formwork.Template.Basic
import Formwork.Text.Blank

/-!
# Writing the output of a template

The output is the literal text of a template with a value in the place of each placeholder.
Values are inserted as they are and are never read again, so braces in a value have no meaning.

A value of several lines can be indented to the place where it goes.  Its second and later lines
then begin with the spaces and tabs that the output line of its placeholder begins with; a blank
line is left alone.  That line is known from what has been written before, so the writer carries
the unfinished line of the output along.
-/

namespace Formwork

/-- How values are written: whether they are indented to their place, and what is done to each
value before it is inserted. -/
structure Render where
  indent : Bool := false
  escape : Text → Text := id

namespace Render

/-- The spaces and tabs that a line begins with. -/
def margin (line : Text) : Text := line.takeWhile fun c => c == ' ' || c == '\t'

/-- A line after the first of a value: indented, unless it is blank. -/
def indentLine (margin line : Text) : Text :=
  if Text.allBlank line then line else margin ++ line

/-- The value with all lines but the first indented. -/
def indentRest (margin value : Text) : Text :=
  match Text.lines value with
  | [] => []
  | first :: rest => Text.unlines (first :: rest.map (indentLine margin))

/-- What is inserted for a value when `line` is the unfinished line of the output. -/
def insertion (r : Render) (line value : Text) : Text :=
  if r.indent then indentRest (margin line) (r.escape value) else r.escape value

/-- The output of some segments after the unfinished line `line`. -/
def segments (r : Render) (values : Table Text) (line : Text) :
    List Segment → Except Fault Text
  | [] => .ok []
  | .literal text :: rest => do
    return text ++ (← segments r values (Text.lastLine (line ++ text)) rest)
  | .placeholder name _ :: rest =>
    match values.get? name with
    | none => .error (.unbound name)
    | some value => do
      let text := r.insertion line value
      return text ++ (← segments r values (Text.lastLine (line ++ text)) rest)

def template (r : Render) (t : Template) (values : Table Text) : Except Fault Text :=
  r.segments values [] t.segments

end Render

end Formwork
