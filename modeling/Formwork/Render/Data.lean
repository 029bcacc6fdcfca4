import Formwork.Rule.Basic
import Formwork.Render
import Formwork.Supplied

/-!
# Writing output from data

The values that are written can be supplied as data, although only texts can be inserted.  The
output is written up to the first placeholder whose value is no text, which is then refused.  So a
value that is no text does no harm where it is not asked for, and a placeholder without a value in
front of it counts first.
-/

namespace Formwork.Render

/-- Why data give no output. -/
inductive DataFault where
  | fault (cause : Fault)
  /-- This value is no text. -/
  | unfit (value : Json) (cause : Misfit)

/-- The members in which a newline is looked for. -/
def parts : Json → Option (List Json)
  | .array items => some items
  | .object ms => some (ms.map fun m => .text m.1)
  | _ => none

def isNewline : Json → Bool
  | .text ['\n'] => true
  | _ => false

/-- Why a value that is no text cannot be inserted after an unfinished line. -/
def misfit (r : Render) (line : Text) (value : Json) : Misfit :=
  match parts value with
  | none => .other ("argument of type '" ++ value.kind ++ "' is not iterable")
  | some items =>
    if !items.any isNewline then
      .other ("can only concatenate str (not \"" ++ value.kind ++ "\") to str")
    else .lacks value.kind (if r.indent && !(margin line).isEmpty then "split" else "rsplit")

/-- Whether a segment can be written, as far as the kind of its value is concerned. -/
def isWritable (values : Table Json) : Segment → Bool
  | .literal _ => true
  | .placeholder name _ => ((values.get? name).map fun v => (Supplied.text? v).isSome).getD true

/-- The output of a template whose values are data. -/
def data (r : Render) (t : Template) (values : Table Json) : Except DataFault Text := do
  let texts := values.map fun v => (Supplied.text? v).getD []
  let output ← (r.segments texts [] (t.segments.takeWhile (isWritable values))).mapError .fault
  match t.segments.find? fun s => !isWritable values s with
  | some (.placeholder name _) =>
    let value := (values.get? name).getD .null
    throw (.unfit value (r.misfit (Text.lastLine output) value))
  | _ => return output

end Formwork.Render
