import Formwork.Template.Fields
import Formwork.Template.Parser

/-!
# Building a template from checked parts

`Template.parse` makes segments of what it has read and says where they are by counting as it goes.
`Template.build` does the same with nothing taken on trust.  Every segment is put together from its
fields and checked as data from elsewhere would be, and so is the template; lines and columns are worked
out from an offset and the whole text.  So there is a second way to fail: a part may not be valid.
-/

namespace Formwork

/-! ## Lines and columns of an offset -/

/-- Where the last newline of a text stands; minus one if there is none. -/
def Text.lastNewline : Text → Int
  | [] => -1
  | c :: s => if 0 ≤ lastNewline s then lastNewline s + 1 else if c = '\n' then 0 else -1

namespace Position

/-- The line of an offset, counted from one. -/
def lineAt (source : Text) (offset : Nat) : Int := (source.take offset).count '\n' + 1

/-- The column of an offset, counted from one. -/
def columnAt (source : Text) (offset : Nat) : Int :=
  offset - (Text.lastNewline (source.take offset) + 1) + 1

def ofOffset (source : Text) (offset : Nat) : Position :=
  ⟨offset, (lineAt source offset).toNat, (columnAt source offset).toNat⟩

end Position

/-! ## Parts -/

def Segment.buildLiteral (text : Text) : Checked Segment := readLiteral [("text", .text text)]

def Segment.buildPlaceholder (source name : Text) (offset : Nat) : Checked Segment :=
  readPlaceholder [("name", .text name), ("offset", .integer offset),
    ("line", .integer (Position.lineAt source offset)),
    ("column", .integer (Position.columnAt source offset))]

namespace Template

/-- Why no template is built from a text. -/
inductive BuildFault where
  /-- The text is no template. -/
  | malformed (cause : Malformed)
  /-- A part of the template is not valid. -/
  | invalid (issues : List Issue)
  deriving Repr, DecidableEq

/-- The literal segment of a text; an empty text has none. -/
def buildLiteralOf (s : Text) : Except BuildFault (List Segment) :=
  if s.isEmpty then .ok [] else ((Segment.buildLiteral s).mapError .invalid).map ([·])

/-- The segments of the rest of a source, which begins at the offset. -/
def buildSegments (source : Text) (offset : Nat) (s : Text) : Except BuildFault (List Segment) :=
  match _opens : cutPair? '{' s with
  | none => buildLiteralOf s
  | some (before, rest) =>
    let opening := offset + before.length
    match _closes : cutPair? '}' rest with
    | none => .error (.malformed ⟨.unclosed, .ofOffset source opening⟩)
    | some (body, after) => do
      let name ← (readBody (.ofOffset source opening) body).mapError .malformed
      let literal ← buildLiteralOf before
      let placeholder ← (Segment.buildPlaceholder source name opening).mapError .invalid
      let following ← buildSegments source (opening + 2 + body.length + 2) after
      return literal ++ placeholder :: following
termination_by s.length
decreasing_by
  have := length_of_cutPair? _opens
  have := length_of_cutPair? _closes
  omega

/-- Builds a template from a text, and checks all its parts. -/
def build (source : Text) : Except BuildFault Template := do
  let segments ← buildSegments source 0 source
  (readFields (toMembers ⟨source, segments⟩)).mapError .invalid

end Template

end Formwork
