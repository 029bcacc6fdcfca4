import Formwork.Fields.Readers
import Formwork.Template.Basic

/-!
# Templates as data

A template, its segments and its slots can be given field by field.  A segment says by its field
`kind` which of the two kinds it is.  What is read is as good as what `Template.parse` gives: the
names are identifiers, lines and columns count from one.

The other way round, `toMembers` gives the fields of a part, all of them and in order.
-/

namespace Formwork

open Fields Checked

/-! ## Reading -/

def Segment.readLiteral (ms : List (Text × Json)) : Checked Segment :=
  (both (Fields.optional "kind" () (constant "literal") ms)
    (Fields.required "text" Fields.text ms)).map fun (_, t) => .literal t

def Segment.readPlaceholder (ms : List (Text × Json)) : Checked Segment :=
  (both (Fields.optional "kind" () (constant "placeholder") ms)
    (both (Fields.required "name" identifier ms)
      (both (Fields.optional "offset" 0 (atLeast 0) ms)
        (both (Fields.optional "line" 1 (atLeast 1) ms)
          (Fields.optional "column" 1 (atLeast 1) ms))))).map
    fun (_, name, offset, line, column) => .placeholder name ⟨offset, line, column⟩

/-- Reads a segment of either kind, as its tag says.  Issues with a segment whose kind is known
lie under the name of that kind. -/
def Segment.read : Json → Checked Segment
  | .object ms =>
    match Json.member? "kind" ms with
    | none => .fail .tagMissing
    | some (.text kind) =>
      if kind = ("literal" : Text) then .under (.field kind) (readLiteral ms)
      else if kind = ("placeholder" : Text) then .under (.field kind) (readPlaceholder ms)
      else .fail .tagUnknown
    | some _ => .fail .tagUnknown
  | _ => .fail .notTagged

def Template.readFields (ms : List (Text × Json)) : Checked Template :=
  (both (Fields.optional "source" [] Fields.text ms)
    (Fields.optional "segments" [] (tuple Segment.read) ms)).map
    fun (source, segments) => ⟨source, segments⟩

def Slot.readFields (ms : List (Text × Json)) : Checked Slot :=
  (both (Fields.required "name" identifier ms)
    (both (Fields.optional "occurrence_count" 1 (atLeast 1) ms)
      (Fields.optional "is_derived" false (Fields.bool .wide) ms))).map
    fun (name, count, derived) => ⟨name, count, derived⟩

/-! ## Writing -/

def Segment.toMembers : Segment → List (Text × Json)
  | literal text => [("kind", .text "literal"), ("text", .text text)]
  | placeholder name position =>
    [("kind", .text "placeholder"), ("name", .text name), ("offset", .integer position.offset),
      ("line", .integer position.line), ("column", .integer position.column)]

def Template.toMembers (t : Template) : List (Text × Json) :=
  [("source", .text t.source), ("segments", .array (t.segments.map fun g => .object g.toMembers))]

def Slot.toMembers (s : Slot) : List (Text × Json) :=
  [("name", .text s.name), ("occurrence_count", .integer s.count), ("is_derived", .bool s.derived)]

end Formwork
