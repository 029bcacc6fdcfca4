import Formwork.Fields.Readers
import Formwork.Names

/-!
# Bindings

The bindings of a template say what goes into its placeholders.  Beside the values they record
which names were derived, which given names nothing uses, and which given names lose their value
because a rule derives it.  The last two are worth a warning and never an error.

When one set of values serves several templates, a value is unused only if none of them uses it,
and it is shadowed if any of them derives it instead.

Bindings can be given as data, field by field.  Only texts can be bound, so a value of another kind is
reported with its name.
-/

namespace Formwork

/-- Values under their names, with what is to be said about the names. -/
structure Bindings where
  values : Table Text
  derived : List Text
  unused : List Text
  shadowed : List Text

namespace Bindings

def unusedWarning (name : Text) : Text := "Unused binding '" ++ name ++ "'"

def shadowedWarning (name : Text) : Text :=
  "Binding '" ++ name ++ "' ignored; its value is derived"

/-- What there is to warn of, the unused names first. -/
def warnings (b : Bindings) : List Text :=
  b.unused.map unusedWarning ++ b.shadowed.map shadowedWarning

/-! ## Several outputs -/

/-- The names that all of several lists have in common, in the order of the first. -/
def inAll : List (List Text) → List Text
  | [] => []
  | l :: ls => l.filter fun n => ls.all fun m => m.contains n

/-- What is to be said about the names of several bindings together; they have no values. -/
def merged (bs : List Bindings) : Bindings where
  values := .empty
  derived := []
  unused := inAll (bs.map Bindings.unused)
  shadowed := Names.distinct (bs.flatMap Bindings.shadowed)

/-- The warnings of several outputs; those of a single one are its own. -/
def mergedWarnings : List Bindings → List Text
  | [b] => b.warnings
  | bs => (merged bs).warnings

/-! ## Bindings as data -/

open Checked

def readFields (ms : List (Text × Json)) : Checked Bindings :=
  (both (Fields.optional "values" .empty (Fields.table Fields.text) ms)
    (both (Fields.optional "derived" [] Fields.textSet ms)
      (both (Fields.optional "unused" [] (Fields.tuple Fields.text) ms)
        (Fields.optional "shadowed" [] (Fields.tuple Fields.text) ms)))).map
    fun (values, derived, unused, shadowed) => ⟨values, derived, unused, shadowed⟩

/-- Reads bare values as bindings of which nothing else is known. -/
def readValues (values : List (Text × Json)) : Checked Bindings :=
  readFields [("values", .object values)]

end Bindings

end Formwork
