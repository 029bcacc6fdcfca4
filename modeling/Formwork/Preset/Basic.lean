import Formwork.Engine
import Formwork.Fields.Readers

/-!
# Presets

A preset is a template with the rules and the default values that go with it, and with a name for
its output.  That name is a template too, completed with the same values and the preset's own
rules; what it gives must be a plain file name, so that the output cannot leave its directory.

A preset can be given field by field; its rules and the text of its template come separately.  The
rules must come one after the other; a table of rules is taken for the list of its names, none of
which is a rule.
-/

namespace Formwork

/-- A template with what goes with it. -/
structure Preset where
  name : Text
  description : Text
  /-- The name of the template. -/
  template : Text
  /-- The text of the template. -/
  source : Text
  rules : List Rule
  defaults : Table Text
  /-- The template of the name of the output. -/
  outputName : Text

namespace Preset

variable {α : Type} [Supplied α]

/-- Why a preset gives no name for its output. -/
inductive NameFault where
  | fault (cause : Fault)
  /-- The name is empty, leads elsewhere or holds a separator. -/
  | notPlain (name : Text)
  deriving Repr, DecidableEq

def NameFault.message : NameFault → Text
  | fault cause => cause.message
  | notPlain name => "Output filename " ++ Text.quoted name ++ " must be a plain file name"

/-- The supplied values over the defaults. -/
def values (p : Preset) (supplied : Table α) : Table α :=
  (p.defaults.map Supplied.ofText).merge supplied

/-- Whether a text names a file in a directory: it is not empty, neither the directory nor the one
around it, and holds no separator. -/
def isPlainName (s : Text) : Bool :=
  !([[], ['.'], ['.', '.']] : List Text).contains s && !s.contains '/' && !s.contains '\\'

/-- The name of the output under the supplied values. -/
def outputFile (p : Preset) (supplied : Table α) : Except NameFault Text := do
  let engine ← (Engine.ofRules {} (.list p.rules)).mapError fun c => .fault (.conflict c)
  let name ← (engine.generate p.outputName (p.values supplied) .none).mapError .fault
  if isPlainName name then return name else throw (.notPlain name)

/-! ## Presets as data -/

open Checked

def readRules : RuleSet → Checked (List Rule)
  | .list rules => .ok rules
  | .byName rules => each (fun _ => .fail .notRecord) rules.keys

def readFields (source : Text) (rules : RuleSet) (ms : List (Text × Json)) : Checked Preset :=
  (both (Fields.required "name" Fields.text ms)
    (both (Fields.optional "description" [] Fields.text ms)
      (both (Fields.required "template" Fields.text ms)
        (both (under (.field "rules") (readRules rules))
          (both (Fields.optional "defaults" .empty (Fields.table Fields.text) ms)
            (Fields.required "output_name" Fields.text ms)))))).map
    fun (name, description, template, rules, defaults, outputName) =>
      { name, description, template, source, rules, defaults, outputName }

end Preset

end Formwork
