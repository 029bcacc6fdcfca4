import Formwork.Binding.Resolve
import Formwork.Config.Fields
import Formwork.Render
import Formwork.Template.Parser

/-!
# From a template text to its output

The engine chains the stages: it reads a template, completes the values and writes the output,
and stops at the first stage that fails.  It has options and default rules; the rules of a single
call take the place of default rules of the same name.
-/

namespace Formwork

/-- Options and default rules. -/
structure Engine where
  config : Config := {}
  rules : Registry := .empty

/-- An output with what it was made from. -/
structure Scaffold where
  output : Text
  template : Template
  bindings : Bindings

namespace Engine

variable {α : Type} [Supplied α]

/-- The engine with default rules given as a rule set. -/
def ofRules (config : Config) (rules : RuleSet) : Except Conflict Engine :=
  rules.registry.map fun g => ⟨config, g⟩

def render (e : Engine) : Render := { indent := e.config.indentMultiline }

/-- The output of a template text under supplied values and the rules of this call. -/
def scaffold (e : Engine) (source : Text) (supplied : Table α) (rules : RuleSet) :
    Except Fault Scaffold := do
  let template ← (Template.parse source).mapError .malformed
  let own ← rules.registry.mapError .conflict
  let bindings ← Bindings.resolve template supplied (e.rules.merge own)
  let output ← e.render.template template bindings.values
  return { output, template, bindings }

def generate (e : Engine) (source : Text) (supplied : Table α) (rules : RuleSet) :
    Except Fault Text :=
  (e.scaffold source supplied rules).map Scaffold.output

end Engine

end Formwork
