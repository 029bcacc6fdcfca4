import Formwork.Rule.Registry
import Formwork.Template.Parser

/-!
# What can go wrong between a template and its output

One type gathers the causes for which a template, values and rules give no output.  The stages
that can fail stand in the order in which they are passed: the template is read, the rules are
put together, the values are completed, the output is written.
-/

namespace Formwork

/-- Why there is no output. -/
inductive Fault where
  /-- The text is not a template. -/
  | malformed (cause : Template.Malformed)
  /-- The rules make no registry. -/
  | conflict (cause : Conflict)
  /-- The rules need each other in a circle, given as a closed path. -/
  | cyclic (cycle : List Text)
  /-- These values are required and absent. -/
  | missing (names : List Text)
  /-- A rule gives no value. -/
  | rule (cause : Rule.Failure)
  /-- Under these names other data than texts are to be bound. -/
  | notTexts (names : List Text)
  /-- A placeholder has no value when the output is written. -/
  | unbound (name : Text)
  deriving Repr, DecidableEq

def Fault.message : Fault → Text
  | malformed cause => cause.message
  | conflict cause => cause.message
  | cyclic cycle => "Cyclic derivation: " ++ List.intercalate [' ', '-', '>', ' '] cycle
  | missing names => "Missing values for: " ++ Names.commaList names
  | rule cause => cause.message
  | notTexts names => "No texts under: " ++ Names.commaList names
  | unbound name => "No binding for placeholder '" ++ name ++ "'"

end Formwork
