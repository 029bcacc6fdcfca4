import Formwork.Binding.Basic
import Formwork.Fault
import Formwork.Rule.Order
import Formwork.Template.Basic

/-!
# Completing the values of a template

Given a template, the values that a user supplies and the rules, `resolve` finds the bindings.
The rules that the placeholders need, directly or through other rules, are *applied*, each after
those that it needs itself.  A name without a rule that a placeholder or an applied rule asks for
is *required* of the user; all required names that are absent are reported together.

A supplied value for a name whose rule is applied gives way to the derived value, and a supplied
name that nothing asks for is kept and reported as unused.

Values can be supplied as data.  Those that are still there when all rules have been applied must
be texts.
-/

namespace Formwork

variable {α : Type} [Supplied α]

/-- The names without a rule that a template's names or the applied rules ask for: those of the
template first, then the inputs of the applied rules, each at its first mention. -/
def Registry.required (g : Registry) (names applied : List Text) : List Text :=
  Names.distinct ((names ++ applied.flatMap g.inputs).filter fun n => !g.contains n)

/-- Applies the rules of the given names, one after the other, each to the values known by then. -/
def Registry.derive (g : Registry) (values : Table α) :
    List Text → Except Rule.Failure (Table α)
  | [] => .ok values
  | name :: names =>
    match g.find? name with
    | none => g.derive values names
    | some rule => do
      let value ← rule.apply values
      g.derive (values.set name (Supplied.ofText value)) names

def Registry.checkAcyclic (g : Registry) : Except Fault Unit :=
  match g.findCycle with
  | some cycle => .error (.cyclic cycle)
  | none => .ok ()

namespace Bindings

/-- The bindings of a template under the supplied values and the rules of a registry. -/
def resolve (t : Template) (supplied : Table α) (g : Registry) : Except Fault Bindings := do
  g.checkAcyclic
  let names := t.names
  let applied := g.order names
  let required := g.required names applied
  let missing := required.filter fun n => !supplied.contains n
  if missing.isEmpty then
    let given := supplied.filterKeys fun n => !applied.contains n
    let values ← (g.derive given applied).mapError .rule
    let values ← values.texts.mapError .notTexts
    return {
      values
      derived := applied
      unused := supplied.keys.filter fun n =>
        !names.contains n && !required.contains n && !applied.contains n
      shadowed := supplied.keys.filter fun n => applied.contains n }
  else throw (.missing missing)

def resolveWith (t : Template) (supplied : Table α) (rules : RuleSet) : Except Fault Bindings := do
  let g ← rules.registry.mapError .conflict
  resolve t supplied g

end Bindings

end Formwork
