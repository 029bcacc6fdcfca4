import Formwork.Rule.Cycle

/-!
# The order of derivation

`order` lists the derived names that some targets need, each after the derived names that it
needs itself.  Like the search for circles it goes depth first along a path; a name is listed
when everything it needs has been listed.  A needed name that stands on the path is passed over,
so the list exists for circular rules too, although it then keeps no order among them.
-/

namespace Formwork.Registry

mutual

/-- Lists what one name needs, and the name itself, after what is listed already. -/
def listFrom (g : Registry) (path listed : List Text) (name : Text) : List Text :=
  if listed.contains name then listed
  else if _off : path.contains name then listed
  else
    match _found : g.find? name with
    | none => listed
    | some rule => listAll g (name :: path) listed rule.inputs ++ [name]
termination_by (g.offPath path, 0)
decreasing_by
  exact Prod.Lex.left _ _ (offPath_cons_lt _found _off)

/-- Lists what several names need, one after the other. -/
def listAll (g : Registry) (path listed : List Text) : List Text → List Text
  | [] => listed
  | name :: names => listAll g path (listFrom g path listed name) names
termination_by names => (g.offPath path, names.length + 1)
decreasing_by
  · exact Prod.Lex.right _ (Nat.succ_pos _)
  · exact Prod.Lex.right _ (Nat.lt_succ_self _)

end

/-- The derived names that the targets need, each after those that it needs itself. -/
def order (g : Registry) (targets : List Text) : List Text := g.listAll [] [] targets

end Formwork.Registry
