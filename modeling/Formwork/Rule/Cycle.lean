import Formwork.Rule.Registry

/-!
# Circular rules

A rule *needs* those of its inputs that are derived themselves.  Rules that need each other in a
circle have no value, so a circle is looked for before anything is computed.

The search goes depth first.  It keeps the *path*, the names from the starting point to the
present one, nearest first, and the names that are *done*, from which no circle can be reached.
A needed name that stands on the path closes a circle.  Every step down the path uses up one of
the registry's names, which bounds the search.
-/

namespace Formwork.Registry

/-- How many names of the registry are not on the path. -/
def offPath (g : Registry) (path : List Text) : Nat :=
  (g.names.filter fun n => !path.contains n).length

/-- Going down to a derived name that is not on the path uses it up. -/
theorem offPath_cons_lt {g : Registry} {path : List Text} {name : Text} {rule : Rule}
    (h : g.find? name = some rule) (hp : ¬ path.contains name = true) :
    g.offPath (name :: path) < g.offPath path := by
  have hsub : (g.names.filter fun n => !(name :: path).contains n)
      = (g.names.filter fun n => !path.contains n).filter (· != name) := by
    rw [List.filter_filter]
    apply List.filter_congr
    intro n _
    rw [List.contains_cons, Bool.not_or]
    rfl
  unfold offPath
  rw [hsub, List.length_filter_lt_length_iff_exists]
  refine ⟨name, List.mem_filter.2 ⟨mem_names_of_find? h, by simpa using hp⟩, by simp⟩

/-- The circle that is closed when a name on the path is needed again: the path from that name
on, and the name once more. -/
def closedAt (path : List Text) (name : Text) : List Text :=
  name :: (path.takeWhile (· != name)).reverse ++ [name]

mutual

/-- Searches from one name.  The outcome is a circle, as the error, or the names that are done. -/
def searchFrom (g : Registry) (path done : List Text) (name : Text) :
    Except (List Text) (List Text) :=
  if done.contains name then .ok done
  else if _off : path.contains name then .error (closedAt path name)
  else
    match _found : g.find? name with
    | none => .ok done
    | some rule => do
      let done ← searchAll g (name :: path) done rule.inputs
      return name :: done
termination_by (g.offPath path, 0)
decreasing_by
  exact Prod.Lex.left _ _ (offPath_cons_lt _found _off)

/-- Searches from several names, one after the other. -/
def searchAll (g : Registry) (path done : List Text) :
    List Text → Except (List Text) (List Text)
  | [] => .ok done
  | name :: names => do
    let done ← searchFrom g path done name
    searchAll g path done names
termination_by names => (g.offPath path, names.length + 1)
decreasing_by
  · exact Prod.Lex.right _ (Nat.succ_pos _)
  · exact Prod.Lex.right _ (Nat.lt_succ_self _)

end

/-- A circle of rules, as a closed path, if there is one. -/
def findCycle (g : Registry) : Option (List Text) :=
  match g.searchAll [] [] g.names with
  | .error cycle => some cycle
  | .ok _ => none

end Formwork.Registry
