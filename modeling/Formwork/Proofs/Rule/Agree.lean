import Formwork.Proofs.Rule.Order
import Formwork.Proofs.Rule.Registry

/-!
# Registries that agree on what is asked for

The listing of derived names goes from the targets through the inputs of rules, and looks up no
other names.  So two registries that have the same rules for the names that are asked for give the
same list (`Agree.order_eq`), however their rules are arranged and whatever other rules they have.

The search for circles is different: it starts from every derived name in turn, and which circle it
comes upon depends on that order.  Whether there is a circle does not, since `Acyclic` speaks of the
needs of names alone (`Acyclic.of_find?_eq`).

There are two ways to come by registries that agree: to arrange the rules differently
(`Agree.of_perm`), and to add a rule for a name that is not asked for (`Agree.of_perm_cons`).
-/

namespace Formwork.Registry

open Relation

variable {g g' : Registry} {targets : List Text}

/-- For every name that is asked for, the registries have the same rule, or both have none. -/
def Agree (g g' : Registry) (targets : List Text) : Prop :=
  ∀ name, g.Asked targets name → g.find? name = g'.find? name

namespace Agree

lemma contains_eq (h : g.Agree g' targets) {name : Text} (hname : g.Asked targets name) :
    g.contains name = g'.contains name := by
  unfold contains
  rw [h name hname]

lemma inputs_eq (h : g.Agree g' targets) {name : Text} (hname : g.Asked targets name) :
    g.inputs name = g'.inputs name := by
  unfold inputs
  rw [h name hname]

/-! ## The same order -/

lemma listAll_eq {path : List Text}
    (hfrom : ∀ listed name, g.Asked targets name →
      g.listFrom path listed name = g'.listFrom path listed name)
    (names listed : List Text) (hnames : ∀ name ∈ names, g.Asked targets name) :
    g.listAll path listed names = g'.listAll path listed names := by
  induction names generalizing listed with
  | nil => rw [listAll_nil, listAll_nil]
  | cons name names ih =>
    have hfirst : g.listFrom path listed name = g'.listFrom path listed name :=
      hfrom listed name (hnames name List.mem_cons_self)
    rw [listAll_cons, listAll_cons, hfirst]
    exact ih _ fun n hn => hnames n (List.mem_cons_of_mem _ hn)

/-- What is listed for a name that is asked for.  The induction is the one that bounds the listing,
on the derived names off the path; it suffices to count those of the first registry, since both
go down from the same names. -/
lemma listFrom_eq (h : g.Agree g' targets) (path listed : List Text) {name : Text}
    (hname : g.Asked targets name) :
    g.listFrom path listed name = g'.listFrom path listed name := by
  induction hoff : g.offPath path using Nat.strong_induction_on generalizing path listed name with
  | _ k ih =>
    have hsame : name ∈ g.names ↔ name ∈ g'.names := by
      rw [← contains_iff, ← contains_iff, h.contains_eq hname]
    by_cases hin : name ∈ listed
    · rw [listFrom_of_listed hin, listFrom_of_listed hin]
    by_cases hon : name ∈ path
    · rw [listFrom_of_onPath hin hon, listFrom_of_onPath hin hon]
    by_cases hderived : name ∈ g.names
    · have hless : g.offPath (name :: path) < k := hoff ▸ offPath_cons_lt_of_mem hderived hon
      have hinputs : g.listAll (name :: path) listed (g.inputs name)
          = g'.listAll (name :: path) listed (g.inputs name) :=
        listAll_eq (fun listed' n hn => ih _ hless (name :: path) listed' hn rfl) _ _
          fun input hinput => hname.of_mem_inputs hinput
      rw [listFrom_of_mem hin hon hderived, listFrom_of_mem hin hon (hsame.1 hderived), hinputs,
        h.inputs_eq hname]
    · rw [listFrom_of_not_mem hin hon hderived,
        listFrom_of_not_mem hin hon fun hm => hderived (hsame.2 hm)]

lemma order_eq (h : g.Agree g' targets) : g.order targets = g'.order targets :=
  listAll_eq (fun listed _ hname => h.listFrom_eq [] listed hname) targets [] fun _ hname =>
    .inl hname

/-! ## Where registries agree -/

lemma of_perm (h : g.rules.Perm g'.rules) (targets : List Text) : g.Agree g' targets :=
  fun _ _ => find?_congr fun _ _ => h.mem_iff

lemma of_perm_cons {rule : Rule} (h : g'.rules.Perm (rule :: g.rules))
    (hrule : ¬ g.Asked targets rule.name) : g.Agree g' targets := by
  intro name hname
  exact find?_of_perm_cons h fun hn => hrule (hn ▸ hname)

lemma mono {targets' : List Text} (h : g.Agree g' targets) (hsub : targets' ⊆ targets) :
    g.Agree g' targets' :=
  fun name hname => h name (hname.mono hsub)

end Agree

/-! ## The same circles -/

/-- What is needed in a part of a registry is needed in the whole, so a circle in the part is a
circle in the whole. -/
lemma Acyclic.of_find?_eq (hfind : ∀ name ∈ g.names, g.find? name = g'.find? name)
    (hacyclic : g'.Acyclic) : g.Acyclic := by
  have hneeds : ∀ name input, g.Needs name input → g'.Needs name input := by
    intro name input h
    have hinput := h.mem_inputs
    have hcontains := contains_iff.2 h.target_mem
    unfold inputs at hinput
    unfold contains at hcontains
    rw [hfind name h.source_mem] at hinput
    rw [hfind input h.target_mem] at hcontains
    exact ⟨hinput, hcontains⟩
  intro name hcircle
  exact hacyclic name (TransGen.mono hneeds name name hcircle)

lemma acyclic_iff_of_perm (h : g.rules.Perm g'.rules) : g.Acyclic ↔ g'.Acyclic := by
  have hfind : ∀ name, g.find? name = g'.find? name := fun _ => find?_congr fun _ _ => h.mem_iff
  constructor
  · exact fun hacyclic => hacyclic.of_find?_eq fun name _ => (hfind name).symm
  · exact fun hacyclic => hacyclic.of_find?_eq fun name _ => hfind name

lemma Acyclic.of_perm_cons {rule : Rule} (h : g'.rules.Perm (rule :: g.rules))
    (hnew : rule.name ∉ g.names) (hacyclic : g'.Acyclic) : g.Acyclic :=
  hacyclic.of_find?_eq fun _ hname => find?_of_perm_cons h fun hn => hnew (hn ▸ hname)

end Formwork.Registry
