import Formwork.Proofs.Binding.Solution

/-!
# The first rule that fails

A run of rules stops at the first rule that gives no value.  Which rule that is can be said without
the run: `Registry.FailsFirst` picks a name among those to be derived, and asks that the equations
of the names before it have a solution and that its rule gives no value from this solution.

The main statement is `Bindings.derive_eq_error_iff`: the run of the rules that are applied to a
template fails with what fails first.  It needs that no required value is missing, so that every
input is there when it is read and a rule fails for no other reason than its function, and that the
rules are without circles, so that the values which the rule reads are those of any solution.
-/

namespace Formwork

variable {α : Type} [Supplied α]

namespace Registry

variable {g : Registry}

/-! ## Where a run stops -/

lemma derive_append (values : Table α) (names more : List Text) :
    g.derive values (names ++ more) =
      (g.derive values names).bind fun reached => g.derive reached more := by
  induction names generalizing values with
  | nil => rfl
  | cons n names ih =>
    rw [List.cons_append]
    cases hfind : g.find? n with
    | none =>
      rw [derive, derive, hfind]
      exact ih values
    | some rule =>
      rw [derive_cons hfind, derive_cons hfind]
      cases rule.apply values with
      | error failure => rfl
      | ok value => exact ih _

/-- A run that fails has come to a rule that gives no value. -/
lemma exists_of_derive_eq_error {values : Table α} {names : List Text} {failure : Rule.Failure}
    (h : g.derive values names = .error failure) :
    ∃ before name behind rule reached, names = before ++ name :: behind ∧
      g.derive values before = .ok reached ∧ g.find? name = some rule ∧
      rule.apply reached = .error failure := by
  induction names generalizing values with
  | nil => cases h
  | cons n names ih =>
    cases hfind : g.find? n with
    | none =>
      rw [derive, hfind] at h
      obtain ⟨before, name, behind, rule, reached, rfl, hreached, hrule, hfail⟩ := ih h
      exact ⟨n :: before, name, behind, rule, reached, rfl, by rw [derive, hfind]; exact hreached,
        hrule, hfail⟩
    | some first =>
      rw [derive_cons hfind] at h
      rcases Except.bind_eq_error_iff.1 h with hfirst | ⟨value, hvalue, hrest⟩
      · exact ⟨[], n, names, first, values, rfl, rfl, hfind, hfirst⟩
      · obtain ⟨before, name, behind, rule, reached, rfl, hreached, hrule, hfail⟩ := ih hrest
        refine ⟨n :: before, name, behind, rule, reached, rfl, ?_, hrule, hfail⟩
        rw [derive_cons hfind]
        exact Except.bind_eq_ok_iff.2 ⟨value, hvalue, hreached⟩

/-! ## The first failure, without a run -/

/-- The rules of the names before one of these give values, and its own rule, from such values, does
not. -/
inductive FailsFirst (g : Registry) (supplied : Table α) (names : List Text)
    (failure : Rule.Failure) : Prop
  | intro {before behind : List Text} {name : Text} {rule : Rule} {inputs : List α}
      {values : Text → Option α} (split : names = before ++ name :: behind)
      (solved : g.Solves supplied before values) (found : g.find? name = some rule)
      (read : rule.inputs.map values = inputs.map some)
      (refused : rule.accept (rule.compute (inputs.map Supplied.toJson)) = .error failure)

end Registry

namespace Bindings

variable {g : Registry} {t : Template} {supplied : Table α}

/-- A run of the applied rules fails exactly where one of them is the first to fail. -/
lemma derive_eq_error_iff {failure : Rule.Failure} (hacyclic : g.Acyclic)
    (hmissing : missing t supplied g = []) :
    g.derive (given t supplied g) (applied t g) = .error failure ↔
      g.FailsFirst (given t supplied g) (applied t g) failure := by
  -- The rule that is to be run next finds its inputs.
  have hinputs : ∀ before name behind rule (reached : Table α),
      applied t g = before ++ name :: behind → g.find? name = some rule →
      g.Solves (given t supplied g) before reached.get? →
      ∀ input ∈ rule.inputs, input ∈ reached.keys := by
    intro before name behind rule reached hsplit hfind hsolved input hinput
    rw [hsolved.mem_keys_iff, or_comm]
    exact input_derived_or_given hacyclic hmissing hsplit
      (Registry.inputs_of_find? hfind ▸ hinput)
  constructor
  · intro h
    obtain ⟨before, name, behind, rule, reached, hsplit, hreached, hfind, hfail⟩ :=
      Registry.exists_of_derive_eq_error h
    have hsolved := solves_of_derive_part hacyclic hsplit hreached
    obtain ⟨inputs, hread, hrefused⟩ :=
      (Rule.apply_eq_error_iff (hinputs _ _ _ _ _ hsplit hfind hsolved)).1 hfail
    exact .intro hsplit hsolved hfind hread hrefused
  · rintro @⟨before, behind, name, rule, inputs, values, hsplit, hsolved, hfind, hread, hrefused⟩
    obtain ⟨reached, hreached⟩ : ∃ reached, g.derive (given t supplied g) before = .ok reached :=
      Registry.exists_derive_of_forall
        (fun front n rest hbefore input hinput => input_not_mem_part hacyclic hsplit hbefore hinput)
        hsolved.derives fun n hn => (hsolved.supplies n hn).symm
    have hreached' := solves_of_derive_part hacyclic hsplit hreached
    -- The values that the rule reads are those of any solution.
    obtain rfl : values = reached.get? := hsolved.unique hreached' hacyclic.grounded
    have hfail : rule.apply reached = .error failure :=
      (Rule.apply_eq_error_iff (hinputs _ _ _ _ _ hsplit hfind hreached')).2
        ⟨inputs, hread, hrefused⟩
    rw [hsplit, Registry.derive_append, hreached]
    change g.derive reached (name :: behind) = _
    rw [Registry.derive_cons hfind, hfail]
    rfl

end Bindings

end Formwork
