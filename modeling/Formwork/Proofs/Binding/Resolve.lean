import Formwork.Binding.Resolve
import Formwork.Proofs.Rule.Order
import Formwork.Proofs.Stages

/-!
# Completing values, stage by stage

`Bindings.resolve` passes three stages, and each has an equation here: a circle is refused
(`resolve_of_cycle`), absent values are reported (`resolve_of_missing`), and otherwise the applied
rules are run on the given values (`resolve_of_complete`).  The names that the stages hand to each
other have definitions of their own: `applied`, the derived names that the template needs,
`missing`, the required names that are absent, and `given`, the supplied values that no applied
rule replaces.

What makes the last stage succeed in finding its inputs is stated for a registry without circles
and values with nothing missing: an input of an applied rule is derived earlier or given
(`input_derived_or_given`), and every name of the template is applied or given
(`mention_applied_or_given`).
-/

namespace Formwork

variable {α : Type} {g : Registry} {t : Template} {supplied : Table α}

/-- The names required of the user are those that the template mentions and those that the applied
rules read, except where the registry derives them. -/
lemma Registry.mem_required_iff {names applied : List Text} {name : Text} :
    name ∈ g.required names applied ↔
      (name ∈ names ∨ ∃ rule ∈ applied, name ∈ g.inputs rule) ∧ name ∉ g.names := by
  unfold Registry.required
  rw [Names.mem_distinct, List.mem_filter, List.mem_append, List.mem_flatMap, ← contains_iff]
  simp

namespace Bindings

/-- The derived names that the template mentions or needs, in the order of derivation. -/
def applied (t : Template) (g : Registry) : List Text := g.order t.names

/-- The names that are required of the user and absent. -/
def missing (t : Template) (supplied : Table α) (g : Registry) : List Text :=
  (g.required t.names (applied t g)).filter fun n => !supplied.contains n

/-- The supplied values that no applied rule replaces. -/
def given (t : Template) (supplied : Table α) (g : Registry) : Table α :=
  supplied.filterKeys fun n => !(applied t g).contains n

/-- The bindings that hold these values, with the diagnoses of the names. -/
def ofValues (t : Template) (supplied : Table α) (g : Registry) (values : Table Text) :
    Bindings where
  values := values
  derived := applied t g
  unused := supplied.keys.filter fun n =>
    !t.names.contains n && !(g.required t.names (applied t g)).contains n
      && !(applied t g).contains n
  shadowed := supplied.keys.filter fun n => (applied t g).contains n

/-! ## Nothing is read that is not there -/

lemma mem_applied_iff {name : Text} : name ∈ applied t g ↔ g.Reachable t.mentions name := by
  unfold applied
  rw [Registry.mem_order_iff]
  constructor
  · exact fun h => h.mono fun _ hn => Template.mem_names.1 hn
  · exact fun h => h.mono fun _ hn => Template.mem_names.2 hn

lemma mem_keys_given_iff {name : Text} :
    name ∈ (given t supplied g).keys ↔ name ∈ supplied.keys ∧ name ∉ applied t g := by
  unfold given
  rw [Table.keys_filterKeys, List.mem_filter]
  simp

/-- What the registry does not derive, and the template or an applied rule asks for, is given when
nothing is missing. -/
lemma mem_keys_given_of_required (hmissing : missing t supplied g = []) {name : Text}
    (h : name ∈ g.required t.names (applied t g)) : name ∈ (given t supplied g).keys := by
  have hsupplied : name ∈ supplied.keys := by
    by_contra habsent
    have hm : name ∈ missing t supplied g := by
      unfold missing
      rw [List.mem_filter, Bool.not_eq_true', Table.contains_eq_false_iff]
      exact ⟨h, habsent⟩
    rw [hmissing] at hm
    exact absurd hm List.not_mem_nil
  refine mem_keys_given_iff.2 ⟨hsupplied, fun happlied => ?_⟩
  exact (Registry.mem_required_iff.1 h).2 (mem_applied_iff.1 happlied).mem_names

/-- Every name that the template mentions is applied or given. -/
lemma mention_applied_or_given (hmissing : missing t supplied g = []) {name : Text}
    (h : name ∈ t.mentions) : name ∈ applied t g ∨ name ∈ (given t supplied g).keys := by
  by_cases hname : name ∈ g.names
  · exact .inl (mem_applied_iff.2 (.target h (Registry.contains_iff.2 hname)))
  · refine .inr (mem_keys_given_of_required hmissing (Registry.mem_required_iff.2 ⟨?_, hname⟩))
    exact .inl (Template.mem_names.2 h)

/-- Every input of an applied rule is derived before it or given. -/
lemma input_derived_or_given (hacyclic : g.Acyclic) (hmissing : missing t supplied g = [])
    {before behind : List Text} {name input : Text}
    (hsplit : applied t g = before ++ name :: behind) (h : input ∈ g.inputs name) :
    input ∈ before ∨ input ∈ (given t supplied g).keys := by
  by_cases hinput : input ∈ g.names
  · exact .inl (hacyclic.mem_before_of_needs hsplit ⟨h, Registry.contains_iff.2 hinput⟩)
  · refine .inr (mem_keys_given_of_required hmissing (Registry.mem_required_iff.2 ⟨?_, hinput⟩))
    refine .inr ⟨name, ?_, h⟩
    rw [hsplit]
    exact List.mem_append_right _ List.mem_cons_self

/-- No input of an applied rule is derived with it or after it. -/
lemma input_not_mem_behind (hacyclic : g.Acyclic) {before behind : List Text} {name input : Text}
    (hsplit : applied t g = before ++ name :: behind) (h : input ∈ g.inputs name) :
    input ∉ name :: behind := by
  intro hlate
  have hin : input ∈ applied t g := by
    rw [hsplit]
    exact List.mem_append_right _ hlate
  have hderived : input ∈ g.names := (mem_applied_iff.1 hin).mem_names
  have hbefore : input ∈ before :=
    hacyclic.mem_before_of_needs hsplit ⟨h, Registry.contains_iff.2 hderived⟩
  have hdistinct : (before ++ name :: behind).Nodup := hsplit ▸ g.nodup_order t.names
  exact (List.nodup_append.1 hdistinct).2.2 input hbefore input hlate rfl

/-- The same for the names that come first. -/
lemma input_not_mem_part (hacyclic : g.Acyclic) {before behind front rest : List Text}
    {name input : Text} (hsplit : applied t g = before ++ behind)
    (hbefore : before = front ++ name :: rest) (h : input ∈ g.inputs name) :
    input ∉ name :: rest := by
  have happlied : applied t g = front ++ name :: (rest ++ behind) := by simp [hsplit, hbefore]
  have hlate := input_not_mem_behind hacyclic happlied h
  rw [← List.cons_append, List.mem_append, not_or] at hlate
  exact hlate.1

/-! ## The stages -/

variable [Supplied α]

lemma resolveWith_of_registry {rules : RuleSet} (h : rules.registry = .ok g) :
    resolveWith t supplied rules = resolve t supplied g := by
  unfold resolveWith
  rw [h]
  rfl

lemma resolveWith_eq_ok_iff {rules : RuleSet} {b : Bindings} :
    resolveWith t supplied rules = .ok b ↔
      ∃ g, rules.registry = .ok g ∧ resolve t supplied g = .ok b := by
  constructor
  · intro h
    obtain ⟨g, hg, hb⟩ := Except.bind_eq_ok_iff.1 h
    exact ⟨g, Except.mapError_eq_ok_iff.1 hg, hb⟩
  · rintro ⟨g, hg, hb⟩
    rw [resolveWith_of_registry hg, hb]

lemma resolve_of_cycle {cycle : List Text} (h : g.findCycle = some cycle) :
    resolve t supplied g = .error (.cyclic cycle) := by
  unfold resolve Registry.checkAcyclic
  rw [h]
  rfl

lemma resolve_of_missing (h : g.findCycle = none) (hmissing : missing t supplied g ≠ []) :
    resolve t supplied g = .error (.missing (missing t supplied g)) := by
  have hempty : (missing t supplied g).isEmpty = false := by simpa using hmissing
  unfold resolve Registry.checkAcyclic
  rw [h]
  show (if (missing t supplied g).isEmpty then _ else _) = _
  rw [hempty]
  rfl

/-- With nothing missing, the rules are run, and what is left must be texts. -/
lemma resolve_of_complete (h : g.findCycle = none) (hmissing : missing t supplied g = []) :
    resolve t supplied g =
      ((g.derive (given t supplied g) (applied t g)).mapError .rule).bind fun values =>
        (values.texts.mapError .notTexts).map (ofValues t supplied g) := by
  unfold resolve Registry.checkAcyclic
  rw [h]
  show (if (missing t supplied g).isEmpty then _ else _) = _
  rw [hmissing]
  rfl

/-- A template is completed exactly when there is no circle, nothing is missing, the rules give
values, and all values are texts. -/
lemma resolve_eq_ok_iff {b : Bindings} :
    resolve t supplied g = .ok b ↔
      g.findCycle = none ∧ missing t supplied g = [] ∧
        ∃ values texts, g.derive (given t supplied g) (applied t g) = .ok values ∧
          values.texts = .ok texts ∧ b = ofValues t supplied g texts := by
  constructor
  · intro h
    cases hcycle : g.findCycle with
    | some cycle =>
      rw [resolve_of_cycle hcycle] at h
      cases h
    | none =>
      by_cases hmissing : missing t supplied g = []
      · rw [resolve_of_complete hcycle hmissing] at h
        obtain ⟨values, hderive, h⟩ := Except.bind_eq_ok_iff.1 h
        obtain ⟨texts, htexts, rfl⟩ := Except.map_eq_ok_iff.1 h
        exact ⟨rfl, hmissing, values, texts, Except.mapError_eq_ok_iff.1 hderive,
          Except.mapError_eq_ok_iff.1 htexts, rfl⟩
      · rw [resolve_of_missing hcycle hmissing] at h
        cases h
  · rintro ⟨hcycle, hmissing, values, texts, hderive, htexts, rfl⟩
    rw [resolve_of_complete hcycle hmissing]
    refine Except.bind_eq_ok_iff.2 ⟨values, Except.mapError_eq_ok_iff.2 hderive, ?_⟩
    exact Except.map_eq_ok_iff.2 ⟨texts, Except.mapError_eq_ok_iff.2 htexts, rfl⟩

/-- Why a template is not completed: there is a circle, a required name is absent, a rule fails, or
a value is no text.  Each is looked for only when the ones before it have been ruled out. -/
lemma resolve_eq_error_iff {e : Fault} :
    resolve t supplied g = .error e ↔
      (∃ cycle, g.findCycle = some cycle ∧ e = .cyclic cycle) ∨
      g.findCycle = none ∧
        (missing t supplied g ≠ [] ∧ e = .missing (missing t supplied g) ∨
        missing t supplied g = [] ∧
          ((∃ cause, g.derive (given t supplied g) (applied t g) = .error cause ∧
            e = .rule cause) ∨
          ∃ values names, g.derive (given t supplied g) (applied t g) = .ok values ∧
            values.texts = .error names ∧ e = .notTexts names)) := by
  cases hcycle : g.findCycle with
  | some cycle =>
    rw [resolve_of_cycle hcycle]
    constructor
    · intro h
      cases h
      exact .inl ⟨cycle, rfl, rfl⟩
    · rintro (⟨cycle', hsome, rfl⟩ | ⟨hnone, -⟩)
      · cases hsome
        rfl
      · cases hnone
  | none =>
    by_cases hmissing : missing t supplied g = []
    · rw [resolve_of_complete hcycle hmissing]
      constructor
      · intro h
        refine .inr ⟨rfl, .inr ⟨hmissing, ?_⟩⟩
        rcases Except.bind_eq_error_iff.1 h with hrule | ⟨values, hderive, h⟩
        · obtain ⟨cause, hcause, rfl⟩ := Except.mapError_eq_error_iff.1 hrule
          exact .inl ⟨cause, hcause, rfl⟩
        · obtain ⟨names, hnames, rfl⟩ :=
            Except.mapError_eq_error_iff.1 (Except.map_eq_error_iff.1 h)
          exact .inr ⟨values, names, Except.mapError_eq_ok_iff.1 hderive, hnames, rfl⟩
      · rintro (⟨cycle, hnone, -⟩ | ⟨-, ⟨hne, -⟩ | ⟨-, hfail⟩⟩)
        · cases hnone
        · exact absurd hmissing hne
        refine Except.bind_eq_error_iff.2 ?_
        rcases hfail with ⟨cause, hcause, rfl⟩ | ⟨values, names, hderive, hnames, rfl⟩
        · exact .inl (Except.mapError_eq_error_iff.2 ⟨cause, hcause, rfl⟩)
        · refine .inr ⟨values, Except.mapError_eq_ok_iff.2 hderive, ?_⟩
          exact Except.map_eq_error_iff.2 (Except.mapError_eq_error_iff.2 ⟨names, hnames, rfl⟩)
    · rw [resolve_of_missing hcycle hmissing]
      constructor
      · intro h
        cases h
        exact .inr ⟨rfl, .inl ⟨hmissing, rfl⟩⟩
      · rintro (⟨cycle, hsome, -⟩ | ⟨-, ⟨-, rfl⟩ | ⟨hnil, -⟩⟩)
        · cases hsome
        · rfl
        · exact absurd hnil hmissing

end Bindings

end Formwork
