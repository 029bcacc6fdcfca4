import Formwork.Proofs.Binding.Equations
import Formwork.Proofs.Rule.Agree

/-!
# The arrangement of rules does not matter

Rules can be given as a list in any order or as a table, and there can be rules among them that a
template does not need.  None of this has an influence on the bindings.

Completing the values looks up the names that are asked for and no others, so registries that agree
on these give the same outcome (`resolve_of_agree`).  The one stage that looks at all rules is the
search for circles.  Whether it finds one is the same for every arrangement, but which one it finds
is not; outcomes that differ in this alone are `Alike`.  A further rule that is not asked for may
bring in a circle, and then there is nothing else that it can do.
-/

namespace Formwork

variable {α : Type} {g g' : Registry} {t : Template} {supplied : Table α}

/-! ## Registries that agree on what the template asks for -/

namespace Bindings

lemma applied_of_agree (h : g.Agree g' t.mentions) : applied t g = applied t g' :=
  (h.mono fun _ hn => Template.mem_names.1 hn).order_eq

lemma required_of_agree (h : g.Agree g' t.mentions) :
    g.required t.names (applied t g) = g'.required t.names (applied t g') := by
  have happlied : ∀ n ∈ applied t g, g.Asked t.mentions n := fun n hn =>
    (mem_applied_iff.1 hn).asked
  have hinputs : (applied t g).flatMap g.inputs = (applied t g).flatMap g'.inputs :=
    List.flatMap_congr fun n hn => h.inputs_eq (happlied n hn)
  unfold Registry.required
  rw [← applied_of_agree h, ← hinputs]
  -- The two lists agree; what remains is which of the names the registries derive.
  refine congrArg _ (List.filter_congr fun n hn => ?_)
  have hasked : g.Asked t.mentions n := by
    rcases List.mem_append.1 hn with hname | hinput
    · exact .inl (Template.mem_names.1 hname)
    · obtain ⟨m, hm, hn⟩ := List.mem_flatMap.1 hinput
      exact (happlied m hm).of_mem_inputs hn
  rw [h.contains_eq hasked]

lemma missing_of_agree (h : g.Agree g' t.mentions) :
    missing t supplied g = missing t supplied g' := by
  unfold missing
  rw [required_of_agree h]

lemma given_of_agree (h : g.Agree g' t.mentions) : given t supplied g = given t supplied g' := by
  unfold given
  rw [applied_of_agree h]

lemma ofValues_of_agree (h : g.Agree g' t.mentions) :
    ofValues t supplied g = ofValues t supplied g' := by
  funext values
  unfold ofValues
  rw [required_of_agree h, applied_of_agree h]

variable [Supplied α]

lemma derive_of_agree (h : g.Agree g' t.mentions) (values : Table α) :
    g.derive values (applied t g) = g'.derive values (applied t g') := by
  have hreach : ∀ n ∈ applied t g, g.Reachable t.mentions n := fun n hn => mem_applied_iff.1 hn
  rw [← applied_of_agree h]
  exact Registry.derive_congr (fun n hn => (hreach n hn).mem_names)
    (fun n hn => h n (hreach n hn).asked) values

/-- Registries without circles that agree on what the template asks for give the same outcome. -/
lemma resolve_of_agree (h : g.Agree g' t.mentions) (hacyclic : g.Acyclic)
    (hacyclic' : g'.Acyclic) : resolve t supplied g = resolve t supplied g' := by
  have hcycle : g.findCycle = none := Registry.findCycle_eq_none_iff.2 hacyclic
  have hcycle' : g'.findCycle = none := Registry.findCycle_eq_none_iff.2 hacyclic'
  by_cases hmissing : missing t supplied g = []
  · have hmissing' : missing t supplied g' = [] := missing_of_agree h ▸ hmissing
    rw [resolve_of_complete hcycle hmissing, resolve_of_complete hcycle' hmissing',
      given_of_agree h, derive_of_agree h, ofValues_of_agree h]
  · have hmissing' : missing t supplied g' ≠ [] := missing_of_agree h ▸ hmissing
    rw [resolve_of_missing hcycle hmissing, resolve_of_missing hcycle' hmissing',
      missing_of_agree h]

lemma exists_resolve_eq_cyclic (t : Template) (supplied : Table α) (h : ¬ g.Acyclic) :
    ∃ cycle, resolve t supplied g = .error (.cyclic cycle) := by
  obtain ⟨cycle, hcycle, -⟩ := Registry.exists_findCycle_of_not_acyclic h
  exact ⟨cycle, resolve_of_cycle hcycle⟩

/-! ## Arranging rules, and adding some -/

/-- The outcomes are the same, except that both may be a circle, and then not the same one. -/
def Alike (x y : Except Fault Bindings) : Prop :=
  x = y ∨ ∃ cycle cycle', x = .error (.cyclic cycle) ∧ y = .error (.cyclic cycle')

lemma resolve_alike_of_perm (h : g.rules.Perm g'.rules) :
    Alike (resolve t supplied g) (resolve t supplied g') := by
  by_cases hacyclic : g.Acyclic
  · have hacyclic' : g'.Acyclic := (Registry.acyclic_iff_of_perm h).1 hacyclic
    exact .inl (resolve_of_agree (.of_perm h _) hacyclic hacyclic')
  · have hcyclic' : ¬ g'.Acyclic := fun h' => hacyclic ((Registry.acyclic_iff_of_perm h).2 h')
    obtain ⟨cycle, hcycle⟩ := exists_resolve_eq_cyclic t supplied hacyclic
    obtain ⟨cycle', hcycle'⟩ := exists_resolve_eq_cyclic t supplied hcyclic'
    exact .inr ⟨cycle, cycle', hcycle, hcycle'⟩

/-- A further rule that is not asked for changes nothing, unless it is on a circle. -/
lemma resolve_of_perm_cons {rule : Rule} (h : g'.rules.Perm (rule :: g.rules))
    (hnew : rule.name ∉ g.names) (hrule : ¬ g.Asked t.mentions rule.name) (hacyclic : g'.Acyclic) :
    resolve t supplied g' = resolve t supplied g :=
  (resolve_of_agree (.of_perm_cons h hrule) (hacyclic.of_perm_cons h hnew) hacyclic).symm

end Bindings

/-- Some rules in one of the two forms: one after the other, or each under its name. -/
def RuleSet.Presents (form : RuleSet) (rules : List Rule) : Prop :=
  form = .list rules ∨ form = .keyed rules

lemma RuleSet.Presents.exists_registry {form : RuleSet} {rules : List Rule}
    (h : form.Presents rules) (hdistinct : (rules.map Rule.name).Nodup) :
    ∃ g, form.registry = .ok g ∧ g.rules = rules := by
  rcases h with rfl | rfl
  · have hlawful : (RuleSet.list rules).Lawful := hdistinct
    exact hlawful.exists_registry
  · have hexists := (lawful_keyed hdistinct).exists_registry
    rwa [members_keyed hdistinct] at hexists

/-- **The bindings do not depend on how rules are arranged, nor on rules that are not needed.**
Distinct rules give the same outcome in every order, as a list or as a table: the same bindings, the
same missing names or the same failure of a rule, or else a circle, and only the circle that is shown
may differ.  When a rule is added for a name that neither the template nor an applied rule mentions,
the outcome is the same as without it, unless the rules then have a circle, and that is reported. -/
theorem Bindings.resolveWith_rearranged [Supplied α] (t : Template) (supplied : Table α)
    {rules : List Rule} (hdistinct : (rules.map Rule.name).Nodup) :
    (∀ rules' form, rules'.Perm rules → RuleSet.Presents form rules' →
      Alike (resolveWith t supplied form) (resolveWith t supplied (.list rules))) ∧
    ∃ g, (RuleSet.list rules).registry = .ok g ∧ g.rules = rules ∧
      ∀ rule, rule.name ∉ rules.map Rule.name → rule.name ∉ t.mentions →
        (∀ name ∈ applied t g, rule.name ∉ g.inputs name) →
        ∀ rules' form, rules'.Perm (rule :: rules) → RuleSet.Presents form rules' →
          ∃ g', form.registry = .ok g' ∧ g'.rules = rules' ∧
            (g'.Acyclic → resolveWith t supplied form = resolveWith t supplied (.list rules)) ∧
            (¬ g'.Acyclic → ∃ cycle, resolveWith t supplied form = .error (.cyclic cycle)) := by
  obtain ⟨g, hg, hrules⟩ := RuleSet.Presents.exists_registry (.inl rfl) hdistinct
  constructor
  · intro rules' form hperm hform
    have hdistinct' : (rules'.map Rule.name).Nodup := (hperm.map _).nodup_iff.2 hdistinct
    obtain ⟨g', hg', hrules'⟩ := hform.exists_registry hdistinct'
    rw [resolveWith_of_registry hg, resolveWith_of_registry hg']
    exact resolve_alike_of_perm (hrules ▸ hrules' ▸ hperm)
  · refine ⟨g, hg, hrules, fun rule hnew hmention hinputs rules' form hperm hform => ?_⟩
    have hunasked : ¬ g.Asked t.mentions rule.name := by
      rintro (hm | ⟨name, hreach, hinput⟩)
      · exact hmention hm
      · exact hinputs name (mem_applied_iff.2 hreach) hinput
    have hdistinct' : (rules'.map Rule.name).Nodup := by
      rw [(hperm.map _).nodup_iff, List.map_cons, List.nodup_cons]
      exact ⟨hnew, hdistinct⟩
    obtain ⟨g', hg', hrules'⟩ := hform.exists_registry hdistinct'
    have hmore : g'.rules.Perm (rule :: g.rules) := by rw [hrules, hrules']; exact hperm
    have hnames : rule.name ∉ g.names := by rw [Registry.names_eq_map_rules, hrules]; exact hnew
    rw [resolveWith_of_registry hg, resolveWith_of_registry hg']
    exact ⟨g', hg', hrules', resolve_of_perm_cons hmore hnames hunasked,
      exists_resolve_eq_cyclic t supplied⟩

/-- Two rules of which one reads what the other derives. -/
def twoSteps : List Rule := [.ofStyle ['b'] ['a'] .upper, .ofStyle ['c'] ['b'] .lower]

/-- A template that needs both rules of `twoSteps`. -/
def twoStepsTemplate : Template := ⟨[], [.placeholder ['c'] .start]⟩

/-- The value that `twoSteps` begins with, and one for a name that is not asked for. -/
def twoStepsValues : Table Text := .ofList [(['a'], ['x']), (['e'], ['!'])]

set_option maxRecDepth 8000 in
theorem Bindings.resolveWith_twoSteps_rearranged :
    (twoSteps.map Rule.name).Nodup ∧
    Alike (resolveWith twoStepsTemplate twoStepsValues (.keyed twoSteps.reverse))
      (resolveWith twoStepsTemplate twoStepsValues (.list twoSteps)) ∧
    resolveWith twoStepsTemplate twoStepsValues
        (.list (Registry.bareRule ['e'] [['c']] :: twoSteps)) =
      resolveWith twoStepsTemplate twoStepsValues (.list twoSteps) ∧
    ∃ cycle, resolveWith twoStepsTemplate twoStepsValues
      (.list (Registry.bareRule ['e'] [['e']] :: twoSteps)) = .error (.cyclic cycle) := by
  have hdistinct : (twoSteps.map Rule.name).Nodup := by decide
  obtain ⟨hperm, g, hg, -, hmore⟩ :=
    resolveWith_rearranged twoStepsTemplate twoStepsValues hdistinct
  have hinputs : ∀ name ∈ applied twoStepsTemplate g, ['e'] ∉ g.inputs name := by
    have hread : (RuleSet.list twoSteps).registry.map
        (fun g => (applied twoStepsTemplate g).flatMap g.inputs) = .ok [['a'], ['b']] := by
      cbv
    rw [hg] at hread
    have hlist : (applied twoStepsTemplate g).flatMap g.inputs = [['a'], ['b']] := by
      injection hread
    intro name hname hinput
    have hin : ['e'] ∈ (applied twoStepsTemplate g).flatMap g.inputs :=
      List.mem_flatMap.2 ⟨name, hname, hinput⟩
    rw [hlist] at hin
    exact absurd hin (by decide)
  refine ⟨hdistinct, ?_, ?_, ?_⟩
  · exact hperm twoSteps.reverse _ twoSteps.reverse_perm (.inr rfl)
  · obtain ⟨g', hg', -, hsame, -⟩ := hmore (Registry.bareRule ['e'] [['c']]) (by decide) (by decide)
      hinputs _ _ (.refl _) (.inl rfl)
    refine hsame (Registry.findCycle_eq_none_iff.1 ?_)
    have hsearch : (RuleSet.list (Registry.bareRule ['e'] [['c']] :: twoSteps)).registry.map
        Registry.findCycle = .ok none := by
      cbv
    rw [hg'] at hsearch
    injection hsearch
  · obtain ⟨g', hg', -, -, hcycle⟩ := hmore (Registry.bareRule ['e'] [['e']]) (by decide) (by decide)
      hinputs _ _ (.refl _) (.inl rfl)
    refine hcycle fun hacyclic => ?_
    have hsearch : (RuleSet.list (Registry.bareRule ['e'] [['e']] :: twoSteps)).registry.map
        Registry.findCycle = .ok (some [['e'], ['e']]) := by
      cbv
    rw [hg'] at hsearch
    have hfound : g'.findCycle = some [['e'], ['e']] := by injection hsearch
    rw [Registry.findCycle_eq_none_iff.2 hacyclic] at hfound
    cases hfound

end Formwork
