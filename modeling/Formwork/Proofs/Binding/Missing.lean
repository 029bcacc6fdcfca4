import Formwork.Proofs.Binding.Resolve
import Formwork.Proofs.Rule.Registry

/-!
# Absent values are reported exactly

A name is `Absent` when the template or a rule that it reaches asks for it, no rule derives it, and
no value is supplied for it.  The report of missing names consists of the absent ones
(`mem_missing_iff`), and its order is that in which they are asked for: first the names of the
template, then what the applied rules read, rule after rule (`missing_eq_append`).

What is asked for depends on the template and the rules, and not on what is supplied.  So a report
tells how the next attempt ends: whatever is supplied in addition, the names that are still absent
are reported again, and no others come up (`missing_of_subset`).
-/

namespace Formwork.Bindings

variable {α : Type} {g : Registry} {t : Template} {supplied : Table α}

/-- The name is asked for, and there is neither a rule nor a value for it. -/
structure Absent (t : Template) (supplied : Table α) (g : Registry) (name : Text) : Prop where
  asked : g.Asked t.mentions name
  underived : name ∉ g.names
  unsupplied : name ∉ supplied.keys

/-- Those among some names for which there is neither a rule nor a value. -/
def lacking (supplied : Table α) (g : Registry) (names : List Text) : List Text :=
  names.filter fun n => !g.contains n && !supplied.contains n

/-! ## Which names are missing, and in which order -/

/-- The required names are those that are asked for and not derived. -/
lemma mem_required_iff_asked {name : Text} :
    name ∈ g.required t.names (applied t g) ↔ g.Asked t.mentions name ∧ name ∉ g.names := by
  have hrules : (∃ n ∈ applied t g, name ∈ g.inputs n) ↔
      ∃ n, g.Reachable t.mentions n ∧ name ∈ g.inputs n := by
    simp only [mem_applied_iff]
  rw [Registry.mem_required_iff, Template.mem_names, hrules]
  rfl

lemma mem_missing_iff {name : Text} :
    name ∈ missing t supplied g ↔ Absent t supplied g name := by
  unfold missing
  rw [List.mem_filter, mem_required_iff_asked, Bool.not_eq_true', Table.contains_eq_false_iff]
  constructor
  · rintro ⟨⟨hasked, hname⟩, hsupplied⟩
    exact ⟨hasked, hname, hsupplied⟩
  · rintro ⟨hasked, hname, hsupplied⟩
    exact ⟨⟨hasked, hname⟩, hsupplied⟩

lemma nodup_missing (t : Template) (supplied : Table α) (g : Registry) :
    (missing t supplied g).Nodup :=
  (Names.nodup_distinct _).sublist List.filter_sublist

lemma missing_ne_nil_iff : missing t supplied g ≠ [] ↔ ∃ name, Absent t supplied g name := by
  constructor
  · intro h
    obtain ⟨name, hname⟩ := List.exists_mem_of_ne_nil _ h
    exact ⟨name, mem_missing_iff.1 hname⟩
  · rintro ⟨name, habsent⟩
    exact List.ne_nil_of_mem (mem_missing_iff.2 habsent)

lemma missing_eq_nil_iff : missing t supplied g = [] ↔ ∀ name, ¬ Absent t supplied g name := by
  rw [← not_iff_not, ← ne_eq, missing_ne_nil_iff, not_forall_not]

/-- The names of the template are reported before the inputs of rules, those in the order of first
mention and these in the order of derivation. -/
lemma missing_eq_append :
    missing t supplied g = lacking supplied g t.names ++
      (lacking supplied g (Names.distinct ((applied t g).flatMap g.inputs))).filter
        fun n => !t.names.contains n := by
  have hboth : missing t supplied g =
      lacking supplied g (Names.distinct (t.names ++ (applied t g).flatMap g.inputs)) := by
    unfold missing lacking Registry.required
    rw [Names.distinct_filter, List.filter_filter]
    exact List.filter_congr fun n _ => Bool.and_comm _ _
  rw [hboth, Names.distinct_append, Names.distinct_of_nodup t.nodup_names]
  unfold lacking
  rw [List.filter_append, List.filter_filter, List.filter_filter]
  exact congrArg _ (List.filter_congr fun n _ => Bool.and_comm _ _)

/-- When more is supplied, what is still absent is missing as before. -/
lemma missing_of_subset {supplied' : Table α} (h : supplied.keys ⊆ supplied'.keys) :
    missing t supplied' g = (missing t supplied g).filter fun n => !supplied'.contains n := by
  unfold missing
  rw [List.filter_filter]
  apply List.filter_congr
  intro n _
  by_cases hn : n ∈ supplied.keys
  · rw [Table.contains_iff.2 (h hn)]
    rfl
  · rw [Table.contains_eq_false_iff.2 hn, Bool.not_false, Bool.and_true]

/-! ## The report -/

variable [Supplied α]

lemma resolve_eq_missing_iff {names : List Text} :
    resolve t supplied g = .error (.missing names) ↔
      g.Acyclic ∧ missing t supplied g = names ∧ names ≠ [] := by
  rw [← Registry.findCycle_eq_none_iff]
  constructor
  · intro h
    rcases resolve_eq_error_iff.1 h with ⟨_, -, he⟩ | ⟨hcycle, ⟨hmissing, he⟩ | ⟨-, hfail⟩⟩
    · cases he
    · cases he
      exact ⟨hcycle, rfl, hmissing⟩
    · rcases hfail with ⟨_, -, he⟩ | ⟨_, _, -, -, he⟩
      · cases he
      · cases he
  · rintro ⟨hcycle, rfl, hmissing⟩
    exact resolve_of_missing hcycle hmissing

/-- After a report, an attempt with more values fails in the same way exactly when not all reported
names are among them, and the report is then of the others. -/
lemma resolve_again {names : List Text} (h : resolve t supplied g = .error (.missing names))
    {supplied' : Table α} (hmore : supplied.keys ⊆ supplied'.keys) :
    (names ⊆ supplied'.keys → ∀ names', resolve t supplied' g ≠ .error (.missing names')) ∧
    (¬ names ⊆ supplied'.keys → resolve t supplied' g =
      .error (.missing (names.filter fun n => !supplied'.contains n))) := by
  obtain ⟨hacyclic, rfl, -⟩ := resolve_eq_missing_iff.1 h
  have hstill : missing t supplied' g
      = (missing t supplied g).filter fun n => !supplied'.contains n := missing_of_subset hmore
  constructor
  · intro hall names' h'
    obtain ⟨-, rfl, hne⟩ := resolve_eq_missing_iff.1 h'
    obtain ⟨name, hname⟩ := List.exists_mem_of_ne_nil _ hne
    have hreported : name ∈ missing t supplied g := by
      rw [hstill] at hname
      exact List.mem_of_mem_filter hname
    exact (mem_missing_iff.1 hname).unsupplied (hall hreported)
  · intro hsome
    obtain ⟨name, hreported, habsent⟩ : ∃ n ∈ missing t supplied g, n ∉ supplied'.keys := by
      by_contra hnone
      exact hsome fun n hn => by_contra fun habsent => hnone ⟨n, hn, habsent⟩
    refine resolve_eq_missing_iff.2 ⟨hacyclic, hstill, ?_⟩
    have hname : name ∈ (missing t supplied g).filter fun n => !supplied'.contains n := by
      rw [List.mem_filter, Bool.not_eq_true', Table.contains_eq_false_iff]
      exact ⟨hreported, habsent⟩
    exact List.ne_nil_of_mem hname

/-- **Missing values are reported exactly, and all at once.**  With rules that make a registry
without circles, there is a report if and only if a name is absent.  It lists the absent names, each
once: those that the template mentions in the order of first mention, and then those that the
applied rules read, in the order of derivation.  When values for all of them are supplied as well,
there is no report any more; when some are left out, these are reported, in the same order. -/
theorem resolveWith_reports_missing (t : Template) (supplied : Table α) {rules : RuleSet}
    (hrules : rules.Lawful) :
    ∃ g, rules.registry = .ok g ∧ g.rules = rules.members ∧ (g.Acyclic →
      ((∃ names, resolveWith t supplied rules = .error (.missing names)) ↔
        ∃ name, Absent t supplied g name) ∧
      ∀ names, resolveWith t supplied rules = .error (.missing names) →
        names.Nodup ∧ (∀ name, name ∈ names ↔ Absent t supplied g name) ∧
        names = lacking supplied g t.names ++
          (lacking supplied g (Names.distinct ((applied t g).flatMap g.inputs))).filter
            (fun n => !t.names.contains n) ∧
        ∀ supplied' : Table α, supplied.keys ⊆ supplied'.keys →
          (names ⊆ supplied'.keys → ∀ names',
            resolveWith t supplied' rules ≠ .error (.missing names')) ∧
          (¬ names ⊆ supplied'.keys → resolveWith t supplied' rules =
            .error (.missing (names.filter fun n => !supplied'.contains n)))) := by
  obtain ⟨g, hg, hmembers⟩ := hrules.exists_registry
  refine ⟨g, hg, hmembers, fun hacyclic => ?_⟩
  simp only [resolveWith_of_registry hg]
  constructor
  · rw [← missing_ne_nil_iff]
    constructor
    · rintro ⟨names, h⟩
      obtain ⟨-, rfl, hne⟩ := resolve_eq_missing_iff.1 h
      exact hne
    · exact fun hne => ⟨_, resolve_eq_missing_iff.2 ⟨hacyclic, rfl, hne⟩⟩
  · intro names h
    obtain ⟨-, hnames, -⟩ := resolve_eq_missing_iff.1 h
    refine ⟨hnames ▸ nodup_missing t supplied g, fun name => ?_, ?_, fun supplied' hmore => ?_⟩
    · rw [← hnames, mem_missing_iff]
    · rw [← hnames, missing_eq_append]
    · exact resolve_again h hmore

/-- A rule that reads what another one derives, and a rule that is not asked for. -/
def chain : RuleSet :=
  .list [Registry.bareRule ['d'] [['b'], ['c']], Registry.bareRule ['c'] [['x']],
    Registry.bareRule ['z'] [['y']]]

/-- A template that mentions a name without a rule, and the end of `chain`. -/
def chainTemplate : Template := ⟨[], [.placeholder ['a'] .start, .placeholder ['d'] .start]⟩

theorem resolveWith_missing_of_chain :
    chain.Lawful ∧ (∃ g, chain.registry = .ok g ∧ g.Acyclic) ∧
    resolveWith chainTemplate (Table.ofList [(['q'], ['1'])] : Table Text) chain =
      .error (.missing [['a'], ['x'], ['b']]) ∧
    resolveWith chainTemplate (Table.ofList [(['b'], ['2']), (['q'], ['1']), (['a'], ['3'])] :
      Table Text) chain = .error (.missing [['x']]) ∧
    ∀ names, resolveWith chainTemplate (Table.ofList [(['q'], ['1']), (['a'], ['2']),
      (['b'], ['3']), (['x'], ['4'])] : Table Text) chain ≠ .error (.missing names) := by
  have hlawful : chain.Lawful := by decide
  have hreport : resolveWith chainTemplate (Table.ofList [(['q'], ['1'])] : Table Text) chain =
      .error (.missing [['a'], ['x'], ['b']]) := by
    cbv
  have hsearch : chain.registry.map Registry.findCycle = .ok none := by
    cbv
  obtain ⟨g, hg, -, hspec⟩ := resolveWith_reports_missing chainTemplate
    (Table.ofList [(['q'], ['1'])] : Table Text) hlawful
  obtain ⟨g', hg', hcycle⟩ := Except.map_eq_ok_iff.1 hsearch
  cases hg.symm.trans hg'
  have hacyclic : g.Acyclic := Registry.findCycle_eq_none_iff.1 hcycle
  obtain ⟨-, -, -, hagain⟩ := (hspec hacyclic).2 _ hreport
  refine ⟨hlawful, ⟨g, hg, hacyclic⟩, hreport, ?_, ?_⟩
  · exact (hagain (Table.ofList [(['b'], ['2']), (['q'], ['1']), (['a'], ['3'])])
      (by decide)).2 (by decide)
  · exact (hagain (Table.ofList [(['q'], ['1']), (['a'], ['2']), (['b'], ['3']), (['x'], ['4'])])
      (by decide)).1 (by decide)

end Formwork.Bindings
