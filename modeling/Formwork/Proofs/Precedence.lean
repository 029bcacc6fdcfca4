import Formwork.Proofs.Binding.Failure
import Formwork.Proofs.Binding.Missing
import Formwork.Proofs.Scaffold

/-!
# Which fault is reported

Several things can be wrong with a call of the engine at once, and it reports one of them.  The main
statement, `Engine.scaffold_first_fault`, lists what is looked for, in the order in which it is: the
grammar of the source, a repeated name among the rules of the call, a circle among the merged rules,
absent values, and rules that fail, the first in the order of derivation.  Each is reported when the
ones before it are not there, and when none is there, there is an output.

Only the stages of the engine have to be put together for this, and `Engine.scaffold_eq_error_iff`
does so.  What a stage reports is known from `Template.parse_eq_ok_iff`,
`RuleSet.exists_registry_eq_duplicate`, `Bindings.resolve_of_cycle`, `Bindings.resolve_of_missing`
and `Bindings.derive_eq_error_iff`.  The stages after these cannot fail: the values are texts, and
all mentioned names have one.
-/

namespace Formwork

open Template (Outline)
open Text (strip)

variable {t : Template} {g : Registry} {supplied : Table Text}

/-! ## What completing the values reports -/

namespace Bindings

lemma resolveWith_table (t : Template) (supplied : Table Text) (g : Registry) :
    resolveWith t supplied (.byName g.table) = resolve t supplied g :=
  resolveWith_of_registry (RuleSet.registry_table g)

lemma exists_resolve_eq_missing (hacyclic : g.Acyclic)
    (habsent : ∃ name, Absent t supplied g name) :
    ∃ names, names.Nodup ∧ (∀ name, name ∈ names ↔ Absent t supplied g name) ∧
      resolve t supplied g = .error (.missing names) :=
  ⟨missing t supplied g, nodup_missing t supplied g, fun _ => mem_missing_iff,
    resolve_eq_missing_iff.2 ⟨hacyclic, rfl, missing_ne_nil_iff.2 habsent⟩⟩

lemma resolve_ne_notTexts (names : List Text) :
    resolve t supplied g ≠ .error (.notTexts names) := by
  intro h
  rcases resolve_eq_error_iff.1 h with ⟨_, -, he⟩ | ⟨-, ⟨-, he⟩ | ⟨-, hfail⟩⟩
  · cases he
  · cases he
  rcases hfail with ⟨_, -, he⟩ | ⟨values, _, -, htexts, -⟩
  · cases he
  · rw [Table.texts_text] at htexts
    cases htexts

/-- With nothing absent, the first rule to fail is reported. -/
lemma resolve_of_failsFirst (hacyclic : g.Acyclic) (hpresent : ∀ name, ¬ Absent t supplied g name)
    {failure : Rule.Failure} (h : g.FailsFirst (given t supplied g) (applied t g) failure) :
    resolve t supplied g = .error (.rule failure) := by
  have hmissing := missing_eq_nil_iff.2 hpresent
  have hderive := (derive_eq_error_iff hacyclic hmissing).2 h
  rw [resolve_of_complete (Registry.findCycle_eq_none_iff.2 hacyclic) hmissing, hderive]
  rfl

/-- When no rule fails either, the values are completed. -/
lemma exists_resolve_of_not_failsFirst (hacyclic : g.Acyclic)
    (hpresent : ∀ name, ¬ Absent t supplied g name)
    (h : ∀ failure, ¬ g.FailsFirst (given t supplied g) (applied t g) failure) :
    ∃ b, resolve t supplied g = .ok b := by
  have hmissing := missing_eq_nil_iff.2 hpresent
  cases hderive : g.derive (given t supplied g) (applied t g) with
  | error failure => exact absurd ((derive_eq_error_iff hacyclic hmissing).1 hderive) (h failure)
  | ok values =>
    exact ⟨_, resolve_eq_ok_iff.2 ⟨Registry.findCycle_eq_none_iff.2 hacyclic, hmissing, values,
      values, hderive, Table.texts_text values, rfl⟩⟩

end Bindings

/-! ## What the engine reports -/

namespace Engine

variable {e : Engine} {source : Text} {rules : RuleSet} {own : Registry} {fault : Fault}

/-- When there are a template and a registry, the outcome is decided by the first of these that is
the case: there is a circle, a name is absent, a rule fails, or nothing of this. -/
structure Decides (t : Template) (supplied : Table Text) (g : Registry)
    (outcome : Except Fault Scaffold) : Prop where
  cyclic : ¬ g.Acyclic → ∃ cycle, g.IsCircle cycle ∧ outcome = .error (.cyclic cycle)
  missing : g.Acyclic → (∃ name, Bindings.Absent t supplied g name) → ∃ names, names.Nodup ∧
    (∀ name, name ∈ names ↔ Bindings.Absent t supplied g name) ∧ outcome = .error (.missing names)
  failing : g.Acyclic → (∀ name, ¬ Bindings.Absent t supplied g name) → ∀ failure,
    g.FailsFirst (Bindings.given t supplied g) (Bindings.applied t g) failure →
    outcome = .error (.rule failure)
  succeeding : g.Acyclic → (∀ name, ¬ Bindings.Absent t supplied g name) →
    (∀ failure, ¬ g.FailsFirst (Bindings.given t supplied g) (Bindings.applied t g) failure) →
    ∃ s, outcome = .ok s ∧ s.template = t

lemma scaffold_of_resolve_error (ht : Template.parse source = .ok t)
    (hown : rules.registry = .ok own)
    (h : Bindings.resolve t supplied (e.rules.merge own) = .error fault) :
    e.scaffold source supplied rules = .error fault :=
  scaffold_eq_error_iff.2 (.inr ⟨t, ht, .inr ⟨own, hown, h⟩⟩)

lemma decides_scaffold (e : Engine) (supplied : Table Text) (ht : Template.parse source = .ok t)
    (hown : rules.registry = .ok own) :
    Decides t supplied (e.rules.merge own) (e.scaffold source supplied rules) where
  cyclic hcyclic := by
    obtain ⟨cycle, hcycle, hcircle⟩ := Registry.exists_findCycle_of_not_acyclic hcyclic
    exact ⟨cycle, hcircle, scaffold_of_resolve_error ht hown (Bindings.resolve_of_cycle hcycle)⟩
  missing hacyclic habsent := by
    obtain ⟨names, hnodup, hnames, hmissing⟩ := Bindings.exists_resolve_eq_missing hacyclic habsent
    exact ⟨names, hnodup, hnames, scaffold_of_resolve_error ht hown hmissing⟩
  failing hacyclic hpresent failure hfails :=
    scaffold_of_resolve_error ht hown (Bindings.resolve_of_failsFirst hacyclic hpresent hfails)
  succeeding hacyclic hpresent hnone := by
    obtain ⟨b, hb⟩ := Bindings.exists_resolve_of_not_failsFirst hacyclic hpresent hnone
    obtain ⟨output, houtput⟩ := exists_scaffold_of_resolve ht hown hb
    exact ⟨_, houtput, rfl⟩

/-- Faults that are there to guard the stages against each other do not come up. -/
lemma scaffold_ne_internal (h : e.scaffold source supplied rules = .error fault) :
    (∀ names, fault ≠ .notTexts names) ∧ (∀ name, fault ≠ .unbound name) ∧
      ∀ name, fault ≠ .rule (.unboundInput name) := by
  rcases scaffold_eq_error_iff.1 h with ⟨_, -, rfl⟩ | ⟨t, -, ⟨_, -, rfl⟩ | ⟨own, -, hresolve⟩⟩
  · simp
  · simp
  refine ⟨?_, ?_, ?_⟩
  · rintro names rfl
    exact Bindings.resolve_ne_notTexts names hresolve
  · rintro name rfl
    exact Bindings.resolve_ne_unbound t supplied _ name hresolve
  · rintro name rfl
    exact Bindings.resolve_ne_unboundInput t supplied _ name hresolve

/-- **The engine reports the first fault that there is.**  A source that is not a template is
reported whatever rules and values there are.  Otherwise, when two rules of the call have the same
name, the first rule to repeat a name is reported.  When no two have, they are merged with the
default rules, of which they replace those of the same name, and what decides then is the graph of
the merged rules, the values, and the rules that the placeholders reach (`Decides`): a circle
anywhere, then the absent names, then the first rule to fail.  Without such a fault there is an
output.  Nothing else can be wrong: no value is found to be no text, and neither a placeholder nor a
rule is without a value. -/
theorem scaffold_first_fault (source : Text) :
    ((∀ o : Outline, o.Lawful → o.write ≠ source) → ∃ cause, ∀ (e : Engine)
      (supplied : Table Text) (rules : RuleSet),
      e.scaffold source supplied rules = .error (.malformed cause)) ∧
    (∀ o : Outline, o.Lawful → o.write = source →
      ∀ (e : Engine) (supplied : Table Text) (rules : List Rule),
      (¬ (rules.map Rule.name).Nodup → ∃ before rule behind, rules = before ++ rule :: behind ∧
        (before.map Rule.name).Nodup ∧ rule.name ∈ before.map Rule.name ∧
        e.scaffold source supplied (.list rules) = .error (.conflict (.duplicate rule.name))) ∧
      ((rules.map Rule.name).Nodup → ∃ own g, (RuleSet.list rules).registry = .ok own ∧
        g = e.rules.merge own ∧
        (∀ rule, rule ∈ g.rules ↔
          rule ∈ rules ∨ rule ∈ e.rules.rules ∧ rule.name ∉ rules.map Rule.name) ∧
        Bindings.resolveWith ⟨source, o.segments⟩ supplied (.byName g.table) =
          Bindings.resolve ⟨source, o.segments⟩ supplied g ∧
        (∀ name, name ∈ Bindings.applied ⟨source, o.segments⟩ g ↔
          g.Reachable (o.openings.map fun a => strip a.body) name) ∧
        Decides ⟨source, o.segments⟩ supplied g (e.scaffold source supplied (.list rules)))) ∧
    ∀ (e : Engine) (supplied : Table Text) (rules : RuleSet) (fault : Fault),
      e.scaffold source supplied rules = .error fault →
      (∀ names, fault ≠ .notTexts names) ∧ (∀ name, fault ≠ .unbound name) ∧
        ∀ name, fault ≠ .rule (.unboundInput name) := by
  refine ⟨?_, ?_, fun e supplied rules fault h => scaffold_ne_internal h⟩
  · intro hgrammar
    cases hparse : Template.parse source with
    | error cause =>
      exact ⟨cause, fun e supplied rules => scaffold_eq_error_iff.2 (.inl ⟨cause, hparse, rfl⟩)⟩
    | ok t =>
      obtain ⟨o, ho, hwrite, -⟩ := Template.parse_eq_ok_iff.1 hparse
      exact absurd hwrite (hgrammar o ho)
  intro o ho hwrite e supplied rules
  have hparse : Template.parse source = .ok ⟨source, o.segments⟩ :=
    Template.parse_eq_ok_iff.2 ⟨o, ho, hwrite, rfl⟩
  constructor
  · intro hrepeated
    obtain ⟨before, rule, behind, hsplit, hdistinct, hearlier, hconflict⟩ :=
      RuleSet.exists_registry_eq_duplicate hrepeated
    exact ⟨before, rule, behind, hsplit, hdistinct, hearlier,
      scaffold_eq_error_iff.2 (.inr ⟨_, hparse, .inl ⟨_, hconflict, rfl⟩⟩)⟩
  · intro hdistinct
    have hlawful : (RuleSet.list rules).Lawful := hdistinct
    obtain ⟨own, hown, hmembers⟩ := hlawful.exists_registry
    refine ⟨own, _, hown, rfl, fun rule => ?_, Bindings.resolveWith_table _ supplied _,
      fun name => ?_, decides_scaffold e supplied hparse hown⟩
    · rw [Registry.mem_rules_merge_iff, Registry.names_eq_map_rules, hmembers]
      rfl
    · rw [← Template.filterMap_name?_segmentsFrom .start o.openings o.rest]
      exact Bindings.mem_applied_iff

/-- An engine whose default rule refuses all values. -/
def strictEngine : Engine :=
  { rules := Registry.empty.set ⟨['b'], [['a']], fun _ => .refusal (.other []), []⟩ }

/-- A rule in the place of the default rule, behind one that gives no text. -/
def lateFailure : List Rule := [Registry.bareRule ['c'] [['b']], .ofStyle ['b'] ['a'] .upper]

/-- A template that needs both rules of `lateFailure`. -/
def lateTemplate : Template :=
  ⟨"\x7b\x7bc\x7d\x7d", [.placeholder ['c'] .start]⟩

/-- The value that they begin with. -/
def lateValues : Table Text := .ofList [(['a'], ['1'])]

/-- The same with a circle that the default rule has no part in. -/
def farCircle : List Rule :=
  [.ofStyle ['b'] ['a'] .upper, Registry.bareRule ['y'] [['z']], Registry.bareRule ['z'] [['y']]]

set_option maxRecDepth 8000 in
theorem scaffold_first_fault_of_strictEngine :
    (∃ cause, strictEngine.scaffold "\x7b\x7b" (Table.empty : Table Text)
      (.list (farCircle ++ farCircle)) = .error (.malformed cause)) ∧
    (∃ name, strictEngine.scaffold "\x7b\x7bb\x7d\x7d" (Table.empty : Table Text)
      (.list (farCircle ++ farCircle)) = .error (.conflict (.duplicate name))) ∧
    (∃ cycle, strictEngine.scaffold "\x7b\x7bb\x7d\x7d" (Table.empty : Table Text)
      (.list farCircle) = .error (.cyclic cycle)) ∧
    strictEngine.scaffold lateTemplate.source lateValues (.list lateFailure) =
      .error (.rule (.notText ['c'] [])) := by
  have hlawful : ∀ name, isIdentifier name = true → (Outline.mk [⟨[], name⟩] []).Lawful := by
    intro name hname
    have hopening : (Template.Opening.mk [] name).Lawful :=
      ⟨Text.not_hasPair_nil, by simp, name, Template.pads_self hname⟩
    exact Outline.lawful_cons_iff.2 ⟨hopening, Outline.lawful_nil Text.not_hasPair_nil⟩
  refine ⟨?_, ?_, ?_, ?_⟩
  · have hparse : (Template.parse "\x7b\x7b").map Template.source = .error ⟨.unclosed, .start⟩ := by
      cbv
    have hgrammar : ∀ o : Outline, o.Lawful → o.write ≠ "\x7b\x7b" := by
      intro o ho hwrite
      rw [Template.parse_eq_ok_iff.2 ⟨o, ho, hwrite, rfl⟩] at hparse
      cases hparse
    obtain ⟨cause, hcause⟩ := (scaffold_first_fault "\x7b\x7b").1 hgrammar
    exact ⟨cause, hcause strictEngine _ _⟩
  · obtain ⟨-, rule, -, -, -, -, hconflict⟩ := ((scaffold_first_fault _).2.1 _
      (hlawful ['b'] rfl) rfl strictEngine .empty (farCircle ++ farCircle)).1 (by decide)
    exact ⟨rule.name, hconflict⟩
  · obtain ⟨own, g, hown, rfl, -, -, -, hdecides⟩ := ((scaffold_first_fault _).2.1 _
      (hlawful ['b'] rfl) rfl strictEngine .empty farCircle).2 (by decide)
    have hsearch : (RuleSet.list farCircle).registry.map (fun own =>
        (strictEngine.rules.merge own).findCycle) = .ok (some [['y'], ['z'], ['y']]) := by
      cbv
    rw [hown] at hsearch
    have hcircle := Registry.isCircle_of_findCycle (Except.ok.inj hsearch)
    obtain ⟨cycle, -, hcycle⟩ := hdecides.cyclic hcircle.not_acyclic
    exact ⟨cycle, hcycle⟩
  · obtain ⟨own, g, hown, rfl, -, -, -, hdecides⟩ := ((scaffold_first_fault _).2.1 _
      (hlawful ['c'] rfl) rfl strictEngine lateValues lateFailure).2 (by decide)
    have hrun : (RuleSet.list lateFailure).registry.map (fun own =>
        ((strictEngine.rules.merge own).findCycle,
          Bindings.missing lateTemplate lateValues (strictEngine.rules.merge own),
          ((strictEngine.rules.merge own).derive
            (Bindings.given lateTemplate lateValues (strictEngine.rules.merge own))
            (Bindings.applied lateTemplate (strictEngine.rules.merge own))).map Table.keys)) =
        .ok (none, [], .error (.notText ['c'] [])) := by
      cbv
    rw [hown] at hrun
    obtain ⟨hcycle, hrest⟩ := Prod.mk.inj (Except.ok.inj hrun)
    obtain ⟨hmissing, hderive⟩ := Prod.mk.inj hrest
    have hacyclic := Registry.findCycle_eq_none_iff.1 hcycle
    have hfails := (Bindings.derive_eq_error_iff hacyclic hmissing).1
      (Except.map_eq_error_iff.1 hderive)
    exact hdecides.failing hacyclic (Bindings.missing_eq_nil_iff.1 hmissing) _ hfails

end Engine

end Formwork
