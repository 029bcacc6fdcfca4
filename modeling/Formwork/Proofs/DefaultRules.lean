import Formwork.Proofs.Rule.Override
import Formwork.Proofs.Scaffold

/-!
# Default rules and the rules of a call

An engine puts its default rules and the rules of a call together, and the rules of the call come
first.  The main statement, `Engine.scaffold_overridden_defaults`, says that nothing else is to be
known about default rules: an engine without any gives the same when the call has all the rules,
those of the call in the places of the defaults of the same name and then its others
(`Registry.overridden`).  The whole outcome is the same, with every error and with the circle that an
error shows.

Rules pass through registries on the way: the defaults make one, the rules of the call make one, the
two are merged, and the list of all rules makes one and is merged with nothing.  A registry is
nothing but its rules in their order (`Registry.eq_of_rules`), so it suffices that both ways lead to
the same list.
-/

namespace Formwork

variable {α : Type} [Supplied α]

namespace Registry

lemma nodup_overridden (base top : Registry) :
    ((overridden base.rules top.rules).map Rule.name).Nodup := by
  rw [← rules_merge, ← names_eq_map_rules]
  exact nodup_names _

lemma registry_overridden (base top : Registry) :
    (RuleSet.list (overridden base.rules top.rules)).registry = .ok (base.merge top) := by
  have hlawful : (RuleSet.list (overridden base.rules top.rules)).Lawful := nodup_overridden base top
  obtain ⟨g, hg, hrules⟩ := hlawful.exists_registry
  have hsame : g = base.merge top := eq_of_rules (hrules.trans (rules_merge base top).symm)
  rw [hg, hsame]

lemma empty_merge (g : Registry) : empty.merge g = g :=
  eq_of_rules ((rules_merge empty g).trans (overridden_nil g.rules))

end Registry

namespace Engine

variable {source : Text} {supplied : Table α} {rules : RuleSet} {own : Registry}

/-- What an engine gives depends on the rules through the bindings that they complete. -/
lemma scaffold_congr_of_resolve {e e' : Engine} {rules' : RuleSet} {own' : Registry}
    (hconfig : e.config = e'.config) (hown : rules.registry = .ok own)
    (hown' : rules'.registry = .ok own')
    (hresolve : ∀ t, Template.parse source = .ok t →
      Bindings.resolve t supplied (e.rules.merge own) =
        Bindings.resolve t supplied (e'.rules.merge own')) :
    e.scaffold source supplied rules = e'.scaffold source supplied rules' := by
  unfold scaffold render
  rw [hconfig, hown, hown']
  cases hparse : Template.parse source with
  | error cause => rfl
  | ok t =>
    change Bindings.resolve t supplied (e.rules.merge own) >>= _ =
      Bindings.resolve t supplied (e'.rules.merge own') >>= _
    rw [hresolve t hparse]

/-- What an engine gives depends on its rules and those of the call through the merged registry. -/
lemma scaffold_congr {e e' : Engine} {rules' : RuleSet} {own' : Registry}
    (hconfig : e.config = e'.config) (hown : rules.registry = .ok own)
    (hown' : rules'.registry = .ok own') (hmerged : e.rules.merge own = e'.rules.merge own') :
    e.scaffold source supplied rules = e'.scaffold source supplied rules' :=
  scaffold_congr_of_resolve hconfig hown hown' fun t _ => by rw [hmerged]

/-- A circle is reported exactly when the source is a template and the merged rules have one. -/
lemma exists_scaffold_eq_cyclic_iff {e : Engine} (hown : rules.registry = .ok own) :
    (∃ cycle, e.scaffold source supplied rules = .error (.cyclic cycle)) ↔
      (∃ t, Template.parse source = .ok t) ∧ ¬ (e.rules.merge own).Acyclic := by
  constructor
  · rintro ⟨cycle, h⟩
    rcases scaffold_eq_error_iff.1 h with ⟨_, -, he⟩ | ⟨t, ht, ⟨_, -, he⟩ | ⟨own', hown', hb⟩⟩
    · cases he
    · cases he
    rw [hown] at hown'
    cases hown'
    refine ⟨⟨t, ht⟩, ?_⟩
    rcases Bindings.resolve_eq_error_iff.1 hb with ⟨_, hcycle, -⟩ | ⟨-, ⟨-, he⟩ | ⟨-, hfail⟩⟩
    · exact (Registry.isCircle_of_findCycle hcycle).not_acyclic
    · cases he
    · rcases hfail with ⟨_, -, he⟩ | ⟨_, _, -, -, he⟩
      · cases he
      · cases he
  · rintro ⟨⟨t, ht⟩, hcyclic⟩
    obtain ⟨cycle, hcycle, -⟩ := Registry.exists_findCycle_of_not_acyclic hcyclic
    exact ⟨cycle, scaffold_eq_error_iff.2 (.inr ⟨t, ht, .inr ⟨own, hown,
      Bindings.resolve_of_cycle hcycle⟩⟩)⟩

/-- **Default rules are the rules of every call that does not override them.**  An engine with
default rules gives for the rules of a call what an engine without any gives for all rules together:
the defaults in their order, each with its namesake of the call in its place, and then the other
rules of the call in theirs.  So it is the graph of these rules that decides about circles.  A circle
of the default rules that a rule of the call breaks is not reported, and one that only the two
together have is. -/
theorem scaffold_overridden_defaults (config : Config) {defaults rules : RuleSet}
    (hdefaults : defaults.Lawful) (hrules : rules.Lawful) (source : Text) (supplied : Table α) :
    ∃ e bare : Engine, ofRules config defaults = .ok e ∧ ofRules config .none = .ok bare ∧
      e.scaffold source supplied rules =
        bare.scaffold source supplied (.list (Registry.overridden defaults.members rules.members)) ∧
      ∃ g, (RuleSet.list (Registry.overridden defaults.members rules.members)).registry = .ok g ∧
        g.rules = Registry.overridden defaults.members rules.members ∧
        ((∃ cycle, e.scaffold source supplied rules = .error (.cyclic cycle)) ↔
          (∃ t, Template.parse source = .ok t) ∧ ¬ g.Acyclic) := by
  obtain ⟨base, hbase, hbaseRules⟩ := hdefaults.exists_registry
  obtain ⟨own, hown, hownRules⟩ := hrules.exists_registry
  have hmerged := Registry.registry_overridden base own
  rw [hbaseRules, hownRules] at hmerged
  have hofRules : ofRules config defaults = .ok ⟨config, base⟩ := by
    unfold ofRules
    rw [hbase]
    rfl
  refine ⟨⟨config, base⟩, ⟨config, .empty⟩, hofRules, rfl, ?_, base.merge own, hmerged, ?_,
    exists_scaffold_eq_cyclic_iff hown⟩
  · exact scaffold_congr rfl hown hmerged (Registry.empty_merge _).symm
  · rw [Registry.rules_merge, hbaseRules, hownRules]

def mutualRules : List Rule := [.ofStyle ['a'] ['b'] .upper, .ofStyle ['b'] ['a'] .lower]

set_option maxRecDepth 8000 in
theorem scaffold_overridden_mutualRules :
    (RuleSet.list mutualRules).Lawful ∧
    (∃ e : Engine, ofRules {} (.list mutualRules) = .ok e ∧
      (∃ cycle, e.scaffold "\x7b\x7ba\x7d\x7d" (Table.ofList [(['x'], ['y'])] : Table Text) .none =
        .error (.cyclic cycle)) ∧
      ¬ ∃ cycle, e.scaffold "\x7b\x7ba\x7d\x7d" (Table.ofList [(['x'], ['y'])] : Table Text)
        (.list [.ofStyle ['b'] ['x'] .lower]) = .error (.cyclic cycle)) ∧
    ∃ e bare : Engine, ofRules {} (.list (mutualRules.take 1)) = .ok e ∧
      ofRules {} .none = .ok bare ∧
      e.scaffold "\x7b\x7ba\x7d\x7d" (Table.empty : Table Text) (.list (mutualRules.drop 1)) =
        bare.scaffold "\x7b\x7ba\x7d\x7d" (Table.empty : Table Text) (.list mutualRules) ∧
      ∃ cycle, e.scaffold "\x7b\x7ba\x7d\x7d" (Table.empty : Table Text)
        (.list (mutualRules.drop 1)) = .error (.cyclic cycle) := by
  have hparse : ∃ t, Template.parse "\x7b\x7ba\x7d\x7d" = .ok t :=
    ⟨⟨"\x7b\x7ba\x7d\x7d", [.placeholder ['a'] .start]⟩, by cbv⟩
  have hsearch : (RuleSet.list mutualRules).registry.map Registry.findCycle =
      .ok (some [['a'], ['b'], ['a']]) := by cbv
  have hcyclic : ∀ g, (RuleSet.list mutualRules).registry = .ok g → ¬ g.Acyclic := by
    intro g hg
    rw [hg] at hsearch
    exact (Registry.isCircle_of_findCycle (Except.ok.inj hsearch)).not_acyclic
  have hdefaults : (RuleSet.list mutualRules).Lawful := by decide
  have hnone : RuleSet.none.Lawful := by decide
  have hbreaking : (RuleSet.list [.ofStyle ['b'] ['x'] .lower]).Lawful := by decide
  have hfirst : (RuleSet.list (mutualRules.take 1)).Lawful := by decide
  have hsecond : (RuleSet.list (mutualRules.drop 1)).Lawful := by decide
  refine ⟨hdefaults, ?_, ?_⟩
  · obtain ⟨e, -, he, -, -, g, hg, -, hiff⟩ := scaffold_overridden_defaults (α := Text) {}
      hdefaults hnone "\x7b\x7ba\x7d\x7d" (.ofList [(['x'], ['y'])])
    obtain ⟨e', -, he', -, -, g', hg', -, hiff'⟩ := scaffold_overridden_defaults (α := Text) {}
      hdefaults hbreaking "\x7b\x7ba\x7d\x7d" (.ofList [(['x'], ['y'])])
    rw [he] at he'
    cases he'
    refine ⟨e, he, hiff.2 ⟨hparse, hcyclic g hg⟩, fun hreported => ?_⟩
    have hbroken : (RuleSet.list (Registry.overridden mutualRules
        [.ofStyle ['b'] ['x'] .lower])).registry.map Registry.findCycle = .ok none := by cbv
    have hsame : (RuleSet.list (Registry.overridden mutualRules
        [.ofStyle ['b'] ['x'] .lower])).registry = .ok g' := hg'
    rw [hsame] at hbroken
    exact (hiff'.1 hreported).2 (Registry.findCycle_eq_none_iff.1 (Except.ok.inj hbroken))
  · obtain ⟨e, bare, he, hbare, hsame, g, hg, -, hiff⟩ := scaffold_overridden_defaults (α := Text) {}
      hfirst hsecond "\x7b\x7ba\x7d\x7d" .empty
    exact ⟨e, bare, he, hbare, hsame, hiff.2 ⟨hparse, hcyclic g hg⟩⟩

end Engine

end Formwork
