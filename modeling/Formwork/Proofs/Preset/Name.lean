import Formwork.CommandLine.Job
import Formwork.Proofs.Binding.Arrangement
import Formwork.Proofs.DefaultRules
import Formwork.Proofs.Precedence

/-!
# The name of a preset's output

The content of a preset is made with the preset's own rules and those of the command line, its name
with its own rules alone.  The main statement, `CommandLine.Job.outputFile_of_unasked`, says when this
makes no difference: when no rule of the command line derives a name that the template of the output's
name asks for.  Then the name is what all rules give, a placeholder that stands in both has one value,
and nothing is missing for the name that the content has a value for.  A rule of the command line that
does derive such a name is not seen: `CommandLine.Job.outputFile_of_derived_component` is a preset
whose content can be made, and whose name cannot, since what it needs is only derived.

The rules of presets and of the command line apply styles to texts.  Such rules do not fail
(`Bindings.resolve_ne_rule`), so when there is no name the reason is one that is reported as a failure
(`Preset.isFailure_of_outputFile`).
-/

namespace Formwork

/-! ## Rules that apply a style -/

def Rule.IsStyled (rule : Rule) : Prop :=
  ∃ (source : Text) (style : Style), rule.inputs = [source] ∧ rule.compute = style.compute

lemma Rule.isStyled_ofStyle (name source : Text) (style : Style) (description : Text) :
    (Rule.ofStyle name source style description).IsStyled :=
  ⟨source, style, rfl, rfl⟩

/-- A style can be applied to every text. -/
lemma Bindings.resolve_ne_rule {t : Template} {supplied : Table Text} {g : Registry}
    (h : ∀ rule ∈ g.rules, rule.IsStyled) (failure : Rule.Failure) :
    resolve t supplied g ≠ .error (.rule failure) := by
  intro hfail
  rcases resolve_eq_error_iff.1 hfail with ⟨_, -, he⟩ | ⟨hcycle, ⟨-, he⟩ | ⟨hmissing, hrun⟩⟩
  · cases he
  · cases he
  rcases hrun with ⟨cause, hderive, he⟩ | ⟨_, _, -, -, he⟩
  · cases he
    have hacyclic : g.Acyclic := Registry.findCycle_eq_none_iff.1 hcycle
    obtain ⟨-, -, hfound, hread, hrefused⟩ := (derive_eq_error_iff hacyclic hmissing).1 hderive
    rename_i rule inputs values
    obtain ⟨source, style, hinputs, hcompute⟩ := h rule (Registry.find?_eq_some_iff.1 hfound).1
    rw [hinputs, List.map_singleton] at hread
    obtain ⟨value, rfl, -⟩ := List.map_eq_singleton_iff.1 hread.symm
    rw [hcompute] at hrefused
    cases hrefused
  · cases he

lemma Engine.scaffold_ne_rule {e : Engine} {source : Text} {supplied : Table Text} {rules : RuleSet}
    (h : ∀ own, rules.registry = .ok own → ∀ rule ∈ (e.rules.merge own).rules, rule.IsStyled)
    (failure : Rule.Failure) : e.scaffold source supplied rules ≠ .error (.rule failure) := by
  intro hfail
  rcases scaffold_eq_error_iff.1 hfail with ⟨_, -, he⟩ | ⟨t, -, ⟨_, -, he⟩ | ⟨own, hown, hresolve⟩⟩
  · cases he
  · cases he
  · exact Bindings.resolve_ne_rule (h own hown) failure hresolve

/-- The trouble is reported, and as one of the command rather than of the program. -/
def CommandLine.Trouble.IsFailure (t : Trouble) : Prop := t.isReported = true ∧ t.isInternal = false

namespace Preset

variable {p : Preset} {own : Registry} {supplied : Table Text}

/-- Accepts what names a file in a directory. -/
def requirePlain (name : Text) : Except NameFault Text :=
  if isPlainName name then .ok name else .error (.notPlain name)

/-- The name is what the engine makes of its template with the preset's own rules, when that names a
file. -/
lemma outputFile_eq (hown : (RuleSet.list p.rules).registry = .ok own) (supplied : Table Text) :
    p.outputFile supplied =
      ((({} : Engine).generate p.outputName (p.values supplied) (.list p.rules)).mapError .fault).bind
        requirePlain := by
  have hsame : Engine.scaffold ⟨{}, own⟩ p.outputName (p.values supplied) .none =
      ({} : Engine).scaffold p.outputName (p.values supplied) (.list p.rules) :=
    Engine.scaffold_congr rfl RuleSet.registry_none hown (Registry.empty_merge own).symm
  unfold outputFile Engine.ofRules Engine.generate
  rw [hown, ← hsame]
  rfl

lemma isPlainName_of_outputFile {name : Text} (h : p.outputFile supplied = .ok name) :
    isPlainName name = true := by
  unfold outputFile at h
  obtain ⟨engine, -, h⟩ := Except.bind_eq_ok_iff.1 h
  obtain ⟨name', -, h⟩ := Except.bind_eq_ok_iff.1 h
  split at h
  · rename_i hplain
    cases h
    exact hplain
  · cases h

/-- What is wrong when a name cannot be rendered: the preset's own rules make no registry, or the
engine with these rules reports it. -/
lemma fault_of_outputFile {cause : Fault} (h : p.outputFile supplied = .error (.fault cause)) :
    (∃ conflict, cause = .conflict conflict) ∨
      ∃ e : Engine, e.rules.rules = p.rules ∧
        e.scaffold p.outputName (p.values supplied) .none = .error cause := by
  unfold outputFile Engine.ofRules at h
  rcases Except.bind_eq_error_iff.1 h with hrules | ⟨engine, hengine, h⟩
  · obtain ⟨conflict, -, he⟩ := Except.mapError_eq_error_iff.1 hrules
    cases he
    exact .inl ⟨conflict, rfl⟩
  obtain ⟨g, hg, rfl⟩ := Except.map_eq_ok_iff.1 (Except.mapError_eq_ok_iff.1 hengine)
  rcases Except.bind_eq_error_iff.1 h with hname | ⟨name, -, h⟩
  · obtain ⟨fault, hfault, he⟩ := Except.mapError_eq_error_iff.1 hname
    cases he
    exact .inr ⟨_, RuleSet.rules_registry hg, Except.map_eq_error_iff.1 hfault⟩
  · split at h <;> cases h

lemma outputFile_ne_rule (h : ∀ rule ∈ p.rules, rule.IsStyled) (failure : Rule.Failure) :
    p.outputFile supplied ≠ .error (.fault (.rule failure)) := by
  intro hfail
  rcases fault_of_outputFile hfail with ⟨conflict, he⟩ | ⟨e, hrules, hscaffold⟩
  · cases he
  · refine Engine.scaffold_ne_rule (fun own hown => ?_) failure hscaffold
    cases hown
    change ∀ rule ∈ e.rules.rules, rule.IsStyled
    rwa [hrules]

lemma outputFile_ne_unbound (p : Preset) (supplied : Table Text) (name : Text) :
    p.outputFile supplied ≠ .error (.fault (.unbound name)) := by
  intro hfail
  rcases fault_of_outputFile hfail with ⟨conflict, he⟩ | ⟨e, -, hscaffold⟩
  · cases he
  · exact e.scaffold_ne_unbound _ _ _ name hscaffold

lemma isStyled_of_mem_bundled (hp : p ∈ bundled) : ∀ rule ∈ p.rules, rule.IsStyled := by
  intro rule hrule
  unfold bundled at hp
  rw [List.mem_singleton] at hp
  subst hp
  obtain rfl : rule = _ := List.mem_singleton.1 hrule
  exact Rule.isStyled_ofStyle ..

/-- Whatever keeps a preset that comes with the library from having a name is reported as a failure. -/
lemma isFailure_of_outputFile (hp : p ∈ bundled) {fault : NameFault}
    (h : p.outputFile supplied = .error fault) : (CommandLine.Trouble.name fault).IsFailure := by
  cases fault with
  | notPlain name => exact ⟨rfl, rfl⟩
  | fault cause =>
    cases cause with
    | rule failure => exact absurd h (outputFile_ne_rule (isStyled_of_mem_bundled hp) failure)
    | unbound name => exact absurd h (outputFile_ne_unbound p supplied name)
    | malformed | conflict | cyclic | missing | notTexts => exact ⟨rfl, rfl⟩

/-! ## When the rules of the command line make no difference -/

/-- None of the rules, when they are added to the preset's own, derives a name that the template of the
output's name asks for. -/
def Unasked (p : Preset) (rules : List Rule) : Prop :=
  ∀ t g, Template.parse p.outputName = .ok t → (RuleSet.list (p.rules ++ rules)).registry = .ok g →
    ∀ rule ∈ rules, ¬ g.Asked t.mentions rule.name

/-- The preset's own rules are part of all rules, so they make a registry when these do, and it is
without circles when theirs is. -/
lemma exists_own_registry {rules : List Rule} {g : Registry}
    (hg : (RuleSet.list (p.rules ++ rules)).registry = .ok g) (hacyclic : g.Acyclic) :
    ∃ own, (RuleSet.list p.rules).registry = .ok own ∧ own.rules = p.rules ∧ own.Acyclic := by
  have hdistinct : ((p.rules ++ rules).map Rule.name).Nodup := RuleSet.exists_registry_iff.1 ⟨g, hg⟩
  rw [List.map_append] at hdistinct
  have hlawful : (RuleSet.list p.rules).Lawful := (List.nodup_append.1 hdistinct).1
  obtain ⟨own, hown, hownRules⟩ := hlawful.exists_registry
  change own.rules = p.rules at hownRules
  refine ⟨own, hown, hownRules, Registry.Acyclic.of_find?_eq (fun name hname => ?_) hacyclic⟩
  obtain ⟨rule, hfind⟩ := Registry.exists_find?_of_mem hname
  obtain ⟨hrule, rfl⟩ := Registry.find?_eq_some_iff.1 hfind
  have hall : rule ∈ g.rules := by
    rw [RuleSet.rules_registry hg]
    exact List.mem_append_left rules (hownRules ▸ hrule)
  rw [hfind, Registry.find?_eq_some_iff.2 ⟨hall, rfl⟩]

/-- Rules that the template of the name does not ask for can be left out. -/
lemma Unasked.scaffold_eq {rules : List Rule} {g : Registry} (h : p.Unasked rules)
    (hg : (RuleSet.list (p.rules ++ rules)).registry = .ok g) (hacyclic : g.Acyclic)
    (supplied : Table Text) :
    ({} : Engine).scaffold p.outputName supplied (.list (p.rules ++ rules)) =
      ({} : Engine).scaffold p.outputName supplied (.list p.rules) := by
  obtain ⟨own, hown, hownRules, hownAcyclic⟩ := exists_own_registry hg hacyclic
  refine Engine.scaffold_congr_of_resolve rfl hg hown fun t ht => ?_
  have hagree : g.Agree own t.mentions := by
    intro name hname
    refine Registry.find?_congr fun rule hrule => ?_
    have hother : rule ∉ rules := fun hmem => h t g ht hg rule hmem (hrule.symm ▸ hname)
    rw [RuleSet.rules_registry hg, hownRules]
    change rule ∈ p.rules ++ rules ↔ _
    rw [List.mem_append, or_iff_left hother]
  change Bindings.resolve t supplied (Registry.empty.merge g) =
    Bindings.resolve t supplied (Registry.empty.merge own)
  rw [Registry.empty_merge, Registry.empty_merge]
  exact Bindings.resolve_of_agree hagree hacyclic hownAcyclic

lemma unasked_component {rules : List Rule} (h : ("component" : Text) ∉ rules.map Rule.name) :
    component.Unasked rules := by
  intro t g ht hg rule hrule hasked
  have hmentions : (Template.parse component.outputName).map Template.mentions =
      .ok [("component" : Text)] := by cbv
  rw [ht] at hmentions
  rw [Except.ok.inj hmentions] at hasked
  have hunderived : ∀ n ∈ [("component" : Text)], n ∉ g.names := by
    intro n hn
    rw [List.mem_singleton.1 hn, Registry.names_eq_map_rules, RuleSet.rules_registry hg]
    change ("component" : Text) ∉ (component.rules ++ rules).map Rule.name
    rw [List.map_append, List.mem_append, not_or]
    exact ⟨by decide, h⟩
  have hname := (Registry.asked_iff_of_underived hunderived).1 hasked
  exact h (List.mem_singleton.1 hname ▸ List.mem_map_of_mem hrule)

end Preset

namespace CommandLine.Job

variable {host : Host} {j : Job} {p : Preset} {config : Config} {given : Table Text}
  {rules : List Rule} {s : Scaffold}

lemma scaffold_eq_ok_iff :
    j.scaffold host config given rules = .ok s ↔
      host.exhausts j.source (j.values given) (j.rules ++ rules) = none ∧
        ({ config } : Engine).scaffold j.source (j.values given) (.list (j.rules ++ rules)) = .ok s := by
  unfold scaffold
  cases host.exhausts j.source (j.values given) (j.rules ++ rules) with
  | some error => simp
  | none => simp [Except.mapError_eq_ok_iff]

/-- What is known when the content of a preset can be made. -/
lemma exists_resolve_of_scaffold (h : (ofPreset p).scaffold host config given rules = .ok s) :
    ∃ g, (RuleSet.list (p.rules ++ rules)).registry = .ok g ∧ g.Acyclic ∧
      Bindings.resolve s.template (p.values given) g = .ok s.bindings := by
  obtain ⟨-, g, hg, hresolve, -⟩ := Engine.scaffold_eq_ok_iff.1 (scaffold_eq_ok_iff.1 h).2
  have hmerged : Bindings.resolve s.template (p.values given) (Registry.empty.merge g) =
    .ok s.bindings := hresolve
  rw [Registry.empty_merge] at hmerged
  exact ⟨g, hg, Registry.findCycle_eq_none_iff.1 (Bindings.resolve_eq_ok_iff.1 hmerged).1, hmerged⟩

/-- **A name is made as the content is, when no rule of the command line derives what it asks for.**
The name of the output is then what its template gives with the same values and all the rules, and it
has to name a file.  A placeholder that stands in the name and in the content has the same value in
both.  And nothing is missing for the name that the content has a value for, supplied or derived. -/
theorem outputFile_of_unasked (hcontent : (ofPreset p).scaffold host config given rules = .ok s)
    (hunasked : p.Unasked rules) :
    (ofPreset p).outputFile given =
      (((({} : Engine).generate p.outputName (p.values given) (.list (p.rules ++ rules))).mapError
        .fault).bind Preset.requirePlain).mapError .name ∧
    (∀ named, ({} : Engine).scaffold p.outputName (p.values given) (.list (p.rules ++ rules)) =
        .ok named →
      ∀ name ∈ named.template.mentions, name ∈ s.template.mentions →
        named.bindings.values.get? name = s.bindings.values.get? name) ∧
    ∀ names, (ofPreset p).outputFile given = .error (.name (.fault (.missing names))) →
      ∀ name ∈ names, name ∉ s.bindings.values.keys := by
  obtain ⟨g, hg, hacyclic, hresolve⟩ := exists_resolve_of_scaffold hcontent
  obtain ⟨own, hown, -⟩ := Preset.exists_own_registry hg hacyclic
  obtain ⟨hcompletes, -⟩ := Bindings.completes_of_resolve hresolve
  have hname : (ofPreset p).outputFile given =
      (((({} : Engine).generate p.outputName (p.values given) (.list (p.rules ++ rules))).mapError
        .fault).bind Preset.requirePlain).mapError .name := by
    change (p.outputFile given).mapError _ = _
    unfold Engine.generate
    rw [Preset.outputFile_eq hown, hunasked.scaffold_eq hg hacyclic]
    rfl
  refine ⟨hname, fun named hnamed name hmention hcontained => ?_, fun names hmissing name hin => ?_⟩
  · obtain ⟨-, g', hg', hnamedResolve, -⟩ := Engine.scaffold_eq_ok_iff.1 hnamed
    rw [hg] at hg'
    cases hg'
    have hmerged : Bindings.resolve named.template (p.values given) (Registry.empty.merge g) =
      .ok named.bindings := hnamedResolve
    rw [Registry.empty_merge] at hmerged
    exact (Bindings.completes_of_resolve hmerged).1.eq_of_asked hcompletes hacyclic (.inl hmention)
      (.inl hcontained)
  · -- A missing name is neither supplied nor derived, by whichever of the rules.
    have hfault : ∃ t, Bindings.resolve t (p.values given) g = .error (.missing names) := by
      rw [hname] at hmissing
      obtain ⟨fault, hfault, he⟩ := Except.mapError_eq_error_iff.1 hmissing
      cases he
      rcases Except.bind_eq_error_iff.1 hfault with hmade | ⟨made, -, hrefused⟩
      · obtain ⟨cause, hcause, he⟩ := Except.mapError_eq_error_iff.1 hmade
        cases he
        rcases Engine.scaffold_eq_error_iff.1 (Except.map_eq_error_iff.1 hcause) with
          ⟨_, -, he⟩ | ⟨t, -, ⟨_, -, he⟩ | ⟨g', hg', hnamed⟩⟩
        · cases he
        · cases he
        · rw [hg] at hg'
          cases hg'
          have hmerged : Bindings.resolve t (p.values given) (Registry.empty.merge g) =
            .error (.missing names) := hnamed
          rw [Registry.empty_merge] at hmerged
          exact ⟨t, hmerged⟩
      · unfold Preset.requirePlain at hrefused
        split at hrefused <;> cases hrefused
    obtain ⟨t, ht⟩ := hfault
    obtain ⟨-, rfl, -⟩ := Bindings.resolve_eq_missing_iff.1 ht
    have habsent := Bindings.mem_missing_iff.1 hin
    rw [hcompletes.solves.mem_keys_iff, not_or]
    exact ⟨habsent.unsupplied, fun hderived => habsent.underived (hcompletes.solves.mem_names hderived)⟩

/-! ## The bundled preset -/

/-- A component, and a name from which one can be derived. -/
def cardValues : Table Text := .ofList [("component", "Card"), ("name", "foo-bar")]

/-- The rule of the command line that derives a title from the component. -/
def titleRule : Rule := .ofStyle "title" "component" .upper "upper case of component"

/-- The rule of the command line that derives the component itself. -/
def componentRule : Rule := .ofStyle "component" "name" .pascal "pascal case of name"

set_option maxRecDepth 8000 in
theorem outputFile_beside_title :
    derivationsOf ["title=component:upper"] = .ok [titleRule] ∧
    Preset.component.Unasked [titleRule] ∧
    (ofPreset .component).outputFile cardValues = .ok "Card.jsx" ∧
    ∃ s, (ofPreset .component).scaffold .library {} cardValues [titleRule] = .ok s ∧
      (ofPreset .component).outputFile cardValues =
        (((({} : Engine).generate Preset.component.outputName (Preset.component.values cardValues)
          (.list (Preset.component.rules ++ [titleRule]))).mapError .fault).bind
            Preset.requirePlain).mapError .name := by
  have hunasked : Preset.component.Unasked [titleRule] := Preset.unasked_component (by decide)
  have hcontent : ((ofPreset .component).scaffold .library {} cardValues [titleRule]).map
      (fun s => s.bindings.derived) = .ok [("component_class" : Text)] := by cbv
  obtain ⟨s, hs, -⟩ := Except.map_eq_ok_iff.1 hcontent
  exact ⟨by cbv, hunasked, by cbv, s, hs, (outputFile_of_unasked hs hunasked).1⟩

set_option maxRecDepth 8000 in
/-- A rule of the command line that derives what the name asks for is seen by the content alone.  When
the component is only derived, the name is reported to lack it; when one is supplied too, the name has
the supplied one and the content the derived one. -/
theorem outputFile_of_derived_component :
    derivationsOf ["component=name:pascal"] = .ok [componentRule] ∧
    (∃ s, (ofPreset .component).scaffold .library {} (.ofList [("name", "foo-bar")]) [componentRule] =
        .ok s ∧
      s.bindings.values.get? "component" = some "FooBar" ∧
      (ofPreset .component).outputFile (.ofList [("name", "foo-bar")]) =
        .error (.name (.fault (.missing ["component"])))) ∧
    ∃ s, (ofPreset .component).scaffold .library {} cardValues [componentRule] = .ok s ∧
      s.bindings.values.get? "component" = some "FooBar" ∧
      (ofPreset .component).outputFile cardValues = .ok "Card.jsx" := by
  have hderived : ((ofPreset .component).scaffold .library {} (.ofList [("name", "foo-bar")])
      [componentRule]).map (fun s => s.bindings.values.get? "component") =
        .ok (some ("FooBar" : Text)) := by cbv
  have hshadowed : ((ofPreset .component).scaffold .library {} cardValues [componentRule]).map
      (fun s => s.bindings.values.get? "component") = .ok (some ("FooBar" : Text)) := by cbv
  obtain ⟨s, hs, hvalue⟩ := Except.map_eq_ok_iff.1 hderived
  obtain ⟨s', hs', hvalue'⟩ := Except.map_eq_ok_iff.1 hshadowed
  exact ⟨by cbv, ⟨s, hs, hvalue, by cbv⟩, s', hs', hvalue', by cbv⟩

end CommandLine.Job

end Formwork
