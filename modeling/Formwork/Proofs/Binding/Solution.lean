import Formwork.Proofs.Binding.Equations
import Mathlib

/-!
# Bindings solve the equations of the rules

The rules that are applied to a template state one equation for each derived name: its value is
what the rule computes from the values of its inputs.  Every other name has the value that was
supplied for it, if one was.  `Registry.Solves` says of an assignment of values that it satisfies
all of this.

Nothing in these equations speaks of an order, so three things have to be shown.  They are solved by
what a run of the rules leaves (`Bindings.solves_of_derive`): every input has its final value when
it is read.  They have no other solution (`Registry.Solves.unique`): since no name needs itself, two
solutions agree on a derived name as soon as they agree on what it needs.  And where there is a
solution, the run finds it (`Bindings.Completes.exists_derive`): each rule is run on the values of
the solution.

`Bindings.resolveWith_unique_solution` puts the three together for values that are texts.
-/

namespace Formwork

variable {α : Type} [Supplied α] {g : Registry}

/-! ## The equations -/

namespace Registry

/-- The values solve the equations of the rules for the derived names, and agree with the supplied
values everywhere else. -/
structure Solves (g : Registry) (supplied : Table α) (derived : List Text)
    (values : Text → Option α) : Prop where
  derives : ∀ name ∈ derived, ∃ (rule : Rule) (inputs : List α) (value : Text),
    g.find? name = some rule ∧ rule.inputs.map values = inputs.map some ∧
    rule.compute (inputs.map Supplied.toJson) = .text value ∧
    values name = some (Supplied.ofText value)
  supplies : ∀ name, name ∉ derived → values name = supplied.get? name

namespace Solves

variable {supplied : Table α} {derived : List Text} {v w : Text → Option α}

lemma mem_names (h : g.Solves supplied derived v) {name : Text} (hname : name ∈ derived) :
    name ∈ g.names := by
  obtain ⟨rule, -, -, hfind, -⟩ := h.derives name hname
  exact mem_names_of_find? hfind

/-- Two solutions that agree on the inputs of a name which both derive agree on the name. -/
lemma eq_of_inputs {derived' : List Text} (hv : g.Solves supplied derived v)
    (hw : g.Solves supplied derived' w) {name : Text} (hname : name ∈ derived)
    (hname' : name ∈ derived') (hinputs : ∀ input ∈ g.inputs name, v input = w input) :
    v name = w name := by
  obtain ⟨rule, inputs, value, hfind, hread, hcompute, hvalue⟩ := hv.derives name hname
  obtain ⟨rule', inputs', value', hfind', hread', hcompute', hvalue'⟩ := hw.derives name hname'
  rw [hfind] at hfind'
  cases hfind'
  have hsame : inputs = inputs' := by
    rw [← List.map_inj_right fun _ _ => Option.some.inj, ← hread, ← hread']
    exact List.map_congr_left fun input hinput => hinputs input (inputs_of_find? hfind ▸ hinput)
  subst hsame
  rw [hcompute] at hcompute'
  cases hcompute'
  rw [hvalue, hvalue']

/-- Two solutions agree on a grounded name.  The induction is on the chains of needs from it: an
input that is derived is needed, and an input that is not has its supplied value in both. -/
lemma eq_of_grounded (hv : g.Solves supplied derived v) (hw : g.Solves supplied derived w)
    {name : Text} (hground : g.Grounded name) : v name = w name := by
  induction hground with
  | intro name _ ih =>
    by_cases hname : name ∈ derived
    · refine hv.eq_of_inputs hw hname hname fun input hinput => ?_
      by_cases hderived : input ∈ derived
      · exact ih input ⟨hinput, contains_iff.2 (hv.mem_names hderived)⟩
      · rw [hv.supplies input hderived, hw.supplies input hderived]
    · rw [hv.supplies name hname, hw.supplies name hname]

/-- When every derived name is grounded, the equations have one solution at most. -/
theorem unique (hv : g.Solves supplied derived v) (hw : g.Solves supplied derived w)
    (hground : ∀ name ∈ g.names, g.Grounded name) : v = w := by
  funext name
  by_cases hname : name ∈ derived
  · exact hv.eq_of_grounded hw (hground name (hv.mem_names hname))
  · rw [hv.supplies name hname, hw.supplies name hname]

/-- The values supplied for derived names have no part in the equations. -/
lemma of_supplied (h : g.Solves supplied derived v) {supplied' : Table α}
    (hsame : ∀ name, name ∉ derived → supplied.get? name = supplied'.get? name) :
    g.Solves supplied' derived v :=
  ⟨h.derives, fun name hname => (h.supplies name hname).trans (hsame name hname)⟩

lemma mem_keys_iff {values : Table α} (h : g.Solves supplied derived values.get?)
    {name : Text} : name ∈ values.keys ↔ name ∈ supplied.keys ∨ name ∈ derived := by
  by_cases hname : name ∈ derived
  · obtain ⟨-, -, value, -, -, -, hvalue⟩ := h.derives name hname
    have hin : name ∈ values.keys := by
      rw [← Table.isSome_get?_iff, hvalue]
      rfl
    simp [hin, hname]
  · rw [← Table.isSome_get?_iff, h.supplies name hname, Table.isSome_get?_iff]
    simp [hname]

end Solves

/-- What a run of rules leaves solves their equations, when no rule reads what is derived with it or
after it. -/
lemma solves_of_derive {values final : Table α} {names : List Text}
    (hnames : ∀ name ∈ names, name ∈ g.names)
    (hread : ∀ before name behind, names = before ++ name :: behind →
      ∀ input ∈ g.inputs name, input ∉ name :: behind)
    (h : g.derive values names = .ok final) : g.Solves values names final.get? := by
  constructor
  · intro name hname
    obtain ⟨rule, hfind⟩ := exists_find?_of_mem (hnames name hname)
    obtain ⟨value, happly, hvalue⟩ := apply_derive hnames hread h hname hfind
    obtain ⟨inputs, hinputs, hcompute⟩ := Rule.apply_eq_ok_iff.1 happly
    exact ⟨rule, inputs, value, hfind, hinputs, hcompute, hvalue⟩
  · exact fun name hname => get?_derive_of_not_mem hnames h hname

end Registry

/-! ## The solution -/

lemma Table.keys_of_texts {values : Table α} {texts : Table Text} (h : values.texts = .ok texts) :
    texts.keys = values.keys := by
  unfold Table.texts at h
  split at h
  · cases h
    exact Table.keys_map _ _
  · cases h

namespace Bindings

variable {t : Template} {supplied : Table α}

/-- What a run of the applied rules leaves when it has come part of the way solves the equations so
far. -/
lemma solves_of_derive_part (hacyclic : g.Acyclic) {before behind : List Text}
    (hsplit : applied t g = before ++ behind) {reached : Table α}
    (h : g.derive (given t supplied g) before = .ok reached) :
    g.Solves (given t supplied g) before reached.get? := by
  refine Registry.solves_of_derive (fun n hn => ?_)
    (fun front n rest hbefore input hinput => input_not_mem_part hacyclic hsplit hbefore hinput) h
  have happlied : n ∈ applied t g := by simp [hsplit, hn]
  exact (mem_applied_iff.1 happlied).mem_names

/-- What a run of all applied rules leaves solves their equations. -/
lemma solves_of_derive (hacyclic : g.Acyclic) {values : Table α}
    (h : g.derive (given t supplied g) (applied t g) = .ok values) :
    g.Solves supplied (applied t g) values.get? := by
  have hsolves := solves_of_derive_part hacyclic (List.append_nil _).symm h
  refine hsolves.of_supplied fun name hname => ?_
  rw [given, Table.get?_filterKeys, if_pos]
  simpa using hname

/-- The values complete the template: they solve the equations of the rules that it reaches, and
cover the names that it mentions. -/
structure Completes (t : Template) (supplied : Table α) (g : Registry) (derived : List Text)
    (values : Text → Option α) : Prop where
  reached : ∀ name, name ∈ derived ↔ g.Reachable t.mentions name
  solves : g.Solves supplied derived values
  covers : ∀ name ∈ t.mentions, (values name).isSome = true

lemma completes_of_derive (hacyclic : g.Acyclic) (hmissing : missing t supplied g = [])
    {values : Table α} (h : g.derive (given t supplied g) (applied t g) = .ok values) :
    Completes t supplied g (applied t g) values.get? := by
  have hsolves : g.Solves supplied (applied t g) values.get? := solves_of_derive hacyclic h
  refine ⟨fun name => mem_applied_iff, hsolves, fun name hmention => ?_⟩
  rw [Table.isSome_get?_iff, hsolves.mem_keys_iff]
  rcases mention_applied_or_given hmissing hmention with happlied | hgiven
  · exact .inr happlied
  · exact .inl (mem_keys_given_iff.1 hgiven).1

/-- What is required is supplied when the template can be completed: a mentioned name has a value,
and so has an input of a rule, and where no rule derives it, the value is the supplied one. -/
lemma Completes.missing_eq_nil {derived : List Text} {v : Text → Option α}
    (h : Completes t supplied g derived v) : missing t supplied g = [] := by
  have hsupplied : ∀ name, name ∉ g.names → (v name).isSome = true → name ∈ supplied.keys := by
    intro name hname hvalue
    rw [← Table.isSome_get?_iff, ← h.solves.supplies name fun hm => hname (h.solves.mem_names hm)]
    exact hvalue
  unfold missing
  rw [List.filter_eq_nil_iff]
  intro name hrequired
  obtain ⟨hasked, hname⟩ := Registry.mem_required_iff.1 hrequired
  have hvalue : (v name).isSome = true := by
    rcases hasked with hmention | ⟨n, hn, hinput⟩
    · exact h.covers name (Template.mem_names.1 hmention)
    · obtain ⟨rule, inputs, -, hfind, hread, -⟩ :=
        h.solves.derives n ((h.reached n).2 (mem_applied_iff.1 hn))
      rw [Registry.inputs_of_find? hfind] at hinput
      have hmem : v name ∈ inputs.map some := hread ▸ List.mem_map_of_mem hinput
      obtain ⟨value, -, hvalue⟩ := List.mem_map.1 hmem
      rw [← hvalue]
      rfl
  simp [Table.contains_iff.2 (hsupplied name hname hvalue)]

/-- Two templates that are completed under the same rules have the same value for a name that both
ask for.  The induction is on the chains of needs from it, which both derive or neither does. -/
lemma Completes.eq_of_asked {t' : Template} {derived derived' : List Text} {v w : Text → Option α}
    (hv : Completes t supplied g derived v) (hw : Completes t' supplied g derived' w)
    (hacyclic : g.Acyclic) {name : Text} (h : g.Asked t.mentions name)
    (h' : g.Asked t'.mentions name) : v name = w name := by
  have hsupplied : ∀ n, n ∉ g.names → v n = w n := by
    intro n hn
    rw [hv.solves.supplies n fun hm => hn (hv.solves.mem_names hm),
      hw.solves.supplies n fun hm => hn (hw.solves.mem_names hm)]
  by_cases hname : name ∈ g.names
  · induction hacyclic.grounded name hname with
    | intro name _ ih =>
      refine hv.solves.eq_of_inputs hw.solves
        ((hv.reached name).2 (Registry.reachable_iff_asked.2 ⟨h, hname⟩))
        ((hw.reached name).2 (Registry.reachable_iff_asked.2 ⟨h', hname⟩)) fun input hinput => ?_
      by_cases hderived : input ∈ g.names
      · exact ih input ⟨hinput, Registry.contains_iff.2 hderived⟩ (h.of_mem_inputs hinput)
          (h'.of_mem_inputs hinput) hderived
      · exact hsupplied input hderived
  · exact hsupplied name hname

/-- When a template can be completed, the run of the applied rules succeeds. -/
lemma Completes.exists_derive {derived : List Text} {v : Text → Option α}
    (h : Completes t supplied g derived v) (hacyclic : g.Acyclic) :
    ∃ values, g.derive (given t supplied g) (applied t g) = .ok values := by
  have hsame : ∀ name, name ∈ derived ↔ name ∈ applied t g := by
    intro name
    rw [h.reached, mem_applied_iff]
  refine Registry.exists_derive_of_forall (fun before n behind hsplit input hinput =>
    input_not_mem_behind hacyclic hsplit hinput)
    (fun name hname => h.solves.derives name ((hsame name).2 hname)) ?_
  intro name hname
  rw [h.solves.supplies name fun hm => hname ((hsame name).1 hm), given, Table.get?_filterKeys,
    if_pos]
  simpa using hname

/-! ## Finding it -/

lemma resolve_ne_unboundInput (t : Template) (supplied : Table α) (g : Registry) (name : Text) :
    resolve t supplied g ≠ .error (.rule (.unboundInput name)) := by
  intro h
  rcases resolve_eq_error_iff.1 h with ⟨_, -, he⟩ | ⟨hcycle, ⟨-, he⟩ | ⟨hmissing, hfail⟩⟩
  · cases he
  · cases he
  rcases hfail with ⟨cause, hderive, he⟩ | ⟨_, _, -, -, he⟩
  · cases he
    have hacyclic : g.Acyclic := Registry.findCycle_eq_none_iff.1 hcycle
    exact Registry.derive_ne_unboundInput (fun n hn => (mem_applied_iff.1 hn).mem_names)
      (fun before n behind hsplit input hinput =>
        input_derived_or_given hacyclic hmissing hsplit hinput) name hderive
  · cases he

/-- Every name that a template mentions has a value once the values are completed. -/
lemma mem_keys_of_mention {b : Bindings} (h : resolve t supplied g = .ok b) {name : Text}
    (hmention : name ∈ t.mentions) : name ∈ b.values.keys := by
  obtain ⟨hcycle, hmissing, values, texts, hderive, htexts, rfl⟩ := resolve_eq_ok_iff.1 h
  show name ∈ texts.keys
  have hcompletes : Completes t supplied g (applied t g) values.get? :=
    completes_of_derive (Registry.findCycle_eq_none_iff.1 hcycle) hmissing hderive
  rw [Table.keys_of_texts htexts, ← Table.isSome_get?_iff]
  exact hcompletes.covers name hmention

section Texts

variable {supplied : Table Text}

/-- Bindings of texts complete the template, and no other values solve their equations. -/
lemma completes_of_resolve {b : Bindings} (h : resolve t supplied g = .ok b) :
    Completes t supplied g b.derived b.values.get? ∧
      ∀ v, g.Solves supplied b.derived v → v = b.values.get? := by
  obtain ⟨hcycle, hmissing, values, texts, hderive, htexts, rfl⟩ := resolve_eq_ok_iff.1 h
  rw [Table.texts_text] at htexts
  cases htexts
  have hcompletes : Completes t supplied g (applied t g) values.get? :=
    completes_of_derive (Registry.findCycle_eq_none_iff.1 hcycle) hmissing hderive
  refine ⟨hcompletes, fun v hv => ?_⟩
  exact hv.unique hcompletes.solves (Registry.grounded_of_findCycle_eq_none hcycle)

/-- There are bindings exactly when the rules have no circle and some values complete the
template. -/
lemma exists_resolve_iff :
    (∃ b, resolve t supplied g = .ok b) ↔
      g.Acyclic ∧ ∃ derived v, Completes t supplied g derived v := by
  constructor
  · rintro ⟨b, h⟩
    obtain ⟨hcycle, -⟩ := resolve_eq_ok_iff.1 h
    exact ⟨Registry.findCycle_eq_none_iff.1 hcycle, b.derived, b.values.get?,
      (completes_of_resolve h).1⟩
  · rintro ⟨hacyclic, derived, v, h⟩
    obtain ⟨values, hderive⟩ := h.exists_derive hacyclic
    exact ⟨_, resolve_eq_ok_iff.2 ⟨Registry.findCycle_eq_none_iff.2 hacyclic, h.missing_eq_nil,
      values, values, hderive, Table.texts_text values, rfl⟩⟩

end Texts

/-- **The bindings of a template are the unique solution of the rule equations.**  No run of the
rules asks for an input that has no value.  There are bindings exactly when the rules make a
registry without circles and some values complete the template.  The names that have values are then
the supplied ones and the derived ones, which are those that the placeholders reach through the
inputs of rules; and the values are the only ones for which every derived name has the value that
its rule computes from its inputs, and every other name the value supplied for it. -/
theorem resolveWith_unique_solution (t : Template) (supplied : Table Text) (rules : RuleSet) :
    (∀ name, resolveWith t supplied rules ≠ .error (.rule (.unboundInput name))) ∧
    ((∃ b, resolveWith t supplied rules = .ok b) ↔
      ∃ g, rules.registry = .ok g ∧ g.Acyclic ∧ ∃ derived v, Completes t supplied g derived v) ∧
    ∀ b, resolveWith t supplied rules = .ok b →
      ∃ g, rules.registry = .ok g ∧ g.rules = rules.members ∧
        (∀ name, name ∈ b.derived ↔ g.Reachable t.mentions name) ∧
        (∀ name, name ∈ b.values.keys ↔ name ∈ supplied.keys ∨ name ∈ b.derived) ∧
        g.Solves supplied b.derived b.values.get? ∧
        ∀ v, g.Solves supplied b.derived v → v = b.values.get? := by
  unfold resolveWith
  cases hrules : rules.registry with
  | error e =>
    refine ⟨fun _ => nofun, ⟨?_, ?_⟩, fun _ => nofun⟩
    · rintro ⟨b, h⟩
      cases h
    · rintro ⟨g, h, -⟩
      cases h
  | ok g =>
    refine ⟨resolve_ne_unboundInput t supplied g, ⟨?_, ?_⟩, fun b hb => ?_⟩
    · intro h
      exact ⟨g, rfl, exists_resolve_iff.1 h⟩
    · rintro ⟨g', hg, h⟩
      cases hg
      exact exists_resolve_iff.2 h
    · obtain ⟨hcompletes, hunique⟩ := completes_of_resolve hb
      exact ⟨g, rfl, RuleSet.rules_registry hrules, hcompletes.reached,
        fun name => hcompletes.solves.mem_keys_iff, hcompletes.solves, hunique⟩

/-- Two rules that read one name, and a rule that reads what they derive. -/
def diamond : RuleSet :=
  .list [⟨['d'], [['b'], ['c']], fun | [.text b, .text c] => .text (b ++ c) | _ => .other [], []⟩,
    .ofStyle ['b'] ['a'] .lower, .ofStyle ['c'] ['a'] .upper]

/-- The value that the rules of `diamond` read, one that they replace, and one that they ignore. -/
def diamondValues : Table Text :=
  .ofList [(['a'], ['A', 'x']), (['b'], ['?']), (['z'], ['!'])]

set_option maxRecDepth 8000 in
theorem resolveWith_diamond :
    ∃ b, resolveWith ⟨[], [.placeholder ['d'] .start]⟩ diamondValues diamond = .ok b ∧
      b.values.entries = [(['a'], ['A', 'x']), (['z'], ['!']), (['b'], ['a', 'x']),
        (['c'], ['A', 'X']), (['d'], ['a', 'x', 'A', 'X'])] ∧
      ∃ g, diamond.registry = .ok g ∧
        ∀ v, g.Solves diamondValues b.derived v → v = b.values.get? := by
  have hrun : (resolveWith ⟨[], [.placeholder ['d'] .start]⟩ diamondValues diamond).map
      (fun b => b.values.entries) = .ok [(['a'], ['A', 'x']), (['z'], ['!']), (['b'], ['a', 'x']),
        (['c'], ['A', 'X']), (['d'], ['a', 'x', 'A', 'X'])] := by
    cbv
  obtain ⟨b, hb, hentries⟩ := Except.map_eq_ok_iff.1 hrun
  obtain ⟨-, -, hsolution⟩ := resolveWith_unique_solution _ diamondValues diamond
  obtain ⟨g, hg, -, -, -, -, hunique⟩ := hsolution b hb
  exact ⟨b, hb, hentries, g, hg, hunique⟩

end Bindings

end Formwork
