import Formwork.Rule.Registry
import Mathlib.Tactic.Lemma

/-!
# The rules that a registry is made of

A registry made from a rule set holds the rules of the set, all of them and in the order in which
they are given (`RuleSet.rules_registry`).  For a list this is because a rule with a name that is
there already is refused, and for a table because its names are distinct and each rule must stand
under its own.  There is a registry when no rule is refused: when the rule set is `Lawful`
(`RuleSet.exists_registry_iff`).

Which rule derives a name is a matter of the rules of that name alone, and not of the order in which
they stand among the others (`Registry.find?_congr`).  So it is known which rules two registries
have when they are merged (`Registry.mem_rules_merge_iff`).
-/

namespace Formwork

namespace Registry

lemma nodup_names (g : Registry) : g.names.Nodup := g.table.nodup_keys

lemma names_eq_map_rules (g : Registry) : g.names = g.rules.map Rule.name := by
  unfold names rules Table.keys
  rw [List.map_map]
  apply List.map_congr_left
  intro e he
  exact (g.named e he).symm

lemma rules_set_of_not_mem {g : Registry} {rule : Rule} (h : rule.name ∉ g.names) :
    (g.set rule).rules = g.rules ++ [rule] := by
  unfold rules set
  rw [Table.entries_set_of_not_mem h, List.map_append]
  rfl

/-- Registries that have the same rules for a name find the same rule for it. -/
lemma find?_congr {g g' : Registry} {name : Text}
    (h : ∀ rule, rule.name = name → (rule ∈ g.rules ↔ rule ∈ g'.rules)) :
    g.find? name = g'.find? name := by
  apply Option.ext
  intro rule
  rw [find?_eq_some_iff, find?_eq_some_iff]
  constructor
  · rintro ⟨hrule, hname⟩
    exact ⟨(h rule hname).1 hrule, hname⟩
  · rintro ⟨hrule, hname⟩
    exact ⟨(h rule hname).2 hrule, hname⟩

/-- A further rule does not change which rules derive the other names. -/
lemma find?_of_perm_cons {g g' : Registry} {rule : Rule} (h : g'.rules.Perm (rule :: g.rules))
    {name : Text} (hname : name ≠ rule.name) : g.find? name = g'.find? name := by
  apply find?_congr
  intro r hr
  have hne : r ≠ rule := fun he => hname (he ▸ hr.symm)
  rw [h.mem_iff, List.mem_cons, or_iff_right hne]

/-- Every rule stands under its own name, so the rules are all there is to a registry. -/
lemma eq_of_rules {g g' : Registry} (h : g.rules = g'.rules) : g = g' := by
  have hentries : ∀ g : Registry, g.table.entries = g.rules.map fun rule => (rule.name, rule) := by
    intro g
    unfold rules
    rw [List.map_map, List.map_congr_left (g := id), List.map_id]
    intro e he
    simp [g.named e he]
  have htable : g.table = g'.table := Table.eq_of_entries (by rw [hentries, hentries, h])
  cases g
  cases g'
  cases htable
  rfl

/-! ## Merging -/

lemma mem_rules_set_iff {g : Registry} {rule r : Rule} :
    r ∈ (g.set rule).rules ↔ r = rule ∨ r ∈ g.rules ∧ r.name ≠ rule.name := by
  have hfind : ∀ g : Registry, r ∈ g.rules ↔ g.table.get? r.name = some r := by
    intro g
    exact ⟨fun h => find?_eq_some_iff.2 ⟨h, rfl⟩, fun h => (find?_eq_some_iff.1 h).1⟩
  rw [hfind, hfind]
  change (g.table.set rule.name rule).get? r.name = some r ↔ _
  rw [Table.get?_set]
  split
  · rename_i hname
    simp [hname, eq_comm]
  · rename_i hname
    have hne : r ≠ rule := fun he => hname (congrArg Rule.name he)
    simp [hname, hne]

/-- Rules with distinct names, entered one after the other, replace those that have these names. -/
lemma mem_rules_foldl_set_iff {rules : List Rule} {g : Registry} {r : Rule}
    (h : (rules.map Rule.name).Nodup) :
    r ∈ (rules.foldl set g).rules ↔ r ∈ rules ∨ r ∈ g.rules ∧ r.name ∉ rules.map Rule.name := by
  induction rules generalizing g with
  | nil => simp
  | cons rule rules ih =>
    rw [List.map_cons, List.nodup_cons] at h
    have hself : r = rule → r.name ∉ rules.map Rule.name := fun he => he ▸ h.1
    rw [List.foldl_cons, ih h.2, mem_rules_set_iff, List.mem_cons, List.map_cons, List.mem_cons,
      not_or]
    grind

/-- A merged registry has the rules of the second one, and those of the first that derive other
names. -/
lemma mem_rules_merge_iff {base top : Registry} {r : Rule} :
    r ∈ (base.merge top).rules ↔ r ∈ top.rules ∨ r ∈ base.rules ∧ r.name ∉ top.names := by
  have hdistinct : (top.rules.map Rule.name).Nodup := by
    rw [← names_eq_map_rules]
    exact top.nodup_names
  rw [merge, mem_rules_foldl_set_iff hdistinct, names_eq_map_rules]

end Registry

namespace RuleSet

/-- The rules of a rule set, in the order in which they are given. -/
def members : RuleSet → List Rule
  | list rules => rules
  | byName rules => rules.entries.map Prod.snd

lemma rules_foldlM_addNew {rules : List Rule} {g g' : Registry}
    (h : rules.foldlM addNew g = .ok g') : g'.rules = g.rules ++ rules := by
  induction rules generalizing g with
  | nil =>
    cases h
    exact (List.append_nil _).symm
  | cons rule rules ih =>
    rw [List.foldlM_cons] at h
    unfold addNew at h
    split at h
    · cases h
    · rename_i hnew
      have hset := Registry.rules_set_of_not_mem fun hm => hnew (Registry.contains_iff.2 hm)
      rw [ih h, hset, List.append_assoc]
      rfl

lemma rules_foldlM_addNamed {entries : List (Text × Rule)} {g g' : Registry}
    (hdistinct : (g.names ++ entries.map Prod.fst).Nodup)
    (h : entries.foldlM addNamed g = .ok g') : g'.rules = g.rules ++ entries.map Prod.snd := by
  induction entries generalizing g with
  | nil =>
    cases h
    exact (List.append_nil _).symm
  | cons e entries ih =>
    rw [List.foldlM_cons] at h
    unfold addNamed at h
    split at h
    · rename_i hname
      have hnew : e.2.name ∉ g.names := by
        intro hm
        rw [← hname] at hm
        exact (List.nodup_append.1 hdistinct).2.2 e.1 hm e.1 List.mem_cons_self rfl
      have hset := Registry.rules_set_of_not_mem hnew
      have hnames : (g.set e.2).names = g.names ++ [e.1] := by
        rw [Registry.names_eq_map_rules, hset, List.map_append, ← Registry.names_eq_map_rules,
          hname]
        rfl
      have hrest : ((g.set e.2).names ++ entries.map Prod.fst).Nodup := by
        rw [hnames, List.append_assoc]
        exact hdistinct
      rw [ih hrest h, hset, List.append_assoc]
      rfl
    · cases h

/-- A registry holds the rules of the rule set that it is made from, in their order. -/
lemma rules_registry {rules : RuleSet} {g : Registry} (h : rules.registry = .ok g) :
    g.rules = rules.members := by
  cases rules with
  | list rules => exact rules_foldlM_addNew h
  | byName rules =>
    have hdistinct : (Registry.empty.names ++ rules.entries.map Prod.fst).Nodup := rules.nodup
    exact rules_foldlM_addNamed hdistinct h

/-! ## Rule sets that make a registry -/

/-- A list derives no name twice; a table has every rule under its own name. -/
def Lawful : RuleSet → Prop
  | list rules => (rules.map Rule.name).Nodup
  | byName rules => ∀ e ∈ rules.entries, e.1 = e.2.name

instance : DecidablePred Lawful
  | list rules => inferInstanceAs (Decidable (rules.map Rule.name).Nodup)
  | byName rules => inferInstanceAs (Decidable (∀ e ∈ rules.entries, e.1 = e.2.name))

lemma exists_foldlM_addNew_iff {rules : List Rule} {g : Registry} :
    (∃ g', rules.foldlM addNew g = .ok g') ↔ (g.names ++ rules.map Rule.name).Nodup := by
  induction rules generalizing g with
  | nil =>
    have hnames : (g.names ++ [].map Rule.name).Nodup := by
      simpa using g.nodup_names
    exact ⟨fun _ => hnames, fun _ => ⟨g, rfl⟩⟩
  | cons rule rules ih =>
    rw [List.foldlM_cons, addNew]
    by_cases hin : rule.name ∈ g.names
    · rw [if_pos (Registry.contains_iff.2 hin)]
      constructor
      · rintro ⟨g', h⟩
        cases h
      · intro h
        exact absurd rfl ((List.nodup_append.1 h).2.2 _ hin _ List.mem_cons_self)
    · have hnames : (g.set rule).names = g.names ++ [rule.name] := Table.keys_set_of_not_mem hin _
      rw [if_neg fun hc => hin (Registry.contains_iff.1 hc), List.map_cons]
      change (∃ g', rules.foldlM addNew (g.set rule) = .ok g') ↔ _
      rw [ih, hnames, List.append_assoc]
      rfl

lemma exists_foldlM_addNamed_iff {entries : List (Text × Rule)} {g : Registry} :
    (∃ g', entries.foldlM addNamed g = .ok g') ↔ ∀ e ∈ entries, e.1 = e.2.name := by
  induction entries generalizing g with
  | nil => exact ⟨fun _ _ he => absurd he List.not_mem_nil, fun _ => ⟨g, rfl⟩⟩
  | cons e entries ih =>
    rw [List.foldlM_cons, addNamed, List.forall_mem_cons]
    by_cases hname : e.1 = e.2.name
    · rw [if_pos hname]
      change (∃ g', entries.foldlM addNamed (g.set e.2) = .ok g') ↔ _
      rw [ih]
      exact ⟨fun h => ⟨hname, h⟩, fun h => h.2⟩
    · rw [if_neg hname]
      constructor
      · rintro ⟨g', h⟩
        cases h
      · exact fun h => absurd h.1 hname

lemma exists_registry_iff {rules : RuleSet} : (∃ g, rules.registry = .ok g) ↔ rules.Lawful := by
  cases rules with
  | list rules => exact exists_foldlM_addNew_iff
  | byName rules => exact exists_foldlM_addNamed_iff

lemma Lawful.exists_registry {rules : RuleSet} (h : rules.Lawful) :
    ∃ g, rules.registry = .ok g ∧ g.rules = rules.members := by
  obtain ⟨g, hg⟩ := exists_registry_iff.2 h
  exact ⟨g, hg, rules_registry hg⟩

/-- The rules of a registry, given under their names, make this registry again. -/
lemma registry_table (g : Registry) : (byName g.table).registry = .ok g := by
  have hlawful : (byName g.table).Lawful := fun e he => (g.named e he).symm
  obtain ⟨g', hg', hrules⟩ := hlawful.exists_registry
  have hsame : g' = g := Registry.eq_of_rules hrules
  rw [hg', hsame]

/-! ## What a list of rules is refused for -/

lemma exists_of_foldlM_addNew_eq_error {rules : List Rule} {g : Registry} {cause : Conflict}
    (h : rules.foldlM addNew g = .error cause) :
    ∃ before rule behind, rules = before ++ rule :: behind ∧
      (g.names ++ before.map Rule.name).Nodup ∧ rule.name ∈ g.names ++ before.map Rule.name ∧
      cause = .duplicate rule.name := by
  induction rules generalizing g with
  | nil => cases h
  | cons rule rules ih =>
    rw [List.foldlM_cons, addNew] at h
    by_cases hin : rule.name ∈ g.names
    · rw [if_pos (Registry.contains_iff.2 hin)] at h
      cases h
      exact ⟨[], rule, rules, rfl, by simpa using g.nodup_names, by simpa using hin, rfl⟩
    · have hnames : (g.set rule).names = g.names ++ [rule.name] := Table.keys_set_of_not_mem hin _
      rw [if_neg fun hc => hin (Registry.contains_iff.1 hc)] at h
      obtain ⟨before, later, behind, hsplit, hdistinct, hlater, hcause⟩ := ih h
      rw [hnames, List.append_assoc] at hdistinct hlater
      exact ⟨rule :: before, later, behind, by rw [hsplit, List.cons_append], hdistinct, hlater,
        hcause⟩

/-- A list is refused at the first rule that has the name of an earlier one. -/
lemma exists_registry_eq_duplicate {rules : List Rule} (h : ¬ (rules.map Rule.name).Nodup) :
    ∃ before rule behind, rules = before ++ rule :: behind ∧ (before.map Rule.name).Nodup ∧
      rule.name ∈ before.map Rule.name ∧
      (list rules).registry = .error (.duplicate rule.name) := by
  cases hregistry : (list rules).registry with
  | ok g => exact absurd (exists_registry_iff.1 ⟨g, hregistry⟩) h
  | error cause =>
    obtain ⟨before, rule, behind, hsplit, hdistinct, hearlier, rfl⟩ :=
      exists_of_foldlM_addNew_eq_error hregistry
    exact ⟨before, rule, behind, hsplit, hdistinct, hearlier, rfl⟩

/-- Rules in the form of a table, each under its own name. -/
def keyed (rules : List Rule) : RuleSet :=
  .byName (.ofList (rules.map fun rule => (rule.name, rule)))

lemma map_fst_pairs (rules : List Rule) :
    (rules.map fun rule => (rule.name, rule)).map Prod.fst = rules.map Rule.name := by
  rw [List.map_map]
  rfl

/-- A list that derives no name twice can be given as a table. -/
lemma lawful_keyed {rules : List Rule} (h : (rules.map Rule.name).Nodup) :
    (keyed rules).Lawful := by
  intro e he
  rw [Table.entries_ofList (map_fst_pairs rules ▸ h)] at he
  obtain ⟨rule, -, rfl⟩ := List.mem_map.1 he
  rfl

lemma members_keyed {rules : List Rule} (h : (rules.map Rule.name).Nodup) :
    (keyed rules).members = rules := by
  change (Table.ofList (rules.map fun rule => (rule.name, rule))).entries.map Prod.snd = rules
  rw [Table.entries_ofList (map_fst_pairs rules ▸ h), List.map_map]
  exact List.map_id _

end RuleSet

end Formwork
