import Formwork.Proofs.Rule.Registry

/-!
# Merged registries, rule by rule

`Registry.mem_rules_merge_iff` says which rules a merged registry has.  The search for circles
reports the first one it comes upon, so for its answer the order counts as well.  Here the merged
rules are given as a list, `Registry.overridden`: the rules of the first registry keep their places,
a rule that has a namesake in the second one gives its place to it, and what is left of the second
one stands behind, in its own order.

A merge enters the second rules one after the other.  A single rule goes to the place of its namesake
or to the end (`Registry.rules_set`), and the main lemma, `Registry.rules_merge`, follows by
induction on the rules that are entered: since their names are distinct, a rule that has been entered
is not replaced any more.
-/

namespace Formwork.Registry

/-- The rules of the first list, each with its namesake from the second list in its place, and then
the rules of the second list that have no namesake in the first. -/
def overridden (base top : List Rule) : List Rule :=
  base.map (fun rule => (top.find? fun r => r.name == rule.name).getD rule)
    ++ top.filter fun rule => !(base.map Rule.name).contains rule.name

/-- A rule is entered in the place of its namesake, or behind all others. -/
lemma rules_set (g : Registry) (rule : Rule) :
    (g.set rule).rules = if rule.name ∈ g.names
      then g.rules.map (fun r => if r.name = rule.name then rule else r) else g.rules ++ [rule] := by
  split
  · rename_i hname
    unfold names Table.keys at hname
    have hdistinct := g.table.nodup
    have hnamed := g.named
    change (Table.setEntry rule.name rule g.table.entries).map Prod.snd
      = (g.table.entries.map Prod.snd).map fun r => if r.name = rule.name then rule else r
    generalize g.table.entries = l at hname hdistinct hnamed
    induction l with
    | nil => cases hname
    | cons e l ih =>
      rw [List.map_cons, List.nodup_cons] at hdistinct
      rw [List.map_cons, List.mem_cons] at hname
      have he : e.2.name = e.1 := hnamed e List.mem_cons_self
      have hl : ∀ e ∈ l, e.2.name = e.1 := fun e he => hnamed e (List.mem_cons_of_mem _ he)
      rw [Table.setEntry, List.map_cons, List.map_cons]
      by_cases hfirst : e.1 = rule.name
      · -- The names are distinct, so behind the namesake there is nothing to replace.
        have hrest : (l.map Prod.snd).map (fun r => if r.name = rule.name then rule else r)
            = l.map Prod.snd := by
          rw [List.map_map]
          refine List.map_congr_left fun x hx => if_neg fun hsame => hdistinct.1 ?_
          rw [hfirst, ← hsame, hl x hx]
          exact List.mem_map_of_mem hx
        rw [if_pos hfirst, if_pos (he.trans hfirst), hrest]
        rfl
      · rw [if_neg hfirst, if_neg fun hsame => hfirst (he.symm.trans hsame)]
        have hlater := hname.resolve_left fun h => hfirst h.symm
        rw [List.map_cons, ih hlater hdistinct.2 hl]
  · rename_i hname
    exact rules_set_of_not_mem hname

lemma names_set (g : Registry) (rule : Rule) :
    (g.set rule).names = if rule.name ∈ g.names then g.names else g.names ++ [rule.name] :=
  Table.keys_set g.table rule.name rule

/-- Looking for a namesake among several rules of which the first has another name. -/
lemma find?_namesake_cons {rule r : Rule} {rules : List Rule} (h : rule.name ≠ r.name) :
    ((rule :: rules).find? fun x => x.name == r.name) = rules.find? fun x => x.name == r.name :=
  List.find?_cons_of_neg (by simpa using h)

/-- Rules that are entered one after the other override the ones that are there. -/
lemma rules_foldl_set {rules : List Rule} {g : Registry} (h : (rules.map Rule.name).Nodup) :
    (rules.foldl set g).rules = overridden g.rules rules := by
  induction rules generalizing g with
  | nil => simp [overridden]
  | cons rule rules ih =>
    rw [List.map_cons, List.nodup_cons] at h
    have hnone : (rules.find? fun r => r.name == rule.name) = none := by
      rw [List.find?_eq_none]
      intro r hr hsame
      exact h.1 (by simpa using ⟨r, hr, by simpa using hsame⟩)
    rw [List.foldl_cons, ih h.2]
    unfold overridden
    rw [← names_eq_map_rules, ← names_eq_map_rules, names_set, rules_set]
    by_cases hname : rule.name ∈ g.names
    · rw [if_pos hname, if_pos hname, List.map_map, List.filter_cons_of_neg (by simpa using hname)]
      congr 1
      refine List.map_congr_left fun r _ => ?_
      by_cases hr : r.name = rule.name
      · simp [hr, hnone]
      · rw [find?_namesake_cons fun h => hr h.symm]
        simp [hr]
    · have hrules : ∀ r ∈ g.rules, rule.name ≠ r.name := by
        intro r hr hsame
        rw [names_eq_map_rules] at hname
        exact hname (hsame ▸ List.mem_map_of_mem hr)
      have hfilter : (rules.filter fun r => !(g.names ++ [rule.name]).contains r.name)
          = rules.filter fun r => !g.names.contains r.name := by
        refine List.filter_congr fun r hr => ?_
        have hne : r.name ≠ rule.name := fun he => h.1 (he ▸ List.mem_map_of_mem hr)
        simp [hne]
      rw [if_neg hname, if_neg hname, hfilter, List.map_append,
        List.filter_cons_of_pos (by simpa using hname)]
      have hkept : g.rules.map (fun r => ((rule :: rules).find? fun x => x.name == r.name).getD r)
          = g.rules.map fun r => (rules.find? fun x => x.name == r.name).getD r :=
        List.map_congr_left fun r hr => by rw [find?_namesake_cons (hrules r hr)]
      rw [hkept, List.map_singleton, hnone, List.append_assoc]
      rfl

theorem rules_merge (base top : Registry) :
    (base.merge top).rules = overridden base.rules top.rules := by
  have hdistinct : (top.rules.map Rule.name).Nodup := by
    rw [← names_eq_map_rules]
    exact top.nodup_names
  exact rules_foldl_set hdistinct

lemma overridden_nil (top : List Rule) : overridden [] top = top := by
  simp [overridden]

end Formwork.Registry
