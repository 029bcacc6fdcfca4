import Formwork.Proofs.Binding.Merge
import Formwork.Proofs.Binding.Role
import Formwork.Proofs.CommandLine.Layers

/-!
# What a run warns of

The outputs of a run are made from one set of given values (`RenderedFrom`,
`renderedFrom_of_prepare`), but not from the same values: a preset adds defaults of its own.  So the
diagnoses of two outputs may be about different names, and only a name that every job received can be
unused in all of them.

The main statement, `warnings_merged`, says which warnings there are for such outputs, and that this
does not depend on the order in which they are made.  About an output it uses only that its
diagnoses are without repetition and about names that its job received (`Job.sublist_of_scaffold`);
the rest is a matter of merging.
-/

namespace Formwork.CommandLine

open Bindings (mergedWarnings merged unusedWarning shadowedWarning)

variable {host : Host} {given : Table Text} {results : List (Job × Scaffold)}

/-- The outputs are those of their jobs under the given values, each with options and rules of its
own. -/
def RenderedFrom (host : Host) (given : Table Text) (results : List (Job × Scaffold)) : Prop :=
  ∀ x ∈ results, ∃ config rules, x.1.scaffold host config given rules = .ok x.2

theorem renderedFrom_of_prepare {env : Config.Environment} {d : Disk} {r : RenderRequest}
    {rendered : Rendered} (h : prepare host env d r = .ok rendered) :
    RenderedFrom host rendered.values rendered.results := by
  obtain ⟨-, jobs, rules, -, -, -, -, hresults⟩ := prepare_eq_ok_iff.1 h
  refine Except.forall_of_forall₂ hresults fun j x hx => ?_
  obtain ⟨rfl, hscaffold⟩ := hx
  exact ⟨_, rules, hscaffold⟩

namespace Job

variable {j : Job} {name : Text}

lemma mem_keys_values_iff :
    name ∈ (j.values given).keys ↔ name ∈ given.keys ∨ name ∈ j.defaults.keys := by
  rw [← Table.isSome_get?_iff, get?_values, Table.get?_merge, Option.isSome_or, Bool.or_eq_true,
    Table.isSome_get?_iff, Table.isSome_get?_iff]

/-- The diagnoses of an output are about names that its job received, in the same order. -/
lemma sublist_of_scaffold {config : Config} {rules : List Rule} {s : Scaffold}
    (h : j.scaffold host config given rules = .ok s) :
    s.bindings.unused.Sublist (j.values given).keys ∧
      s.bindings.shadowed.Sublist (j.values given).keys := by
  obtain ⟨-, own, -, hresolve, -⟩ := Engine.scaffold_eq_ok_iff.1 (scaffold_eq_ok_iff.1 h).2
  exact Bindings.sublist_of_resolve hresolve

end Job

namespace RenderedFrom

lemma noRepeats (h : RenderedFrom host given results) :
    ∀ b ∈ results.map fun x => x.2.bindings, b.NoRepeats := by
  refine List.forall_mem_map.2 fun x hx => ?_
  obtain ⟨_, _, hscaffold⟩ := h x hx
  obtain ⟨hunused, hshadowed⟩ := Job.sublist_of_scaffold hscaffold
  exact ⟨(Table.nodup_keys _).sublist hunused, (Table.nodup_keys _).sublist hshadowed⟩

lemma mem_keys_of_unused (h : RenderedFrom host given results) {x : Job × Scaffold} (hx : x ∈ results)
    {name : Text} (hunused : name ∈ x.2.bindings.unused) :
    name ∈ given.keys ∨ name ∈ x.1.defaults.keys := by
  obtain ⟨_, _, hscaffold⟩ := h x hx
  exact Job.mem_keys_values_iff.1 ((Job.sublist_of_scaffold hscaffold).1.subset hunused)

end RenderedFrom

/-- **The warnings of several outputs.**  Whatever is rendered from one set of given values, there is
a warning that a name is unused when the name is unused in every output, and one that a name is
ignored when it is shadowed in some output.  There are no other warnings, none comes twice, and those
about unused names come first.  A name that was not given and for which some job has no default, such
as a default of one preset among several, is never reported as unused.  In another order the outputs
give the same warnings, in another order.  A single output, whose warnings are passed on as they are,
is no exception from the rule for several. -/
theorem warnings_merged (hsome : results ≠ []) (h : RenderedFrom host given results) :
    let bindings := results.map fun x => x.2.bindings
    (∀ name, ("Unused binding '" ++ name ++ "'" : Text) ∈ mergedWarnings bindings ↔
      ∀ x ∈ results, name ∈ x.2.bindings.unused) ∧
    (∀ name, ("Binding '" ++ name ++ "' ignored; its value is derived" : Text)
        ∈ mergedWarnings bindings ↔
      ∃ x ∈ results, name ∈ x.2.bindings.shadowed) ∧
    (mergedWarnings bindings).Nodup ∧
    (∃ unused shadowed : List Text, mergedWarnings bindings =
      unused.map unusedWarning ++ shadowed.map shadowedWarning) ∧
    (∀ name ∉ given.keys, (∃ x ∈ results, name ∉ x.1.defaults.keys) →
      unusedWarning name ∉ mergedWarnings bindings) ∧
    (∀ results', results.Perm results' →
      (mergedWarnings bindings).Perm (mergedWarnings (results'.map fun x => x.2.bindings))) ∧
    mergedWarnings bindings = (merged bindings).warnings := by
  intro bindings
  have hmerged : mergedWarnings bindings = (merged bindings).warnings :=
    Bindings.mergedWarnings_eq h.noRepeats
  have hunused : ∀ name, unusedWarning name ∈ mergedWarnings bindings ↔
      ∀ x ∈ results, name ∈ x.2.bindings.unused := by
    intro name
    rw [hmerged, Bindings.unusedWarning_mem_iff,
      Bindings.mem_merged_unused_iff fun hnil => hsome (List.map_eq_nil_iff.1 hnil),
      List.forall_mem_map]
  have hshadowed : ∀ name, shadowedWarning name ∈ mergedWarnings bindings ↔
      ∃ x ∈ results, name ∈ x.2.bindings.shadowed := by
    intro name
    rw [hmerged, Bindings.shadowedWarning_mem_iff, Bindings.mem_merged_shadowed_iff]
    simp only [bindings, List.mem_map, exists_exists_and_eq_and]
  refine ⟨hunused, hshadowed, ?_, ⟨_, _, hmerged⟩, ?_, fun results' hperm => ?_, hmerged⟩
  · rw [hmerged]
    exact (Bindings.noRepeats_merged h.noRepeats).nodup_warnings
  · rintro name hgiven ⟨x, hx, hdefault⟩ hmessage
    exact (h.mem_keys_of_unused hx ((hunused name).1 hmessage x hx)).elim hgiven hdefault
  · exact Bindings.mergedWarnings_perm (hperm.map _) h.noRepeats

def labelJob : Job := ⟨"label.txt", "<\x7b\x7bx\x7d\x7d>", none⟩

/-- A preset that derives a second name, and has a default that nothing asks for. -/
def badgeJob : Job :=
  .ofPreset ⟨"badge", [], [], "\x7b\x7bx\x7d\x7d \x7b\x7by\x7d\x7d", [.ofStyle "y" "x" .upper],
    .ofList [("d", "1")], "\x7b\x7bx\x7d\x7d"⟩

def labelValues : Table Text := .ofList [("z", "1"), ("y", "2"), ("x", "v")]

set_option maxRecDepth 8000 in
theorem warnings_of_label_and_badge :
    ∃ s t : Scaffold,
      [(labelJob, s), (badgeJob, t)] ≠ [] ∧
      RenderedFrom .library labelValues [(labelJob, s), (badgeJob, t)] ∧
      (s.bindings.unused = ["z", "y"] ∧ s.bindings.shadowed = []) ∧
      (t.bindings.unused = ["d", "z"] ∧ t.bindings.shadowed = ["y"]) ∧
      ("Unused binding 'z'" : Text) ∈ mergedWarnings [s.bindings, t.bindings] ∧
      ("Binding 'y' ignored; its value is derived" : Text)
        ∈ mergedWarnings [s.bindings, t.bindings] ∧
      unusedWarning "y" ∉ mergedWarnings [s.bindings, t.bindings] ∧
      unusedWarning "d" ∉ mergedWarnings [s.bindings, t.bindings] ∧
      (mergedWarnings [s.bindings, t.bindings]).Perm (mergedWarnings [t.bindings, s.bindings]) := by
  have hlabel : (labelJob.scaffold .library {} labelValues []).map
      (fun s => (s.bindings.unused, s.bindings.shadowed)) = .ok (["z", "y"], []) := by cbv
  have hbadge : (badgeJob.scaffold .library {} labelValues []).map
      (fun s => (s.bindings.unused, s.bindings.shadowed)) = .ok (["d", "z"], ["y"]) := by cbv
  obtain ⟨s, hs, hsnames⟩ := Except.map_eq_ok_iff.1 hlabel
  obtain ⟨t, ht, htnames⟩ := Except.map_eq_ok_iff.1 hbadge
  obtain ⟨hsunused, hsshadowed⟩ := Prod.mk.inj hsnames
  obtain ⟨htunused, htshadowed⟩ := Prod.mk.inj htnames
  have hsome : [(labelJob, s), (badgeJob, t)] ≠ [] := List.cons_ne_nil _ _
  have hfrom : RenderedFrom .library labelValues [(labelJob, s), (badgeJob, t)] :=
    List.forall_mem_cons.2 ⟨⟨{}, [], hs⟩, List.forall_mem_singleton.2 ⟨{}, [], ht⟩⟩
  obtain ⟨hunused, hshadowed, -, -, hdefault, hperm, -⟩ := warnings_merged hsome hfrom
  refine ⟨s, t, hsome, hfrom, ⟨hsunused, hsshadowed⟩, ⟨htunused, htshadowed⟩, ?_, ?_, ?_, ?_, ?_⟩
  · refine (hunused "z").2 (List.forall_mem_cons.2 ⟨?_, List.forall_mem_singleton.2 ?_⟩)
    · rw [hsunused]; decide
    · rw [htunused]; decide
  · refine (hshadowed "y").2 ⟨(badgeJob, t), List.mem_cons_of_mem _ List.mem_cons_self, ?_⟩
    rw [htshadowed]; decide
  · intro hmessage
    have hin := (hunused "y").1 hmessage (badgeJob, t) (List.mem_cons_of_mem _ List.mem_cons_self)
    rw [htunused] at hin
    exact absurd hin (by decide)
  · exact hdefault "d" (by decide) ⟨(labelJob, s), List.mem_cons_self, List.not_mem_nil⟩
  · exact hperm [(badgeJob, t), (labelJob, s)] (List.Perm.swap _ _ _)

end Formwork.CommandLine
