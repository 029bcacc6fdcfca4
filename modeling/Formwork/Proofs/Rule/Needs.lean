import Formwork.Rule.Registry
import Mathlib.Data.List.Chain
import Mathlib.Logic.Relation

/-!
# What rules need

The rules of a registry form a graph: a derived name *needs* those inputs of its rule that are
derived themselves (`Needs`).  Names without a rule are not in the graph, so an edge ends at a
derived name as it begins at one.

Four notions are built on it.  The registry is `Acyclic` when no name needs itself, directly or
through others.  A name is `Grounded` when every chain of needs from it comes to an end; of the two
this is the one that a search can establish name by name, and it rules out a circle through the
name (`Grounded.not_transGen`).  A name is `Reachable` from some targets when they mention it or
need it, directly or through others.  And a name is `Asked` for when it is a target or the rule of a
reachable name reads it; what has to be known to complete the values of the targets is the values of
these names.
-/

namespace Formwork.Registry

open Relation

variable {g : Registry}

/-- The second name is among the inputs of the rule of the first, and is derived itself. -/
def Needs (g : Registry) (name input : Text) : Prop :=
  input ∈ g.inputs name ∧ g.contains input = true

lemma Needs.mem_inputs {name input : Text} (h : g.Needs name input) : input ∈ g.inputs name :=
  h.1

lemma Needs.source_mem {name input : Text} (h : g.Needs name input) : name ∈ g.names :=
  mem_names_of_mem_inputs h.1

lemma Needs.target_mem {name input : Text} (h : g.Needs name input) : input ∈ g.names :=
  contains_iff.1 h.2

/-- No name needs itself, directly or through others. -/
def Acyclic (g : Registry) : Prop := ∀ name, ¬ TransGen g.Needs name name

/-- Every chain of needs that begins at the name comes to an end. -/
def Grounded (g : Registry) (name : Text) : Prop := Acc (fun input name => g.Needs name input) name

lemma grounded_of_forall {name : Text} (h : ∀ input, g.Needs name input → g.Grounded input) :
    g.Grounded name :=
  Acc.intro name h

/-- A grounded name is on no circle. -/
lemma Grounded.not_transGen {name : Text} (h : g.Grounded name) :
    ¬ TransGen g.Needs name name := by
  induction h with
  | intro name _ ih =>
    intro hcircle
    obtain ⟨input, hneeds, hback⟩ := TransGen.head'_iff.1 hcircle
    exact ih input hneeds (TransGen.tail' hback hneeds)

lemma acyclic_of_grounded (h : ∀ name ∈ g.names, g.Grounded name) : g.Acyclic := by
  intro name hcircle
  obtain ⟨input, hneeds, -⟩ := TransGen.head'_iff.1 hcircle
  exact (h name hneeds.source_mem).not_transGen hcircle

lemma transGen_of_isChain {r : Text → Text → Prop} {first last : Text} {between : List Text}
    (h : (first :: (between ++ [last])).IsChain r) : TransGen r first last := by
  induction between generalizing first with
  | nil =>
    rw [List.nil_append, List.isChain_cons_cons] at h
    exact .single h.1
  | cons next between ih =>
    rw [List.cons_append, List.isChain_cons_cons] at h
    exact .head h.1 (ih h.2)

/-- The derived names that the targets mention or need, directly or through others. -/
inductive Reachable (g : Registry) (targets : List Text) : Text → Prop
  | target {name : Text} (mentioned : name ∈ targets) (derived : g.contains name = true) :
      Reachable g targets name
  | input {name input : Text} (reached : Reachable g targets name)
      (needed : g.Needs name input) : Reachable g targets input

lemma Reachable.mem_names {targets : List Text} {name : Text} (h : g.Reachable targets name) :
    name ∈ g.names := by
  cases h with
  | target _ derived => exact contains_iff.1 derived
  | input _ needed => exact needed.target_mem

lemma Reachable.mono {targets targets' : List Text} {name : Text} (h : g.Reachable targets name)
    (hsub : targets ⊆ targets') : g.Reachable targets' name := by
  induction h with
  | target mentioned derived => exact .target (hsub mentioned) derived
  | input _ needed ih => exact .input ih needed

/-! ## What is asked for -/

/-- A name is asked for when it is one of the targets, or the rule of a name that they reach reads
it.  It need not be derived itself. -/
def Asked (g : Registry) (targets : List Text) (name : Text) : Prop :=
  name ∈ targets ∨ ∃ n, g.Reachable targets n ∧ name ∈ g.inputs n

/-- The reachable names are the derived ones among those that are asked for. -/
lemma reachable_iff_asked {targets : List Text} {name : Text} :
    g.Reachable targets name ↔ g.Asked targets name ∧ name ∈ g.names := by
  constructor
  · intro h
    refine ⟨?_, h.mem_names⟩
    cases h with
    | target mentioned _ => exact .inl mentioned
    | input reached needed => exact .inr ⟨_, reached, needed.mem_inputs⟩
  · rintro ⟨hmentioned | ⟨n, hreach, hinput⟩, hname⟩
    · exact .target hmentioned (contains_iff.2 hname)
    · exact .input hreach ⟨hinput, contains_iff.2 hname⟩

lemma Reachable.asked {targets : List Text} {name : Text} (h : g.Reachable targets name) :
    g.Asked targets name :=
  (reachable_iff_asked.1 h).1

/-- What is read for a name that is asked for is asked for. -/
lemma Asked.of_mem_inputs {targets : List Text} {name input : Text} (h : g.Asked targets name)
    (hinput : input ∈ g.inputs name) : g.Asked targets input :=
  .inr ⟨name, reachable_iff_asked.2 ⟨h, mem_names_of_mem_inputs hinput⟩, hinput⟩

/-- Targets without rules ask for nothing but themselves. -/
lemma asked_iff_of_underived {targets : List Text} (h : ∀ n ∈ targets, n ∉ g.names) {name : Text} :
    g.Asked targets name ↔ name ∈ targets := by
  have hreach : ∀ n, ¬ g.Reachable targets n := by
    intro n hn
    induction hn with
    | target mentioned derived => exact h _ mentioned (contains_iff.1 derived)
    | input _ _ ih => exact ih
  constructor
  · rintro (hmentioned | ⟨n, hn, -⟩)
    · exact hmentioned
    · exact absurd hn (hreach n)
  · exact .inl

lemma Asked.mono {targets targets' : List Text} {name : Text} (h : g.Asked targets name)
    (hsub : targets ⊆ targets') : g.Asked targets' name := by
  rcases h with hmentioned | ⟨n, hreach, hinput⟩
  · exact .inl (hsub hmentioned)
  · exact .inr ⟨n, hreach.mono hsub, hinput⟩

end Formwork.Registry
