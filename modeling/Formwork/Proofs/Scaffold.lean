import Formwork.Engine
import Formwork.Proofs.Binding.Solution
import Formwork.Proofs.Render.Substitution

/-!
# From a template text to its output

The engine succeeds when each of its stages does (`Engine.scaffold_eq_ok_iff`), and otherwise
reports the first one that fails (`Engine.scaffold_eq_error_iff`).  What the stages do is known from
elsewhere: reading gives the segments of an outline, and writing fills the segments.  What is new
here is how completing the values and writing the output fit together: bindings have a value for
every name that the template mentions, so a template whose values can be completed can be written,
and the engine never finds a placeholder without a value.
-/

namespace Formwork

open Template (Outline)
open Text (strip)

variable {α : Type} [Supplied α] {g : Registry} {t : Template} {supplied : Table α}

namespace Bindings

/-- Completing the values does not concern itself with what is written. -/
lemma resolve_ne_unbound (t : Template) (supplied : Table α) (g : Registry) (name : Text) :
    resolve t supplied g ≠ .error (.unbound name) := by
  intro h
  rcases resolve_eq_error_iff.1 h with ⟨_, -, he⟩ | ⟨-, ⟨-, he⟩ | ⟨-, hfail⟩⟩
  · cases he
  · cases he
  rcases hfail with ⟨_, -, he⟩ | ⟨_, _, -, -, he⟩
  · cases he
  · cases he

end Bindings

/-- A template whose values can be completed can be written, in whatever way. -/
lemma Render.exists_template_of_resolve (r : Render) {b : Bindings}
    (h : Bindings.resolve t supplied g = .ok b) : ∃ output, r.template t b.values = .ok output := by
  unfold Render.template
  rw [Render.exists_segments_iff]
  exact fun name hname => Bindings.mem_keys_of_mention h hname

/-! ## The engine -/

namespace Engine

variable {e : Engine} {source : Text} {rules : RuleSet}

/-- The engine succeeds when the template is read, the rules make a registry, the values can be
completed and the output can be written. -/
theorem scaffold_eq_ok_iff {s : Scaffold} :
    e.scaffold source supplied rules = .ok s ↔
      Template.parse source = .ok s.template ∧
      ∃ own, rules.registry = .ok own ∧
        Bindings.resolve s.template supplied (e.rules.merge own) = .ok s.bindings ∧
        e.render.template s.template s.bindings.values = .ok s.output := by
  unfold scaffold
  constructor
  · intro h
    obtain ⟨t, ht, h⟩ := Except.bind_eq_ok_iff.1 h
    obtain ⟨own, hown, h⟩ := Except.bind_eq_ok_iff.1 h
    obtain ⟨b, hb, h⟩ := Except.bind_eq_ok_iff.1 h
    obtain ⟨output, houtput, h⟩ := Except.bind_eq_ok_iff.1 h
    cases h
    exact ⟨Except.mapError_eq_ok_iff.1 ht, own, Except.mapError_eq_ok_iff.1 hown, hb, houtput⟩
  · rintro ⟨ht, own, hown, hb, houtput⟩
    refine Except.bind_eq_ok_iff.2 ⟨s.template, Except.mapError_eq_ok_iff.2 ht, ?_⟩
    refine Except.bind_eq_ok_iff.2 ⟨own, Except.mapError_eq_ok_iff.2 hown, ?_⟩
    refine Except.bind_eq_ok_iff.2 ⟨s.bindings, hb, ?_⟩
    exact Except.bind_eq_ok_iff.2 ⟨s.output, houtput, rfl⟩

/-- The engine fails when the source is not read, when the rules make no registry, or when the
values cannot be completed, and reports the first of these.  Writing does not fail. -/
theorem scaffold_eq_error_iff {fault : Fault} :
    e.scaffold source supplied rules = .error fault ↔
      (∃ cause, Template.parse source = .error cause ∧ fault = .malformed cause) ∨
      ∃ t, Template.parse source = .ok t ∧
        ((∃ cause, rules.registry = .error cause ∧ fault = .conflict cause) ∨
        ∃ own, rules.registry = .ok own ∧
          Bindings.resolve t supplied (e.rules.merge own) = .error fault) := by
  unfold scaffold
  constructor
  · intro h
    rcases Except.bind_eq_error_iff.1 h with hparse | ⟨t, ht, h⟩
    · obtain ⟨cause, hcause, rfl⟩ := Except.mapError_eq_error_iff.1 hparse
      exact .inl ⟨cause, hcause, rfl⟩
    refine .inr ⟨t, Except.mapError_eq_ok_iff.1 ht, ?_⟩
    rcases Except.bind_eq_error_iff.1 h with hrules | ⟨own, hown, h⟩
    · obtain ⟨cause, hcause, rfl⟩ := Except.mapError_eq_error_iff.1 hrules
      exact .inl ⟨cause, hcause, rfl⟩
    refine .inr ⟨own, Except.mapError_eq_ok_iff.1 hown, ?_⟩
    rcases Except.bind_eq_error_iff.1 h with hresolve | ⟨b, hb, h⟩
    · exact hresolve
    · obtain ⟨output, houtput⟩ := e.render.exists_template_of_resolve hb
      rw [houtput] at h
      cases h
  · rintro (⟨cause, hcause, rfl⟩ | ⟨t, ht, ⟨cause, hcause, rfl⟩ | ⟨own, hown, hresolve⟩⟩)
    · exact Except.bind_eq_error_iff.2 (.inl (Except.mapError_eq_error_iff.2 ⟨cause, hcause, rfl⟩))
    · refine Except.bind_eq_error_iff.2 (.inr ⟨t, Except.mapError_eq_ok_iff.2 ht, ?_⟩)
      exact Except.bind_eq_error_iff.2 (.inl (Except.mapError_eq_error_iff.2 ⟨cause, hcause, rfl⟩))
    · refine Except.bind_eq_error_iff.2 (.inr ⟨t, Except.mapError_eq_ok_iff.2 ht, ?_⟩)
      refine Except.bind_eq_error_iff.2 (.inr ⟨own, Except.mapError_eq_ok_iff.2 hown, ?_⟩)
      exact Except.bind_eq_error_iff.2 (.inl hresolve)

/-- The engine succeeds on every template that it can read and whose values can be completed. -/
lemma exists_scaffold_of_resolve {own : Registry} {b : Bindings}
    (ht : Template.parse source = .ok t) (hown : rules.registry = .ok own)
    (hb : Bindings.resolve t supplied (e.rules.merge own) = .ok b) :
    ∃ output, e.scaffold source supplied rules = .ok ⟨output, t, b⟩ := by
  obtain ⟨output, houtput⟩ := e.render.exists_template_of_resolve hb
  exact ⟨output, scaffold_eq_ok_iff.2 ⟨ht, own, hown, hb, houtput⟩⟩

lemma scaffold_ne_unbound (e : Engine) (source : Text) (supplied : Table α) (rules : RuleSet)
    (name : Text) : e.scaffold source supplied rules ≠ .error (.unbound name) := by
  intro h
  rcases scaffold_eq_error_iff.1 h with ⟨_, -, he⟩ | ⟨t, -, ⟨_, -, he⟩ | ⟨own, -, hresolve⟩⟩
  · cases he
  · cases he
  · exact Bindings.resolve_ne_unbound t supplied _ name hresolve

/-- **The output is a substitution, and what can be completed can be written.**  When values are
not indented and the engine succeeds, the source has an outline as a template, its values are
completed with one for each opening, and the output is the source with every opening, braces and
all, replaced by the value of its name, and nothing else changed.  The replacement is made once and
in all places together, so that values are never read for placeholders.  Whatever the options, the
engine does not come upon a placeholder without a value: it succeeds when the source is read and its
values can be completed, and in whatever way a template is written, completed values suffice. -/
theorem scaffold_substitutes (e : Engine) (source : Text) (supplied : Table α) (rules : RuleSet) :
    (e.config.indentMultiline = false → ∀ s, e.scaffold source supplied rules = .ok s →
      ∃ o : Outline, o.Lawful ∧ o.write = source ∧
        (∃ own, rules.registry = .ok own ∧
          Bindings.resolve ⟨source, o.segments⟩ supplied (e.rules.merge own) = .ok s.bindings) ∧
        (∀ a ∈ o.openings, strip a.body ∈ s.bindings.values.keys) ∧
        s.output = o.fill fun name => (s.bindings.values.get? name).getD []) ∧
    (∀ name, e.scaffold source supplied rules ≠ .error (.unbound name)) ∧
    (∀ t own b, Template.parse source = .ok t → rules.registry = .ok own →
      Bindings.resolve t supplied (e.rules.merge own) = .ok b →
      ∃ output, e.scaffold source supplied rules = .ok ⟨output, t, b⟩) ∧
    ∀ (r : Render) (t : Template) (g : Registry) (b : Bindings),
      Bindings.resolve t supplied g = .ok b → ∃ output, r.template t b.values = .ok output := by
  refine ⟨fun hindent s hs => ?_, scaffold_ne_unbound e source supplied rules, ?_, ?_⟩
  · obtain ⟨hparse, own, hown, hresolve, houtput⟩ := scaffold_eq_ok_iff.1 hs
    obtain ⟨o, ho, hsource, ht⟩ := Template.parse_eq_ok_iff.1 hparse
    rw [ht] at hresolve houtput
    have hbound : ∀ a ∈ o.openings, strip a.body ∈ s.bindings.values.keys :=
      fun a ha => Bindings.mem_keys_of_mention hresolve (Template.mem_mentions_of_mem_openings ha)
    exact ⟨o, ho, hsource, ⟨own, hown, hresolve⟩, hbound, Render.template_eq_fill hindent houtput⟩
  · exact fun t own b ht hown hb => exists_scaffold_of_resolve ht hown hb
  · exact fun r t g b hb => r.exists_template_of_resolve hb

set_option maxRecDepth 8000 in
theorem scaffold_braces_in_value :
    ∃ s, scaffold {} "<\x7b\x7ba\x7d\x7d> \x7b\x7b b \x7d\x7d"
        (Table.ofList [(['a'], "\x7b\x7bevil\x7d\x7d")] : Table Text)
        (.list [.ofStyle ['b'] ['a'] .upper]) = .ok s ∧
      s.output = "<\x7b\x7bevil\x7d\x7d> \x7b\x7bEVIL\x7d\x7d" ∧
      ∃ o : Outline, o.Lawful ∧ o.write = "<\x7b\x7ba\x7d\x7d> \x7b\x7b b \x7d\x7d" ∧
        s.output = o.fill fun name => (s.bindings.values.get? name).getD [] := by
  have hrun : generate {} "<\x7b\x7ba\x7d\x7d> \x7b\x7b b \x7d\x7d"
      (Table.ofList [(['a'], "\x7b\x7bevil\x7d\x7d")] : Table Text)
      (.list [.ofStyle ['b'] ['a'] .upper]) =
        .ok "<\x7b\x7bevil\x7d\x7d> \x7b\x7bEVIL\x7d\x7d" := by
    cbv
  obtain ⟨s, hs, houtput⟩ := Except.map_eq_ok_iff.1 hrun
  obtain ⟨o, ho, hsource, -, -, hfill⟩ := (scaffold_substitutes {} _ _ _).1 rfl s hs
  exact ⟨s, hs, houtput, o, ho, hsource, hfill⟩

end Engine

end Formwork
