import Formwork.Proofs.Binding.Equations
import Formwork.Proofs.Binding.Missing
import Formwork.Proofs.Render.Substitution
import Mathlib

/-!
# The role of a supplied name

When the values of a template are complete, every supplied name plays one of three roles.  It is
*necessary* when it is asked for and no rule derives it; it is *shadowed* when it is asked for and a
rule derives it; and it is *unused* when it is not asked for.  Bindings tell the last two apart in
their diagnoses (`mem_unused_iff`, `mem_shadowed_iff`).

`Role.Played` says what a role means by way of a second attempt, in which the name is not supplied,
or supplied with another value.  The three cases rest on three facts about such an attempt.  A name
that is required and not supplied is missing (`resolve_without_necessary`).  The values that no
applied rule replaces determine the outcome (`resolve_of_given_eq`), and a shadowed name is not among
them.  And a run of the rules does not notice the absence of a name that none of them reads
(`resolve_without_unused`).
-/

namespace Formwork

variable {α : Type}

/-! ## Tables without a name -/

namespace Table

/-- The table without the entry of a name. -/
def without (t : Table α) (name : Text) : Table α := t.filterKeys fun n => n != name

lemma mem_keys_without {t : Table α} {name key : Text} :
    key ∈ (t.without name).keys ↔ key ∈ t.keys ∧ key ≠ name := by
  unfold without
  rw [keys_filterKeys, List.mem_filter, bne_iff_ne]

lemma get?_without_of_ne (t : Table α) {name key : Text} (h : key ≠ name) :
    (t.without name).get? key = t.get? key := by
  unfold without
  rw [get?_filterKeys, if_pos (bne_iff_ne.2 h)]

lemma map_filterKeys {β : Type} (f : α → β) (t : Table α) (p : Text → Bool) :
    (t.filterKeys p).map f = (t.map f).filterKeys p := by
  apply eq_of_entries
  change (t.entries.filter fun e => p e.1).map (fun e => (e.1, f e.2))
    = (t.entries.map fun e => (e.1, f e.2)).filter fun e => p e.1
  rw [List.filter_map]
  rfl

/-- Where all values are texts, they still are when some are left out. -/
lemma texts_filterKeys [Supplied α] {t : Table α} {texts : Table Text} (h : t.texts = .ok texts)
    (p : Text → Bool) : (t.filterKeys p).texts = .ok (texts.filterKeys p) := by
  unfold Table.texts at h
  split at h
  · rename_i hforeign
    cases h
    have hnone : (t.filterKeys p).foreignNames.isEmpty = true := by
      rw [List.isEmpty_iff] at hforeign ⊢
      have hsub : (t.filterKeys p).foreignNames.Sublist t.foreignNames :=
        (List.filter_sublist.filter _).map _
      exact List.eq_nil_of_subset_nil (hforeign ▸ hsub.subset)
    unfold Table.texts
    rw [if_pos hnone, map_filterKeys]
  · cases h

end Table

namespace Bindings

variable {g : Registry} {t : Template} {supplied : Table α} {name : Text}

/-! ## What the diagnoses say -/

lemma asked_iff : g.Asked t.mentions name ↔
    name ∈ t.names ∨ name ∈ g.required t.names (applied t g) ∨ name ∈ applied t g := by
  rw [mem_required_iff_asked, mem_applied_iff, Template.mem_names]
  constructor
  · intro h
    by_cases hname : name ∈ g.names
    · exact .inr (.inr (Registry.reachable_iff_asked.2 ⟨h, hname⟩))
    · exact .inr (.inl ⟨h, hname⟩)
  · rintro (hmention | ⟨hasked, -⟩ | hreach)
    · exact .inl hmention
    · exact hasked
    · exact hreach.asked

section Diagnoses

variable [Supplied α] {b : Bindings}

lemma derived_eq_applied (h : resolve t supplied g = .ok b) : b.derived = applied t g := by
  obtain ⟨-, -, values, texts, -, -, rfl⟩ := resolve_eq_ok_iff.1 h
  rfl

lemma mem_unused_iff (h : resolve t supplied g = .ok b) :
    name ∈ b.unused ↔ name ∈ supplied.keys ∧ ¬ g.Asked t.mentions name := by
  obtain ⟨-, -, values, texts, -, -, rfl⟩ := resolve_eq_ok_iff.1 h
  unfold ofValues
  rw [List.mem_filter, asked_iff]
  simp [and_assoc]

lemma mem_shadowed_iff (h : resolve t supplied g = .ok b) :
    name ∈ b.shadowed ↔ name ∈ supplied.keys ∧ name ∈ b.derived := by
  obtain ⟨-, -, values, texts, -, -, rfl⟩ := resolve_eq_ok_iff.1 h
  unfold ofValues
  rw [List.mem_filter, List.contains_iff_mem]

/-- The diagnoses keep the order in which names are supplied. -/
lemma sublist_of_resolve (h : resolve t supplied g = .ok b) :
    b.unused.Sublist supplied.keys ∧ b.shadowed.Sublist supplied.keys := by
  obtain ⟨-, -, values, texts, -, -, rfl⟩ := resolve_eq_ok_iff.1 h
  exact ⟨List.filter_sublist, List.filter_sublist⟩

end Diagnoses

/-! ## A second attempt -/

/-- What is missing without a name that was required, when nothing was missing with it. -/
lemma missing_without (hmissing : missing t supplied g = []) (hsupplied : name ∈ supplied.keys)
    (hasked : g.Asked t.mentions name) (hname : name ∉ g.names) :
    missing t (supplied.without name) g = [name] := by
  have honly : ∀ n, n ∈ missing t (supplied.without name) g ↔ n ∈ [name] := by
    intro n
    rw [mem_missing_iff, List.mem_singleton]
    constructor
    · rintro ⟨hn, hderived, habsent⟩
      by_contra hne
      have hunsupplied : n ∉ supplied.keys := fun hin =>
        habsent (Table.mem_keys_without.2 ⟨hin, hne⟩)
      have hin : n ∈ missing t supplied g := mem_missing_iff.2 ⟨hn, hderived, hunsupplied⟩
      rw [hmissing] at hin
      exact absurd hin List.not_mem_nil
    · rintro rfl
      exact ⟨hasked, hname, fun hin => (Table.mem_keys_without.1 hin).2 rfl⟩
  -- A list without repetition is known by its members up to order, and here there is one only.
  rw [← List.perm_singleton]
  exact (List.perm_ext_iff_of_nodup (nodup_missing _ _ _) (List.nodup_singleton _)).2 honly

lemma missing_eq_nil_of_given {supplied' : Table α} (hmissing : missing t supplied g = [])
    (hgiven : ∀ n ∈ g.required t.names (applied t g),
      n ∈ (given t supplied g).keys → n ∈ supplied'.keys) : missing t supplied' g = [] := by
  unfold missing
  rw [List.filter_eq_nil_iff]
  intro n hn
  have hkey : n ∈ supplied'.keys := hgiven n hn (mem_keys_given_of_required hmissing hn)
  simp [Table.contains_iff.2 hkey]

lemma given_without_of_mem (h : name ∈ applied t g) :
    given t (supplied.without name) g = given t supplied g := by
  unfold given Table.without
  rw [Table.filterKeys_filterKeys]
  apply Table.filterKeys_congr
  intro n _
  by_cases hn : n = name
  · subst hn
    simp [h]
  · simp [hn]

lemma given_set_of_mem (h : name ∈ applied t g) (value : α) :
    given t (supplied.set name value) g = given t supplied g := by
  unfold given
  rw [Table.filterKeys_set_of_neg]
  simpa using h

lemma given_without (t : Template) (supplied : Table α) (g : Registry) (name : Text) :
    given t (supplied.without name) g = (given t supplied g).without name := by
  unfold given Table.without
  rw [Table.filterKeys_filterKeys, Table.filterKeys_filterKeys]
  exact Table.filterKeys_congr fun n _ => Bool.and_comm _ _

variable [Supplied α] {b : Bindings}

lemma resolve_without_necessary (h : resolve t supplied g = .ok b)
    (hsupplied : name ∈ supplied.keys) (hasked : g.Asked t.mentions name) (hname : name ∉ g.names) :
    resolve t (supplied.without name) g = .error (.missing [name]) := by
  obtain ⟨hcycle, hmissing, -⟩ := resolve_eq_ok_iff.1 h
  have honly := missing_without hmissing hsupplied hasked hname
  exact resolve_eq_missing_iff.2
    ⟨Registry.findCycle_eq_none_iff.1 hcycle, honly, List.cons_ne_nil _ _⟩

/-- Supplied values that differ only where rules replace them lead to the same values. -/
lemma resolve_of_given_eq (h : resolve t supplied g = .ok b) {supplied' : Table α}
    (hgiven : given t supplied' g = given t supplied g) :
    resolve t supplied' g = .ok (ofValues t supplied' g b.values) := by
  obtain ⟨hcycle, hmissing, values, texts, hderive, htexts, rfl⟩ := resolve_eq_ok_iff.1 h
  have hmissing' : missing t supplied' g = [] :=
    missing_eq_nil_of_given hmissing fun n _ hn => (mem_keys_given_iff.1 (hgiven ▸ hn)).1
  exact resolve_eq_ok_iff.2 ⟨hcycle, hmissing', values, texts, hgiven ▸ hderive, htexts, rfl⟩

/-- Without a name that is not asked for, only the value of this name is lost. -/
lemma resolve_without_unused (h : resolve t supplied g = .ok b)
    (hname : ¬ g.Asked t.mentions name) :
    resolve t (supplied.without name) g =
      .ok (ofValues t (supplied.without name) g (b.values.without name)) := by
  obtain ⟨hcycle, hmissing, values, texts, hderive, htexts, rfl⟩ := resolve_eq_ok_iff.1 h
  have hasked : ∀ n, g.Asked t.mentions n → (n != name) = true := by
    intro n hn
    exact bne_iff_ne.2 fun he => hname (he ▸ hn)
  have hmissing' : missing t (supplied.without name) g = [] := by
    refine missing_eq_nil_of_given hmissing fun n hn hgiven => Table.mem_keys_without.2 ⟨?_, ?_⟩
    · exact (mem_keys_given_iff.1 hgiven).1
    · exact bne_iff_ne.1 (hasked n (mem_required_iff_asked.1 hn).1)
  have hreach : ∀ n ∈ applied t g, g.Reachable t.mentions n := fun n hn => mem_applied_iff.1 hn
  -- The applied rules neither derive the name nor read it, for these are the names asked for.
  have hderive' : g.derive (given t (supplied.without name) g) (applied t g) =
      .ok (values.without name) := by
    rw [given_without]
    unfold Table.without
    rw [Registry.derive_filterKeys (fun n hn => (hreach n hn).mem_names)
      (fun n hn => hasked n (hreach n hn).asked)
      (fun n hn input hinput => hasked input ((hreach n hn).asked.of_mem_inputs hinput)), hderive]
    rfl
  exact resolve_eq_ok_iff.2 ⟨hcycle, hmissing', values.without name, texts.without name, hderive',
    Table.texts_filterKeys htexts _, rfl⟩

end Bindings

/-! ## Roles -/

/-- What a supplied name is to the values of a template. -/
inductive Role where
  /-- It has to be supplied. -/
  | necessary
  /-- A rule derives its value, whatever is supplied. -/
  | shadowed
  /-- Nothing asks for it. -/
  | unused
  deriving Repr, DecidableEq

/-- What a role means, for a name that is supplied and the bindings `b` that are found with it: how
`b` diagnoses the name, and what is found without it. -/
def Role.Played [Supplied α] (t : Template) (supplied : Table α) (rules : RuleSet) (b : Bindings)
    (name : Text) : Role → Prop
  | necessary =>
    name ∉ b.unused ∧ name ∉ b.shadowed ∧
      Bindings.resolveWith t (supplied.without name) rules = .error (.missing [name])
  | shadowed =>
    name ∈ b.shadowed ∧ name ∈ b.derived ∧
      (∃ b', Bindings.resolveWith t (supplied.without name) rules = .ok b' ∧
        b'.values = b.values) ∧
      ∀ value, ∃ b', Bindings.resolveWith t (supplied.set name value) rules = .ok b' ∧
        b'.values = b.values
  | unused =>
    name ∈ b.unused ∧ name ∉ b.derived ∧
      ∃ b', Bindings.resolveWith t (supplied.without name) rules = .ok b' ∧
        b'.derived = b.derived ∧
        (∀ n, n ≠ name → b'.values.get? n = b.values.get? n) ∧
        ∀ r : Render, r.template t b'.values = r.template t b.values

namespace Role

variable [Supplied α] {t : Template} {supplied : Table α} {rules : RuleSet} {b : Bindings}
  {name : Text}

/-- No two roles are compatible: the diagnoses keep them apart. -/
lemma Played.eq {role role' : Role} (h : role.Played t supplied rules b name)
    (h' : role'.Played t supplied rules b name) : role = role' := by
  cases role with
  | necessary =>
    obtain ⟨hunused, hshadowed, -⟩ := h
    cases role' with
    | necessary => rfl
    | shadowed => exact absurd h'.1 hshadowed
    | unused => exact absurd h'.1 hunused
  | shadowed =>
    obtain ⟨hshadowed, hderived, -⟩ := h
    cases role' with
    | necessary => exact absurd hshadowed h'.2.1
    | shadowed => rfl
    | unused => exact absurd hderived h'.2.1
  | unused =>
    obtain ⟨hunused, hderived, -⟩ := h
    cases role' with
    | necessary => exact absurd hunused h'.1
    | shadowed => exact absurd h'.2.1 hderived
    | unused => rfl

variable {g : Registry}

lemma played_necessary (hg : rules.registry = .ok g)
    (hb : Bindings.resolve t supplied g = .ok b) (hsupplied : name ∈ supplied.keys)
    (hasked : g.Asked t.mentions name) (hname : name ∉ g.names) :
    necessary.Played t supplied rules b name := by
  refine ⟨?_, ?_, ?_⟩
  · exact fun h => ((Bindings.mem_unused_iff hb).1 h).2 hasked
  · intro h
    have happlied : name ∈ Bindings.applied t g :=
      Bindings.derived_eq_applied hb ▸ ((Bindings.mem_shadowed_iff hb).1 h).2
    exact hname (Bindings.mem_applied_iff.1 happlied).mem_names
  · rw [Bindings.resolveWith_of_registry hg]
    exact Bindings.resolve_without_necessary hb hsupplied hasked hname

lemma played_shadowed (hg : rules.registry = .ok g)
    (hb : Bindings.resolve t supplied g = .ok b) (hsupplied : name ∈ supplied.keys)
    (happlied : name ∈ Bindings.applied t g) : shadowed.Played t supplied rules b name := by
  have hderived : name ∈ b.derived := Bindings.derived_eq_applied hb ▸ happlied
  have hsame : ∀ supplied' : Table α,
      Bindings.given t supplied' g = Bindings.given t supplied g →
      ∃ b', Bindings.resolveWith t supplied' rules = .ok b' ∧ b'.values = b.values := by
    intro supplied' hgiven
    rw [Bindings.resolveWith_of_registry hg, Bindings.resolve_of_given_eq hb hgiven]
    exact ⟨_, rfl, rfl⟩
  refine ⟨(Bindings.mem_shadowed_iff hb).2 ⟨hsupplied, hderived⟩, hderived, ?_, fun value => ?_⟩
  · exact hsame _ (Bindings.given_without_of_mem happlied)
  · exact hsame _ (Bindings.given_set_of_mem happlied value)

lemma played_unused (hg : rules.registry = .ok g) (hb : Bindings.resolve t supplied g = .ok b)
    (hsupplied : name ∈ supplied.keys) (hasked : ¬ g.Asked t.mentions name) :
    unused.Played t supplied rules b name := by
  have hderived : b.derived = Bindings.applied t g := Bindings.derived_eq_applied hb
  have hwithout := Bindings.resolve_without_unused hb hasked
  rw [← Bindings.resolveWith_of_registry hg] at hwithout
  have hvalues : ∀ n, n ≠ name → (b.values.without name).get? n = b.values.get? n :=
    fun n hn => b.values.get?_without_of_ne hn
  refine ⟨(Bindings.mem_unused_iff hb).2 ⟨hsupplied, hasked⟩, ?_, _, hwithout, hderived.symm,
    hvalues, fun r => ?_⟩
  · rw [hderived]
    exact fun happlied => hasked (Bindings.mem_applied_iff.1 happlied).asked
  · refine Render.template_congr fun n hn => hvalues n ?_
    rintro rfl
    exact hasked (.inl hn)

end Role

/-- **Every supplied name plays exactly one role.**  Given bindings, each supplied name is necessary,
shadowed or unused, and only one of these.  Without a necessary name the completion fails, and the
report is of this name alone; a shadowed name can be left out or given another value without any
effect on the values; and without an unused name nothing but its own value is lost, so that the
output is the same in whatever way it is written.  The diagnoses list no name twice and keep the
order in which the names are supplied. -/
theorem Bindings.existsUnique_role [Supplied α] (t : Template) (supplied : Table α)
    (rules : RuleSet) {b : Bindings} (h : resolveWith t supplied rules = .ok b) :
    (∀ name ∈ supplied.keys, ∃! role : Role, role.Played t supplied rules b name) ∧
      b.unused.Nodup ∧ b.shadowed.Nodup ∧
      b.unused.Sublist supplied.keys ∧ b.shadowed.Sublist supplied.keys := by
  obtain ⟨g, hg, hb⟩ := resolveWith_eq_ok_iff.1 h
  have hdiagnoses := sublist_of_resolve hb
  refine ⟨fun name hsupplied => ?_, supplied.nodup_keys.sublist hdiagnoses.1,
    supplied.nodup_keys.sublist hdiagnoses.2, hdiagnoses⟩
  have hplayed : ∃ role : Role, role.Played t supplied rules b name := by
    by_cases hasked : g.Asked t.mentions name
    · by_cases hname : name ∈ g.names
      · have happlied := mem_applied_iff.2 (Registry.reachable_iff_asked.2 ⟨hasked, hname⟩)
        exact ⟨.shadowed, Role.played_shadowed hg hb hsupplied happlied⟩
      · exact ⟨.necessary, Role.played_necessary hg hb hsupplied hasked hname⟩
    · exact ⟨.unused, Role.played_unused hg hb hsupplied hasked⟩
  obtain ⟨role, hrole⟩ := hplayed
  exact ⟨role, hrole, fun _ hrole' => hrole'.eq hrole⟩

/-- A template that mentions a name without a rule and a name with one. -/
def greeting : Template := ⟨[], [.placeholder ['a'] .start, .placeholder ['b'] .start]⟩

/-- Values for both names of `greeting` and for another one. -/
def greetingValues : Table Text := .ofList [(['z'], ['1']), (['b'], ['2']), (['a'], ['x'])]

/-- The rule for the second name of `greeting`, which reads the first. -/
def greetingRules : RuleSet := .list [.ofStyle ['b'] ['a'] .upper]

set_option maxRecDepth 8000 in
theorem Bindings.roles_of_greeting :
    ∃ b, resolveWith greeting greetingValues greetingRules = .ok b ∧
      Role.necessary.Played greeting greetingValues greetingRules b ['a'] ∧
      Role.shadowed.Played greeting greetingValues greetingRules b ['b'] ∧
      Role.unused.Played greeting greetingValues greetingRules b ['z'] := by
  have hrun : (resolveWith greeting greetingValues greetingRules).map
      (fun b => (b.unused, b.shadowed)) = .ok ([['z']], [['b']]) := by
    cbv
  obtain ⟨b, hb, hresult⟩ := Except.map_eq_ok_iff.1 hrun
  obtain ⟨hunused, hshadowed⟩ := Prod.mk.inj hresult
  obtain ⟨hroles, -⟩ := existsUnique_role greeting greetingValues greetingRules hb
  obtain ⟨roleA, hroleA, -⟩ := hroles ['a'] (by decide)
  obtain ⟨roleB, hroleB, -⟩ := hroles ['b'] (by decide)
  obtain ⟨roleZ, hroleZ, -⟩ := hroles ['z'] (by decide)
  refine ⟨b, hb, ?_, ?_, ?_⟩
  · cases roleA with
    | necessary => exact hroleA
    | shadowed => exact absurd (hshadowed ▸ hroleA.1) (by decide)
    | unused => exact absurd (hunused ▸ hroleA.1) (by decide)
  · cases roleB with
    | necessary => exact absurd hroleB.2.1 (by rw [hshadowed]; decide)
    | shadowed => exact hroleB
    | unused => exact absurd (hunused ▸ hroleB.1) (by decide)
  · cases roleZ with
    | necessary => exact absurd hroleZ.1 (by rw [hunused]; decide)
    | shadowed => exact absurd (hshadowed ▸ hroleZ.1) (by decide)
    | unused => exact hroleZ

end Formwork
