import Formwork.Proofs.Binding.Resolve
import Formwork.Proofs.Rule.Registry

/-!
# Running the rules

A rule reads the values of its inputs, and what its function gives is accepted when it is a text.
So `Rule.apply` succeeds exactly when the inputs have values from which the function computes a text
(`Rule.apply_eq_ok_iff`), and what it gives depends on the values of the inputs alone.

`Registry.derive` runs one rule after the other and enters each result.  Four facts about a whole
run are drawn from its first step by induction.  If no rule reads what is derived with it or after
it, every rule still gives the same value when the run is over (`Registry.apply_derive`).  In turn,
a run comes to its end when there are values for it to come to (`Registry.exists_derive_of_forall`).
If each input is derived before it is read, or has a value from the start, the run does not fail
for want of an input (`Registry.derive_ne_unboundInput`).  And the values of names that are neither
read nor derived might as well not be there (`Registry.derive_filterKeys`).
-/

namespace Formwork

variable {α : Type}

/-! ## Reading inputs -/

namespace Rule

lemma inputValues_eq_ok_iff {values : Table α} {names : List Text} {inputs : List α} :
    inputValues values names = .ok inputs ↔ names.map values.get? = inputs.map some := by
  induction names generalizing inputs with
  | nil =>
    cases inputs with
    | nil => simp [inputValues]
    | cons v inputs => simp [inputValues]
  | cons name names ih =>
    rw [inputValues, List.map_cons]
    cases hv : values.get? name with
    | none => cases inputs <;> simp
    | some v =>
      cases inputs with
      | nil =>
        cases hr : inputValues values names with
        | error e => simp [Except.map]
        | ok inputs => simp [Except.map]
      | cons w inputs =>
        rw [List.map_cons, List.cons.injEq, ← ih, Option.some_inj]
        cases hr : inputValues values names with
        | error e => simp [Except.map]
        | ok inputs' => simp [Except.map]

lemma exists_of_inputValues_eq_error {values : Table α} {names : List Text} {e : Failure}
    (h : inputValues values names = .error e) :
    ∃ name ∈ names, name ∉ values.keys ∧ e = .unboundInput name := by
  induction names with
  | nil => cases h
  | cons name names ih =>
    rw [inputValues] at h
    cases hv : values.get? name with
    | none =>
      rw [hv] at h
      cases h
      exact ⟨name, List.mem_cons_self, Table.get?_eq_none_iff.1 hv, rfl⟩
    | some v =>
      rw [hv] at h
      obtain ⟨n, hn, habsent, he⟩ := ih (Except.map_eq_error_iff.1 h)
      exact ⟨n, List.mem_cons_of_mem _ hn, habsent, he⟩

lemma inputValues_congr {values values' : Table α} {names : List Text}
    (h : ∀ name ∈ names, values.get? name = values'.get? name) :
    inputValues values names = inputValues values' names := by
  induction names with
  | nil => rfl
  | cons name names ih =>
    rw [inputValues, inputValues, h name List.mem_cons_self,
      ih fun n hn => h n (List.mem_cons_of_mem _ hn)]

variable [Supplied α]

/-- What a rule derives depends on the values of its inputs only. -/
lemma apply_congr {rule : Rule} {values values' : Table α}
    (h : ∀ name ∈ rule.inputs, values.get? name = values'.get? name) :
    rule.apply values = rule.apply values' := by
  unfold apply
  rw [inputValues_congr h]

/-- What a rule makes of what its function gives. -/
def accept (rule : Rule) : Product → Except Failure Text
  | .text value => .ok value
  | .other kind => .error (.notText rule.name kind)
  | .refusal cause => .error (.refused cause)

lemma accept_eq_ok_iff {rule : Rule} {product : Product} {value : Text} :
    rule.accept product = .ok value ↔ product = .text value := by
  cases product <;> simp [accept]

lemma accept_ne_unboundInput (rule : Rule) (product : Product) (name : Text) :
    rule.accept product ≠ .error (.unboundInput name) := by
  cases product <;> simp [accept]

/-- A rule reads its inputs, and its function is run on what they hold. -/
lemma apply_eq (rule : Rule) (values : Table α) :
    rule.apply values = (inputValues values rule.inputs).bind fun inputs =>
      rule.accept (rule.compute (inputs.map Supplied.toJson)) := by
  unfold apply
  cases inputValues values rule.inputs with
  | error e => rfl
  | ok inputs =>
    show _ = rule.accept (rule.compute (inputs.map Supplied.toJson))
    cases hc : rule.compute (inputs.map Supplied.toJson) <;>
      simp only [bind, Except.bind, hc] <;> rfl

lemma apply_eq_ok_iff {rule : Rule} {values : Table α} {value : Text} :
    rule.apply values = .ok value ↔
      ∃ inputs : List α, rule.inputs.map values.get? = inputs.map some ∧
        rule.compute (inputs.map Supplied.toJson) = .text value := by
  rw [apply_eq]
  constructor
  · intro h
    obtain ⟨inputs, hread, h⟩ := Except.bind_eq_ok_iff.1 h
    exact ⟨inputs, inputValues_eq_ok_iff.1 hread, accept_eq_ok_iff.1 h⟩
  · rintro ⟨inputs, hread, hcompute⟩
    refine Except.bind_eq_ok_iff.2 ⟨inputs, inputValues_eq_ok_iff.2 hread, ?_⟩
    exact accept_eq_ok_iff.2 hcompute

/-- A rule whose inputs all have values fails when its function gives no text. -/
lemma apply_eq_error_iff {rule : Rule} {values : Table α} {failure : Failure}
    (h : ∀ name ∈ rule.inputs, name ∈ values.keys) :
    rule.apply values = .error failure ↔
      ∃ inputs : List α, rule.inputs.map values.get? = inputs.map some ∧
        rule.accept (rule.compute (inputs.map Supplied.toJson)) = .error failure := by
  rw [apply_eq]
  constructor
  · intro hfail
    rcases Except.bind_eq_error_iff.1 hfail with hread | ⟨inputs, hread, haccept⟩
    · obtain ⟨n, hn, habsent, -⟩ := exists_of_inputValues_eq_error hread
      exact absurd (h n hn) habsent
    · exact ⟨inputs, inputValues_eq_ok_iff.1 hread, haccept⟩
  · rintro ⟨inputs, hread, haccept⟩
    exact Except.bind_eq_error_iff.2 (.inr ⟨inputs, inputValues_eq_ok_iff.2 hread, haccept⟩)

/-- So it does not fail for want of an input. -/
lemma apply_ne_unboundInput {rule : Rule} {values : Table α}
    (h : ∀ name ∈ rule.inputs, name ∈ values.keys) (name : Text) :
    rule.apply values ≠ .error (.unboundInput name) := by
  intro hfail
  obtain ⟨inputs, -, haccept⟩ := (apply_eq_error_iff h).1 hfail
  exact accept_ne_unboundInput rule _ name haccept

end Rule

/-! ## Running the rules -/

namespace Registry

variable [Supplied α] {g : Registry}

lemma derive_cons {name : Text} {rule : Rule} (h : g.find? name = some rule) (values : Table α)
    (names : List Text) :
    g.derive values (name :: names) =
      (rule.apply values).bind fun value =>
        g.derive (values.set name (Supplied.ofText value)) names := by
  rw [derive, h]
  rfl

lemma exists_of_derive_cons {name : Text} {rule : Rule} (h : g.find? name = some rule)
    {values final : Table α} {names : List Text}
    (hd : g.derive values (name :: names) = .ok final) :
    ∃ value, rule.apply values = .ok value ∧
      g.derive (values.set name (Supplied.ofText value)) names = .ok final := by
  rw [derive_cons h] at hd
  exact Except.bind_eq_ok_iff.1 hd

/-- A run changes the values of the names that it is for and of no others. -/
lemma get?_derive_of_not_mem {values final : Table α} {names : List Text}
    (hnames : ∀ name ∈ names, name ∈ g.names) (h : g.derive values names = .ok final) {name : Text}
    (hname : name ∉ names) : final.get? name = values.get? name := by
  induction names generalizing values with
  | nil =>
    cases h
    rfl
  | cons n names ih =>
    obtain ⟨rule, hfind⟩ := exists_find?_of_mem (hnames n List.mem_cons_self)
    obtain ⟨value, -, hrest⟩ := exists_of_derive_cons hfind h
    rw [List.mem_cons, not_or] at hname
    rw [ih (fun m hm => hnames m (List.mem_cons_of_mem _ hm)) hrest hname.2,
      Table.get?_set_of_ne _ _ hname.1]

/-- After a run, every rule that was run derives the value of its name from the values as they
stand then, provided that no rule reads what is derived with it or after it.  The induction is on
the names: what the first rule read is not changed by the others, nor is what it gave. -/
lemma apply_derive {values final : Table α} {names : List Text}
    (hnames : ∀ name ∈ names, name ∈ g.names)
    (hread : ∀ before name behind, names = before ++ name :: behind →
      ∀ input ∈ g.inputs name, input ∉ name :: behind)
    (h : g.derive values names = .ok final) {name : Text} (hname : name ∈ names) {rule : Rule}
    (hfind : g.find? name = some rule) :
    ∃ value, rule.apply final = .ok value ∧ final.get? name = some (Supplied.ofText value) := by
  induction names generalizing values with
  | nil => exact absurd hname List.not_mem_nil
  | cons n names ih =>
    have hrestnames : ∀ m ∈ names, m ∈ g.names := fun m hm => hnames m (List.mem_cons_of_mem _ hm)
    obtain ⟨first, hfirst⟩ := exists_find?_of_mem (hnames n List.mem_cons_self)
    obtain ⟨value, happly, hrest⟩ := exists_of_derive_cons hfirst h
    by_cases hlater : name ∈ names
    · exact ih hrestnames (fun before m behind hsplit =>
        hread (n :: before) m behind (by rw [hsplit, List.cons_append])) hrest hlater
    · obtain rfl : name = n := (List.mem_cons.1 hname).resolve_right hlater
      rw [hfirst] at hfind
      cases hfind
      have hinputs : ∀ input ∈ rule.inputs, final.get? input = values.get? input := by
        intro input hinput
        have hearly : input ∉ name :: names :=
          hread [] name names rfl input (inputs_of_find? hfirst ▸ hinput)
        rw [List.mem_cons, not_or] at hearly
        rw [get?_derive_of_not_mem hrestnames hrest hearly.2, Table.get?_set_of_ne _ _ hearly.1]
      refine ⟨value, ?_, ?_⟩
      · rw [Rule.apply_congr hinputs, happly]
      · rw [get?_derive_of_not_mem hrestnames hrest hlater, Table.get?_set_self]

/-- Registries with the same rules for some names run these in the same way. -/
lemma derive_congr {g' : Registry} {names : List Text} (hnames : ∀ name ∈ names, name ∈ g.names)
    (hfind : ∀ name ∈ names, g.find? name = g'.find? name) (values : Table α) :
    g.derive values names = g'.derive values names := by
  induction names generalizing values with
  | nil => rfl
  | cons n names ih =>
    have hrest : ∀ values : Table α, g.derive values names = g'.derive values names :=
      ih (fun m hm => hnames m (List.mem_cons_of_mem _ hm))
        (fun m hm => hfind m (List.mem_cons_of_mem _ hm))
    obtain ⟨rule, hrule⟩ := exists_find?_of_mem (hnames n List.mem_cons_self)
    have hrule' : g'.find? n = some rule := hfind n List.mem_cons_self ▸ hrule
    rw [derive_cons hrule, derive_cons hrule']
    exact congrArg _ (funext fun value => hrest _)

/-- A run does not notice that values are left out which it neither reads nor replaces. -/
lemma derive_filterKeys {names : List Text} {p : Text → Bool}
    (hnames : ∀ name ∈ names, name ∈ g.names) (hkept : ∀ name ∈ names, p name = true)
    (hread : ∀ name ∈ names, ∀ input ∈ g.inputs name, p input = true) (values : Table α) :
    g.derive (values.filterKeys p) names = (g.derive values names).map (Table.filterKeys · p) := by
  induction names generalizing values with
  | nil => rfl
  | cons n names ih =>
    obtain ⟨rule, hfind⟩ := exists_find?_of_mem (hnames n List.mem_cons_self)
    have hsame : rule.apply (values.filterKeys p) = rule.apply values := by
      apply Rule.apply_congr
      intro input hinput
      have hinput' : input ∈ g.inputs n := inputs_of_find? hfind ▸ hinput
      rw [Table.get?_filterKeys, if_pos (hread n List.mem_cons_self input hinput')]
    rw [derive_cons hfind, derive_cons hfind, hsame]
    cases rule.apply values with
    | error e => rfl
    | ok value =>
      show g.derive ((values.filterKeys p).set n _) names = (g.derive (values.set n _) names).map _
      rw [← Table.filterKeys_set_of_pos (hkept n List.mem_cons_self)]
      exact ih (fun m hm => hnames m (List.mem_cons_of_mem _ hm))
        (fun m hm => hkept m (List.mem_cons_of_mem _ hm))
        (fun m hm => hread m (List.mem_cons_of_mem _ hm)) _

/-- A run succeeds when the values that it should come to are known, and no rule reads what is
derived with it or after it: whatever is not to be derived any more has its value already. -/
lemma exists_derive_of_forall {values : Table α} {names : List Text} {v : Text → Option α}
    (hread : ∀ before name behind, names = before ++ name :: behind →
      ∀ input ∈ g.inputs name, input ∉ name :: behind)
    (hderives : ∀ name ∈ names, ∃ (rule : Rule) (inputs : List α) (value : Text),
      g.find? name = some rule ∧ rule.inputs.map v = inputs.map some ∧
      rule.compute (inputs.map Supplied.toJson) = .text value ∧
      v name = some (Supplied.ofText value))
    (hvalues : ∀ name, name ∉ names → values.get? name = v name) :
    ∃ final, g.derive values names = .ok final := by
  induction names generalizing values with
  | nil => exact ⟨values, rfl⟩
  | cons n names ih =>
    obtain ⟨rule, inputs, value, hfind, hinputs, hcompute, hvalue⟩ := hderives n List.mem_cons_self
    have hsame : rule.inputs.map values.get? = inputs.map some := by
      rw [← hinputs]
      apply List.map_congr_left
      intro input hinput
      exact hvalues input (hread [] n names rfl input (inputs_of_find? hfind ▸ hinput))
    have happly : rule.apply values = .ok value := Rule.apply_eq_ok_iff.2 ⟨inputs, hsame, hcompute⟩
    have hnext : ∀ name, name ∉ names →
        (values.set n (Supplied.ofText value)).get? name = v name := by
      intro name hname
      rw [Table.get?_set]
      split
      · rename_i he
        rw [he, hvalue]
      · rename_i hne
        exact hvalues name fun hm => (List.mem_cons.1 hm).elim hne hname
    obtain ⟨final, hfinal⟩ := ih (fun before m behind hsplit =>
      hread (n :: before) m behind (by rw [hsplit, List.cons_append]))
      (fun m hm => hderives m (List.mem_cons_of_mem _ hm)) hnext
    rw [derive_cons hfind]
    exact ⟨final, Except.bind_eq_ok_iff.2 ⟨value, happly, hfinal⟩⟩

/-- A run does not fail for want of an input when each input is derived before it is read, or had a
value from the start. -/
lemma derive_ne_unboundInput {values : Table α} {names : List Text}
    (hnames : ∀ name ∈ names, name ∈ g.names)
    (hread : ∀ before name behind, names = before ++ name :: behind →
      ∀ input ∈ g.inputs name, input ∈ before ∨ input ∈ values.keys) (name : Text) :
    g.derive values names ≠ .error (.unboundInput name) := by
  induction names generalizing values with
  | nil => exact nofun
  | cons n names ih =>
    obtain ⟨rule, hfind⟩ := exists_find?_of_mem (hnames n List.mem_cons_self)
    have hinputs : ∀ input ∈ rule.inputs, input ∈ values.keys := by
      intro input hinput
      exact (hread [] n names rfl input (inputs_of_find? hfind ▸ hinput)).resolve_left
        List.not_mem_nil
    intro h
    rw [derive_cons hfind] at h
    rcases Except.bind_eq_error_iff.1 h with happly | ⟨value, -, hrest⟩
    · exact Rule.apply_ne_unboundInput hinputs name happly
    refine ih (fun m hm => hnames m (List.mem_cons_of_mem _ hm)) ?_ hrest
    intro before m behind hsplit input hinput
    rw [Table.mem_keys_set_iff]
    rcases hread (n :: before) m behind (by rw [hsplit, List.cons_append]) input hinput with
      hbefore | hvalue
    · rcases List.mem_cons.1 hbefore with rfl | hbefore
      · exact .inr (.inr rfl)
      · exact .inl hbefore
    · exact .inr (.inl hvalue)

end Registry

end Formwork
