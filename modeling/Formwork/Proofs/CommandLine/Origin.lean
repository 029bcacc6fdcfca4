import Formwork.Proofs.CommandLine.Preparation
import Formwork.Proofs.Console.Message
import Formwork.Proofs.Template.Printing

/-!
# Where missing values come from

When a run reports that values are missing, each has a name that is mentioned by a template, or that is
read by a rule.  The first is an identifier, and so are the names that the rules of presets read; but
what a rule reads that was described on the command line may be any text (`IsSource`).  So every name
that a trouble lacks is an identifier or such a source (`Trouble.Traced`), and this is shown stage by
stage.  It matters for the hints that follow an error message, since nothing but an identifier is sure
to be the same when it is escaped (`Markup.escape_of_isIdentifier`).
-/

namespace Except

/-! ## Computations that fail in some way only -/

/-- The computation fails only with errors that have a property. -/
def FailsWith {ε α : Type} (p : ε → Prop) (x : Except ε α) : Prop := ∀ e, x = .error e → p e

variable {ε δ α β : Type} {p : ε → Prop}

lemma failsWith_ok (a : α) : FailsWith p (.ok a) := nofun

lemma failsWith_error {e : ε} (h : p e) : FailsWith p (.error e : Except ε α) := by
  rintro _ ⟨⟩
  exact h

lemma FailsWith.bind {x : Except ε α} {f : α → Except ε β} (hx : FailsWith p x)
    (hf : ∀ a, x = .ok a → FailsWith p (f a)) : FailsWith p (x >>= f) := by
  intro e h
  rcases bind_eq_error_iff.1 h with h | ⟨a, ha, h⟩
  · exact hx e h
  · exact hf a ha e h

lemma failsWith_mapError {x : Except δ α} {f : δ → ε} (h : ∀ e, x = .error e → p (f e)) :
    FailsWith p (x.mapError f) := by
  intro _ hx
  obtain ⟨e, he, rfl⟩ := mapError_eq_error_iff.1 hx
  exact h e he

lemma failsWith_mapM {f : α → Except ε β} {xs : List α} (h : ∀ x ∈ xs, FailsWith p (f x)) :
    FailsWith p (xs.mapM f) := by
  intro e hxs
  obtain ⟨x, hx, he⟩ := exists_of_mapM_eq_error hxs
  exact h x hx e he

end Except

namespace Formwork

/-! ## Where missing values come from -/

/-- An identifier needs no escape. -/
lemma Markup.escape_of_isIdentifier {name : Text} (h : isIdentifier name = true) :
    escape name = name := by
  refine escape_of_plain fun c hc => ?_
  have hchar : isNameChar c = true := by
    cases name with
    | nil => exact absurd hc List.not_mem_nil
    | cons d r =>
      rw [isIdentifier, Bool.and_eq_true, List.all_eq_true] at h
      rcases List.mem_cons.1 hc with rfl | hr
      · rw [isNameChar, h.1, Bool.true_or]
      · exact h.2 c hr
  constructor <;> rintro rfl <;> exact absurd hchar (by decide)

/-- A name that the engine misses is an identifier, or an input of one of the rules. -/
lemma Engine.origin_of_missing {α : Type} [Supplied α] {e : Engine} {source : Text}
    {supplied : Table α} {rules : RuleSet} {names : List Text}
    (h : e.scaffold source supplied rules = .error (.missing names)) :
    ∀ name ∈ names, isIdentifier name = true ∨
      ∃ rule, (rule ∈ rules.members ∨ rule ∈ e.rules.rules) ∧ name ∈ rule.inputs := by
  intro name hname
  rcases scaffold_eq_error_iff.1 h with ⟨_, -, he⟩ | ⟨t, ht, ⟨_, -, he⟩ | ⟨own, hown, hresolve⟩⟩
  · cases he
  · cases he
  obtain ⟨-, rfl, -⟩ := Bindings.resolve_eq_missing_iff.1 hresolve
  rcases (Bindings.mem_missing_iff.1 hname).asked with hmentioned | ⟨n, -, hinput⟩
  · obtain ⟨part, hpart, hpartName⟩ := List.mem_filterMap.1 hmentioned
    exact .inl ((Template.normal_of_parse ht).identifier part hpart name hpartName)
  · obtain ⟨rule, hfind⟩ := Registry.exists_find?_of_mem (Registry.mem_names_of_mem_inputs hinput)
    rw [Registry.inputs_of_find? hfind] at hinput
    refine .inr ⟨rule, ?_, hinput⟩
    rcases Registry.mem_rules_merge_iff.1 (Registry.find?_eq_some_iff.1 hfind).1 with hnew | ⟨hold, -⟩
    · exact .inl (RuleSet.rules_registry hown ▸ hnew)
    · exact .inr hold

/-- The rules of the presets that come with the library read identifiers. -/
lemma Preset.isIdentifier_of_mem_inputs {p : Preset} (hp : p ∈ bundled) {rule : Rule}
    (hrule : rule ∈ p.rules) {name : Text} (hname : name ∈ rule.inputs) : isIdentifier name = true := by
  unfold bundled at hp
  rw [List.mem_singleton] at hp
  subst hp
  obtain rfl : rule = _ := List.mem_singleton.1 hrule
  obtain rfl : name = _ := List.mem_singleton.1 hname
  decide

namespace CommandLine

open Except (FailsWith failsWith_ok failsWith_error failsWith_mapError failsWith_mapM)

variable {host : Host} {env : Config.Environment} {d : Disk} {r : RenderRequest} {rendered : Rendered}
  {output : Text} {t : Trouble} {j : Job} {config : Config} {given : Table Text} {rules : List Rule}
  {described : List Text}

/-- The name is read by a rule that one of the arguments describes. -/
def IsSource (described : List Text) (name : Text) : Prop :=
  ∃ a ∈ described, ∃ rule, readDerivation a = .ok rule ∧ name ∈ rule.inputs

/-- The missing names are identifiers or sources. -/
def Trouble.Traced (described : List Text) (t : Trouble) : Prop :=
  ∀ name ∈ t.missing, isIdentifier name = true ∨ IsSource described name

lemma Trouble.traced_of_missing_eq_nil (h : t.missing = []) : t.Traced described := by
  intro name hname
  rw [h] at hname
  cases hname

/-- The console takes all messages that are escaped. -/
def Host.TakesEscaped (host : Host) : Prop :=
  ∀ m : Console.Message, m.markup = m.escaped → host.refuses (.message m) = none

lemma Host.TakesEscaped.warnings (h : host.TakesEscaped) (rendered : Rendered) :
    host.Takes ((warnings rendered).map .message) := by
  rintro _ he
  obtain ⟨m, hm, rfl⟩ := List.mem_map.1 he
  obtain ⟨text, -, rfl⟩ := List.mem_map.1 hm
  exact h _ rfl

/-- Unless a source is missing, all that is told of a trouble is escaped. -/
lemma Trouble.Traced.takes (h : t.Traced []) (hhost : host.TakesEscaped) :
    host.Takes ((Run.troubleMessages t).map .message) := by
  rintro _ he
  obtain ⟨m, hm, rfl⟩ := List.mem_map.1 he
  refine hhost m (m.markup_eq_escaped ?_)
  rintro name rfl
  rcases List.mem_cons.1 hm with hm | hm
  · cases hm
  obtain ⟨_, hname, hm⟩ := List.mem_map.1 hm
  cases hm
  rcases h name hname with hidentifier | ⟨a, ha, -⟩
  · exact Markup.escape_of_isIdentifier hidentifier
  · cases ha

/-- Causes of other kinds are traced, since nothing is missing. -/
lemma failsWith_cause {δ α : Type} {x : Except δ α} {f : δ → Trouble}
    (h : ∀ cause, (f cause).missing = []) : FailsWith (Trouble.Traced described) (x.mapError f) :=
  failsWith_mapError fun cause _ => Trouble.traced_of_missing_eq_nil (h cause)

lemma failsWith_trouble {α : Type} (h : t.missing = []) :
    FailsWith (Trouble.Traced described) (.error t : Except Trouble α) :=
  failsWith_error (Trouble.traced_of_missing_eq_nil h)

lemma failsWith_configOf {indent force : Bool} {asked : Option Text} :
    FailsWith (Trouble.Traced described) (configOf host env indent force asked) := by
  unfold configOf
  exact (failsWith_cause fun _ => rfl).bind fun _ _ => failsWith_cause fun _ => rfl

lemma failsWith_readTemplate {encoding path : Text} :
    FailsWith (Trouble.Traced described) (readTemplate host d encoding path) := by
  unfold readTemplate
  refine (failsWith_cause fun _ => rfl).bind fun there _ => ?_
  split
  · exact (failsWith_cause fun _ => rfl).bind fun _ _ => (failsWith_cause fun _ => rfl).bind
      fun _ _ => failsWith_cause fun _ => rfl
  · exact failsWith_trouble rfl

lemma failsWith_findPreset {name : Text} :
    FailsWith (Trouble.Traced described) (findPreset name) :=
  failsWith_cause fun _ => rfl

lemma failsWith_jobsOf {encoding : Text} {templates presets : List Text} :
    FailsWith (Trouble.Traced described) (jobsOf host d encoding templates presets) := by
  unfold jobsOf
  refine (failsWith_mapM fun path _ => ?_).bind fun files _ =>
    (failsWith_mapM fun name _ => ?_).bind fun others _ => ?_
  · exact failsWith_readTemplate.bind fun _ _ => failsWith_ok _
  · exact failsWith_findPreset.bind fun _ _ => failsWith_ok _
  · dsimp only
    split
    · exact failsWith_trouble rfl
    · exact failsWith_ok _

lemma failsWith_valuesOf {file : Option Text} {assignments : List Text} :
    FailsWith (Trouble.Traced described) (valuesOf host d file assignments) := by
  have hassigned : ∀ loaded : Table Text, FailsWith (Trouble.Traced described) (do
      let assigned ← assignments.mapM fun a => (readAssignment a).mapError Trouble.argument
      return loaded.setAll assigned) := fun loaded =>
    (failsWith_mapM fun _ _ => failsWith_cause fun _ => rfl).bind fun _ _ => failsWith_ok _
  unfold valuesOf
  dsimp only
  split
  · exact (failsWith_cause fun _ => rfl).bind fun loaded _ => hassigned loaded
  · exact hassigned .empty

lemma failsWith_derivationsOf {arguments : List Text} :
    FailsWith (Trouble.Traced described) (derivationsOf arguments) :=
  failsWith_mapM fun _ _ => failsWith_cause fun _ => rfl

/-- The rules that arguments describe read sources. -/
lemma isSource_of_derivationsOf (h : derivationsOf described = .ok rules) :
    ∀ rule ∈ rules, ∀ name ∈ rule.inputs, IsSource described name := by
  have hread := (List.forall₂_and_left _ _).2
    ⟨fun a (ha : a ∈ described) => ha, Except.mapM_eq_ok_iff.1 h⟩
  refine Except.forall_of_forall₂ hread fun a rule ⟨ha, hrule⟩ name hname => ?_
  exact ⟨a, ha, rule, Except.mapError_eq_ok_iff.1 hrule, hname⟩

lemma Job.From.isIdentifier_of_mem_inputs (h : j.From d) {rule : Rule} (hrule : rule ∈ j.rules)
    {name : Text} (hname : name ∈ rule.inputs) : isIdentifier name = true := by
  cases h with
  | file => cases hrule
  | preset bundled => exact Preset.isIdentifier_of_mem_inputs bundled hrule hname

/-- What a job lacks is mentioned by its template, or read by its preset's rules or by a described
one. -/
lemma failsWith_scaffold (hfrom : j.From d) (hrules : derivationsOf described = .ok rules) :
    FailsWith (Trouble.Traced described) (j.scaffold host config given rules) := by
  unfold Job.scaffold
  dsimp only
  split
  · exact failsWith_trouble rfl
  refine failsWith_mapError fun fault hfault => ?_
  cases fault with
  | missing names =>
    intro name hname
    rcases Engine.origin_of_missing hfault name hname with hname | ⟨rule, hrule | hnone, hinput⟩
    · exact .inl hname
    · rcases List.mem_append.1 hrule with hown | hdescribed
      · exact .inl (hfrom.isIdentifier_of_mem_inputs hown hinput)
      · exact .inr (isSource_of_derivationsOf hrules rule hdescribed name hinput)
    · exact absurd hnone List.not_mem_nil
  | malformed | conflict | cyclic | rule | notTexts | unbound =>
    exact Trouble.traced_of_missing_eq_nil rfl

/-- What the name of an output lacks is mentioned by its template or read by the preset's rules. -/
lemma Job.From.failsWith_outputFile (hfrom : j.From d) :
    FailsWith (Trouble.Traced described) (j.outputFile given) := by
  cases hfrom with
  | file => exact failsWith_ok _
  | @preset p bundled =>
    refine failsWith_mapError fun fault hfault => ?_
    cases fault with
    | notPlain name => exact Trouble.traced_of_missing_eq_nil rfl
    | fault cause =>
      cases cause with
      | missing names =>
        rcases Preset.fault_of_outputFile hfault with ⟨_, he⟩ | ⟨e, hrules, hscaffold⟩
        · cases he
        intro name hname
        left
        rcases Engine.origin_of_missing hscaffold name hname with hname | ⟨rule, hnone | hrule, hinput⟩
        · exact hname
        · exact absurd hnone List.not_mem_nil
        · exact Preset.isIdentifier_of_mem_inputs bundled (hrules ▸ hrule) hinput
      | malformed | conflict | cyclic | rule | notTexts | unbound =>
        exact Trouble.traced_of_missing_eq_nil rfl

lemma failsWith_prepare : FailsWith (Trouble.Traced r.derivations) (prepare host env d r) := by
  unfold prepare
  refine failsWith_configOf.bind fun config _ => failsWith_jobsOf.bind fun jobs hjobs =>
    failsWith_valuesOf.bind fun values _ => failsWith_derivationsOf.bind fun rules hrules => ?_
  obtain ⟨-, -, hfrom⟩ := from_of_jobsOf hjobs
  split
  · exact failsWith_trouble rfl
  · refine (failsWith_mapM fun j hj => ?_).bind fun _ _ => failsWith_ok _
    exact (failsWith_scaffold (hfrom j hj) hrules).bind fun _ _ => failsWith_ok _

lemma failsWith_placesIn {directory : Path} {values : Table Text} {results : List (Job × Scaffold)}
    (hfrom : ∀ x ∈ results, x.1.From d) (chosen : List (Path × Text)) :
    FailsWith (Trouble.Traced described) (placesIn directory values chosen results) := by
  induction results generalizing chosen with
  | nil => exact failsWith_ok _
  | cons x results ih =>
    obtain ⟨j, s⟩ := x
    rw [placesIn]
    refine (hfrom _ List.mem_cons_self).failsWith_outputFile.bind fun name _ => ?_
    dsimp only
    split
    · exact failsWith_trouble rfl
    · exact ih (fun x hx => hfrom x (List.mem_cons_of_mem _ hx)) _

lemma failsWith_places (hfrom : ∀ x ∈ rendered.results, x.1.From d) :
    FailsWith (Trouble.Traced described) (places d output rendered) := by
  rcases places_cases d output rendered with
    ⟨error, -, -, hplaces⟩ | ⟨x, -, -, -, hplaces⟩ | ⟨-, hplaces⟩
  · rw [hplaces]
    exact failsWith_trouble rfl
  · rw [hplaces]
    exact failsWith_ok _
  · rw [hplaces]
    exact failsWith_placesIn hfrom []

lemma failsWith_inspect {q : InspectRequest} :
    FailsWith (Trouble.Traced described) (inspect host env d q) := by
  unfold inspect
  refine failsWith_configOf.bind fun config _ => FailsWith.bind ?_ fun source _ => ?_
  · unfold templateOf
    split
    · exact failsWith_trouble rfl
    · exact failsWith_findPreset.bind fun _ _ => failsWith_ok _
    · exact failsWith_readTemplate.bind fun _ _ => failsWith_ok _
    · exact failsWith_trouble rfl
  · refine (failsWith_cause fun _ => rfl).bind fun t _ => ?_
    exact failsWith_derivationsOf.bind fun _ _ => failsWith_ok _

end CommandLine

end Formwork
