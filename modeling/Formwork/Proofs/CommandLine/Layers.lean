import Formwork.Proofs.CommandLine.Preparation

/-!
# Which value a name has in a run

Values come in three layers: the assignments of the command line, the file of values, and the defaults
of the preset.  The main statement, `run_prints`, says what a command prints that has a single job and
no place for its output: what the engine makes of the job's text, with the rules of the preset and
those of the command line, where each name has its value from the first layer that gives it one
(`HasValue`).  It also says which arguments are taken as assignments, and that nothing is done to their
values (`valuesOf_eq_ok_iff`).

An argument is cut at its first equals sign, so it gives one name one value (`Gives`,
`Gives.unique`).  Arguments are entered one after the other, and a later one for the same name takes
the place of an earlier one.  The invariant of this is `HasValue.cons`: whether the first argument
counts is seen from those behind it.
-/

namespace Formwork.CommandLine

open Text (strip)

variable {host : Host} {d : Disk} {env : Config.Environment} {r : RenderRequest} {file : Option Text}
  {a name value : Text} {arguments : List Text} {loaded base values : Table Text}

/-! ## Single assignments -/

/-- In front of the first equals sign of the argument stands the name, possibly between blanks, and
behind it stands the value. -/
def Gives (a name value : Text) : Prop :=
  ∃ key, a = key ++ '=' :: value ∧ '=' ∉ key ∧ strip key = name

theorem Gives.unique {name' value' : Text} (h : Gives a name value) (h' : Gives a name' value') :
    name = name' ∧ value = value' := by
  obtain ⟨key, ha, hkey, rfl⟩ := h
  obtain ⟨key', ha', hkey', rfl⟩ := h'
  have hcut := Text.cutAt?_eq_some_iff.2 ⟨ha, hkey⟩
  have hcut' := Text.cutAt?_eq_some_iff.2 ⟨ha', hkey'⟩
  cases hcut.symm.trans hcut'
  exact ⟨rfl, rfl⟩

/-- An argument is an assignment when it gives a name that is not blank. -/
lemma readAssignment_eq_ok_iff :
    readAssignment a = .ok (name, value) ↔ Gives a name value ∧ name ≠ [] := by
  unfold readAssignment Gives
  cases hcut : Text.cutAt? '=' a with
  | none =>
    refine ⟨nofun, ?_⟩
    rintro ⟨⟨key, rfl, -⟩, -⟩
    exact absurd (List.mem_append_right key List.mem_cons_self) (Text.cutAt?_eq_none_iff.1 hcut)
  | some cut =>
    obtain ⟨key, behind⟩ := cut
    have hkey := Text.cutAt?_eq_some_iff.1 hcut
    dsimp only
    constructor
    · intro h
      split at h
      · cases h
      · rename_i hname
        cases h
        exact ⟨⟨key, hkey.1, hkey.2, rfl⟩, fun hnil => hname (List.isEmpty_iff.2 hnil)⟩
    · rintro ⟨⟨key', ha, hkey', rfl⟩, hname⟩
      cases hcut.symm.trans (Text.cutAt?_eq_some_iff.2 ⟨ha, hkey'⟩)
      rw [if_neg fun hnil => hname (List.isEmpty_iff.1 hnil)]

/-! ## Layers -/

/-- Which value a name has, if any.  The last assignment that gives it a value counts.  If there is
none the file of values counts, and then the defaults. -/
inductive HasValue (arguments : List Text) (loaded defaults : Table Text) (name : Text) :
    Option Text → Prop
  | assigned {before after : List Text} {a value : Text} (split : arguments = before ++ a :: after)
    (gives : Gives a name value) (last : ∀ b ∈ after, ∀ v, ¬ Gives b name v) :
    HasValue arguments loaded defaults name (some value)
  | loaded {value : Text} (unassigned : ∀ b ∈ arguments, ∀ v, ¬ Gives b name v)
    (entry : loaded.get? name = some value) : HasValue arguments loaded defaults name (some value)
  | default (unassigned : ∀ b ∈ arguments, ∀ v, ¬ Gives b name v)
    (unloaded : loaded.get? name = none) :
    HasValue arguments loaded defaults name (defaults.get? name)

/-- An argument in front of others counts when it is for the name and none of them is. -/
lemma HasValue.cons {n v : Text} {found : Option Text} (hgives : Gives a n v)
    (h : HasValue arguments (loaded.set n v) base name found) :
    HasValue (a :: arguments) loaded base name found := by
  cases h with
  | @assigned before after b v' split gives last =>
    have hsplit : a :: arguments = (a :: before) ++ b :: after := by rw [split, List.cons_append]
    exact .assigned hsplit gives last
  | loaded unassigned entry =>
    by_cases hname : name = n
    · subst hname
      rw [Table.get?_set_self] at entry
      cases entry
      exact .assigned (List.nil_append _).symm hgives unassigned
    · rw [Table.get?_set_of_ne _ _ hname] at entry
      refine .loaded (List.forall_mem_cons.2 ⟨fun v' hv' => ?_, unassigned⟩) entry
      exact hname (hv'.unique hgives).1
  | default unassigned unloaded =>
    have hname : name ≠ n := by
      rintro rfl
      rw [Table.get?_set_self] at unloaded
      cases unloaded
    rw [Table.get?_set_of_ne _ _ hname] at unloaded
    refine .default (List.forall_mem_cons.2 ⟨fun v' hv' => ?_, unassigned⟩) unloaded
    exact hname (hv'.unique hgives).1

/-- Assignments are entered over the file, and both stand over the defaults. -/
lemma hasValue_of_gives {pairs : List (Text × Text)}
    (h : List.Forall₂ (fun a e => Gives a e.1 e.2) arguments pairs) (loaded base : Table Text)
    (name : Text) :
    HasValue arguments loaded base name ((base.merge (loaded.setAll pairs)).get? name) := by
  rw [Table.get?_merge]
  induction h generalizing loaded with
  | nil =>
    change HasValue [] loaded base name ((loaded.get? name).or _)
    cases hentry : loaded.get? name with
    | none => exact .default nofun hentry
    | some value => exact .loaded nofun hentry
  | cons hgives _ ih => exact .cons hgives (ih (loaded.set _ _))

/-! ## The values of a command -/

/-- The file of values that an argument names has these values; when none is named there are none. -/
inductive Loaded (host : Host) (d : Disk) (file : Option Text) : Table Text → Prop
  | file {path : Text} {loaded : Table Text} (named : nonempty file = some path)
    (load : ValuesFile.load host.readers d (Path.ofText path) = .ok loaded) : Loaded host d file loaded
  | none (unnamed : nonempty file = none) : Loaded host d file .empty

/-- Arguments are taken as assignments when each has an equals sign behind a name that is not blank.
Their values are entered as they stand, over those of the file. -/
lemma valuesOf_eq_ok_iff :
    valuesOf host d file arguments = .ok values ↔
      ∃ loaded pairs, Loaded host d file loaded ∧
        List.Forall₂ (fun a e => Gives a e.1 e.2 ∧ e.1 ≠ []) arguments pairs ∧
        values = loaded.setAll pairs := by
  -- Whatever the file gives, the assignments are entered over it.
  have hentered : ∀ x : Except Trouble (Table Text),
      (∀ loaded, x = .ok loaded ↔ Loaded host d file loaded) →
      ((do
        let loaded ← x
        let assigned ← arguments.mapM fun a => (readAssignment a).mapError Trouble.argument
        return loaded.setAll assigned) = Except.ok values ↔
        ∃ loaded pairs, Loaded host d file loaded ∧
          List.Forall₂ (fun a e => Gives a e.1 e.2 ∧ e.1 ≠ []) arguments pairs ∧
          values = loaded.setAll pairs) := by
    intro x hx
    simp only [Except.bind_eq_ok_iff, hx, Except.mapM_eq_ok_iff, Except.mapError_eq_ok_iff,
      ← readAssignment_eq_ok_iff]
    constructor
    · rintro ⟨loaded, hloaded, pairs, hpairs, h⟩
      exact ⟨loaded, pairs, hloaded, hpairs, (Except.ok.inj h).symm⟩
    · rintro ⟨loaded, pairs, hloaded, hpairs, rfl⟩
      exact ⟨loaded, hloaded, pairs, hpairs, rfl⟩
  unfold valuesOf
  cases hfile : nonempty file with
  | none =>
    refine hentered (pure .empty) fun loaded => ⟨fun h => ?_, ?_⟩
    · cases h
      exact .none hfile
    · rintro (⟨hnamed, -⟩ | -)
      · cases hfile.symm.trans hnamed
      · rfl
  | some path =>
    refine hentered _ fun loaded => Except.mapError_eq_ok_iff.trans ⟨.file hfile, ?_⟩
    rintro (⟨hnamed, hload⟩ | hunnamed)
    · cases hfile.symm.trans hnamed
      exact hload
    · cases hfile.symm.trans hunnamed

/-! ## Jobs -/

def Job.defaults (j : Job) : Table Text := (j.preset.map Preset.defaults).getD .empty

/-- The given values of a job stand over its defaults. -/
lemma Job.get?_values (j : Job) (given : Table Text) (name : Text) :
    (j.values given).get? name = (j.defaults.merge given).get? name := by
  unfold Job.values Job.defaults
  cases j.preset with
  | none => rw [Table.get?_merge]; exact (Option.or_none ..).symm
  | some p => exact congrArg (fun t : Table Text => (t.merge given).get? name) p.defaults.map_ofText

/-- The job is for the only template file of a command, with the text that its bytes stand for, or for
its only preset. -/
inductive Job.IsFor (host : Host) (d : Disk) (encoding : Text) (r : RenderRequest) : Job → Prop
  | file {path source : Text} {bytes : Bytes} {codec : Codec} (templates : r.templates = [path])
    (presets : r.presets = []) (read : d.read (Path.ofText path) = .ok bytes)
    (known : host.codecs.text encoding = .ok codec) (decode : codec.decodeLines bytes = .ok source) :
    IsFor host d encoding r ⟨path, source, none⟩
  | preset {p : Preset} (templates : r.templates = []) (presets : r.presets = [p.name])
    (bundled : p ∈ Preset.bundled) : IsFor host d encoding r (ofPreset p)

lemma Job.isFor_of_jobsOf {encoding : Text} {j : Job}
    (h : jobsOf host d encoding r.templates r.presets = .ok [j]) : j.IsFor host d encoding r := by
  rcases jobsOf_eq_singleton_iff.1 h with
    ⟨path, source, htemplates, hpresets, hsource, rfl⟩ | ⟨name, p, htemplates, hpresets, hp, rfl⟩
  · obtain ⟨bytes, e, hbytes, hname, hdecode⟩ := readTemplate_eq_ok_iff.1 hsource
    exact .file htemplates hpresets hbytes hname hdecode
  · obtain ⟨hbundled, rfl⟩ := findPreset_eq_ok hp
    exact .preset htemplates hpresets hbundled

/-! ## Runs that print -/

lemma length_of_prepare {rendered : Rendered} (h : prepare host env d r = .ok rendered)
    (houtput : nonempty r.output = none) : r.templates.length + r.presets.length = 1 := by
  obtain ⟨-, jobs, rules, hjobs, -, -, hplace, -⟩ := prepare_eq_ok_iff.1 h
  obtain ⟨hsome, hlabels, -⟩ := from_of_jobsOf hjobs
  have hlength : jobs.length = r.templates.length + r.presets.length := by
    rw [← List.length_append, ← hlabels, List.length_map]
  have hleast : 0 < jobs.length := List.length_pos_of_ne_nil hsome
  have hmost : ¬ 1 < jobs.length := fun hseveral => hplace hseveral houtput
  omega

/-- **What is printed is the template with each value from its first layer.**  Let a command that
renders succeed without a place for its output.  Then it has a single job, for a template file or a
preset.  What it prints is what the engine makes of the job's text, with the options of the run, the
rules of the preset and behind them those of the command line, and values for the names of which each
is that of the last assignment to the name, or else that of the file of values, or else the default of
the preset.  The disk is as before.  For every list of arguments the values are known beforehand: they
are taken when each has an equals sign behind a name that is not blank, and what stands behind the
first equals sign is the value, whatever it is. -/
theorem run_prints :
    (∀ (host : Host) (env : Config.Environment) (d : Disk) (arguments : List Text) (r : RenderRequest),
      Command.read arguments = some (.render r) → nonempty r.output = none →
      (run host env d arguments).outcome = .exit Run.success →
      ∃ (config : Config) (j : Job) (rules : List Rule) (loaded supplied : Table Text) (s : Scaffold),
        configOf host env r.indent r.force r.encoding = .ok config ∧
        j.IsFor host d config.encoding r ∧
        List.Forall₂ (fun a rule => readDerivation a = .ok rule) r.derivations rules ∧
        Loaded host d r.valuesFile loaded ∧
        (∀ name, HasValue r.assignments loaded j.defaults name (supplied.get? name)) ∧
        ({ config } : Engine).scaffold j.source supplied (.list (j.rules ++ rules)) = .ok s ∧
        (run host env d arguments).stdout = s.output ∧ (run host env d arguments).disk = d) ∧
    ∀ (host : Host) (d : Disk) (file : Option Text) (arguments : List Text) (values : Table Text),
      valuesOf host d file arguments = .ok values ↔
        ∃ loaded pairs, Loaded host d file loaded ∧
          List.Forall₂ (fun a e => Gives a e.1 e.2 ∧ e.1 ≠ []) arguments pairs ∧
          values = loaded.setAll pairs := by
  refine ⟨fun host env d arguments r hread houtput hsuccess => ?_,
    fun host d file arguments values => valuesOf_eq_ok_iff⟩
  rw [run_of_read hread] at hsuccess ⊢
  obtain ⟨rendered, hprepare, htakes⟩ := exists_prepare_of_success hsuccess
  obtain ⟨hconfig, _, _, -, hvalues, -⟩ := prepare_eq_ok_iff.1 hprepare
  obtain ⟨j, s, rules, hjobs, hrules, hone, hscaffold⟩ :=
    exists_job_of_prepare hprepare (length_of_prepare hprepare houtput)
  obtain ⟨loaded, pairs, hloaded, hpairs, hentered⟩ := valuesOf_eq_ok_iff.1 hvalues
  refine ⟨rendered.config, j, rules, loaded, j.values rendered.values, s, hconfig,
    Job.isFor_of_jobsOf hjobs, ?_, hloaded, fun name => ?_, (Job.scaffold_eq_ok_iff.1 hscaffold).2, ?_⟩
  · exact (Except.mapM_eq_ok_iff.1 hrules).imp fun a rule => Except.mapError_eq_ok_iff.1
  · rw [j.get?_values, hentered]
    exact hasValue_of_gives (hpairs.imp fun _ _ h => h.1) loaded j.defaults name
  · rw [runRender_of_none hprepare houtput htakes] at hsuccess ⊢
    rw [Run.ofOutput_of_success hsuccess, hone]
    exact ⟨rfl, rfl⟩

/-- A template with three names, and values for two of them. -/
def twoLayers : Disk :=
  { entries := [
      (["t.txt"], .file (Encoding.encodeUtf8 "\x7b\x7ba\x7d\x7d \x7b\x7bb\x7d\x7d \x7b\x7bc\x7d\x7d")),
      (["v.json"], .file (Encoding.encodeUtf8 "\x7b\"a\": 1, \"b\": true\x7d"))] }

/-- A command line that gives one of the names two values and derives the third name from it. -/
def twoAssignments : List Text :=
  ["render", "t.txt", "-f", "v.json", "-s", "a=x", "-s", " a =y=\x7bz\x7d", "--derive", "c=a:upper"]

def twoAssignmentsRequest : RenderRequest where
  templates := ["t.txt"]
  presets := []
  derivations := ["c=a:upper"]
  encoding := none
  assignments := ["a=x", " a =y=\x7bz\x7d"]
  valuesFile := some "v.json"
  output := none
  force := false
  indent := false

def twoAssignmentsValues : Table Text := .ofList [("a", "y=\x7bz\x7d"), ("b", "true")]

lemma valuesOf_twoAssignments :
    valuesOf .library twoLayers (some "v.json") ["a=x", " a =y=\x7bz\x7d"] = .ok twoAssignmentsValues := by
  have hentries : (ValuesFile.load .library twoLayers (Path.ofText "v.json")).map Table.entries =
      .ok [("a", "1"), ("b", "true")] := by decide +kernel
  obtain ⟨loaded, hload, hloaded⟩ := Except.map_eq_ok_iff.1 hentries
  have hsame : loaded = .ofList [("a", "1"), ("b", "true")] := Table.eq_of_entries hloaded
  refine valuesOf_eq_ok_iff.2 ⟨loaded, [("a", "x"), ("a", "y=\x7bz\x7d")], .file rfl hload, ?_, ?_⟩
  · exact .cons ⟨⟨"a", rfl, by decide, rfl⟩, by decide⟩
      (.cons ⟨⟨" a ", rfl, by decide, rfl⟩, by decide⟩ .nil)
  · rw [hsame]
    exact Table.eq_of_entries rfl

set_option maxRecDepth 8000 in
lemma exists_prepare_twoAssignments :
    ∃ rendered, prepare .library .empty twoLayers twoAssignmentsRequest = .ok rendered ∧
      rendered.results.map (fun x => x.2.output) = [("y=\x7bz\x7d true Y=\x7bZ\x7d" : Text)] := by
  have hconfig : configOf .library .empty false false none = .ok {} := by cbv
  have hjobs : jobsOf .library twoLayers Config.defaultEncoding ["t.txt"] [] =
      .ok [⟨"t.txt", "\x7b\x7ba\x7d\x7d \x7b\x7bb\x7d\x7d \x7b\x7bc\x7d\x7d", none⟩] := by cbv
  have hrules : derivationsOf ["c=a:upper"] = .ok [.ofStyle "c" "a" .upper "upper case of a"] := rfl
  have houtput : (Job.scaffold .library
      ⟨"t.txt", "\x7b\x7ba\x7d\x7d \x7b\x7bb\x7d\x7d \x7b\x7bc\x7d\x7d", none⟩ {}
      twoAssignmentsValues [.ofStyle "c" "a" .upper "upper case of a"]).map Scaffold.output =
        .ok "y=\x7bz\x7d true Y=\x7bZ\x7d" := by cbv
  obtain ⟨s, hs, hsame⟩ := Except.map_eq_ok_iff.1 houtput
  refine ⟨⟨{}, twoAssignmentsValues, [(_, s)]⟩, prepare_eq_ok_iff.2 ⟨hconfig, _, _, hjobs,
    valuesOf_twoAssignments, hrules, by simp, .cons ⟨rfl, hs⟩ .nil⟩, ?_⟩
  rw [List.map_singleton, hsame]

theorem run_prints_last_assignment :
    Command.read twoAssignments = some (.render twoAssignmentsRequest) ∧
    (run .library .empty twoLayers twoAssignments).outcome = .exit Run.success ∧
    (∃ (config : Config) (j : Job) (rules : List Rule) (loaded supplied : Table Text) (s : Scaffold),
      j.IsFor .library twoLayers config.encoding twoAssignmentsRequest ∧
      Loaded .library twoLayers (some "v.json") loaded ∧
      (∀ name, HasValue twoAssignmentsRequest.assignments loaded j.defaults name
        (supplied.get? name)) ∧
      ({ config } : Engine).scaffold j.source supplied (.list (j.rules ++ rules)) = .ok s ∧
      s.output = "y=\x7bz\x7d true Y=\x7bZ\x7d") ∧
    (run .library .empty twoLayers twoAssignments).disk = twoLayers := by
  have hread : Command.read twoAssignments = some (.render twoAssignmentsRequest) := by cbv
  obtain ⟨rendered, hprepare, hresults⟩ := exists_prepare_twoAssignments
  have hrun : run .library .empty twoLayers twoAssignments =
      .ofOutput .library twoLayers ((warnings rendered).map .message)
        "y=\x7bz\x7d true Y=\x7bZ\x7d" := by
    obtain ⟨x, hx, houtput⟩ := List.map_eq_singleton_iff.1 hresults
    rw [run_of_read hread, runRender_of_none hprepare rfl fun _ _ => rfl, hx, ← houtput]
    rfl
  have hsuccess : (run .library .empty twoLayers twoAssignments).outcome = .exit Run.success := by
    rw [hrun]
    rfl
  have hprinted : (run .library .empty twoLayers twoAssignments).stdout = "y=\x7bz\x7d true Y=\x7bZ\x7d" := by
    rw [hrun]
    rfl
  obtain ⟨config, j, rules, loaded, supplied, s, -, hjob, -, hloaded, hvalues, hscaffold, houtput,
    hdisk⟩ := run_prints.1 .library .empty twoLayers twoAssignments _ hread rfl hsuccess
  exact ⟨hread, hsuccess, ⟨config, j, rules, loaded, supplied, s, hjob, hloaded, hvalues, hscaffold,
    houtput.symm.trans hprinted⟩, hdisk⟩

end Formwork.CommandLine
