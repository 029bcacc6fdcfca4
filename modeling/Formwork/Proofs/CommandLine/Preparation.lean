import Formwork.Proofs.CommandLine.Telling
import Formwork.Proofs.Disk.Name
import Mathlib.Data.List.Forall2

/-!
# What is known when all outputs are made

Before anything is written all jobs of a command are rendered (`prepare`).  When this succeeds, there
is a result for each template and for each preset, in the order of the arguments
(`prepare_eq_ok_iff`, `from_of_prepare`), and each job comes from a file that is there or from a
preset that comes with the library (`Job.From`).  So a name for an output is that of an entry in a
directory, without backslashes where it is rendered (`Job.From.isEntry_of_outputFile`), and when there
is none the reason is one that is reported as a failure (`Job.From.isFailure_of_outputFile`).  A command
that succeeds has come that far (`exists_prepare_of_success`).
-/

namespace Except

variable {ε α β : Type}

lemma mapM_eq_ok_iff {f : α → Except ε β} {xs : List α} {ys : List β} :
    xs.mapM f = .ok ys ↔ List.Forall₂ (fun x y => f x = .ok y) xs ys := by
  induction xs generalizing ys with
  | nil =>
    rw [List.forall₂_nil_left_iff]
    exact ⟨fun h => (Except.ok.inj h).symm, fun h => h ▸ rfl⟩
  | cons x xs ih =>
    rw [List.mapM_cons, List.forall₂_cons_left_iff]
    constructor
    · intro h
      obtain ⟨y, hy, h⟩ := bind_eq_ok_iff.1 h
      obtain ⟨rest, hrest, h⟩ := bind_eq_ok_iff.1 h
      cases h
      exact ⟨y, rest, hy, ih.1 hrest, rfl⟩
    · rintro ⟨y, rest, hy, hrest, rfl⟩
      exact bind_eq_ok_iff.2 ⟨y, hy, bind_eq_ok_iff.2 ⟨rest, ih.2 hrest, rfl⟩⟩

lemma exists_of_mapM_eq_error {f : α → Except ε β} {xs : List α} {e : ε}
    (h : xs.mapM f = .error e) : ∃ x ∈ xs, f x = .error e := by
  induction xs with
  | nil => cases h
  | cons x xs ih =>
    rw [List.mapM_cons] at h
    rcases bind_eq_error_iff.1 h with h | ⟨y, -, h⟩
    · exact ⟨x, List.mem_cons_self, h⟩
    rcases bind_eq_error_iff.1 h with h | ⟨rest, -, h⟩
    · obtain ⟨x', hx', h⟩ := ih h
      exact ⟨x', List.mem_cons_of_mem _ hx', h⟩
    · cases h

lemma forall_of_forall₂ {r : α → β → Prop} {p : β → Prop} {xs : List α} {ys : List β}
    (h : List.Forall₂ r xs ys) (hp : ∀ x y, r x y → p y) : ∀ y ∈ ys, p y := by
  induction h with
  | nil => exact fun y hy => absurd hy List.not_mem_nil
  | cons hxy _ ih => exact List.forall_mem_cons.2 ⟨hp _ _ hxy, ih⟩

/-- A list leads back to another one when each of its members does. -/
lemma map_eq_of_forall₂ {f : β → α} {xs : List α} {ys : List β}
    (h : List.Forall₂ (fun x y => f y = x) xs ys) : ys.map f = xs := by
  induction h with
  | nil => rfl
  | cons hxy _ ih => rw [List.map_cons, hxy, ih]

end Except

namespace Formwork.CommandLine

variable {host : Host} {d : Disk} {encoding : Text} {given : Table Text} {r : RenderRequest}
  {env : Config.Environment} {rendered : Rendered} {output : Text}

/-! ## Where jobs come from -/

/-- A job is for a file that is there, or for a preset that comes with the library. -/
inductive Job.From (d : Disk) : Job → Prop
  | file {path source : Text} (there : d.isFile (Path.ofText path) = .ok true) :
      From d ⟨path, source, none⟩
  | preset {p : Preset} (bundled : p ∈ Preset.bundled) : From d (ofPreset p)

/-- A template file has a text when its bytes can be read with the codec that is asked for. -/
lemma readTemplate_eq_ok_iff {path source : Text} :
    readTemplate host d encoding path = .ok source ↔
      ∃ bytes codec, d.read (Path.ofText path) = .ok bytes ∧ host.codecs.text encoding = .ok codec ∧
        codec.decodeLines bytes = .ok source := by
  unfold readTemplate
  constructor
  · intro h
    obtain ⟨there, -, h⟩ := Except.bind_eq_ok_iff.1 h
    cases there with
    | false => cases h
    | true =>
      obtain ⟨bytes, hbytes, h⟩ := Except.bind_eq_ok_iff.1 h
      obtain ⟨codec, hcodec, h⟩ := Except.bind_eq_ok_iff.1 h
      exact ⟨bytes, codec, Except.mapError_eq_ok_iff.1 hbytes, Except.mapError_eq_ok_iff.1 hcodec,
        Except.mapError_eq_ok_iff.1 h⟩
  · rintro ⟨bytes, codec, hbytes, hcodec, htext⟩
    obtain ⟨l, hl, -, hfile⟩ := Disk.read_eq_ok_iff.1 hbytes
    have hthere := Disk.isFile_eq_ok_true_iff.2 ⟨l, bytes, hl, hfile⟩
    refine Except.bind_eq_ok_iff.2 ⟨true, Except.mapError_eq_ok_iff.2 hthere, ?_⟩
    refine Except.bind_eq_ok_iff.2 ⟨bytes, Except.mapError_eq_ok_iff.2 hbytes, ?_⟩
    refine Except.bind_eq_ok_iff.2 ⟨codec, Except.mapError_eq_ok_iff.2 hcodec, ?_⟩
    exact Except.mapError_eq_ok_iff.2 htext

lemma isFile_of_readTemplate {path source : Text} (h : readTemplate host d encoding path = .ok source) :
    d.isFile (Path.ofText path) = .ok true := by
  obtain ⟨bytes, codec, hbytes, -⟩ := readTemplate_eq_ok_iff.1 h
  obtain ⟨l, hl, -, hfile⟩ := Disk.read_eq_ok_iff.1 hbytes
  exact Disk.isFile_eq_ok_true_iff.2 ⟨l, bytes, hl, hfile⟩

lemma findPreset_eq_ok {name : Text} {p : Preset} (h : findPreset name = .ok p) :
    p ∈ Preset.bundled ∧ p.name = name := by
  unfold findPreset Preset.ofName at h
  cases hfind : Preset.bundled.find? fun p => p.name == name with
  | none =>
    rw [hfind] at h
    cases h
  | some q =>
    rw [hfind] at h
    cases h
    have hname := List.find?_some hfind
    exact ⟨List.mem_of_find?_eq_some hfind, eq_of_beq hname⟩

/-- The jobs are those of the template files and then those of the presets, and there is at least
one. -/
lemma jobsOf_eq_ok_iff {templates presets : List Text} {jobs : List Job} :
    jobsOf host d encoding templates presets = .ok jobs ↔
      jobs ≠ [] ∧ ∃ files others, jobs = files ++ others ∧
        List.Forall₂ (fun path j => ∃ source, readTemplate host d encoding path = .ok source ∧
          j = ⟨path, source, none⟩) templates files ∧
        List.Forall₂ (fun name j => ∃ p, findPreset name = .ok p ∧ j = Job.ofPreset p)
          presets others := by
  have hfile : ∀ (path : Text) (j : Job),
      (do return (⟨path, ← readTemplate host d encoding path, none⟩ : Job)) = Except.ok j ↔
        ∃ source, readTemplate host d encoding path = .ok source ∧ j = ⟨path, source, none⟩ := by
    intro path j
    rw [Except.bind_eq_ok_iff]
    simp only [pure, Except.pure, Except.ok.injEq, eq_comm]
  have hother : ∀ (name : Text) (j : Job),
      (do return Job.ofPreset (← findPreset name)) = Except.ok j ↔
        ∃ p, findPreset name = .ok p ∧ j = Job.ofPreset p := by
    intro name j
    rw [Except.bind_eq_ok_iff]
    simp only [pure, Except.pure, Except.ok.injEq, eq_comm]
  unfold jobsOf
  constructor
  · intro h
    obtain ⟨files, hfiles, h⟩ := Except.bind_eq_ok_iff.1 h
    obtain ⟨others, hothers, h⟩ := Except.bind_eq_ok_iff.1 h
    dsimp only at h
    split at h
    · cases h
    · rename_i hsome
      cases h
      exact ⟨fun hnil => hsome (by rw [hnil]; rfl), files, others, rfl,
        (Except.mapM_eq_ok_iff.1 hfiles).imp fun path j => (hfile path j).1,
        (Except.mapM_eq_ok_iff.1 hothers).imp fun name j => (hother name j).1⟩
  · rintro ⟨hsome, files, others, rfl, hfiles, hothers⟩
    refine Except.bind_eq_ok_iff.2 ⟨files, Except.mapM_eq_ok_iff.2 (hfiles.imp fun path j =>
      (hfile path j).2), Except.bind_eq_ok_iff.2 ⟨others, Except.mapM_eq_ok_iff.2
        (hothers.imp fun name j => (hother name j).2), ?_⟩⟩
    dsimp only
    rw [if_neg fun hempty => hsome (List.isEmpty_iff.1 hempty)]
    rfl

lemma jobsOf_eq_singleton_iff {templates presets : List Text} {j : Job} :
    jobsOf host d encoding templates presets = .ok [j] ↔
      (∃ path source, templates = [path] ∧ presets = [] ∧
        readTemplate host d encoding path = .ok source ∧ j = ⟨path, source, none⟩) ∨
      ∃ name p, templates = [] ∧ presets = [name] ∧ findPreset name = .ok p ∧ j = .ofPreset p := by
  rw [jobsOf_eq_ok_iff]
  constructor
  · rintro ⟨-, files, others, hjobs, hfiles, hothers⟩
    rcases List.append_eq_singleton_iff.1 hjobs.symm with ⟨rfl, rfl⟩ | ⟨rfl, rfl⟩
    · obtain ⟨name, rest, ⟨p, hp, hj⟩, hnone, rfl⟩ := List.forall₂_cons_right_iff.1 hothers
      rw [List.forall₂_nil_right_iff] at hfiles hnone
      exact .inr ⟨name, p, hfiles, by rw [hnone], hp, hj⟩
    · obtain ⟨path, rest, ⟨source, hsource, hj⟩, hnone, rfl⟩ := List.forall₂_cons_right_iff.1 hfiles
      rw [List.forall₂_nil_right_iff] at hothers hnone
      exact .inl ⟨path, source, by rw [hnone], hothers, hsource, hj⟩
  · rintro (⟨path, source, rfl, rfl, hsource, rfl⟩ | ⟨name, p, rfl, rfl, hp, rfl⟩)
    · exact ⟨by simp, [_], [], rfl, .cons ⟨source, hsource, rfl⟩ .nil, .nil⟩
    · exact ⟨by simp, [], [_], rfl, .nil, .cons ⟨p, hp, rfl⟩ .nil⟩

/-- There are jobs for all arguments, in their order. -/
lemma from_of_jobsOf {templates presets : List Text} {jobs : List Job}
    (h : jobsOf host d encoding templates presets = .ok jobs) :
    jobs ≠ [] ∧ jobs.map Job.label = templates ++ presets ∧ ∀ j ∈ jobs, j.From d := by
  obtain ⟨hsome, files, others, rfl, hfiles, hothers⟩ := jobsOf_eq_ok_iff.1 h
  have hfile : List.Forall₂ (fun path j => j.label = path ∧ j.From d) templates files :=
    hfiles.imp fun path j ⟨source, hsource, hj⟩ =>
      ⟨by rw [hj], hj ▸ .file (isFile_of_readTemplate hsource)⟩
  have hother : List.Forall₂ (fun name j => j.label = name ∧ j.From d) presets others :=
    hothers.imp fun name j ⟨p, hp, hj⟩ =>
      ⟨by rw [hj]; exact (findPreset_eq_ok hp).2, hj ▸ .preset (findPreset_eq_ok hp).1⟩
  have hall := List.rel_append hfile hother
  exact ⟨hsome, Except.map_eq_of_forall₂ (hall.imp fun _ _ h => h.1),
    Except.forall_of_forall₂ hall fun _ _ h => h.2⟩

/-- All outputs are made when the options are good, the arguments stand for jobs, values and rules,
there is a place for several outputs, and each job can be rendered. -/
theorem prepare_eq_ok_iff :
    prepare host env d r = .ok rendered ↔
      configOf host env r.indent r.force r.encoding = .ok rendered.config ∧
      ∃ jobs rules, jobsOf host d rendered.config.encoding r.templates r.presets = .ok jobs ∧
        valuesOf host d r.valuesFile r.assignments = .ok rendered.values ∧
        derivationsOf r.derivations = .ok rules ∧
        (1 < jobs.length → nonempty r.output ≠ none) ∧
        List.Forall₂ (fun j x => x.1 = j ∧
          j.scaffold host rendered.config rendered.values rules = .ok x.2) jobs rendered.results := by
  have hresult : ∀ (config : Config) (values : Table Text) (rules : List Rule) (j : Job)
      (x : Job × Scaffold), (do return (j, ← j.scaffold host config values rules)) = Except.ok x ↔
        x.1 = j ∧ j.scaffold host config values rules = .ok x.2 := by
    intro config values rules j x
    constructor
    · intro h
      obtain ⟨s, hs, h⟩ := Except.bind_eq_ok_iff.1 h
      cases h
      exact ⟨rfl, hs⟩
    · rintro ⟨rfl, hs⟩
      exact Except.bind_eq_ok_iff.2 ⟨x.2, hs, rfl⟩
  unfold prepare
  constructor
  · intro h
    obtain ⟨config, hconfig, h⟩ := Except.bind_eq_ok_iff.1 h
    obtain ⟨jobs, hjobs, h⟩ := Except.bind_eq_ok_iff.1 h
    obtain ⟨values, hvalues, h⟩ := Except.bind_eq_ok_iff.1 h
    obtain ⟨rules, hrules, h⟩ := Except.bind_eq_ok_iff.1 h
    split at h
    · cases h
    rename_i hplace
    obtain ⟨results, hresults, h⟩ := Except.bind_eq_ok_iff.1 h
    cases h
    refine ⟨hconfig, jobs, rules, hjobs, hvalues, hrules, fun hseveral hnone => hplace ?_, ?_⟩
    · simp [hseveral, hnone]
    · exact (Except.mapM_eq_ok_iff.1 hresults).imp fun j x hx => (hresult _ _ _ j x).1 hx
  · rintro ⟨hconfig, jobs, rules, hjobs, hvalues, hrules, hplace, hresults⟩
    refine Except.bind_eq_ok_iff.2 ⟨_, hconfig, Except.bind_eq_ok_iff.2 ⟨jobs, hjobs,
      Except.bind_eq_ok_iff.2 ⟨_, hvalues, Except.bind_eq_ok_iff.2 ⟨rules, hrules, ?_⟩⟩⟩⟩
    split
    · rename_i hmissing
      simp only [Bool.and_eq_true, decide_eq_true_eq, Option.isNone_iff_eq_none] at hmissing
      exact absurd hmissing.2 (hplace hmissing.1)
    · exact Except.bind_eq_ok_iff.2 ⟨rendered.results, Except.mapM_eq_ok_iff.2
        (hresults.imp fun j x hx => (hresult _ _ _ j x).2 hx), rfl⟩

/-- There is a result for each argument, in their order, and each comes from a job. -/
lemma from_of_prepare (h : prepare host env d r = .ok rendered) :
    rendered.results ≠ [] ∧
      rendered.results.map (fun x => x.1.label) = r.templates ++ r.presets ∧
      ∀ x ∈ rendered.results, x.1.From d := by
  obtain ⟨-, jobs, rules, hjobs, -, -, -, hresults⟩ := prepare_eq_ok_iff.1 h
  obtain ⟨hsome, hlabels, hfrom⟩ := from_of_jobsOf hjobs
  have hsame : rendered.results.map Prod.fst = jobs :=
    Except.map_eq_of_forall₂ (hresults.imp fun _ _ hx => hx.1)
  subst hsame
  refine ⟨fun hnil => hsome (by rw [hnil]; rfl), ?_, fun x hx => hfrom _ (List.mem_map_of_mem hx)⟩
  rw [← hlabels, List.map_map]
  rfl

lemma length_results_of_prepare (h : prepare host env d r = .ok rendered) :
    rendered.results.length = r.templates.length + r.presets.length := by
  obtain ⟨-, hlabels, -⟩ := from_of_prepare h
  rw [← List.length_append, ← hlabels, List.length_map]

lemma exists_job_of_prepare (h : prepare host env d r = .ok rendered)
    (hone : r.templates.length + r.presets.length = 1) :
    ∃ j s rules, jobsOf host d rendered.config.encoding r.templates r.presets = .ok [j] ∧
      derivationsOf r.derivations = .ok rules ∧ rendered.results = [(j, s)] ∧
      j.scaffold host rendered.config rendered.values rules = .ok s := by
  obtain ⟨-, jobs, rules, hjobs, -, hrules, -, hresults⟩ := prepare_eq_ok_iff.1 h
  obtain ⟨-, hlabels, -⟩ := from_of_jobsOf hjobs
  have hlength : jobs.length = 1 := by rw [← List.length_map, hlabels, List.length_append, hone]
  obtain ⟨j, rfl⟩ := List.length_eq_one_iff.1 hlength
  obtain ⟨⟨_, s⟩, rest, ⟨rfl, hs⟩, hnone, hresult⟩ := List.forall₂_cons_left_iff.1 hresults
  rw [List.forall₂_nil_left_iff] at hnone
  exact ⟨_, s, rules, hjobs, hrules, by rw [hresult, hnone], hs⟩

/-! ## Runs -/

lemma run_of_read {arguments : List Text} (h : Command.read arguments = some (.render r)) :
    run host env d arguments = runRender host env d r := by
  unfold run
  rw [h]

lemma runRender_of_error {t : Trouble} (h : prepare host env d r = .error t) :
    runRender host env d r = .ofTrouble host d [] t := by
  unfold runRender
  rw [h]

/-- Once all outputs are made, the warnings are told, and the outputs delivered to their places. -/
lemma told_runRender_of_output {output : Text} (h : prepare host env d r = .ok rendered)
    (houtput : nonempty r.output = some output) :
    Run.Told host d [] ((warnings rendered).map .message)
      (fun before => deliver host d before output rendered) (runRender host env d r) := by
  unfold runRender
  rw [h, houtput]
  exact Run.told_telling ..

lemma told_runRender_of_none (h : prepare host env d r = .ok rendered)
    (houtput : nonempty r.output = none) :
    Run.Told host d [] ((warnings rendered).map .message)
      (fun before => .ofOutput host d before
        ((rendered.results.head?.map fun x => x.2.output).getD [])) (runRender host env d r) := by
  unfold runRender
  rw [h, houtput]
  exact Run.told_telling ..

lemma runRender_of_takes {output : Text} (h : prepare host env d r = .ok rendered)
    (houtput : nonempty r.output = some output)
    (htakes : host.Takes ((warnings rendered).map .message)) :
    runRender host env d r =
      deliver host d ((warnings rendered).map .message) output rendered := by
  unfold runRender
  rw [h, houtput]
  exact Run.telling_of_takes htakes ..

lemma runRender_of_none (h : prepare host env d r = .ok rendered) (houtput : nonempty r.output = none)
    (htakes : host.Takes ((warnings rendered).map .message)) :
    runRender host env d r = .ofOutput host d ((warnings rendered).map .message)
      ((rendered.results.head?.map fun x => x.2.output).getD []) := by
  unfold runRender
  rw [h, houtput]
  exact Run.telling_of_takes htakes ..

/-- Outputs are delivered when they have places and are written there, and are announced. -/
lemma exists_written_of_success {before : List Console.Entry} {output : Text}
    (h : (deliver host d before output rendered).outcome = .exit Run.success) :
    ∃ outputs e paths, places d output rendered = .ok outputs ∧
      host.scheduler.write (rendered.manner host) d outputs = (e, .ok paths) ∧
      deliver host d before output rendered =
        .ofSuccess e (before ++ paths.map fun p => .message (wrote p)) := by
  unfold deliver at h ⊢
  cases hplaces : places d output rendered with
  | error t =>
    rw [hplaces] at h
    exact absurd h (Run.outcome_ofTrouble_ne_success host d _ t)
  | ok outputs =>
    rw [hplaces] at h
    dsimp only at h ⊢
    rcases hwrite : host.scheduler.write (rendered.manner host) d outputs with ⟨e, cause | paths⟩
    · rw [hwrite] at h
      exact absurd h (Run.outcome_ofTrouble_ne_success host e _ _)
    · rw [hwrite] at h
      exact ⟨outputs, e, paths, rfl, hwrite, (Run.telling_of_success h).2⟩

/-- What is told of outputs does not change the disk that they have left. -/
lemma disk_deliver {before : List Console.Entry} {output : Text} {outputs : List (Path × Text)}
    (hplaces : places d output rendered = .ok outputs) :
    (deliver host d before output rendered).disk =
      (host.scheduler.write (rendered.manner host) d outputs).1 := by
  unfold deliver
  rw [hplaces]
  dsimp only
  rcases hwrite : host.scheduler.write (rendered.manner host) d outputs with ⟨e, cause | paths⟩
  · exact Run.disk_ofTrouble host e _ _
  · exact Run.disk_telling _ _ _ fun _ => rfl

lemma disk_runInspect (host : Host) (env : Config.Environment) (d : Disk) (q : InspectRequest) :
    (runInspect host env d q).disk = d := by
  unfold runInspect
  split
  · exact Run.disk_ofTrouble host d [] _
  · exact Run.disk_telling _ _ _ fun _ => rfl

lemma disk_ofOutput (host : Host) (d : Disk) (before : List Console.Entry) (text : Text) :
    (Run.ofOutput host d before text).disk = d := by
  unfold Run.ofOutput
  split
  · rfl
  · exact Run.disk_ofTrouble host d _ _

/-- A command leaves the disk alone, unless it comes to deliver outputs to places. -/
lemma disk_or_deliver (host : Host) (env : Config.Environment) (d : Disk) (arguments : List Text) :
    (run host env d arguments).disk = d ∨
      ∃ r output rendered outputs, Command.read arguments = some (.render r) ∧
        nonempty r.output = some output ∧ prepare host env d r = .ok rendered ∧
        places d output rendered = .ok outputs ∧
        run host env d arguments =
          deliver host d ((warnings rendered).map .message) output rendered := by
  unfold run
  cases Command.read arguments with
  | none => exact .inl rfl
  | some command =>
    cases command with
    | help => exact .inl rfl
    | presets => exact .inl (Run.disk_telling _ _ _ fun _ => rfl)
    | inspect q => exact .inl (disk_runInspect host env d q)
    | render r =>
      dsimp only
      cases hprepare : prepare host env d r with
      | error t =>
        rw [runRender_of_error hprepare]
        exact .inl (Run.disk_ofTrouble host d [] t)
      | ok rendered =>
        cases hasked : nonempty r.output with
        | none =>
          have htold := told_runRender_of_none hprepare hasked
          exact .inl (htold.disk fun _ => disk_ofOutput host d _ _)
        | some output =>
          cases hplaces : places d output rendered with
          | error t =>
            have htold := told_runRender_of_output hprepare hasked
            refine .inl (htold.disk fun before => ?_)
            unfold deliver
            rw [hplaces]
            exact Run.disk_ofTrouble host d _ t
          | ok outputs =>
            have htold := told_runRender_of_output hprepare hasked
            generalize runRender host env d r = left at htold ⊢
            cases htold with
            | all => exact .inr ⟨r, output, rendered, outputs, rfl, hasked, hprepare, hplaces, rfl⟩
            | cut => exact .inl (Run.disk_ofTrouble host d _ _)

/-- A command succeeds only when all outputs are made and the console takes the warnings. -/
lemma exists_prepare_of_success (h : (runRender host env d r).outcome = .exit Run.success) :
    ∃ rendered, prepare host env d r = .ok rendered ∧
      host.Takes ((warnings rendered).map .message) := by
  cases hprepare : prepare host env d r with
  | ok rendered =>
    unfold runRender at h
    rw [hprepare] at h
    exact ⟨rendered, rfl, (Run.telling_of_success h).1⟩
  | error t =>
    rw [runRender_of_error hprepare] at h
    exact absurd h (Run.outcome_ofTrouble_ne_success host d [] t)

/-! ## Places -/

/-- Places are chosen in three ways.  The place of a single output may be such that it cannot be looked
at; if it can, a single output goes to that place itself, unless this is a directory or ends as one;
and otherwise outputs go into a directory. -/
lemma places_cases (d : Disk) (output : Text) (rendered : Rendered) :
    (∃ cause, rendered.results.length = 1 ∧ d.isDirectory (Path.ofText output) = .error cause ∧
      places d output rendered = .error (.disk cause)) ∨
    (∃ x, rendered.results = [x] ∧ d.isDirectory (Path.ofText output) = .ok false ∧
      endsAsDirectory output = false ∧
      places d output rendered = .ok [(Path.ofText output, x.2.output)]) ∨
    ((rendered.results.length = 1 → ∃ there, d.isDirectory (Path.ofText output) = .ok there ∧
        (there || endsAsDirectory output) = true) ∧
      places d output rendered =
        placesIn (Path.ofText output) rendered.values [] rendered.results) := by
  unfold places
  dsimp only
  split
  · rename_i j s hone
    rw [hone]
    cases hlook : d.isDirectory (Path.ofText output) with
    | error cause => exact .inl ⟨cause, rfl, rfl, rfl⟩
    | ok there =>
      change _ ∨ (∃ x, _ ∧ _ ∧ _ ∧ (if (there || endsAsDirectory output) = true then _ else _) = _) ∨
        _ ∧ (if (there || endsAsDirectory output) = true then _ else _) = _
      cases hinto : there || endsAsDirectory output with
      | true => exact .inr (.inr ⟨fun _ => ⟨there, rfl, hinto⟩, if_pos rfl⟩)
      | false =>
        obtain ⟨rfl, hend⟩ := Bool.or_eq_false_iff.1 hinto
        exact .inr (.inl ⟨(j, s), rfl, rfl, hend, rfl⟩)
  · rename_i hother
    refine .inr (.inr ⟨fun hlength => ?_, rfl⟩)
    obtain ⟨⟨j, s⟩, hone⟩ := List.length_eq_one_iff.1 hlength
    exact absurd hone (hother j s)

lemma places_of_unseen {x : Job × Scaffold} {cause : Disk.Error} (hone : rendered.results = [x])
    (h : d.isDirectory (Path.ofText output) = .error cause) :
    places d output rendered = .error (.disk cause) := by
  have hlength : rendered.results.length = 1 := by rw [hone]; rfl
  rcases places_cases d output rendered with
    ⟨_, -, hlook, hplaces⟩ | ⟨_, -, hlook, -⟩ | ⟨hthere, -⟩
  · cases h.symm.trans hlook
    exact hplaces
  · cases h.symm.trans hlook
  · obtain ⟨there, hlook, -⟩ := hthere hlength
    cases h.symm.trans hlook

/-! ## Names for outputs -/

namespace Job.From

variable {j : Job}

/-- The name of an output is that of an entry in a directory, and when it is rendered it has no
backslash. -/
lemma isEntry_of_outputFile (h : j.From d) {name : Text} (hname : j.outputFile given = .ok name) :
    IsEntry name ∧ (j.preset.isSome = true → '\\' ∉ name) := by
  cases h with
  | file there =>
    cases hname
    exact ⟨Disk.isEntry_name_of_isFile there, nofun⟩
  | preset bundled =>
    have hplain := Preset.isPlainName_of_outputFile (Except.mapError_eq_ok_iff.1 hname)
    rw [Preset.isPlainName_iff] at hplain
    exact ⟨hplain.1, fun _ => hplain.2⟩

lemma isFailure_of_outputFile (h : j.From d) {t : Trouble}
    (hname : j.outputFile given = .error t) : t.IsFailure := by
  cases h with
  | file => cases hname
  | preset bundled =>
    obtain ⟨fault, hfault, rfl⟩ := Except.mapError_eq_error_iff.1 hname
    exact Preset.isFailure_of_outputFile bundled hfault

end Job.From

end Formwork.CommandLine
