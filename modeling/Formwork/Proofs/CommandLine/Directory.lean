import Formwork.Proofs.CommandLine.Origin
import Formwork.Proofs.Output.Written

/-!
# Rendering into a directory

Several outputs, and a single one whose place is a directory, go to files in a directory, under names
that come from the paths of templates or are rendered.  The main statement, `run_into_directory`, has
two parts.  When the command succeeds every output has a path of its own in the directory, each path
leads to a file, which has what the output writes, and beyond these files nothing has changed
(`Delivered`).  When all outputs can be made and two of them have the same name, or a rendered name is
no plain file name, the disk is as before and the command reports a failure.

That names are checked before anything is written is seen from `places`: it gives paths that are all
different (`exists_named_of_placesIn`), or else a trouble that is reported
(`isFailure_of_placesIn`).  A name in the directory leads to the entry of that name, unless it is that
of a link, which may lead anywhere; so `Delivered` says of each file whether it is shared.

There are two ways to miss what is promised.  For a single output the place is looked at first, and
where the system cannot do this, because a name in it is too long, nothing reports it
(`run_into_longDirectory`).  And a codec may hold back the end of a text, so that the file has not all
bytes of its output (`Output.Manner.Whole`).
-/

namespace Formwork.CommandLine

variable {host : Host} {env : Config.Environment} {d e : Disk} {r : RenderRequest}
  {rendered : Rendered} {output : Text} {directory : Path} {values : Table Text}
  {results : List (Job × Scaffold)} {outputs : List (Path × Text)}

/-- The outputs of a command go to files in a directory: there are several of them, or their place is
a directory or written as one. -/
def IntoDirectory (d : Disk) (r : RenderRequest) (output : Text) : Prop :=
  1 < r.templates.length + r.presets.length ∨ d.isDirectory (Path.ofText output) = .ok true ∨
    endsAsDirectory output = true

/-! ## Places -/

/-- The output is that of the result, under its name in the directory. -/
def IsNamed (values : Table Text) (directory : Path) (x : Job × Scaffold) (o : Path × Text) : Prop :=
  ∃ name, x.1.outputFile values = .ok name ∧ o = (directory.join (Path.ofText name), x.2.output)

/-- Places in a directory are chosen for all outputs under their names, and no two are the same. -/
lemma exists_named_of_placesIn {chosen : List (Path × Text)}
    (h : placesIn directory values chosen results = .ok outputs)
    (hdistinct : (chosen.map Prod.fst).Nodup) :
    ∃ made, outputs = chosen ++ made ∧ (outputs.map Prod.fst).Nodup ∧
      List.Forall₂ (IsNamed values directory) results made := by
  induction results generalizing chosen with
  | nil =>
    cases h
    exact ⟨[], (List.append_nil _).symm, hdistinct, .nil⟩
  | cons x results ih =>
    obtain ⟨j, s⟩ := x
    rw [placesIn] at h
    obtain ⟨name, hname, h⟩ := Except.bind_eq_ok_iff.1 h
    dsimp only at h
    split at h
    · cases h
    · rename_i hnew
      have hmore : ((chosen ++ [(directory.join (Path.ofText name), s.output)]).map
          Prod.fst).Nodup := by
        rw [List.map_append, List.nodup_append]
        refine ⟨hdistinct, List.nodup_singleton _, fun p hp q hq he => hnew ?_⟩
        obtain ⟨c, hc, rfl⟩ := List.mem_map.1 hp
        rw [List.any_eq_true]
        refine ⟨c, hc, beq_iff_eq.2 ?_⟩
        rw [he, List.mem_singleton.1 hq]
      obtain ⟨made, rfl, hall, hnamed⟩ := ih h hmore
      exact ⟨_ :: made, by simp, hall, .cons ⟨name, hname, rfl⟩ hnamed⟩

lemma isFailure_of_placesIn {chosen : List (Path × Text)} {t : Trouble}
    (hfrom : ∀ x ∈ results, x.1.From d)
    (h : placesIn directory values chosen results = .error t) : t.IsFailure := by
  induction results generalizing chosen with
  | nil => cases h
  | cons x results ih =>
    obtain ⟨j, s⟩ := x
    rw [placesIn] at h
    rcases Except.bind_eq_error_iff.1 h with hname | ⟨name, -, h⟩
    · exact (hfrom _ List.mem_cons_self).isFailure_of_outputFile hname
    · dsimp only at h
      split at h
      · cases h
        exact ⟨rfl, rfl⟩
      · exact ih (fun x hx => hfrom x (List.mem_cons_of_mem _ hx)) h

/-- Unless the place of a single output cannot be looked at, places are chosen in the directory. -/
lemma places_of_intoDirectory
    (hcount : rendered.results.length = r.templates.length + r.presets.length)
    (h : IntoDirectory d r output) :
    places d output rendered = placesIn (Path.ofText output) rendered.values [] rendered.results ∨
      ∃ cause, rendered.results.length = 1 ∧ d.isDirectory (Path.ofText output) = .error cause ∧
        places d output rendered = .error (.disk cause) := by
  rcases places_cases d output rendered with hunseen | ⟨x, hone, hlook, hend, -⟩ | ⟨-, hin⟩
  · exact .inr hunseen
  · rcases h with hseveral | hdirectory | hends
    · rw [← hcount, hone] at hseveral
      exact absurd hseveral (by simp)
    · cases hlook.symm.trans hdirectory
    · cases hend.symm.trans hends
  · exact .inl hin

/-! ## Files in the directory -/

/-- The output is that of the result, and its path leads to the entry of the directory that has the
name of the result. -/
structure IsPlaced (values : Table Text) (directory : Path) (x : Job × Scaffold) (o : Path × Text) :
    Prop where
  named : x.1.outputFile values = .ok o.1.name
  entry : IsEntry o.1.name
  plain : x.1.preset.isSome = true → '\\' ∉ o.1.name
  path : o.1 = ⟨directory.root, o.1.name :: directory.names⟩
  joined : directory.join (Path.ofText o.1.name) = o.1
  content : o.2 = x.2.output

lemma IsNamed.isPlaced {x : Job × Scaffold} {o : Path × Text} (h : IsNamed values directory x o)
    (hfrom : x.1.From d) : IsPlaced values directory x o := by
  obtain ⟨name, hname, rfl⟩ := h
  obtain ⟨hentry, hplain⟩ := hfrom.isEntry_of_outputFile hname
  rw [Path.join_ofText hentry]
  exact ⟨hname, hentry, hplain, rfl, Path.join_ofText hentry directory, rfl⟩

/-- What a command has left that wrote the outputs of results into a directory.  Each result has a
name, no two the same, by which an entry in the directory is meant; where it is rendered it has no
backslash.  There is the directory, and the path along it and a name leads to a file: the entry of that
name, unless this is a link.  The file has received the output of the result, if no other name leads to
it too.  Where none of these paths leads nothing has changed but that directories were made.  The paths
are announced in the order of the results. -/
structure Delivered (host : Host) (d : Disk) (target : Path) (rendered : Rendered)
    (names : List Text) (left : Run) : Prop where
  distinct : names.Nodup
  named : List.Forall₂ (fun x name => x.1.outputFile rendered.values = .ok name ∧ IsEntry name ∧
    (x.1.preset.isSome = true → '\\' ∉ name)) rendered.results names
  files : ∃ l, left.disk.locate target = .ok l ∧ left.disk.standing l = some .directory ∧
    List.Forall₂ (fun x name => ∃ k bytes,
      left.disk.locate (target.join (Path.ofText name)) = .ok k ∧
      left.disk.standing k = some (.file bytes) ∧
      (d.setting.links (name :: l) = none → k = name :: l) ∧
      ((∀ other ∈ names, other ≠ name →
          left.disk.locate (target.join (Path.ofText other)) ≠ .ok k) →
        (rendered.manner host).Writes x.2.output bytes ∧
          ((rendered.manner host).Whole → (rendered.manner host).Encodes x.2.output bytes)))
      rendered.results names
  elsewhere : ∀ k, (∀ name ∈ names, left.disk.locate (target.join (Path.ofText name)) ≠ .ok k) →
    left.disk.standing k = d.standing k ∨
      d.standing k = none ∧ left.disk.standing k = some .directory
  console : left.console = (warnings rendered ++ names.map fun name =>
    wrote (target.join (Path.ofText name))).map .message

lemma nodup_names_of_placed (h : List.Forall₂ (IsPlaced values directory) results outputs)
    (hdistinct : (outputs.map Prod.fst).Nodup) : (outputs.map fun o => o.1.name).Nodup := by
  have hpath : ∀ o ∈ outputs, o.1 = ⟨directory.root, o.1.name :: directory.names⟩ :=
    Except.forall_of_forall₂ h fun _ _ hx => hx.path
  rw [List.Nodup, List.pairwise_map] at hdistinct ⊢
  refine hdistinct.imp_of_mem fun {o o'} ho ho' hne he => hne ?_
  rw [hpath o ho, hpath o' ho', he]

/-- A written output has a file.  It is looked up in the directory, and so the directory is there. -/
lemma exists_file_of_written {x : Job × Scaffold} {o : Path × Text}
    (hplaced : IsPlaced values directory x o) (hnames : (outputs.map fun o => o.1.name).Nodup)
    (hwritten : Output.Written (rendered.manner host) d outputs e) (ho : o ∈ outputs) :
    ∃ l k bytes, e.locate directory = .ok l ∧ e.standing l = some .directory ∧
      e.locate o.1 = .ok k ∧ e.standing k = some (.file bytes) ∧
      (d.setting.links (o.1.name :: l) = none → k = o.1.name :: l) ∧
      ((∀ other ∈ outputs, other.1.name ≠ o.1.name → e.locate other.1 ≠ .ok k) →
        (rendered.manner host).Writes o.2 bytes) := by
  obtain ⟨n, hn⟩ := List.mem_iff_getElem?.1 ho
  obtain ⟨k, bytes, hk, hfile, hwrites⟩ := hwritten.files n o hn
  have hinward := hplaced.entry.notOutwards
  have hlead := hk
  rw [hplaced.path] at hlead
  obtain ⟨l, hl, hdirectory, hlast⟩ := Disk.exists_parent_of_locate hlead
  refine ⟨l, k, bytes, hl, hdirectory, hk, hfile, fun hplain => ?_, fun hother => hwrites ?_⟩
  · rw [hwritten.later.setting] at hlast
    rw [hlast ((if_neg hinward).trans hplain), Disk.follow_of_ne _ hinward]
  · -- Another output that aims at this location has led there, under another name.
    intro n' o' hn' hne htarget
    obtain ⟨k', _, hk', -⟩ := hwritten.files n' o' hn'
    have hsame := Disk.target_of_locate hk'
    rw [hwritten.later.setting, htarget] at hsame
    cases hsame
    refine hother o' (List.mem_of_getElem? hn') (fun hname => hne ?_) hk'
    have hlength : n' < (outputs.map fun o => o.1.name).length := by
      rw [List.length_map]
      exact (List.getElem?_eq_some_iff.1 hn').1
    refine (List.getElem?_inj hlength hnames).1 ?_
    rw [List.getElem?_map, List.getElem?_map, hn, hn']
    exact congrArg some hname

/-- What is left when outputs that have places in a directory are written. -/
lemma delivered_of_written {target : Path} (hsome : rendered.results ≠ [])
    (hplaced : List.Forall₂ (IsPlaced rendered.values target) rendered.results outputs)
    (hdistinct : (outputs.map Prod.fst).Nodup)
    (hwritten : Output.Written (rendered.manner host) d outputs e) :
    Delivered host d target rendered (outputs.map fun o => o.1.name)
      (.ofSuccess e ((warnings rendered).map .message ++
        (outputs.map Prod.fst).map fun p => .message (wrote p))) := by
  have hnames := nodup_names_of_placed hplaced hdistinct
  have hjoined : ∀ o ∈ outputs, target.join (Path.ofText o.1.name) = o.1 :=
    Except.forall_of_forall₂ hplaced fun _ _ hx => hx.joined
  have hfiles := Except.forall_of_forall₂ hplaced fun x o hx =>
    exists_file_of_written (e := e) hx hnames hwritten
  obtain ⟨o, ho⟩ : ∃ o, o ∈ outputs := by
    refine List.exists_mem_of_ne_nil _ fun hnil => hsome ?_
    rw [hnil] at hplaced
    exact List.forall₂_nil_right_iff.1 hplaced
  obtain ⟨l, -, -, hl, hdirectory, -⟩ := hfiles o ho ho
  refine ⟨hnames, ?_, ⟨l, hl, hdirectory, ?_⟩, fun k hk => ?_, ?_⟩
  · rw [List.forall₂_map_right_iff]
    exact hplaced.imp fun x o hx => ⟨hx.named, hx.entry, hx.plain⟩
  · rw [List.forall₂_map_right_iff]
    have hall : ∀ o ∈ outputs, o ∈ outputs := fun _ => id
    have hboth := ((List.forall₂_and_left _ _).2 ⟨hall, hplaced.flip⟩).flip
    refine hboth.imp fun x o ⟨ho, hx⟩ => ?_
    obtain ⟨l', k, bytes, hl', -, hk, hfile, hplain, hwrites⟩ := hfiles o ho ho
    cases hl.symm.trans hl'
    refine ⟨k, bytes, (congrArg e.locate hx.joined).trans hk, hfile, hplain, fun hother => ?_⟩
    have hreceived := hwrites fun other hmem hne =>
      hjoined other hmem ▸ hother _ (List.mem_map_of_mem hmem) hne
    rw [← hx.content]
    exact ⟨hreceived, hreceived.encodes⟩
  · refine hwritten.elsewhere k fun o ho => ?_
    rw [← hjoined o ho]
    exact hk _ (List.mem_map_of_mem ho)
  · change List.map _ _ ++ List.map _ _ = List.map _ _
    rw [List.map_append, List.map_map, List.map_map, List.map_map]
    congr 1
    refine List.map_congr_left fun o ho => ?_
    change Console.Entry.message (wrote o.1) = .message (wrote (target.join (Path.ofText o.1.name)))
    rw [hjoined o ho]

/-! ## Commands -/

/-- Two results have the same name. -/
def Clash (values : Table Text) (results : List (Job × Scaffold)) : Prop :=
  ∃ (i k : Nat) (x y : Job × Scaffold) (name : Text), i < k ∧ results[i]? = some x ∧
    results[k]? = some y ∧ x.1.outputFile values = .ok name ∧ y.1.outputFile values = .ok name

/-- The name that is rendered for a result is no plain file name. -/
def Misnamed (values : Table Text) (results : List (Job × Scaffold)) : Prop :=
  ∃ x ∈ results, ∃ name, x.1.outputFile values = .error (.name (.notPlain name))

/-- Results with places have names, and no two the same. -/
lemma right_names_of_named (hnamed : List.Forall₂ (IsNamed values directory) results outputs)
    (hdistinct : (outputs.map Prod.fst).Nodup) :
    ¬ Clash values results ∧ ¬ Misnamed values results := by
  have hget : ∀ (n : Nat) (x : Job × Scaffold), results[n]? = some x → ∃ o, outputs[n]? = some o ∧
      IsNamed values directory x o := by
    intro n x hx
    obtain ⟨hn, rfl⟩ := List.getElem?_eq_some_iff.1 hx
    have hn' : n < outputs.length := hnamed.length_eq ▸ hn
    exact ⟨outputs[n], List.getElem?_eq_getElem hn', hnamed.get hn hn'⟩
  constructor
  · rintro ⟨i, k, x, y, name, hik, hx, hy, hname, hname'⟩
    obtain ⟨o, ho, named, hnamed, rfl⟩ := hget i x hx
    obtain ⟨o', ho', named', hnamed', rfl⟩ := hget k y hy
    rw [hname] at hnamed
    cases hnamed
    rw [hname'] at hnamed'
    cases hnamed'
    have hi : i < (outputs.map Prod.fst).length := by
      rw [List.length_map]
      exact (List.getElem?_eq_some_iff.1 ho).1
    refine Nat.ne_of_lt hik ((List.getElem?_inj hi hdistinct).1 ?_)
    rw [List.getElem?_map, List.getElem?_map, ho, ho']
    rfl
  · rintro ⟨x, hx, name, hname⟩
    obtain ⟨n, hn⟩ := List.mem_iff_getElem?.1 hx
    obtain ⟨o, -, named, hnamed, -⟩ := hget n x hn
    rw [hname] at hnamed
    cases hnamed

lemma exists_delivered (hprepare : prepare host env d r = .ok rendered)
    (hdirectory : IntoDirectory d r output)
    (h : (deliver host d ((warnings rendered).map .message) output rendered).outcome =
      .exit Run.success) :
    ∃ names, Delivered host d (Path.ofText output) rendered names
      (deliver host d ((warnings rendered).map .message) output rendered) := by
  obtain ⟨hsome, -, hfrom⟩ := from_of_prepare hprepare
  have hcount := length_results_of_prepare hprepare
  obtain ⟨outputs, e, paths, hchosen, hwrite, hdeliver⟩ := exists_written_of_success h
  have hin : placesIn (Path.ofText output) rendered.values [] rendered.results = .ok outputs := by
    rcases places_of_intoDirectory hcount hdirectory with hin | ⟨cause, -, -, hcause⟩
    · exact hin.symm.trans hchosen
    · rw [hchosen] at hcause
      cases hcause
  obtain ⟨_, rfl, hdistinct, hnamed⟩ := exists_named_of_placesIn hin .nil
  have hplaced := ((List.forall₂_and_left _ _).2 ⟨hfrom, hnamed⟩).imp
    fun x o ⟨hx, ho⟩ => ho.isPlaced hx
  obtain ⟨rfl, hwritten⟩ := Output.written_of_writeBy (host.scheduler.atRest _ _ _) hwrite
  rw [hdeliver]
  exact ⟨_, delivered_of_written hsome hplaced hdistinct hwritten⟩

/-- With wrong names no places are chosen, for a reason that is reported as a failure unless the place
of the only output cannot be looked at. -/
lemma places_of_wrong_names (hprepare : prepare host env d r = .ok rendered)
    (hdirectory : IntoDirectory d r output)
    (h : Clash rendered.values rendered.results ∨ Misnamed rendered.values rendered.results) :
    ∃ t, places d output rendered = .error t ∧
      (1 < r.templates.length + r.presets.length ∨
        (∃ there, d.isDirectory (Path.ofText output) = .ok there) → t.IsFailure) := by
  obtain ⟨-, -, hfrom⟩ := from_of_prepare hprepare
  have hcount := length_results_of_prepare hprepare
  rcases places_of_intoDirectory hcount hdirectory with hin | ⟨cause, hone, hcause, hunseen⟩
  · cases hchosen : placesIn (Path.ofText output) rendered.values [] rendered.results with
    | error t => exact ⟨t, hin.trans hchosen, fun _ => isFailure_of_placesIn hfrom hchosen⟩
    | ok outputs =>
      obtain ⟨_, rfl, hdistinct, hnamed⟩ := exists_named_of_placesIn hchosen .nil
      obtain ⟨hclash, hmisnamed⟩ := right_names_of_named hnamed hdistinct
      rcases h with h | h
      · exact absurd h hclash
      · exact absurd h hmisnamed
  · refine ⟨.disk cause, hunseen, fun hseen => ?_⟩
    rcases hseen with hseveral | ⟨there, hthere⟩
    · omega
    · rw [hthere] at hcause
      cases hcause

/-- **Rendering into a directory stays in the directory and loses nothing.**  When a command succeeds
that has several outputs, or whose place is a directory or written as one, there is a result for each
template and each preset, and each result has a file in the directory (`Delivered`).  When all outputs
can be made, but two have the same name or a rendered name is no plain file name, the disk is as
before, and the command reports a failure, provided that the place of a single output can be looked at
and that the console takes what is escaped. -/
theorem run_into_directory {arguments : List Text}
    (hread : Command.read arguments = some (.render r)) (houtput : nonempty r.output = some output)
    (hdirectory : IntoDirectory d r output) :
    ((run host env d arguments).outcome = .exit Run.success →
      ∃ rendered names, prepare host env d r = .ok rendered ∧
        rendered.results.map (fun x => x.1.label) = r.templates ++ r.presets ∧
        Delivered host d (Path.ofText output) rendered names (run host env d arguments)) ∧
    ∀ rendered, prepare host env d r = .ok rendered →
      Clash rendered.values rendered.results ∨ Misnamed rendered.values rendered.results →
      (run host env d arguments).disk = d ∧
        (1 < r.templates.length + r.presets.length ∨
            (∃ there, d.isDirectory (Path.ofText output) = .ok there) →
          host.TakesEscaped → (run host env d arguments).outcome = .exit Run.failure) := by
  rw [run_of_read hread]
  constructor
  · intro h
    obtain ⟨rendered, hprepare, htakes⟩ := exists_prepare_of_success h
    obtain ⟨-, hlabels, -⟩ := from_of_prepare hprepare
    rw [runRender_of_takes hprepare houtput htakes] at h ⊢
    obtain ⟨names, hdelivered⟩ := exists_delivered hprepare hdirectory h
    exact ⟨rendered, names, hprepare, hlabels, hdelivered⟩
  · intro rendered hprepare hwrong
    obtain ⟨-, -, hfrom⟩ := from_of_prepare hprepare
    obtain ⟨t, hplaces, hfailure⟩ := places_of_wrong_names hprepare hdirectory hwrong
    have hdeliver : ∀ before,
        deliver host d before output rendered = .ofTrouble host d before t := by
      intro before
      unfold deliver
      rw [hplaces]
    refine ⟨(told_runRender_of_output hprepare houtput).disk fun before => ?_, fun hseen htakes => ?_⟩
    · rw [hdeliver]
      exact Run.disk_ofTrouble host d before t
    · rw [runRender_of_takes hprepare houtput (htakes.warnings rendered), hdeliver]
      have hescaped := (failsWith_places hfrom t hplaces : t.Traced []).takes htakes
      exact Run.outcome_ofTrouble_of_isFailure (hfailure hseen) hescaped d _

/-- Two files of the same name in two directories, and another one. -/
def threeTemplates : Disk :=
  { entries := [(["x.txt", "a"], .file [49]), (["a"], .directory), (["x.txt", "b"], .file [50]),
      (["b"], .directory), (["y.txt"], .file [51])] }

def intoOut (templates : List Text) : RenderRequest where
  templates := templates
  presets := []
  derivations := []
  encoding := none
  assignments := []
  valuesFile := none
  output := some "out"
  force := false
  indent := false

set_option maxRecDepth 8000 in
theorem run_into_out :
    (Command.read ["render", "a/x.txt", "y.txt", "-o", "out"] =
        some (.render (intoOut ["a/x.txt", "y.txt"])) ∧
      (run .library .empty threeTemplates ["render", "a/x.txt", "y.txt", "-o", "out"]).outcome =
        .exit Run.success ∧
      ∃ rendered names,
        prepare .library .empty threeTemplates (intoOut ["a/x.txt", "y.txt"]) = .ok rendered ∧
        Delivered .library threeTemplates (Path.ofText "out") rendered names
          (run .library .empty threeTemplates ["render", "a/x.txt", "y.txt", "-o", "out"])) ∧
    Command.read ["render", "a/x.txt", "b/x.txt", "-o", "out"] =
        some (.render (intoOut ["a/x.txt", "b/x.txt"])) ∧
      (∃ rendered, prepare .library .empty threeTemplates (intoOut ["a/x.txt", "b/x.txt"]) = .ok rendered ∧
        Clash rendered.values rendered.results) ∧
      (run .library .empty threeTemplates ["render", "a/x.txt", "b/x.txt", "-o", "out"]).disk =
        threeTemplates ∧
      (run .library .empty threeTemplates ["render", "a/x.txt", "b/x.txt", "-o", "out"]).outcome =
        .exit Run.failure := by
  have hread : Command.read ["render", "a/x.txt", "y.txt", "-o", "out"] =
      some (.render (intoOut ["a/x.txt", "y.txt"])) := by cbv
  have hread' : Command.read ["render", "a/x.txt", "b/x.txt", "-o", "out"] =
      some (.render (intoOut ["a/x.txt", "b/x.txt"])) := by cbv
  have hsuccess : (run .library .empty threeTemplates ["render", "a/x.txt", "y.txt", "-o", "out"]).outcome =
      .exit Run.success := by cbv
  have hnames : (prepare .library .empty threeTemplates (intoOut ["a/x.txt", "b/x.txt"])).map
      (fun x => x.results.map fun y => y.1.outputFile x.values) =
        .ok [.ok "x.txt", .ok "x.txt"] := by cbv
  obtain ⟨rendered', hprepare', hnames⟩ := Except.map_eq_ok_iff.1 hnames
  have hclash : Clash rendered'.values rendered'.results := by
    obtain ⟨x, rest, hresults, hx, hrest⟩ := List.map_eq_cons_iff.1 hnames
    obtain ⟨y, hy, hname⟩ := List.map_eq_singleton_iff.1 hrest
    exact ⟨0, 1, x, y, "x.txt", Nat.zero_lt_one, by rw [hresults]; rfl, by rw [hresults, hy]; rfl,
      hx, hname⟩
  have houtput : nonempty (intoOut ["a/x.txt", "y.txt"]).output = some "out" := rfl
  have houtput' : nonempty (intoOut ["a/x.txt", "b/x.txt"]).output = some "out" := rfl
  obtain ⟨rendered, names, hprepare, -, hdelivered⟩ :=
    (run_into_directory hread houtput (.inl (by decide))).1 hsuccess
  obtain ⟨hunchanged, hfailure⟩ :=
    (run_into_directory hread' houtput' (.inl (by decide))).2 rendered' hprepare' (.inl hclash)
  exact ⟨⟨hread, hsuccess, rendered, names, hprepare, hdelivered⟩, hread',
    ⟨rendered', hprepare', hclash⟩, hunchanged, hfailure (.inl (by decide)) fun _ _ => rfl⟩

/-- A directory whose name is one byte too long. -/
def longDirectory : Text := List.replicate 256 'a' ++ ['/']

def intoLongDirectory : RenderRequest where
  templates := []
  presets := ["react-component"]
  derivations := []
  encoding := none
  assignments := ["component=a/b"]
  valuesFile := none
  output := some longDirectory
  force := false
  indent := false

set_option maxRecDepth 8000 in
/-- A single output with a wrong name is not reported when its directory cannot be looked at: that the
system refuses to look at a name of this length is not among the expected troubles. -/
theorem run_into_longDirectory :
    Command.read ["render", "-p", "react-component", "-s", "component=a/b", "-o", longDirectory] =
        some (.render intoLongDirectory) ∧
      IntoDirectory {} intoLongDirectory longDirectory ∧
      (∃ rendered, prepare .library .empty {} intoLongDirectory = .ok rendered ∧
        Misnamed rendered.values rendered.results) ∧
      (run .library .empty {} ["render", "-p", "react-component", "-s", "component=a/b", "-o",
        longDirectory]).outcome = .crash (.disk ⟨.nameTooLong, Path.ofText longDirectory⟩) := by
  have hread : Command.read ["render", "-p", "react-component", "-s", "component=a/b", "-o",
      longDirectory] = some (.render intoLongDirectory) := by cbv
  have hnames : (prepare .library .empty {} intoLongDirectory).map
      (fun x => x.results.map fun y => y.1.outputFile x.values) =
        .ok [.error (.name (.notPlain "a/b.jsx"))] := by cbv
  obtain ⟨rendered, hprepare, hnames⟩ := Except.map_eq_ok_iff.1 hnames
  obtain ⟨x, hresults, hname⟩ := List.map_eq_singleton_iff.1 hnames
  have hunseen : ({} : Disk).isDirectory (Path.ofText longDirectory) =
      .error ⟨.nameTooLong, Path.ofText longDirectory⟩ := by decide +kernel
  have houtput : nonempty intoLongDirectory.output = some longDirectory := by decide +kernel
  refine ⟨hread, .inr (.inr (by decide +kernel)), ⟨rendered, hprepare, x, ?_, _, hname⟩, ?_⟩
  · rw [hresults]
    exact List.mem_singleton_self x
  · rw [run_of_read hread, runRender_of_takes hprepare houtput fun _ _ => rfl]
    unfold deliver
    rw [places_of_unseen hresults hunseen]
    rfl

end Formwork.CommandLine
