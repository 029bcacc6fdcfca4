import Formwork.Proofs.CommandLine.Outcome

/-!
# What a failed command has done

A command that fails should leave the files alone that are there (`Spared`).  It does, but for three
cases (`Exposed`), all of which come about while outputs are written or after that.  When files may be
replaced, they are emptied before it is known whether the output that takes their place can be written
(`run_unencodable`).  When they have been replaced, the console may not take the announcement.  And when
they may not be replaced, the check that nothing is in the way misses a file that is reached through a
directory which is only made afterwards: its path leads outwards from there.

The main statement is `run_failure`.  It also says how far the damage goes: only the files at the places
of outputs are affected, and each is still there, either empty or with all that an output writes.  That
no other failure does harm comes from the order of things.  Everything else that can go wrong is found
before anything is written, or where the directory of the outputs is provided, which then goes wrong for
all of them (`Output.writeBy_failed`).  It is asked of the disk that everything on it lies in
directories, which is so after any command if it was so before (`rooted_run`).
-/

namespace Formwork

namespace CommandLine

variable {host : Host} {d e : Disk} {env : Config.Environment} {r : RenderRequest}
  {rendered : Rendered} {output : Text} {outputs : List (Path × Text)} {arguments : List Text}
  {before : List Console.Entry}

/-- Files are in danger at the places of outputs: they may be replaced, and one of the outputs cannot be
written or announced; or they may not, and the place leads outwards. -/
def Exposed (host : Host) (d : Disk) (rendered : Rendered) (output : Text)
    (outputs : List (Path × Text)) : Prop :=
  (rendered.manner host).replace = true ∧
      ((∃ o ∈ outputs, Output.Unwritable (rendered.manner host) d o) ∨
        ∃ o ∈ outputs, ∃ cause, host.refuses (.message (wrote o.1)) = some cause) ∨
    (rendered.manner host).replace = false ∧ Disk.outwards ∈ (Path.ofText output).names

/-- The command came to write outputs while files were in danger at their places, and it has left there
what it had come to. -/
inductive Damaged (host : Host) (env : Config.Environment) (d : Disk) (r : RenderRequest)
    (left : Disk) : Prop
  | intro {output : Text} {rendered : Rendered} {outputs : List (Path × Text)}
    (asked : nonempty r.output = some output) (made : prepare host env d r = .ok rendered)
    (chosen : places d output rendered = .ok outputs)
    (started : Output.refusal? (rendered.manner host) d outputs = none)
    (exposed : Exposed host d rendered output outputs)
    (altered : Output.Altered (rendered.manner host) d outputs left)

theorem rooted_run (hrooted : d.Rooted) (host : Host) (env : Config.Environment)
    (arguments : List Text) : (run host env d arguments).disk.Rooted := by
  rcases disk_or_deliver host env d arguments with
    hsame | ⟨r, output, rendered, outputs, -, -, -, hplaces, hrun⟩
  · rw [hsame]
    exact hrooted
  · rw [hrun, disk_deliver hplaces]
    exact (Output.later_writeBy _ _ d outputs).rooted hrooted

/-- Errors about missing and present files and impossible paths are those that are reported. -/
lemma not_isExpectedOnDisk_of_unforeseen {cause : Disk.Cause} (h : cause.Unforeseen) :
    Trouble.isExpectedOnDisk cause = false := by
  obtain ⟨habsent, hpresent, hnull⟩ := h
  cases cause with
  | absent => exact absurd rfl habsent
  | present => exact absurd rfl hpresent
  | nullCharacter => exact absurd rfl hnull
  | notDirectory | isDirectory | nameTooLong | tooManyLinks | refused => rfl

lemma spared_of_kept (hrooted : d.Rooted) (hprepare : prepare host env d r = .ok rendered)
    (hplaces : places d output rendered = .ok outputs)
    (hkept : (rendered.manner host).replace = false) :
    d.Spared (host.scheduler.write (rendered.manner host) d outputs).1 ∨
      Exposed host d rendered output outputs := by
  obtain ⟨-, -, hfrom⟩ := from_of_prepare hprepare
  obtain ⟨q, hq⟩ := exists_parent_of_places hfrom hplaces
  by_cases houtwards : Disk.outwards ∈ (Path.ofText output).names
  · exact .inr (.inr ⟨hkept, houtwards⟩)
  · exact .inl (Output.spared_of_writeBy hrooted hkept (fun o ho => (hq o ho).1)
      fun o ho hin => houtwards ((hq o ho).2 hin))

/-- What has been done when outputs could not be written and this was reported. -/
lemma spared_or_exposed_of_write {cause : Output.Fault} (hrooted : d.Rooted)
    (hprepare : prepare host env d r = .ok rendered) (hplaces : places d output rendered = .ok outputs)
    (hstarted : Output.refusal? (rendered.manner host) d outputs = none)
    (h : host.scheduler.write (rendered.manner host) d outputs = (e, .error cause))
    (hreported : (Trouble.output cause).isReported = true) :
    d.Spared e ∨ Exposed host d rendered output outputs := by
  obtain ⟨-, -, hfrom⟩ := from_of_prepare hprepare
  obtain ⟨q, hq⟩ := exists_parent_of_places hfrom hplaces
  have hparents : ∀ o ∈ outputs, o.1.parent = q := fun o ho => (hq o ho).1
  cases hreplace : (rendered.manner host).replace with
  | true =>
    rcases Output.writeBy_failed hparents hstarted h with
      hgrown | hunwritable | ⟨hkept, -⟩ | ⟨error, rfl, hcause⟩ | ⟨name, rfl⟩
    · exact .inl hgrown.spared
    · exact .inr (.inl ⟨hreplace, .inl hunwritable⟩)
    · cases hreplace.symm.trans hkept
    · cases hreported.symm.trans (not_isExpectedOnDisk_of_unforeseen hcause)
    · have hknown := exists_codec_of_configOf (prepare_eq_ok_iff.1 hprepare).1
      obtain ⟨rfl, -⟩ := text_eq_error_of_known hknown (Output.writeBy_eq_encoding h)
      cases hreported
  | false =>
    have hspared := spared_of_kept hrooted hprepare hplaces hreplace
    rw [h] at hspared
    exact hspared

lemma isReported_of_failure {t : Trouble}
    (h : (Run.ofTrouble host d before t).outcome = .exit Run.failure) : t.isReported = true := by
  have hreported := Run.reported_ofTrouble host d before t
  generalize Run.ofTrouble host d before t = left at hreported h
  cases hreported with
  | silent | cut => cases h
  | whole reported => exact reported

lemma spared_or_exposed_of_deliver (hrooted : d.Rooted)
    (hprepare : prepare host env d r = .ok rendered) (hplaces : places d output rendered = .ok outputs)
    (hstarted : Output.refusal? (rendered.manner host) d outputs = none)
    (h : (deliver host d before output rendered).outcome = .exit Run.failure) :
    d.Spared (deliver host d before output rendered).disk ∨
      Exposed host d rendered output outputs := by
  rw [disk_deliver hplaces]
  unfold deliver at h
  rw [hplaces] at h
  dsimp only at h
  rcases hwrite : host.scheduler.write (rendered.manner host) d outputs with ⟨e, cause | paths⟩
  · rw [hwrite] at h
    exact spared_or_exposed_of_write hrooted hprepare hplaces hstarted hwrite
      (isReported_of_failure h)
  · -- All outputs have been written, and one could not be announced.
    rw [hwrite] at h
    dsimp only at h
    have htold := Run.told_telling host e before (paths.map fun p => .message (wrote p))
      (.ofSuccess e)
    generalize Run.telling host e before (paths.map fun p => .message (wrote p)) (.ofSuccess e) = left
      at htold h
    cases htold with
    | all => cases h
    | @cut told behind entry error split refused =>
      obtain ⟨rfl, -⟩ := Output.written_of_writeBy (host.scheduler.atRest _ _ _) hwrite
      have hentry : entry ∈ (outputs.map Prod.fst).map fun p => Console.Entry.message (wrote p) :=
        split ▸ List.mem_append_right told List.mem_cons_self
      rw [List.map_map] at hentry
      obtain ⟨o, ho, rfl⟩ := List.mem_map.1 hentry
      cases hreplace : (rendered.manner host).replace with
      | true => exact .inr (.inl ⟨hreplace, .inr ⟨o, ho, error, refused⟩⟩)
      | false =>
        have hspared := spared_of_kept hrooted hprepare hplaces hreplace
        rw [hwrite] at hspared
        exact hspared

lemma spared_or_damaged_of_deliver (hrooted : d.Rooted) (hasked : nonempty r.output = some output)
    (hprepare : prepare host env d r = .ok rendered) (hplaces : places d output rendered = .ok outputs)
    (h : (deliver host d before output rendered).outcome = .exit Run.failure) :
    d.Spared (deliver host d before output rendered).disk ∨
      Damaged host env d r (deliver host d before output rendered).disk := by
  cases hstarted : Output.refusal? (rendered.manner host) d outputs with
  | some refusal =>
    left
    rw [disk_deliver hplaces]
    unfold Output.Scheduler.write
    rw [Output.writeBy_of_refusal hstarted]
    exact .refl d
  | none =>
    refine (spared_or_exposed_of_deliver hrooted hprepare hplaces hstarted h).imp_right
      fun hexposed => ⟨hasked, hprepare, hplaces, hstarted, hexposed, ?_⟩
    rw [disk_deliver hplaces]
    exact Output.altered_writeBy _ _ d outputs

/-- **A failed command spares the files that are there, unless it may replace them or its place leads
outwards.**  When a command ends with the exit code of failure, on a disk where everything lies in
directories, every file has the bytes that it had before.  There are exceptions, all after the
outputs have been made, their places chosen, and none of the places found to be taken.  Files may be
replaced, and an output has a text that is not written, a name that is none, or a path that is a link to
nowhere, or else the console does not take its announcement.  Or files may not be replaced, but the given
place leads outwards.  Even then only files at the places of outputs are affected, and each is still a
file, empty or with all that an output writes. -/
theorem run_failure (hrooted : d.Rooted)
    (h : (run host env d arguments).outcome = .exit Run.failure) :
    d.Spared (run host env d arguments).disk ∨
      ∃ r, Command.read arguments = some (.render r) ∧
        Damaged host env d r (run host env d arguments).disk := by
  rcases disk_or_deliver host env d arguments with
    hsame | ⟨r, output, rendered, outputs, hread, hasked, hprepare, hplaces, hrun⟩
  · left
    rw [hsame]
    exact .refl d
  · rw [hrun] at h ⊢
    exact (spared_or_damaged_of_deliver hrooted hasked hprepare hplaces h).imp_right
      fun hdamaged => ⟨r, hread, hdamaged⟩

def besideFile : Disk :=
  { entries :=
      [(["t.txt"], .file [123, 123, 120, 125, 125]), (["out.txt"], .file [107, 101, 101, 112])] }

lemma rooted_besideFile : besideFile.Rooted := by
  refine Disk.rooted_of_entries ?_ fun _ => rfl
  have hway : ∀ n, besideFile.Way [n] := fun n =>
    Disk.way_cons_iff.2 ⟨rfl, Disk.way_of_isGiven rfl⟩
  exact List.forall_mem_cons.2 ⟨hway _, List.forall_mem_singleton.2 (hway _)⟩

/-- A request to render a template over that file, with a value that the encoding has no bytes for. -/
def overFile (template : Text) : RenderRequest where
  templates := [template]
  presets := []
  derivations := []
  encoding := some "ascii"
  assignments := ["x=é"]
  valuesFile := none
  output := some "out.txt"
  force := true
  indent := false

theorem run_failure_of_missing_template :
    besideFile.Rooted ∧
    Command.read ["render", "u.txt", "-s", "x=é", "-o", "out.txt", "--force", "--encoding", "ascii"] =
      some (.render (overFile "u.txt")) ∧
    (run .library .empty besideFile ["render", "u.txt", "-s", "x=é", "-o", "out.txt",
      "--force", "--encoding", "ascii"]).outcome = .exit Run.failure ∧
    besideFile.Spared (run .library .empty besideFile ["render", "u.txt", "-s", "x=é", "-o", "out.txt",
      "--force", "--encoding", "ascii"]).disk := by
  have hread : Command.read ["render", "u.txt", "-s", "x=é", "-o", "out.txt", "--force",
      "--encoding", "ascii"] = some (.render (overFile "u.txt")) := by cbv
  have hfailure : (run .library .empty besideFile ["render", "u.txt", "-s", "x=é", "-o", "out.txt",
      "--force", "--encoding", "ascii"]).outcome = .exit Run.failure := by decide +kernel
  have hunmade : (prepare .library .empty besideFile (overFile "u.txt")).map (fun _ => ()) =
      .error (.templateNotFound (Path.ofText "u.txt")) := by decide +kernel
  refine ⟨rooted_besideFile, hread, hfailure, ?_⟩
  rcases run_failure rooted_besideFile hfailure with hspared | ⟨r, hread', hdamaged⟩
  · exact hspared
  · cases hread.symm.trans hread'
    obtain ⟨-, hmade, -⟩ := hdamaged
    rw [Except.map_eq_error_iff.1 hunmade] at hmade
    cases hmade

set_option maxRecDepth 8000 in
/-- A failed command that has damaged a file: it may be replaced, and the output has no bytes in the
encoding. -/
theorem run_unencodable :
    Command.read ["render", "t.txt", "-s", "x=é", "-o", "out.txt", "--force", "--encoding", "ascii"] =
      some (.render (overFile "t.txt")) ∧
    (run .library .empty besideFile ["render", "t.txt", "-s", "x=é", "-o", "out.txt",
      "--force", "--encoding", "ascii"]).outcome = .exit Run.failure ∧
    besideFile.standing ["out.txt"] = some (.file [107, 101, 101, 112]) ∧
    (run .library .empty besideFile ["render", "t.txt", "-s", "x=é", "-o", "out.txt",
      "--force", "--encoding", "ascii"]).disk.standing ["out.txt"] = some (.file []) := by
  have hread : Command.read ["render", "t.txt", "-s", "x=é", "-o", "out.txt", "--force",
      "--encoding", "ascii"] = some (.render (overFile "t.txt")) := by cbv
  have hmade : (prepare .library .empty besideFile (overFile "t.txt")).map (fun x =>
      (x.config, x.results.map fun y => y.2.output)) = .ok (⟨false, "ascii", true⟩, [("é" : Text)]) := by
    cbv
  obtain ⟨⟨config, values, results⟩, hprepare, hsame⟩ := Except.map_eq_ok_iff.1 hmade
  obtain ⟨rfl, hresults⟩ := Prod.mk.inj hsame
  obtain ⟨⟨j, s⟩, rfl, houtput⟩ := List.map_eq_singleton_iff.1 hresults
  have hplaces : places besideFile "out.txt" ⟨⟨false, "ascii", true⟩, values, [(j, s)]⟩ =
      .ok [(Path.ofText "out.txt", "é")] := by
    rw [← houtput]
    rfl
  have hcause : (Output.Scheduler.inTurn.write ⟨Encoding.codecs, "ascii", true⟩ besideFile
      [(Path.ofText "out.txt", "é")]).2 = .error (.unencodable
        (CodingError.foreign (.unencodable "ascii" 'é' 0 0 "ordinal not in range(128)"))) := by
    decide +kernel
  have hemptied : (Output.Scheduler.inTurn.write ⟨Encoding.codecs, "ascii", true⟩ besideFile
      [(Path.ofText "out.txt", "é")]).1.standing ["out.txt"] = some (.file []) := by decide +kernel
  have hrun : run .library .empty besideFile ["render", "t.txt", "-s", "x=é", "-o", "out.txt",
      "--force", "--encoding", "ascii"] = .ofTrouble .library
        (Output.Scheduler.inTurn.write ⟨Encoding.codecs, "ascii", true⟩ besideFile
          [(Path.ofText "out.txt", "é")]).1
        ((warnings ⟨⟨false, "ascii", true⟩, values, [(j, s)]⟩).map .message)
        (.output (.unencodable
          (CodingError.foreign (.unencodable "ascii" 'é' 0 0 "ordinal not in range(128)")))) := by
    have houtput' : nonempty (overFile "t.txt").output = some "out.txt" := rfl
    rw [run_of_read hread, runRender_of_takes hprepare houtput' fun _ _ => rfl]
    unfold deliver
    rw [hplaces]
    dsimp only
    have hwrite : Host.library.scheduler.write
        (Rendered.manner .library ⟨⟨false, "ascii", true⟩, values, [(j, s)]⟩) besideFile
          [(Path.ofText "out.txt", "é")] = (_, .error _) := Prod.ext rfl hcause
    rw [hwrite]
    rfl
  refine ⟨hread, ?_, rfl, ?_⟩
  · rw [hrun]
    exact Run.outcome_ofTrouble_of_isFailure ⟨rfl, rfl⟩ (fun _ _ => rfl) _ _
  · rw [hrun, Run.disk_ofTrouble]
    exact hemptied

/-- The check for taken places misses a file behind a directory that is only made afterwards. -/
example : (Output.Scheduler.inTurn.write ⟨Encoding.codecs, "ascii", false⟩ besideFile
    [(Path.ofText "a/../out.txt", "é")]).1.standing ["out.txt"] = some (.file []) := by
  decide +kernel

end CommandLine

end Formwork
