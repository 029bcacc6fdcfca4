import Formwork.Proofs.Disk.Reach
import Formwork.Proofs.Output.Refusal

/-!
# What a failed batch has done

When outputs are written and something fails, which files have been lost?  A file is opened, and so
emptied, before its text is encoded, and the tasks of a batch do not wait for each other.  How far the
damage can go is known (`Altered`).  Here it is asked when there is none, for outputs that lie in one
directory.

Providing this directory is the same for all of them, and so a batch goes one of two ways
(`Batch.Joined`).  If the directory cannot be provided, no task gets any further, and nothing but
directories has been made.  If it can, a failure comes from an output that cannot be written anywhere
(`Unwritable`), from a place that has been taken meanwhile, or from an error that is not about missing or
present files; this is `writeBy_failed`.  And unless files may be replaced, even then no file that was
there is touched, on a rooted disk, by paths that never lead outwards (`spared_of_writeBy`).
-/

namespace Formwork

variable {d e f : Disk} {p q : Path} {l : Location}

/-! ## Opening a file in a directory -/

namespace Disk

/-- The path is that of a link, and leads nowhere. -/
def Dangles (d : Disk) (p : Path) : Prop :=
  ∃ k link, d.setting.target p.parent = some k ∧ d.setting.linkAt k p.name = some link ∧
    ∀ l, d.locate p ≠ .ok l

lemma Dangles.before (h : e.Dangles p) (hlater : d.Later e) : d.Dangles p := by
  obtain ⟨k, link, hk, hlink, hnowhere⟩ := h
  rw [hlater.setting] at hk hlink
  exact ⟨k, link, hk, hlink, fun l hl => hnowhere l (hlater.locate hl)⟩

/-- The cause is neither that something is missing or present nor that there can be no such path. -/
def Cause.Unforeseen (cause : Cause) : Prop :=
  cause ≠ .absent ∧ cause ≠ .present ∧ cause ≠ .nullCharacter

instance (cause : Cause) : Decidable cause.Unforeseen := inferInstanceAs (Decidable (_ ∧ _))

lemma unforeseen_of_openable {cause : Cause} (h : d.openable l = .error cause) :
    cause.Unforeseen := by
  have hpermit : ∀ {a : Access}, d.permit a l = .error cause → cause.Unforeseen := by
    intro a h
    unfold permit at h
    split at h
    · cases h
      exact ⟨nofun, nofun, nofun⟩
    · cases h
  unfold openable at h
  split at h
  · cases h
    decide
  · exact hpermit h
  · exact hpermit h

/-- In a directory, a path leads nowhere only for its last name or its length. -/
lemma locate_eq_error_of_parent (hparent : d.isDirectory p.parent = .ok true) {cause : Cause}
    (h : d.locate p = .error cause) : '\x00' ∈ p.name ∨ d.Dangles p ∨ cause.Unforeseen := by
  obtain ⟨k, hk, hdirectory⟩ := isDirectory_eq_ok_true_iff.1 hparent
  obtain ⟨root, names⟩ := p
  cases names with
  | nil => cases hk.symm.trans h
  | cons n names =>
    change d.locate ⟨root, names⟩ = .ok k at hk
    rcases flaw?_or_ofWay_of_locate h with hflaw | ⟨hsound, hway⟩
    · rcases flaw?_eq_some hflaw with ⟨-, m, hm, hnull⟩ | rfl
      · rcases List.mem_cons.1 hm with rfl | hm
        · exact .inl hnull
        · exact absurd hnull ((flaw?_eq_none_iff.1 (Setting.flaw?_of_locate hk)).1 m hm)
      · exact .inr (.inr (by decide))
    · rcases hway with rfl | rfl | rfl | rfl | ⟨reason, rfl⟩
      · refine .inr (.inl ⟨k, ?_⟩)
        have hnowhere : ∀ l, d.locate ⟨root, n :: names⟩ ≠ .ok l := fun l hl => by
          cases h.symm.trans hl
        cases hlink : d.setting.linkAt k n with
        | some link => exact ⟨link, target_of_locate hk, hlink, hnowhere⟩
        | none =>
          obtain ⟨links, hlead⟩ := Setting.locate_eq_ok_iff.1 hk
          unfold Disk.locate Setting.locate at h
          rw [Except.map_eq_error_iff, Setting.lead_cons _ _ hsound, hlead] at h
          change d.setting.walk d.standing links k [n] = _ at h
          rw [Setting.walk_cons] at h
          rcases Except.bind_eq_error_iff.1 h with henter | ⟨m, -, hlast⟩
          · unfold Setting.enter at henter
            rw [hdirectory] at henter
            dsimp only at henter
            split at henter
            · cases henter
            · split at henter <;> cases henter
          · rw [hlink] at hlast
            change d.setting.walk d.standing links m [] = _ at hlast
            rw [Setting.walk_nil] at hlast
            cases hlast
      · exact .inr (.inr (by decide))
      · exact .inr (.inr (by decide))
      · exact .inr (.inr (by decide))
      · exact .inr (.inr ⟨nofun, nofun, nofun⟩)

lemma openFile_eq_error_of_parent (hparent : d.isDirectory p.parent = .ok true) {error : Error}
    (h : d.openFile p = .error error) :
    '\x00' ∈ p.name ∨ d.Dangles p ∨ error.cause.Unforeseen := by
  unfold openFile at h
  rw [Except.mapError_eq_error_iff] at h
  obtain ⟨cause, h, rfl⟩ := h
  rcases Except.bind_eq_error_iff.1 h with hlocate | ⟨l, -, h⟩
  · exact locate_eq_error_of_parent hparent hlocate
  · rcases Except.bind_eq_error_iff.1 h with hopenable | ⟨-, -, h⟩
    · exact .inr (.inr (unforeseen_of_openable hopenable))
    · cases h

end Disk

namespace Output

variable {m : Manner} {t u : Task} {s : Stage} {b : Batch} {outputs : List (Path × Text)}
  {cause : Fault} {n : Nat} {schedule : List Nat}

/-! ## Failures of codecs -/

/-- If the failure of a task is one of its codec, it is the failure of this codec with this text. -/
def Fault.Coded (m : Manner) (content : Text) : Fault → Prop
  | .encoding cause => m.codec = .error cause
  | .unencodable cause => ∃ codec, m.codec = .ok codec ∧ codec.written content = .error cause
  | _ => True

lemma Task.Step.coded (h : t.Step m e f s)
    (hbefore : ∀ cause, t.stage = .failed cause → cause.Coded m t.content) :
    ∀ cause, s = .failed cause → cause.Coded m t.content := by
  intro cause hs
  cases h with
  | ended => exact hbefore cause hs
  | passed | provided | opened | written => cases hs
  | unseen | taken | barred | unopened =>
    cases hs
    trivial
  | nameless _ known | uncoded _ _ known | lost _ known =>
    cases hs
    exact known
  | unencodable _ known write =>
    cases hs
    exact ⟨_, known, write⟩

lemma Batch.coded_run (m : Manner) (d : Disk) (outputs : List (Path × Text)) (schedule : List Nat) :
    ∀ t ∈ ((ofOutputs d outputs).run m schedule).tasks, ∀ cause, t.stage = .failed cause →
      cause.Coded m t.content := by
  refine run_induction (P := fun b => ∀ t ∈ b.tasks, ∀ cause, t.stage = .failed cause →
    cause.Coded m t.content) ?_ ?_ schedule
  · intro t ht cause hstage
    rw [stage_ofOutputs ht] at hstage
    cases hstage
  · intro b n t f s h ht hadvance hstep
    exact forall_mem_tasks_advance ht hadvance (hstep.coded (h t (List.mem_of_getElem? ht))) h

lemma kind_of_refusal (h : refusal? m d outputs = some cause) :
    (∃ error, cause = .disk error) ∨ ∃ paths, cause = .allTaken paths := by
  unfold refusal? at h
  split at h
  · cases h
  · split at h
    · cases h
      exact .inl ⟨_, rfl⟩
    · cases h
    · cases h
      exact .inr ⟨_, rfl⟩

/-- A failure that is reported for a codec is the failure of the codec with the text of an output. -/
lemma coded_of_writeBy (h : writeBy schedule m d outputs = (e, .error cause)) :
    (∃ o ∈ outputs, cause.Coded m o.2) ∨ (∃ error, cause = .disk error) ∨
      ∃ paths, cause = .allTaken paths := by
  rcases writeBy_eq_error h with ⟨hrefused, -⟩ | ⟨-, -, t, ht, hstage⟩
  · exact .inr (kind_of_refusal hrefused)
  · refine .inl ⟨(t.path, t.content), ?_, Batch.coded_run m d outputs schedule t ht cause hstage⟩
    rw [← Batch.outputs_ofOutputs d outputs, ← Batch.outputs_run m _ schedule]
    exact List.mem_map_of_mem ht

lemma writeBy_eq_encoding {name : Encoding.NameError}
    (h : writeBy schedule m d outputs = (e, .error (.encoding name))) : m.codec = .error name := by
  obtain ⟨_, -, hcoded⟩ := (coded_of_writeBy h).resolve_right (by simp)
  exact hcoded

/-- The task has not got to its file: it has not provided the directory yet, or it has failed. -/
def Stage.Waiting (s : Stage) : Prop := s = .check ∨ s = .provide ∨ ∃ cause, s = .failed cause

/-- All that a step of such a task can do to the disk is to provide the directory. -/
lemma Task.Step.waiting (h : t.Step m e f s) (hwaiting : t.stage.Waiting) :
    f = e ∧ s.Waiting ∨ ∃ result, e.provideAll t.path.root t.path.parent.names = (f, result) ∧
      (result = none ∨ result ≠ none ∧ s.Waiting) := by
  cases h with
  | ended => exact .inl ⟨rfl, hwaiting⟩
  | passed => exact .inl ⟨rfl, .inr (.inl rfl)⟩
  | unseen | taken => exact .inl ⟨rfl, .inr (.inr ⟨_, rfl⟩)⟩
  | barred stage provide => exact .inr ⟨_, provide, .inr ⟨nofun, .inr (.inr ⟨_, rfl⟩)⟩⟩
  | provided stage provide => exact .inr ⟨_, provide, .inl rfl⟩
  | nameless stage | unopened stage | uncoded stage | opened stage | lost stage
  | unencodable stage | written stage =>
    rw [stage] at hwaiting
    rcases hwaiting with hno | hno | ⟨_, hno⟩ <;> cases hno

namespace Batch

/-! ## A directory that cannot be provided -/

/-- The tasks of the batch are for outputs in one directory, which cannot be provided: none has got any
further, and all that has been done is to try. -/
structure Stuck (d e : Disk) (q : Path) (b : Batch) : Prop where
  parents : ∀ o ∈ b.outputs, o.1.parent = q
  disk : b.disk = d ∨ b.disk = e
  waiting : ∀ t ∈ b.tasks, t.stage.Waiting

lemma stuck_ofOutputs (d e : Disk) (hparents : ∀ o ∈ outputs, o.1.parent = q) :
    Stuck d e q (ofOutputs d outputs) where
  parents := by
    rw [outputs_ofOutputs]
    exact hparents
  disk := .inl rfl
  waiting := fun _ ht => .inl (stage_ofOutputs ht)

lemma Stuck.step {error : Disk.Error} (h : Stuck d e q b)
    (hbarred : d.provideAll q.root q.names = (e, some error)) (ht : b.tasks[n]? = some t)
    (hadvance : t.advance m b.disk = (f, t.goTo s)) (hstep : t.Step m b.disk f s) :
    Stuck d e q (b.advance m n) := by
  have hdisk := disk_advance ht hadvance
  have hmem := List.mem_of_getElem? ht
  have hparent : t.path.parent = q := h.parents _ (List.mem_map_of_mem hmem)
  subst hparent
  -- Trying once more does nothing either.
  have hagain : ∃ error', b.disk.provideAll t.path.root t.path.parent.names = (e, some error') := by
    rcases h.disk with hd | he
    · exact ⟨error, hd ▸ hbarred⟩
    · rw [he]
      exact Disk.exists_error_of_provideAll hbarred
  have hafter : (f = d ∨ f = e) ∧ s.Waiting := by
    rcases hstep.waiting (h.waiting t hmem) with ⟨rfl, hs⟩ | ⟨result, hresult, hs⟩
    · exact ⟨h.disk, hs⟩
    · obtain ⟨error', herror'⟩ := hagain
      cases hresult.symm.trans herror'
      exact ⟨.inr rfl, (hs.resolve_left nofun).2⟩
  exact ⟨(outputs_advance m b n).symm ▸ h.parents, hdisk ▸ hafter.1,
    forall_mem_tasks_advance ht hadvance (p := fun u => u.stage.Waiting) hafter.2 h.waiting⟩

lemma stuck_run {error : Disk.Error} (m : Manner) (hparents : ∀ o ∈ outputs, o.1.parent = q)
    (hbarred : d.provideAll q.root q.names = (e, some error)) (schedule : List Nat) :
    Stuck d e q ((ofOutputs d outputs).run m schedule) :=
  run_induction (P := Stuck d e q) (stuck_ofOutputs d e hparents)
    (fun _ _ _ _ _ h ht hadvance hstep => h.step hbarred ht hadvance hstep) schedule

lemma grown_of_barred {error : Disk.Error} (m : Manner) (hparents : ∀ o ∈ outputs, o.1.parent = q)
    (hbarred : d.provideAll q.root q.names = (e, some error)) (schedule : List Nat) :
    d.Grown ((ofOutputs d outputs).run m schedule).disk := by
  rcases (stuck_run m hparents hbarred schedule).disk with hsame | he
  · rw [hsame]
    exact .refl d
  · rw [he]
    exact Disk.grown_of_provideAll hbarred

end Batch

/-! ## A directory that can be provided -/

/-- The output cannot be written, wherever it goes: its name is none, nothing is written of its text,
or its path is that of a link that leads nowhere. -/
def Unwritable (m : Manner) (d : Disk) (o : Path × Text) : Prop :=
  '\x00' ∈ o.1.name ∨ (∀ bytes, ¬ m.Writes o.2 bytes) ∨ d.Dangles o.1

/-- What a failure of a task comes from when its directory can be provided. -/
def Task.Explained (m : Manner) (d : Disk) (t : Task) (cause : Fault) : Prop :=
  Unwritable m d (t.path, t.content) ∨ (m.replace = false ∧ ∃ path, cause = .taken path) ∨
    (∃ error, cause = .disk error ∧ error.cause.Unforeseen) ∨ ∃ name, cause = .encoding name

/-- A directory stays one. -/
lemma isDirectory_later (h : d.isDirectory q = .ok true) (hlater : d.Later e) :
    e.isDirectory q = .ok true := by
  obtain ⟨l, hl, hdirectory⟩ := Disk.isDirectory_eq_ok_true_iff.1 h
  exact Disk.isDirectory_eq_ok_true_iff.2 ⟨l, hlater.locate hl, hlater.directories l hdirectory⟩

/-- A step that does not provide directories makes none. -/
lemma Task.Step.directories (h : t.Step m e f s) (hopen : t.Open e)
    (hprovide : t.stage ≠ .provide) :
    ∀ k, f.standing k = some .directory → e.standing k = some .directory := by
  have hopened : ∀ {l}, e.openFile t.path = .ok (f, l) → ∀ k, f.standing k = some .directory →
      e.standing k = some .directory := by
    intro l hl k hk
    obtain ⟨-, hopenable, rfl⟩ := Disk.openFile_eq_ok_iff.1 hl
    by_cases hkl : k = l
    · rw [hkl, Disk.standing_put_self (Disk.openable_ne_directory hopenable)] at hk
      cases hk
    · rw [← hk, Disk.standing_put_of_ne _ hkl]
  cases h with
  | barred stage | provided stage => exact absurd stage hprovide
  | uncoded stage openFile | opened stage openFile => exact hopened openFile
  | @written l bytes stage write =>
    obtain ⟨-, old, hfile⟩ := hopen l stage
    intro k hk
    by_cases hkl : k = l
    · rw [hkl, Disk.standing_fill_self hfile] at hk
      cases hk
    · rw [← hk, Disk.standing_fill_of_ne _ hkl]
  | _ => exact fun _ => id

/-- A step that fails, in a task whose directory is there if it has provided it, is explained. -/
lemma Task.Step.explained (h : t.Step m e f s) (hlater : d.Later e)
    (hthere : ¬ t.stage.Waiting → e.isDirectory t.path.parent = .ok true)
    (hprovide : t.stage = .provide → ∃ f, e.provideAll t.path.root t.path.parent.names = (f, none))
    (hbefore : ∀ cause, t.stage = .failed cause → t.Explained m d cause) :
    ∀ cause, s = .failed cause → t.Explained m d cause := by
  intro cause hs
  cases h with
  | ended => exact hbefore cause hs
  | passed | provided | opened | written => cases hs
  | unseen stage look =>
    cases hs
    refine .inr (.inr (.inl ⟨_, rfl, ?_⟩))
    rcases (Disk.holds_eq_error look).2 with hlong | ⟨reason, hreason⟩
    · rw [hlong]
      decide
    · rw [hreason]
      exact ⟨nofun, nofun, nofun⟩
  | taken stage look kept =>
    cases hs
    exact .inr (.inl ⟨kept, _, rfl⟩)
  | barred stage provide =>
    obtain ⟨g, hg⟩ := hprovide stage
    cases provide.symm.trans hg
  | nameless | uncoded | lost =>
    cases hs
    exact .inr (.inr (.inr ⟨_, rfl⟩))
  | unopened stage openFile =>
    cases hs
    have hparent := hthere (by simp [stage, Stage.Waiting])
    rcases Disk.openFile_eq_error_of_parent hparent openFile with hnull | hdangles | hunforeseen
    · exact .inl (.inl hnull)
    · exact .inl (.inr (.inr (hdangles.before hlater)))
    · exact .inr (.inr (.inl ⟨_, rfl, hunforeseen⟩))
  | unencodable stage known write =>
    refine .inl (.inr (.inl ?_))
    rintro bytes ⟨codec', hcodec', hbytes⟩
    cases known.symm.trans hcodec'
    cases write.symm.trans hbytes

namespace Batch

/-- The tasks of the batch are for outputs in one directory, which can be provided: it is there as soon
as a task gets to its file, no other directories have been made, and failures are explained. -/
structure Joined (m : Manner) (d e : Disk) (q : Path) (b : Batch) : Prop extends Later d b where
  parents : ∀ o ∈ b.outputs, o.1.parent = q
  begun : (b.disk = d ∧ ∀ t ∈ b.tasks, t.stage.Waiting) ∨ b.disk.isDirectory q = .ok true
  directories : ∀ l, b.disk.standing l = some .directory → e.standing l = some .directory
  explained : ∀ t ∈ b.tasks, ∀ cause, t.stage = .failed cause → t.Explained m d cause

lemma joined_ofOutputs (m : Manner) (hparents : ∀ o ∈ outputs, o.1.parent = q)
    (hprovide : d.provideAll q.root q.names = (e, none)) :
    Joined m d e q (ofOutputs d outputs) where
  toLater := later_ofOutputs d outputs
  parents := by
    rw [outputs_ofOutputs]
    exact hparents
  begun := .inl ⟨rfl, fun _ ht => .inl (stage_ofOutputs ht)⟩
  directories := by
    exact (Disk.grown_of_provideAll hprovide).directories
  explained := by
    intro t ht cause hstage
    rw [stage_ofOutputs ht] at hstage
    cases hstage

lemma Joined.step (h : Joined m d e q b) (hprovide : d.provideAll q.root q.names = (e, none))
    (ht : b.tasks[n]? = some t) (hadvance : t.advance m b.disk = (f, t.goTo s))
    (hstep : t.Step m b.disk f s) : Joined m d e q (b.advance m n) := by
  obtain ⟨hlater, hafter⟩ := h.toLater.step ht hadvance hstep
  have hdisk := disk_advance ht hadvance
  have hmem := List.mem_of_getElem? ht
  have hparent : t.path.parent = q := h.parents _ (List.mem_map_of_mem hmem)
  subst hparent
  -- The directory is there, or providing it is the same as at the beginning.
  have hall : b.disk.provideAll t.path.root t.path.parent.names = (b.disk, none) ∨
      b.disk.provideAll t.path.root t.path.parent.names = (e, none) := by
    rcases h.begun with ⟨hd, -⟩ | hthere
    · exact .inr (hd ▸ hprovide)
    · exact .inl (Disk.provideAll_of_isDirectory hthere)
  have hbegun : (f = d ∧ s.Waiting ∧ ∀ u ∈ b.tasks, u.stage.Waiting) ∨
      f.isDirectory t.path.parent = .ok true := by
    rcases h.begun with ⟨hd, hwaiting⟩ | hthere
    · rcases hstep.waiting (hwaiting t hmem) with ⟨rfl, hs⟩ | ⟨result, hresult, -⟩
      · exact .inl ⟨hd, hs, hwaiting⟩
      · cases hresult.symm.trans (hd ▸ hprovide)
        exact .inr (Disk.isDirectory_of_provideAll hprovide)
    · exact .inr (isDirectory_later hthere hlater)
  have hdirectories : ∀ l, f.standing l = some .directory → e.standing l = some .directory := by
    intro l hl
    by_cases hstage : t.stage = .provide
    · rcases hstep.waiting (.inr (.inl hstage)) with ⟨rfl, -⟩ | ⟨result, hresult, -⟩
      · exact h.directories l hl
      · rcases hall with hsame | he
        · cases hresult.symm.trans hsame
          exact h.directories l hl
        · cases hresult.symm.trans he
          exact hl
    · exact h.directories l (hstep.directories (h.opened t hmem) hstage l hl)
  have hexplained := hstep.explained h.disk
    (fun hstage => h.begun.resolve_left fun hnot => hstage (hnot.2 t hmem))
    (fun _ => hall.elim (fun hsame => ⟨_, hsame⟩) fun he => ⟨_, he⟩) (h.explained t hmem)
  refine ⟨hafter, (outputs_advance m b n).symm ▸ h.parents, ?_, hdisk ▸ hdirectories,
    forall_mem_tasks_advance ht hadvance hexplained h.explained⟩
  rw [hdisk]
  exact hbegun.imp_left fun ⟨hd, hs, hwaiting⟩ =>
    ⟨hd, forall_mem_tasks_advance ht hadvance (p := fun u => u.stage.Waiting) hs hwaiting⟩

lemma joined_run (m : Manner) (hparents : ∀ o ∈ outputs, o.1.parent = q)
    (hprovide : d.provideAll q.root q.names = (e, none)) (schedule : List Nat) :
    Joined m d e q ((ofOutputs d outputs).run m schedule) :=
  run_induction (P := Joined m d e q) (joined_ofOutputs m hparents hprovide)
    (fun _ _ _ _ _ h ht hadvance hstep => h.step hprovide ht hadvance hstep) schedule

end Batch

/-! ## Batches in one directory -/

/-- What a batch has done that failed after it had been begun: at most directories were made, unless an
output cannot be written, a place has been taken meanwhile, or the error is not about missing or present
files. -/
theorem writeBy_failed (hparents : ∀ o ∈ outputs, o.1.parent = q)
    (hstarted : refusal? m d outputs = none)
    (h : writeBy schedule m d outputs = (e, .error cause)) :
    d.Grown e ∨ (∃ o ∈ outputs, Unwritable m d o) ∨
      (m.replace = false ∧ ∃ path, cause = .taken path) ∨
      (∃ error, cause = .disk error ∧ error.cause.Unforeseen) ∨ ∃ name, cause = .encoding name := by
  rcases writeBy_eq_error h with ⟨hrefused, -⟩ | ⟨-, rfl, t, ht, hstage⟩
  · cases hstarted.symm.trans hrefused
  · rcases hprovide : d.provideAll q.root q.names with ⟨g, - | error⟩
    · have hjoined := Batch.joined_run m hparents hprovide schedule
      have ho : (t.path, t.content) ∈ outputs := by
        rw [← Batch.outputs_ofOutputs d outputs, ← Batch.outputs_run m _ schedule]
        exact List.mem_map_of_mem ht
      exact .inr ((hjoined.explained t ht cause hstage).imp_left fun hunwritable =>
        ⟨_, ho, hunwritable⟩)
    · exact .inl (Batch.grown_of_barred m hparents hprovide schedule)

end Output

/-! ## Files that are spared -/

/-- Every file of the first disk is one of the second, with the same bytes. -/
def Disk.Spared (d e : Disk) : Prop :=
  ∀ l bytes, d.standing l = some (.file bytes) → e.standing l = some (.file bytes)

lemma Disk.Spared.refl (d : Disk) : d.Spared d := fun _ _ h => h

lemma Disk.Grown.spared (h : d.Grown e) : d.Spared e := by
  intro l bytes hl
  rcases h.made l with hsame | ⟨hnone, -⟩
  · exact hsame.trans hl
  · cases hl.symm.trans hnone

/-- Where the directory of a path is provided that never leads outwards, the path leads to nothing that
was there before, unless it led there before. -/
lemma Disk.locate_of_provideAll (hrooted : d.Rooted) {root n : Text} {names : List Text}
    (hinward : outwards ∉ n :: names) (hprovide : d.provideAll root names = (e, none))
    (hl : e.locate ⟨root, n :: names⟩ = .ok l) (hthere : d.standing l ≠ none) :
    d.locate ⟨root, n :: names⟩ = .ok l := by
  obtain ⟨hn, hinward⟩ := not_or.1 (List.mem_cons.not.1 hinward)
  obtain ⟨k, hk⟩ := leads_of_provideAll hrooted hinward hprovide
  have hgrown := grown_of_provideAll hprovide
  rcases hk.free with hnone | hdirectory
  · obtain ⟨g, hg, hlocate, -⟩ := hk.provideAll
    cases hprovide.symm.trans hg
    obtain ⟨k', hk', -, hlast⟩ := exists_parent_of_locate hl
    cases hlocate.symm.trans hk'
    have hmissing : ¬ d.Way (n :: k) := fun hway => by
      cases hnone.symm.trans (way_cons_iff.1 hway).1
    have hplain : e.setting.linkAt k n = none := by
      unfold Setting.linkAt
      rw [if_neg fun he => hn he.symm, hgrown.setting]
      by_contra hlink
      exact hmissing (hrooted.links _ hlink)
    rw [hlast hplain, follow_of_ne k fun he => hn he.symm] at hthere
    exact absurd (hrooted.entries _ hthere) hmissing
  · have hparent := isDirectory_eq_ok_true_iff.2 ⟨k, hk.locate_of_directory hdirectory, hdirectory⟩
    rw [provideAll_of_isDirectory hparent] at hprovide
    cases hprovide
    exact hl

namespace Output

variable {m : Manner} {outputs : List (Path × Text)} {schedule : List Nat}

/-- Where a path of the batch leads to something that is older than the batch, it led there before. -/
lemma Batch.Joined.locate_before {b : Batch} (h : Batch.Joined m d e q b) (hrooted : d.Rooted)
    (hprovide : d.provideAll q.root q.names = (e, none)) {p : Path} (hparent : p.parent = q)
    (hinward : Disk.outwards ∉ p.names) {l : Location} (hlead : b.disk.locate p = .ok l)
    (hfree : b.disk.standing l ≠ some .directory) (hold : d.standing l ≠ none) : d.locate p = .ok l := by
  obtain ⟨root, names⟩ := p
  cases names with
  | nil => exact absurd (Disk.standing_of_locate_nil hlead) hfree
  | cons n names =>
    subst hparent
    refine Disk.locate_of_provideAll hrooted hinward hprovide ?_ hold
    unfold Disk.locate at hlead ⊢
    rw [(Disk.grown_of_provideAll hprovide).setting, ← h.disk.setting]
    exact Disk.Setting.locate_mono h.directories hlead

/-- When files may not be replaced and the paths of a batch never lead outwards, the check for taken
places has missed none. -/
theorem spared_of_writeBy (hrooted : d.Rooted) (hkept : m.replace = false)
    (hparents : ∀ o ∈ outputs, o.1.parent = q)
    (hinward : ∀ o ∈ outputs, Disk.outwards ∉ o.1.names) :
    d.Spared (writeBy schedule m d outputs).1 := by
  cases hstarted : refusal? m d outputs with
  | some cause =>
    rw [writeBy_of_refusal hstarted]
    exact .refl d
  | none =>
    have hdisk : (writeBy schedule m d outputs).1 =
        ((Batch.ofOutputs d outputs).run m schedule).disk := by
      unfold writeBy
      rw [hstarted]
    have htaken : takenPlaces d outputs = .ok [] :=
      (refusal?_eq_none_iff.1 hstarted).resolve_left (by simp [hkept])
    have haltered := altered_writeBy schedule m d outputs
    rw [hdisk] at haltered ⊢
    rcases hprovide : d.provideAll q.root q.names with ⟨g, - | error⟩
    · have hjoined := Batch.joined_run m hparents hprovide schedule
      intro l bytes hl
      rcases haltered.changed l with hsame | ⟨hnone, -⟩ | ⟨n, o, hn, hlead, -, bytes', hfile, -⟩
      · exact hsame.trans hl
      · cases hl.symm.trans hnone
      · have ho := List.mem_of_getElem? hn
        have hbefore := hjoined.locate_before hrooted hprovide (hparents o ho) (hinward o ho) hlead
          (by simp [hfile]) (by simp [hl])
        have hfound : o.1 ∈ standingPaths d outputs :=
          mem_standingPaths_iff.2 ⟨List.mem_map_of_mem ho, _, _, hbefore, hl⟩
        rw [← (takenPlaces_eq_ok_iff.1 htaken).2] at hfound
        exact absurd hfound List.not_mem_nil
    · exact (Batch.grown_of_barred m hparents hprovide schedule).spared

end Output

end Formwork
