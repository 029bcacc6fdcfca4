import Formwork.Proofs.Output.Schedule

/-!
# What has been written

When outputs are written without a failure, what is on the disk then?  Nothing is assumed here of the
disk before, nor of the paths: a path may lead outwards or through links, its directory may be there or
not, and several may lead to one location.  The answer is `written_of_writeBy`.  Whatever the schedule,
each path leads to a file, which has what its text writes if no other path leads there; and where no
path leads stands what stood there, or else a directory that was made.

Every step of a task does no more than to make directories where nothing stood and to empty the file
of its own path or fill it (`Task.Step.touched`).  So a path that leads somewhere goes on to lead there,
and what a task has in its file is not moved by another task, unless the path of that one leads there
too (`Task.Holds.touched`).  This is what a batch carries from step to step (`Batch.Traced`).
-/

namespace Formwork

/-- The two paths lead to different places. -/
def Disk.Setting.Apart (s : Setting) (p q : Path) : Prop :=
  ∀ l, s.target p = some l → s.target q ≠ some l

lemma Disk.Setting.Apart.symm {s : Setting} {p q : Path} (h : s.Apart p q) : s.Apart q p :=
  fun l hq hp => h l hp hq

instance (s : Disk.Setting) (p q : Path) : Decidable (s.Apart p q) :=
  decidable_of_iff (s.target p = none ∨ s.target p ≠ s.target q) <| by
    unfold Disk.Setting.Apart
    cases s.target p with
    | none => simp
    | some l => simp [eq_comm]

namespace Output

variable {m : Manner} {d e f : Disk} {t u : Task} {s : Stage} {b : Batch}
  {outputs : List (Path × Text)} {n k : Nat} {l : Location}

/-- Of the outputs only the one of this number leads to the location. -/
def Alone (s : Disk.Setting) (outputs : List (Path × Text)) (n : Nat) (l : Location) : Prop :=
  ∀ k o, outputs[k]? = some o → k ≠ n → s.target o.1 ≠ some l

lemma alone_of_apart {s : Disk.Setting} (h : outputs.Pairwise fun o o' => s.Apart o.1 o'.1)
    {o : Path × Text} (hn : outputs[n]? = some o) (hl : s.target o.1 = some l) :
    Alone s outputs n l := by
  intro k o' hk hne
  obtain ⟨hlength, rfl⟩ := List.getElem?_eq_some_iff.1 hn
  obtain ⟨hlength', rfl⟩ := List.getElem?_eq_some_iff.1 hk
  rw [List.pairwise_iff_getElem] at h
  rcases Nat.lt_or_gt_of_ne hne with hlt | hlt
  · exact (h k n hlength' hlength hlt).symm l hl
  · exact h n k hlength hlength' hlt l hl

/-! ## One task -/

/-- The bytes are those that a file may have while the text is written to it: none yet, or what it has
received in the end. -/
def Manner.Partial (m : Manner) (content : Text) (bytes : Bytes) : Prop :=
  bytes = [] ∨ m.Writes content bytes

/-- Between the two disks directories were made where nothing stood, and the file that the path of the
task leads to was emptied or received its text; `alone` says of a location that the file there is that
of the task only. -/
def Touched (m : Manner) (e f : Disk) (t : Task) (alone : Location → Prop) : Prop :=
  ∀ l, f.standing l = e.standing l ∨ e.standing l = none ∧ f.standing l = some .directory ∨
    f.locate t.path = .ok l ∧ e.standing l ≠ some .directory ∧
      ∃ bytes, f.standing l = some (.file bytes) ∧ (alone l → m.Partial t.content bytes)

namespace Task

/-- What the file of a task has, from the step that opens it on. -/
def Holds (m : Manner) (e : Disk) (t : Task) (alone : Location → Prop) : Prop :=
  match t.stage with
  | .fill l => e.locate t.path = .ok l ∧
      ∃ bytes, e.standing l = some (.file bytes) ∧ (alone l → bytes = [])
  | .finished => ∃ l bytes, e.locate t.path = .ok l ∧ e.standing l = some (.file bytes) ∧
      (alone l → m.Writes t.content bytes)
  | _ => True

variable {alone : Location → Prop}

lemma Step.touched (h : t.Step m e f s) (hholds : t.Holds m e alone) : Touched m e f t alone := by
  have hopened : ∀ {l : Location}, e.openFile t.path = .ok (f, l) → Touched m e f t alone := by
    intro l hopen k
    have hlater := Disk.later_openFile hopen
    obtain ⟨hl, hopenable, rfl⟩ := Disk.openFile_eq_ok_iff.1 hopen
    have hfree := Disk.openable_ne_directory hopenable
    by_cases hk : k = l
    · subst hk
      exact .inr (.inr ⟨hlater.locate hl, hfree, [], Disk.standing_put_self hfree _,
        fun _ => .inl rfl⟩)
    · exact .inl (Disk.standing_put_of_ne e hk _)
  cases h with
  | barred stage provide | provided stage provide =>
    intro l
    have hgrown := Disk.grown_provideAll e t.path.root t.path.parent.names
    rw [provide] at hgrown
    exact (hgrown.made l).imp_right .inl
  | uncoded stage openFile | opened stage openFile => exact hopened openFile
  | @written l bytes stage write =>
    intro k
    unfold Holds at hholds
    rw [stage] at hholds
    obtain ⟨hl, old, hfile, hempty⟩ := hholds
    by_cases hk : k = l
    · subst hk
      refine .inr (.inr ⟨(Disk.later_fill hfile bytes).locate hl, by simp [hfile], _,
        Disk.standing_fill_self hfile bytes, fun halone => .inr ?_⟩)
      rw [hempty halone, List.drop_nil, List.append_nil]
      exact write
    · exact .inl (Disk.standing_fill_of_ne e hk _)
  | _ => exact fun _ => .inl rfl

/-- What a step of the task itself leaves in its file. -/
lemma Step.holds (h : t.Step m e f s) (hholds : t.Holds m e alone) : (t.goTo s).Holds m f alone := by
  cases h with
  | ended => exact hholds
  | opened stage openFile known =>
    have hlater := Disk.later_openFile openFile
    obtain ⟨hl, hopenable, rfl⟩ := Disk.openFile_eq_ok_iff.1 openFile
    exact ⟨hlater.locate hl, [], Disk.standing_put_self (Disk.openable_ne_directory hopenable) _,
      fun _ => rfl⟩
  | @written l bytes stage write =>
    unfold Holds at hholds
    rw [stage] at hholds
    obtain ⟨hl, old, hfile, hempty⟩ := hholds
    refine ⟨l, _, (Disk.later_fill hfile bytes).locate hl, Disk.standing_fill_self hfile bytes,
      fun halone => ?_⟩
    rw [hempty halone, List.drop_nil, List.append_nil]
    exact write
  | _ => trivial

/-- What a task has in its file stays when another one takes a step. -/
lemma Holds.touched {other : Location → Prop} (h : u.Holds m e alone) (hlater : e.Later f)
    (htouched : Touched m e f t other)
    (hapart : ∀ l, alone l → f.setting.target t.path ≠ some l) : u.Holds m f alone := by
  have hfile : ∀ {l : Location} {bytes : Bytes}, e.standing l = some (.file bytes) →
      ∃ bytes', f.standing l = some (.file bytes') ∧ (alone l → bytes' = bytes) := by
    intro l bytes hl
    rcases htouched l with hsame | ⟨hnone, -⟩ | ⟨hpath, -, bytes', hbytes', -⟩
    · exact ⟨bytes, hsame.trans hl, fun _ => rfl⟩
    · rw [hl] at hnone
      cases hnone
    · exact ⟨bytes', hbytes', fun halone => absurd (Disk.target_of_locate hpath) (hapart l halone)⟩
  unfold Holds at h ⊢
  cases hstage : u.stage with
  | fill l =>
    rw [hstage] at h
    obtain ⟨hl, bytes, hbytes, hempty⟩ := h
    obtain ⟨bytes', hbytes', hsame⟩ := hfile hbytes
    exact ⟨hlater.locate hl, bytes', hbytes', fun halone => (hsame halone).trans (hempty halone)⟩
  | finished =>
    rw [hstage] at h
    obtain ⟨l, bytes, hl, hbytes, hwrites⟩ := h
    obtain ⟨bytes', hbytes', hsame⟩ := hfile hbytes
    exact ⟨l, bytes', hlater.locate hl, hbytes', fun halone => hsame halone ▸ hwrites halone⟩
  | check | provide | clear | failed => trivial

end Task

/-! ## A batch -/

/-- What a disk may have become while outputs are written: it is a later one, directories were made
where nothing stood, and at the places of outputs are files, each of which is empty or has received its
text, unless several outputs lead there. -/
structure Altered (m : Manner) (d : Disk) (outputs : List (Path × Text)) (e : Disk) : Prop where
  later : d.Later e
  changed : ∀ l, e.standing l = d.standing l ∨ d.standing l = none ∧ e.standing l = some .directory ∨
    ∃ n o, outputs[n]? = some o ∧ e.locate o.1 = .ok l ∧ d.standing l ≠ some .directory ∧
      ∃ bytes, e.standing l = some (.file bytes) ∧
        (Alone d.setting outputs n l → m.Partial o.2 bytes)

lemma Altered.refl (m : Manner) (d : Disk) (outputs : List (Path × Text)) :
    Altered m d outputs d := ⟨.refl d, fun _ => .inl rfl⟩

lemma Altered.touched (h : Altered m d outputs e) (hlater : e.Later f)
    (hn : outputs[n]? = some (t.path, t.content))
    (htouched : Touched m e f t (Alone d.setting outputs n)) : Altered m d outputs f := by
  refine ⟨h.later.trans hlater, fun l => ?_⟩
  rcases htouched l with hsame | ⟨hnone, hmade⟩ | ⟨hl, hfree, hfile⟩
  · rw [hsame]
    rcases h.changed l with hbefore | hmade | ⟨k, o, hk, hl, hrest⟩
    · exact .inl hbefore
    · exact .inr (.inl hmade)
    · exact .inr (.inr ⟨k, o, hk, hlater.locate hl, hrest⟩)
  · rcases h.changed l with hbefore | ⟨-, hmade'⟩ | ⟨_, _, -, -, -, _, hfile, -⟩
    · exact .inr (.inl ⟨hbefore ▸ hnone, hmade⟩)
    · rw [hnone] at hmade'
      cases hmade'
    · rw [hnone] at hfile
      cases hfile
  · refine .inr (.inr ⟨n, _, hn, hl, ?_, hfile⟩)
    rcases h.changed l with hbefore | ⟨-, hmade⟩ | ⟨_, _, -, -, hfree', -⟩
    · exact hbefore ▸ hfree
    · exact absurd hmade hfree
    · exact hfree'

namespace Batch

/-- What can be said of a batch that was begun on a disk: how the disk has changed, and what the tasks
have in their files. -/
structure Traced (m : Manner) (d : Disk) (outputs : List (Path × Text)) (b : Batch) : Prop extends
    Later d b where
  tasks : b.outputs = outputs
  held : ∀ (n : Nat) (t : Task), b.tasks[n]? = some t → t.Holds m b.disk (Alone d.setting outputs n)
  altered : Altered m d outputs b.disk

lemma traced_ofOutputs (m : Manner) (d : Disk) (outputs : List (Path × Text)) :
    Traced m d outputs (ofOutputs d outputs) := by
  refine ⟨later_ofOutputs d outputs, outputs_ofOutputs d outputs, fun n t ht => ?_, .refl m d outputs⟩
  unfold Task.Holds
  rw [stage_ofOutputs (List.mem_of_getElem? ht)]
  trivial

lemma Traced.step (h : Traced m d outputs b) (ht : b.tasks[n]? = some t)
    (hadvance : t.advance m b.disk = (f, t.goTo s)) (hstep : t.Step m b.disk f s) :
    Traced m d outputs (b.advance m n) := by
  obtain ⟨hlater, hafter⟩ := h.toLater.step ht hadvance hstep
  have hdisk := disk_advance ht hadvance
  have hn : outputs[n]? = some (t.path, t.content) := h.tasks ▸ getElem?_outputs ht
  have htouched := hstep.touched (h.held n t ht)
  refine ⟨hafter, (outputs_advance m b n).trans h.tasks, fun k u hu => ?_, ?_⟩
  · rw [hdisk]
    refine forall_tasks_advance ht hadvance
      (p := fun k u => u.Holds m f (Alone d.setting outputs k)) (hstep.holds (h.held n t ht))
      (fun k u hnk hu => ?_) hu
    · refine (h.held k u hu).touched hlater htouched fun l halone => ?_
      rw [hlater.setting, h.disk.setting]
      exact halone n _ hn hnk
  · rw [hdisk]
    exact h.altered.touched hlater hn htouched

lemma traced_run (m : Manner) (d : Disk) (outputs : List (Path × Text)) (schedule : List Nat) :
    Traced m d outputs ((ofOutputs d outputs).run m schedule) :=
  run_induction (P := Traced m d outputs) (traced_ofOutputs m d outputs)
    (fun _ _ _ _ _ h ht hadvance hstep => h.step ht hadvance hstep) schedule

end Batch

/-- Whatever comes of writing, no more has changed than by tasks. -/
lemma altered_writeBy (schedule : List Nat) (m : Manner) (d : Disk)
    (outputs : List (Path × Text)) : Altered m d outputs (writeBy schedule m d outputs).1 := by
  unfold writeBy
  split
  · exact .refl m d outputs
  · exact (Batch.traced_run m d outputs schedule).altered

/-- What is on the disk when outputs have been written: it is a later disk, each path leads to a file,
which has received its text if no other path leads there, and where no path leads nothing has changed
but that directories were made. -/
structure Written (m : Manner) (d : Disk) (outputs : List (Path × Text)) (e : Disk) : Prop where
  later : d.Later e
  files : ∀ n o, outputs[n]? = some o → ∃ l bytes, e.locate o.1 = .ok l ∧
    e.standing l = some (.file bytes) ∧ (Alone d.setting outputs n l → m.Writes o.2 bytes)
  elsewhere : ∀ l, (∀ o ∈ outputs, e.locate o.1 ≠ .ok l) → e.standing l = d.standing l ∨
    d.standing l = none ∧ e.standing l = some .directory

/-- **What has been written is there, and nothing else has changed.**  When outputs are written without
a failure, by whatever schedule that leaves nothing under way, their paths are given back in order, each
leads to a file that has received its text unless another path leads there too, and elsewhere at most
directories were made. -/
theorem written_of_writeBy {schedule : List Nat}
    (hrest : ((Batch.ofOutputs d outputs).run m schedule).AtRest) {paths : List Path}
    (h : writeBy schedule m d outputs = (e, .ok paths)) :
    paths = outputs.map Prod.fst ∧ Written m d outputs e := by
  obtain ⟨-, rfl, hfaults, rfl⟩ := writeBy_eq_ok_iff.1 h
  have htraced := Batch.traced_run m d outputs schedule
  refine ⟨rfl, htraced.disk, fun n o hn => ?_, fun l hl => ?_⟩
  · rw [← htraced.tasks] at hn
    obtain ⟨t, ht, rfl⟩ := Batch.exists_task_of_getElem?_outputs hn
    have hfinished := Batch.finished_of_atRest (Batch.recorded_run m d outputs schedule) hrest hfaults
      (List.mem_of_getElem? ht)
    have hholds := htraced.held n t ht
    unfold Task.Holds at hholds
    rw [hfinished] at hholds
    exact hholds
  · rcases htraced.altered.changed l with hsame | hmade | ⟨n, o, hn, hlead, -⟩
    · exact .inl hsame
    · exact .inr hmade
    · exact absurd hlead (hl o (List.mem_of_getElem? hn))

end Output

end Formwork
