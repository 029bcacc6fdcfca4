import Formwork.Proofs.Disk.Reach
import Formwork.Proofs.Output.Refusal

/-!
# The order of steps does not matter

The tasks of a batch share the disk, and a schedule says in which order they take their steps.  The
main statement, `Output.writeBy_interleaving`, is that for outputs that do not get in each other's
way the order is of no account: no task fails, and the disk that is left is the same.

What a task relies on is that its path aims at a location and that this location is as it was before
the task came (`Task.Fine`).  Its steps change this location, and beyond that they only make
directories above it where nothing stood (`Changed`).  Neither can disturb another task: the location
of that one is another and not above, and a directory on the way to it stays one (`Task.Fine.of_changed`).
So a step of one task leaves every task fine (`Batch.Underway.step`), and so does a run
(`Batch.underway_run`).  A fine task has not failed, so an interleaving takes every task to its end, and
the end of a run is known from the invariant alone.
-/

namespace Formwork.Output

variable {m : Manner} {d e f : Disk} {t u : Task} {s : Stage} {outputs : List (Path × Text)}
  {b : Batch} {l k : Location} {n : Nat}

/-! ## Outputs that can be written -/

/-- An output can be written by itself: its path aims at the location, where a file may be opened and
is not yet, unless it may be replaced, and its text has bytes, all of which a file receives. -/
structure Possible (m : Manner) (d : Disk) (path : Path) (content : Text) (l : Location) : Prop where
  aims : d.Aims path l
  openable : d.openable l = .ok ()
  free : m.replace = true ∨ d.standing l = none
  encodable : ∃ bytes, m.Encodes content bytes ∧ m.Writes content bytes

/-- Outputs can be written together: each can by itself, and no two lead to one location or to
locations that lie in each other. -/
structure Writable (m : Manner) (d : Disk) (outputs : List (Path × Text)) : Prop where
  possible : ∀ o ∈ outputs, ∃ l, Possible m d o.1 o.2 l
  distinct : outputs.Pairwise fun o o' => d.setting.Apart o.1 o'.1
  apart : ∀ o ∈ outputs, ∀ o' ∈ outputs, ∀ l l', d.setting.target o.1 = some l →
    d.setting.target o'.1 = some l' → ¬ Disk.Above l l'

lemma Writable.possible_of_target (h : Writable m d outputs) {o : Path × Text} (ho : o ∈ outputs)
    (hl : d.setting.target o.1 = some l) : Possible m d o.1 o.2 l := by
  obtain ⟨k, hk⟩ := h.possible o ho
  cases hl.symm.trans hk.aims.target
  exact hk

lemma Writable.refusal?_eq_none (h : Writable m d outputs) : refusal? m d outputs = none := by
  unfold refusal?
  split
  · rfl
  · rename_i hreplace
    have htaken : takenPlaces d outputs = .ok [] := by
      have hpossible := h.possible
      clear h
      induction outputs with
      | nil => rfl
      | cons o outputs ih =>
        obtain ⟨l, hl⟩ := hpossible o List.mem_cons_self
        have hholds := hl.aims.holds
        rw [hl.free.resolve_left hreplace] at hholds
        rw [takenPlaces, hholds, ih fun o' ho' => hpossible o' (List.mem_cons_of_mem _ ho')]
        rfl
    rw [htaken]

/-! ## One task -/

/-- A task that was begun on the first disk is fine on the second: it has not failed, its location is
as its steps have left it, and once it has provided the directories its path leads there. -/
def Task.Fine (m : Manner) (d e : Disk) (t : Task) (l : Location) : Prop :=
  match t.stage with
  | .check => e.standing l = d.standing l
  | .provide => e.standing l = d.standing l
  | .clear => e.standing l = d.standing l ∧ e.locate t.path = .ok l
  | .fill k => k = l ∧ e.standing l = some (.file []) ∧ e.locate t.path = .ok l
  | .finished =>
    (∃ bytes, m.Encodes t.content bytes ∧ e.standing l = some (.file bytes)) ∧ e.locate t.path = .ok l
  | .failed _ => False

/-- A step for a location: elsewhere, directories above it are made where nothing stood, and no more is
changed. -/
def Changed (e f : Disk) (l : Location) : Prop :=
  ∀ k, k ≠ l → f.standing k = e.standing k ∨
    e.standing k = none ∧ f.standing k = some .directory ∧ Disk.Above k l

lemma Changed.refl (e : Disk) (l : Location) : Changed e e l := fun _ _ => .inl rfl

namespace Task

/-- A fine task goes on with its next step, and is fine after it. -/
lemma Fine.step (h : t.Fine m d e l) (hpossible : Possible m d t.path t.content l)
    (hsetting : e.setting = d.setting)
    (haims : e.standing l = d.standing l → e.Aims t.path l) (hstep : t.Step m e f s) :
    (t.goTo s).Fine m d f l ∧ Changed e f l := by
  obtain ⟨bytes, hencodes, hwrites⟩ := hpossible.encodable
  obtain ⟨codec, hcodec, hwritten⟩ := hwrites
  have hopenable : e.standing l = d.standing l → e.openable l = .ok () := fun hsame =>
    (Disk.openable_congr hsetting hsame).trans hpossible.openable
  unfold Fine at h
  cases hstep with
  | ended stage =>
    refine ⟨?_, .refl e l⟩
    unfold Fine
    exact h
  | unseen stage look =>
    rw [stage] at h
    cases look.symm.trans (haims h).holds
  | taken stage look kept =>
    rw [stage] at h
    have hnone := h.trans (hpossible.free.resolve_left (by simp [kept]))
    have hlook := look.symm.trans (haims h).holds
    rw [hnone] at hlook
    cases hlook
  | passed stage look free =>
    rw [stage] at h
    exact ⟨h, .refl e l⟩
  | barred stage provide =>
    rw [stage] at h
    obtain ⟨g, hg, -⟩ := (haims h).provideAll
    cases provide.symm.trans hg
  | provided stage provide =>
    rw [stage] at h
    obtain ⟨g, hg, hlocate, hsame, hmade⟩ := (haims h).provideAll
    cases provide.symm.trans hg
    exact ⟨⟨hsame.trans h, hlocate⟩, fun k _ => hmade k⟩
  | nameless stage known =>
    cases hcodec.symm.trans known
  | unopened stage openFile =>
    rw [stage] at h
    have hopen := Disk.openFile_eq_ok_iff.2 ⟨h.2, hopenable h.1, rfl⟩
    cases openFile.symm.trans hopen
  | uncoded stage openFile known =>
    cases hcodec.symm.trans known
  | opened stage openFile known =>
    rw [stage] at h
    have hlater := Disk.later_openFile openFile
    obtain ⟨hk, hopen, rfl⟩ := Disk.openFile_eq_ok_iff.1 openFile
    cases hk.symm.trans h.2
    exact ⟨⟨rfl, Disk.standing_put_self (Disk.openable_ne_directory hopen) _, hlater.locate hk⟩,
      fun k hne => .inl (Disk.standing_put_of_ne e hne _)⟩
  | lost stage known =>
    cases hcodec.symm.trans known
  | unencodable stage known write =>
    cases hcodec.symm.trans known
    cases hwritten.symm.trans write
  | written stage write =>
    rw [stage] at h
    obtain ⟨rfl, hfile, hlocate⟩ := h
    cases Manner.Writes.unique write ⟨codec, hcodec, hwritten⟩
    have hself := Disk.standing_fill_self hfile bytes
    rw [List.drop_nil, List.append_nil] at hself
    exact ⟨⟨⟨bytes, hencodes, hself⟩, (Disk.later_fill hfile bytes).locate hlocate⟩,
      fun k hne => .inl (Disk.standing_fill_of_ne e hne _)⟩

/-- The step of another task leaves a task fine, when neither location is the other or above it. -/
lemma Fine.of_changed (h : u.Fine m d e l) (hlater : e.Later f) (hchanged : Changed e f k)
    (hne : l ≠ k) (houtside : ¬ Disk.Above l k) : u.Fine m d f l := by
  have hsame : f.standing l = e.standing l := by
    rcases hchanged l hne with hsame | ⟨-, -, habove⟩
    · exact hsame
    · exact absurd habove houtside
  unfold Fine at h ⊢
  cases hstage : u.stage with
  | check | provide =>
    rw [hstage] at h
    exact hsame.trans h
  | clear =>
    rw [hstage] at h
    exact ⟨hsame.trans h.1, hlater.locate h.2⟩
  | fill =>
    rw [hstage] at h
    exact ⟨h.1, hsame.trans h.2.1, hlater.locate h.2.2⟩
  | finished =>
    rw [hstage] at h
    obtain ⟨⟨bytes, hbytes, hfile⟩, hlocate⟩ := h
    exact ⟨⟨bytes, hbytes, hsame.trans hfile⟩, hlater.locate hlocate⟩
  | failed =>
    rw [hstage] at h
    exact h

end Task

/-! ## A batch -/

namespace Batch

/-- A batch for some outputs that was begun on a disk is under way: every task is fine, and where
no output leads, nothing has changed but that directories were made above locations of outputs. -/
structure Underway (m : Manner) (d : Disk) (outputs : List (Path × Text)) (b : Batch) : Prop extends
    Later d b where
  tasks : b.outputs = outputs
  fine : ∀ t ∈ b.tasks, ∀ l, d.setting.target t.path = some l → t.Fine m d b.disk l
  elsewhere : ∀ l, (∀ o ∈ outputs, d.setting.target o.1 ≠ some l) →
    b.disk.standing l = d.standing l ∨ d.standing l = none ∧ b.disk.standing l = some .directory ∧
      ∃ o ∈ outputs, ∃ k, d.setting.target o.1 = some k ∧ Disk.Above l k

lemma underway_ofOutputs (m : Manner) (d : Disk) (outputs : List (Path × Text)) :
    Underway m d outputs (ofOutputs d outputs) := by
  refine ⟨later_ofOutputs d outputs, outputs_ofOutputs d outputs, fun t ht l _ => ?_,
    fun _ _ => .inl rfl⟩
  unfold Task.Fine
  rw [stage_ofOutputs ht]
  rfl

namespace Underway

/-- A path still aims where it did, as long as its location is as it was: no other output leads to a
location on the way. -/
lemma aims (h : Underway m d outputs b) (hwritable : Writable m d outputs) {o : Path × Text}
    (ho : o ∈ outputs) (hl : d.setting.target o.1 = some l)
    (hsame : b.disk.standing l = d.standing l) : b.disk.Aims o.1 l := by
  refine (hwritable.possible_of_target ho hl).aims.mono h.disk hsame fun k hk hnone => ?_
  have hother : ∀ o' ∈ outputs, d.setting.target o'.1 ≠ some k :=
    fun o' ho' hk' => hwritable.apart o' ho' o ho k l hk' hl hk
  rcases h.elsewhere k hother with hbefore | ⟨-, hdirectory, -⟩
  · exact .inl (hbefore.trans hnone)
  · exact .inr hdirectory

lemma step (h : Underway m d outputs b) (hwritable : Writable m d outputs)
    (ht : b.tasks[n]? = some t) (hadvance : t.advance m b.disk = (f, t.goTo s))
    (hstep : t.Step m b.disk f s) : Underway m d outputs (b.advance m n) := by
  have hn : outputs[n]? = some (t.path, t.content) := h.tasks ▸ getElem?_outputs ht
  have ho : (t.path, t.content) ∈ outputs := List.mem_of_getElem? hn
  have hmem := List.mem_of_getElem? ht
  obtain ⟨l, hpossible⟩ := hwritable.possible _ ho
  have hl := hpossible.aims.target
  obtain ⟨hfine, hchanged⟩ := (h.fine t hmem l hl).step hpossible h.disk.setting
    (h.aims hwritable ho hl) hstep
  obtain ⟨hlater, hafter⟩ := h.toLater.step ht hadvance hstep
  have hdisk := disk_advance ht hadvance
  refine ⟨hafter, (outputs_advance m b n).trans h.tasks, fun u hu => ?_, fun k hk => ?_⟩
  · obtain ⟨k, hk⟩ := List.mem_iff_getElem?.1 hu
    rw [hdisk]
    refine forall_tasks_advance ht hadvance
      (p := fun _ u => ∀ l, d.setting.target u.path = some l → u.Fine m d f l) ?_
      (fun k u hnk hu l' hl' => ?_) hk
    · rintro l' hl'
      cases hl.symm.trans hl'
      exact hfine
    · have hk' : outputs[k]? = some (u.path, u.content) := h.tasks ▸ getElem?_outputs hu
      have ho' := List.mem_of_getElem? hk'
      refine (h.fine u (List.mem_of_getElem? hu) l' hl').of_changed hlater hchanged ?_
        (hwritable.apart _ ho' _ ho l' l hl' hl)
      rintro rfl
      exact alone_of_apart hwritable.distinct hk' hl' n _ hn hnk hl
  · rw [hdisk]
    have hkl : k ≠ l := by
      rintro rfl
      exact hk _ ho hl
    rcases hchanged k hkl with hsame | ⟨hnone, hdirectory, habove⟩
    · rw [hsame]
      exact h.elsewhere k hk
    · refine .inr ⟨?_, hdirectory, _, ho, l, hl, habove⟩
      rcases h.elsewhere k hk with hsame | ⟨hfree, -⟩
      · exact hsame ▸ hnone
      · exact hfree

end Underway

theorem underway_run (hwritable : Writable m d outputs) (schedule : List Nat) :
    Underway m d outputs ((ofOutputs d outputs).run m schedule) :=
  run_induction (P := Underway m d outputs) (underway_ofOutputs m d outputs)
    (fun _ _ _ _ _ h ht hadvance hstep => h.step hwritable ht hadvance hstep) schedule

lemma Underway.faults_eq_nil (h : Underway m d outputs b) (hwritable : Writable m d outputs)
    (hrecorded : b.Recorded) : b.faults = [] := by
  refine List.eq_nil_iff_forall_not_mem.2 fun cause hcause => ?_
  obtain ⟨t, ht, hfailed⟩ := (hrecorded cause).1 hcause
  have ho : (t.path, t.content) ∈ outputs := h.tasks ▸ List.mem_map_of_mem ht
  obtain ⟨l, hpossible⟩ := hwritable.possible _ ho
  have hfine := h.fine t ht l hpossible.aims.target
  unfold Task.Fine at hfine
  rw [hfailed] at hfine
  exact hfine

end Batch

/-! ## Any order -/

/-- What is left of outputs that are written: their paths lead to files with their bytes, above these
are directories, and everything else is as before. -/
structure Settled (m : Manner) (d : Disk) (outputs : List (Path × Text)) (e : Disk) : Prop where
  files : ∀ o ∈ outputs, ∃ l bytes, d.setting.target o.1 = some l ∧ e.locate o.1 = .ok l ∧
    m.Encodes o.2 bytes ∧ e.standing l = some (.file bytes)
  directories : ∀ o ∈ outputs, ∀ l, d.setting.target o.1 = some l → e.Way l
  others : ∀ k, (∀ o ∈ outputs, ∀ l, d.setting.target o.1 = some l → ¬ k <:+ l) →
    e.standing k = d.standing k

/-- There is only one way to settle outputs. -/
lemma Settled.standing_eq (he : Settled m d outputs e) (hf : Settled m d outputs f) :
    e.standing = f.standing := by
  funext k
  by_cases hk : ∃ o ∈ outputs, ∃ l, d.setting.target o.1 = some l ∧ k <:+ l
  · obtain ⟨o, ho, l, hl, hsuffix⟩ := hk
    rcases Disk.suffix_iff_eq_or_above.1 hsuffix with rfl | habove
    · obtain ⟨l, bytes, hl', -, hbytes, hfile⟩ := he.files o ho
      obtain ⟨l', bytes', hl'', -, hbytes', hfile'⟩ := hf.files o ho
      cases hl.symm.trans hl'
      cases hl.symm.trans hl''
      rw [hfile, hfile', hbytes.unique hbytes']
    · rw [he.directories o ho l hl k habove, hf.directories o ho l hl k habove]
  · have hother : ∀ o ∈ outputs, ∀ l, d.setting.target o.1 = some l → ¬ k <:+ l :=
      fun o ho l hl h => hk ⟨o, ho, l, hl, h⟩
    rw [he.others k hother, hf.others k hother]

/-- A batch whose tasks have all finished has settled its outputs. -/
lemma Batch.Underway.settled (h : Batch.Underway m d outputs b) (hwritable : Writable m d outputs)
    (hfinished : ∀ t ∈ b.tasks, t.stage = .finished) : Settled m d outputs b.disk := by
  have hleft : ∀ o ∈ outputs, ∀ l, d.setting.target o.1 = some l →
      (∃ bytes, m.Encodes o.2 bytes ∧ b.disk.standing l = some (.file bytes)) ∧
        b.disk.locate o.1 = .ok l := by
    intro o ho l hl
    rw [← h.tasks] at ho
    obtain ⟨t, ht, rfl⟩ := List.mem_map.1 ho
    have hfine := h.fine t ht l hl
    unfold Task.Fine at hfine
    rw [hfinished t ht] at hfine
    exact hfine
  refine ⟨fun o ho => ?_, fun o ho l hl => ?_, fun k hk => ?_⟩
  · obtain ⟨l, hpossible⟩ := hwritable.possible o ho
    have hl := hpossible.aims.target
    obtain ⟨⟨bytes, hbytes, hfile⟩, hlocate⟩ := hleft o ho l hl
    exact ⟨l, bytes, hl, hlocate, hbytes, hfile⟩
  · exact Disk.way_of_locate (hleft o ho l hl).2
  · have hother : ∀ o ∈ outputs, d.setting.target o.1 ≠ some k :=
      fun o ho hl => hk o ho k hl (List.suffix_refl k)
    rcases h.elsewhere k hother with hsame | ⟨-, -, o, ho, l, hl, habove⟩
    · exact hsame
    · exact absurd habove.1 (hk o ho l hl)

/-- **Outputs are written in any order of steps.**  When outputs can be written together, no task
fails, however far the tasks have come and in whatever order.  Every interleaving of their steps comes
to the paths of the outputs in order, and leaves files with their bytes where these lead, directories
above them, and everything else as before.  So all interleavings leave the same. -/
theorem writeBy_interleaving (hwritable : Writable m d outputs) :
    (∀ schedule, ((Batch.ofOutputs d outputs).run m schedule).faults = []) ∧
    (∀ schedule, Batch.IsInterleaving outputs.length schedule →
      ∃ e, writeBy schedule m d outputs = (e, .ok (outputs.map Prod.fst)) ∧
        Settled m d outputs e) ∧
    ∀ schedule schedule', Batch.IsInterleaving outputs.length schedule →
      Batch.IsInterleaving outputs.length schedule' →
      (writeBy schedule m d outputs).1.standing = (writeBy schedule' m d outputs).1.standing := by
  have hrun := Batch.underway_run hwritable
  have hrecorded := Batch.recorded_run m d outputs
  have hfaults := fun schedule => (hrun schedule).faults_eq_nil hwritable (hrecorded schedule)
  have hwrite : ∀ schedule, Batch.IsInterleaving outputs.length schedule →
      ∃ e, writeBy schedule m d outputs = (e, .ok (outputs.map Prod.fst)) ∧
        Settled m d outputs e := by
    intro schedule hschedule
    have hfinished := fun t (ht : t ∈ ((Batch.ofOutputs d outputs).run m schedule).tasks) =>
      Batch.finished_of_atRest (hrecorded schedule) (hschedule.atRest m d) (hfaults schedule) ht
    exact ⟨_, writeBy_eq_ok_iff.2 ⟨hwritable.refusal?_eq_none, rfl, hfaults schedule, rfl⟩,
      (hrun schedule).settled hwritable hfinished⟩
  refine ⟨hfaults, hwrite, ?_⟩
  intro schedule schedule' hschedule hschedule'
  obtain ⟨e, he, hsettled⟩ := hwrite schedule hschedule
  obtain ⟨e', he', hsettled'⟩ := hwrite schedule' hschedule'
  rw [he, he']
  exact hsettled.standing_eq hsettled'

def sharedDisk : Disk where
  entries := [(["old", "src", "work"], .file [1]), (["src", "work"], .directory)]
  setting := { here := ["work"] }

/-- A file to be replaced, and two in directories that have to be made, one of them in the directory
of the other and reached from the root. -/
def sharedOutputs : List (Path × Text) :=
  [(⟨[], ["x", "a", "src"]⟩, "1"), (⟨['/'], ["y", "b", "a", "src", "work"]⟩, "2"),
    (⟨[], ["old", "src"]⟩, "3")]

theorem writeBy_sharedOutputs :
    Writable { replace := true } sharedDisk sharedOutputs ∧
    Batch.IsInterleaving 3 [2, 0, 1, 0, 1, 1, 0, 2, 2, 0, 1, 2] ∧
    ∃ e, writeBy [2, 0, 1, 0, 1, 1, 0, 2, 2, 0, 1, 2] { replace := true } sharedDisk sharedOutputs =
        (e, .ok (sharedOutputs.map Prod.fst)) ∧
      Settled { replace := true } sharedDisk sharedOutputs e := by
  have hrooted : sharedDisk.Rooted := Disk.rooted_of_entries (by decide) fun _ => rfl
  have hplain : sharedDisk.setting.IsPlain := ⟨fun _ => rfl, fun _ _ => rfl⟩
  have hpossible : ∀ o ∈ sharedOutputs, Possible { replace := true } sharedDisk o.1 o.2
      (sharedDisk.setting.place o.1) := by
    intro o ho
    have hbytes : ∃ bytes, ({ replace := true } : Manner).Encodes o.2 bytes ∧
        ({ replace := true } : Manner).Writes o.2 bytes :=
      ⟨Encoding.encodeUtf8 o.2, ⟨_, rfl, rfl⟩, _, rfl, rfl⟩
    have hrest : ∀ o ∈ sharedOutputs, Disk.Setting.flaw? o.1 = none ∧ Disk.Inward o.1.names ∧
        sharedDisk.Clear (sharedDisk.setting.place o.1) ∧
        sharedDisk.standing (sharedDisk.setting.place o.1) ≠ some .directory ∧
        sharedDisk.openable (sharedDisk.setting.place o.1) = .ok () := by decide
    obtain ⟨hsound, hinward, hclear, hfree, hopenable⟩ := hrest o ho
    exact ⟨Disk.aims_of_clear hrooted hplain hsound hinward hclear hfree, hopenable, .inl rfl, hbytes⟩
  have hwritable : Writable { replace := true } sharedDisk sharedOutputs := by
    refine ⟨fun o ho => ⟨_, hpossible o ho⟩, by decide, fun o ho o' ho' l l' hl hl' => ?_⟩
    cases hl.symm.trans (hpossible o ho).aims.target
    cases hl'.symm.trans (hpossible o' ho').aims.target
    revert o o'
    decide
  have hschedule : Batch.IsInterleaving 3 [2, 0, 1, 0, 1, 1, 0, 2, 2, 0, 1, 2] := by decide
  exact ⟨hwritable, hschedule, (writeBy_interleaving hwritable).2.1 _ hschedule⟩

/-- A path that is too long, though its names are not. -/
def longPath : Path := ⟨[], List.replicate 17 (List.replicate 250 'a')⟩

def nullName : Path := ⟨[], [['a', '\x00']]⟩

/-- Outputs must have paths that can be looked at: the disk has a limit to the size of names and of
whole paths, and no name has the null character.  Apart from that each of these could be written on
the empty disk. -/
theorem writeBy_unspellable :
    (∀ path ∈ [longName, longPath, nullName], Disk.outwards ∉ path.names ∧
      (∃ bytes, ({} : Manner).Encodes [] bytes ∧ ({} : Manner).Writes [] bytes) ∧
      ({} : Disk).standing (({} : Disk).setting.place path) = none ∧
      ({} : Disk).Clear (({} : Disk).setting.place path)) ∧
    Batch.IsInterleaving 1 (Batch.inTurn 1) ∧
    (writeBy (Batch.inTurn 1) {} {} [(longName, [])]).2 = .error (.disk ⟨.nameTooLong, longName⟩) ∧
    (writeBy (Batch.inTurn 1) {} {} [(longPath, [])]).2 = .error (.disk ⟨.nameTooLong, longPath⟩) ∧
    (writeBy (Batch.inTurn 1) {} {} [(nullName, [])]).2 =
      .error (.disk ⟨.nullCharacter, nullName⟩) := by
  have hempty : ∀ l, ({} : Disk).Clear l := by
    intro l k _
    unfold Disk.standing
    split
    · exact .inr rfl
    · exact .inl rfl
  refine ⟨fun path hpath => ⟨?_, ⟨[], ⟨_, rfl, rfl⟩, _, rfl, rfl⟩, ?_, hempty _⟩, by decide, ?_, ?_, ?_⟩
  · revert path
    decide +kernel
  · revert path
    decide +kernel
  · decide +kernel
  · decide +kernel
  · decide +kernel

end Formwork.Output
