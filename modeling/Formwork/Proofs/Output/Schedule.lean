import Formwork.Proofs.Output.Step
import Formwork.Proofs.Stages
import Mathlib.Data.List.Nodup

/-!
# Schedules

The tasks of a batch take their steps as a schedule lists them.  What a step keeps, a run keeps
(`Batch.run_induction`).  So the paths and the texts of the tasks are still those of the outputs
(`Batch.outputs_run`), the disk is a later one (`Batch.later_run`), and what has gone wrong are the
causes of the tasks that have failed (`Batch.recorded_run`).

When a schedule leaves nothing under way and nothing has gone wrong, all tasks have finished
(`Batch.finished_of_atRest`).  An interleaving, which lists every task as often as it has steps, leaves
nothing under way (`Batch.IsInterleaving.atRest`).
-/

namespace Formwork.Output

variable {m : Manner} {d e : Disk} {t u : Task} {b : Batch} {cause : Fault}

namespace Batch

/-! ## Steps and runs -/

section Advance

variable {n : Nat} {f : Disk} {s : Stage} (ht : b.tasks[n]? = some t)
  (hadvance : t.advance m b.disk = (f, t.goTo s))

include ht hadvance

lemma disk_advance : (b.advance m n).disk = f := by rw [advance_of_some ht, hadvance]

/-- What holds of the task that takes a step and of all others holds of all tasks after it. -/
lemma forall_tasks_advance {p : Nat → Task → Prop} (hself : p n (t.goTo s))
    (hother : ∀ k u, n ≠ k → b.tasks[k]? = some u → p k u) {k : Nat}
    (hu : (b.advance m n).tasks[k]? = some u) : p k u := by
  rw [tasks_advance] at hu
  split at hu
  · rename_i hnk
    rw [← hnk, ht, Option.map_some, hadvance] at hu
    cases hu
    exact hnk ▸ hself
  · rename_i hnk
    exact hother k u hnk hu

lemma forall_mem_tasks_advance {p : Task → Prop} (hself : p (t.goTo s)) (hother : ∀ u ∈ b.tasks, p u) :
    ∀ u ∈ (b.advance m n).tasks, p u := by
  intro u hu
  obtain ⟨k, hk⟩ := List.mem_iff_getElem?.1 hu
  exact forall_tasks_advance ht hadvance (p := fun _ u => p u) hself
    (fun k u _ hu => hother u (List.mem_of_getElem? hu)) hk

end Advance

/-- What a step keeps, a run keeps. -/
theorem run_induction {P : Batch → Prop} (h : P b)
    (step : ∀ b n t f s, P b → b.tasks[n]? = some t → t.advance m b.disk = (f, t.goTo s) →
      t.Step m b.disk f s → P (b.advance m n)) (schedule : List Nat) : P (b.run m schedule) := by
  induction schedule generalizing b with
  | nil => exact h
  | cons n schedule ih =>
    refine ih ?_
    cases ht : b.tasks[n]? with
    | none =>
      rw [advance_of_none ht]
      exact h
    | some t =>
      obtain ⟨f, s, hadvance, hstep⟩ := t.step_advance m b.disk
      exact step b n t f s h ht hadvance hstep

/-! ## The outputs of a batch -/

/-- The outputs that the tasks of a batch are for. -/
def outputs (b : Batch) : List (Path × Text) := b.tasks.map fun t => (t.path, t.content)

lemma outputs_ofOutputs (d : Disk) (outputs : List (Path × Text)) :
    (ofOutputs d outputs).outputs = outputs := by
  unfold Batch.outputs ofOutputs
  rw [List.map_map]
  exact List.map_id outputs

lemma getElem?_outputs {n : Nat} (h : b.tasks[n]? = some t) :
    b.outputs[n]? = some (t.path, t.content) := by
  unfold outputs
  rw [List.getElem?_map, h]
  rfl

lemma exists_task_of_getElem?_outputs {n : Nat} {o : Path × Text} (h : b.outputs[n]? = some o) :
    ∃ t : Task, b.tasks[n]? = some t ∧ (t.path, t.content) = o := by
  unfold outputs at h
  rw [List.getElem?_map] at h
  exact Option.map_eq_some_iff.1 h

/-- Tasks keep their paths and texts. -/
lemma outputs_advance (m : Manner) (b : Batch) (n : Nat) : (b.advance m n).outputs = b.outputs := by
  refine List.ext_getElem? fun k => ?_
  unfold outputs
  rw [List.getElem?_map, List.getElem?_map, tasks_advance]
  split
  · rw [Option.map_map]
    congr 1
    funext t
    obtain ⟨f, s, hadvance, -⟩ := t.step_advance m b.disk
    rw [Function.comp_apply, hadvance]
    rfl
  · rfl

@[simp] lemma outputs_run (m : Manner) (b : Batch) (schedule : List Nat) :
    (b.run m schedule).outputs = b.outputs :=
  run_induction (P := fun c => c.outputs = b.outputs) rfl
    (fun c n _ _ _ h _ _ _ => (outputs_advance m c n).trans h) schedule

variable {outputs : List (Path × Text)}

lemma stage_ofOutputs (h : t ∈ (ofOutputs d outputs).tasks) : t.stage = .check := by
  obtain ⟨o, -, rfl⟩ := List.mem_map.1 h
  rfl

/-! ## The disk of a batch -/

/-- The disk is a later one than that at the beginning, and tasks that have opened a file have it. -/
structure Later (d : Disk) (b : Batch) : Prop where
  disk : d.Later b.disk
  opened : ∀ t ∈ b.tasks, t.Open b.disk

lemma later_ofOutputs (d : Disk) (outputs : List (Path × Text)) :
    Later d (ofOutputs d outputs) where
  disk := .refl d
  opened := by
    intro t ht l hl
    rw [stage_ofOutputs ht] at hl
    cases hl

lemma Later.step {n : Nat} {f : Disk} {s : Stage} (h : Later d b) (ht : b.tasks[n]? = some t)
    (hadvance : t.advance m b.disk = (f, t.goTo s)) (hstep : t.Step m b.disk f s) :
    b.disk.Later f ∧ Later d (b.advance m n) := by
  have hopen := h.opened t (List.mem_of_getElem? ht)
  have hlater := hstep.later hopen
  have hdisk := disk_advance ht hadvance
  refine ⟨hlater, hdisk ▸ h.disk.trans hlater, ?_⟩
  rw [hdisk]
  exact forall_mem_tasks_advance ht hadvance (hstep.open hopen) fun u hu => (h.opened u hu).later hlater

lemma later_run (m : Manner) (d : Disk) (outputs : List (Path × Text)) (schedule : List Nat) :
    Later d ((ofOutputs d outputs).run m schedule) :=
  run_induction (P := Later d) (later_ofOutputs d outputs)
    (fun _ _ _ _ _ h ht hadvance hstep => (h.step ht hadvance hstep).2) schedule

/-! ## What has gone wrong -/

lemma newFault?_eq_some_iff {before after : Stage} :
    newFault? before after = some cause ↔ (∀ c, before ≠ .failed c) ∧ after = .failed cause := by
  unfold newFault?
  split
  · simp
  · simp_all
  · rename_i h
    refine ⟨nofun, fun hafter => ?_⟩
    exact absurd hafter.2 (h cause)

/-- What has gone wrong are the causes of the tasks that have failed. -/
def Recorded (b : Batch) : Prop := ∀ cause, cause ∈ b.faults ↔ ∃ t ∈ b.tasks, t.stage = .failed cause

lemma recorded_advance {n : Nat} {f : Disk} {s : Stage} (h : b.Recorded) (ht : b.tasks[n]? = some t)
    (hadvance : t.advance m b.disk = (f, t.goTo s)) (hstep : t.Step m b.disk f s) :
    (b.advance m n).Recorded := by
  intro cause
  have htasks : ∀ k, (b.advance m n).tasks[k]? =
      if n = k then some (t.goTo s) else b.tasks[k]? := by
    intro k
    rw [tasks_advance]
    split
    · rename_i hk
      rw [← hk, ht, Option.map_some, hadvance]
    · rfl
  have hfaults : (b.advance m n).faults = b.faults ++ (newFault? t.stage s).toList := by
    rw [advance_of_some ht, hadvance]
    rfl
  rw [hfaults, List.mem_append, h cause, Option.mem_toList, newFault?_eq_some_iff]
  constructor
  · rintro (⟨u, hu, hfailed⟩ | ⟨-, rfl⟩)
    · obtain ⟨k, hk⟩ := List.mem_iff_getElem?.1 hu
      by_cases hnk : n = k
      · subst hnk
        cases ht.symm.trans hk
        refine ⟨t.goTo s, List.mem_of_getElem? ((htasks n).trans (if_pos rfl)), ?_⟩
        rw [Task.stage_goTo, (hstep.ends (by rw [hfailed]; rfl)).2, hfailed]
      · exact ⟨u, List.mem_of_getElem? ((htasks k).trans ((if_neg hnk).trans hk)), hfailed⟩
    · exact ⟨_, List.mem_of_getElem? ((htasks n).trans (if_pos rfl)), rfl⟩
  · rintro ⟨u, hu, hfailed⟩
    obtain ⟨k, hk⟩ := List.mem_iff_getElem?.1 hu
    rw [htasks] at hk
    split at hk
    · cases hk
      by_cases hbefore : ∃ c, t.stage = .failed c
      · obtain ⟨c, hc⟩ := hbefore
        refine .inl ⟨t, List.mem_of_getElem? ht, ?_⟩
        rw [← (hstep.ends (by rw [hc]; rfl)).2]
        exact hfailed
      · exact .inr ⟨fun c hc => hbefore ⟨c, hc⟩, hfailed⟩
    · exact .inl ⟨u, List.mem_of_getElem? hk, hfailed⟩

lemma recorded_run (m : Manner) (d : Disk) (outputs : List (Path × Text)) (schedule : List Nat) :
    ((ofOutputs d outputs).run m schedule).Recorded := by
  refine run_induction (P := Recorded) (fun cause => ?_)
    (fun _ _ _ _ _ h ht hadvance hstep => recorded_advance h ht hadvance hstep) schedule
  refine ⟨nofun, fun ⟨t, ht, hfailed⟩ => ?_⟩
  rw [stage_ofOutputs ht] at hfailed
  cases hfailed

/-- A batch in which nothing has gone wrong comes to the paths of its outputs, in order. -/
lemma result_eq_ok_iff {paths : List Path} :
    b.result = .ok paths ↔ b.faults = [] ∧ paths = b.outputs.map Prod.fst := by
  have hpaths : b.outputs.map Prod.fst = b.tasks.map Task.path := List.map_map ..
  unfold result
  cases b.faults with
  | nil => simp [hpaths, eq_comm]
  | cons cause causes => simp

lemma mem_faults_of_result (h : b.result = .error cause) : cause ∈ b.faults := by
  unfold result at h
  split at h
  · rename_i hfaults
    cases h
    rw [hfaults]
    exact List.mem_cons_self
  · cases h

/-- When nothing is under way and nothing has gone wrong, all tasks have finished. -/
theorem finished_of_atRest (hrecorded : b.Recorded) (hrest : b.AtRest) (h : b.faults = [])
    (ht : t ∈ b.tasks) : t.stage = .finished := by
  have hended := (hrest t ht).resolve_right fun hdropped => hdropped.1 h
  cases hstage : t.stage with
  | finished => rfl
  | failed cause =>
    have hmem := (hrecorded cause).2 ⟨t, ht, hstage⟩
    rw [h] at hmem
    cases hmem
  | check | provide | clear | fill =>
    rw [hstage] at hended
    cases hended

/-! ## Interleavings -/

/-- In the schedule every task stands as often as it has steps. -/
def IsInterleaving (count : Nat) (schedule : List Nat) : Prop :=
  ∀ n, schedule.count n = if n < count then Stage.check.stepsLeft else 0

instance (count : Nat) (schedule : List Nat) : Decidable (IsInterleaving count schedule) :=
  decidable_of_iff ((∀ n ∈ schedule, n < count) ∧
      ∀ n < count, schedule.count n = Stage.check.stepsLeft) <| by
    constructor
    · rintro ⟨hbound, hcount⟩ n
      split
      · rename_i hn
        exact hcount n hn
      · rename_i hn
        exact List.count_eq_zero.2 fun h => hn (hbound n h)
    · intro h
      refine ⟨fun n hn => ?_, fun n hn => (h n).trans (if_pos hn)⟩
      by_contra hlate
      have hzero := (h n).trans (if_neg hlate)
      exact List.count_eq_zero.1 hzero hn

/-- An interleaving leaves nothing under way. -/
lemma IsInterleaving.atRest {schedule : List Nat} (h : IsInterleaving outputs.length schedule)
    (m : Manner) (d : Disk) : ((ofOutputs d outputs).run m schedule).AtRest :=
  atRest_of_count m d outputs fun n hn => ((h n).trans (if_pos hn)).ge

end Batch

/-! ## Writing by a schedule -/

variable {outputs : List (Path × Text)} {schedule : List Nat}

/-- Writing succeeds when the batch is not refused and nothing goes wrong. -/
lemma writeBy_eq_ok_iff {paths : List Path} :
    writeBy schedule m d outputs = (e, .ok paths) ↔
      refusal? m d outputs = none ∧ e = ((Batch.ofOutputs d outputs).run m schedule).disk ∧
        ((Batch.ofOutputs d outputs).run m schedule).faults = [] ∧
        paths = outputs.map Prod.fst := by
  unfold writeBy
  cases refusal? m d outputs with
  | some cause => simp
  | none =>
    dsimp only
    rw [Prod.mk.injEq, Batch.result_eq_ok_iff, Batch.outputs_run, Batch.outputs_ofOutputs,
      eq_comm (a := e)]
    simp

/-- A refused batch does not change the disk. -/
lemma writeBy_of_refusal (h : refusal? m d outputs = some cause) (schedule : List Nat) :
    writeBy schedule m d outputs = (d, .error cause) := by
  unfold writeBy
  rw [h]

/-- Writing fails when the batch is refused, or else the failure is that of a task. -/
lemma writeBy_eq_error (h : writeBy schedule m d outputs = (e, .error cause)) :
    refusal? m d outputs = some cause ∧ e = d ∨
      refusal? m d outputs = none ∧ e = ((Batch.ofOutputs d outputs).run m schedule).disk ∧
        ∃ t ∈ ((Batch.ofOutputs d outputs).run m schedule).tasks, t.stage = .failed cause := by
  unfold writeBy at h
  cases hrefusal : refusal? m d outputs with
  | some other =>
    rw [hrefusal] at h
    cases h
    exact .inl ⟨rfl, rfl⟩
  | none =>
    rw [hrefusal] at h
    obtain ⟨hdisk, hresult⟩ := Prod.mk.inj h
    exact .inr ⟨rfl, hdisk.symm,
      (Batch.recorded_run m d outputs schedule cause).1 (Batch.mem_faults_of_result hresult)⟩

/-- Whatever comes of writing, the disk is a later one. -/
lemma later_writeBy (schedule : List Nat) (m : Manner) (d : Disk) (outputs : List (Path × Text)) :
    d.Later (writeBy schedule m d outputs).1 := by
  unfold writeBy
  split
  · exact .refl d
  · exact (Batch.later_run m d outputs schedule).disk

end Formwork.Output
