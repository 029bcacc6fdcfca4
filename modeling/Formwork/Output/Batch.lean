import Formwork.Output.Task

/-!
# Writing several outputs

The outputs of a batch are written by tasks that take their steps in turn.  Which task takes the
next step is up to a schedule, a list of the numbers of tasks.

Unless files may be replaced, the batch is refused as a whole when one of its places is taken.
When a task fails this is reported, the earliest failure if there are several.  The others still
run, but for those that have done no more than their check, which may be dropped; otherwise a
schedule takes every task to its end (`Scheduler`).
-/

namespace Formwork.Output

/-- Outputs under way, the disk as they have left it, and what has gone wrong so far, the earliest
first. -/
structure Batch where
  disk : Disk
  tasks : List Task
  faults : List Fault := []

namespace Batch

/-- The tasks of outputs that are to be written. -/
def ofOutputs (d : Disk) (outputs : List (Path × Text)) : Batch :=
  { disk := d, tasks := outputs.map fun (path, content) => { path, content } }

/-- What has gone wrong in a step between two stages. -/
def newFault? (before after : Stage) : Option Fault :=
  match before, after with
  | .failed _, _ => none
  | _, .failed cause => some cause
  | _, _ => none

/-- The next step of the task of a number. -/
def advance (m : Manner) (b : Batch) (n : Nat) : Batch :=
  match b.tasks[n]? with
  | none => b
  | some t =>
    let (d, u) := t.advance m b.disk
    ⟨d, b.tasks.set n u, b.faults ++ (newFault? t.stage u.stage).toList⟩

def run (m : Manner) (b : Batch) (schedule : List Nat) : Batch := schedule.foldl (advance m) b

/-- What the batch comes to: the paths in order, or the earliest failure. -/
def result (b : Batch) : Except Fault (List Path) :=
  match b.faults with
  | cause :: _ => .error cause
  | [] => .ok (b.tasks.map Task.path)

/-- Nothing is under way: every task has ended, or something has gone wrong before it did more than
its check. -/
def AtRest (b : Batch) : Prop :=
  ∀ t ∈ b.tasks, t.stage.stepsLeft = 0 ∨ b.faults ≠ [] ∧ t.stage = .provide

end Batch

/-! ## Writing -/

/-- The paths of outputs whose places are taken. -/
def takenPlaces (d : Disk) : List (Path × Text) → Except Disk.Error (List Path)
  | [] => .ok []
  | (path, _) :: rest => do
    let there ← d.holds path
    let others ← takenPlaces d rest
    return if there then path :: others else others

/-- Why a batch is refused before anything is written. -/
def refusal? (m : Manner) (d : Disk) (outputs : List (Path × Text)) : Option Fault :=
  if m.replace then none
  else
    match takenPlaces d outputs with
    | .error e => some (.disk e)
    | .ok [] => none
    | .ok paths => some (.allTaken paths)

/-- Writes outputs by tasks that take their steps as a schedule lists them.  Their paths are given
back. -/
def writeBy (schedule : List Nat) (m : Manner) (d : Disk) (outputs : List (Path × Text)) :
    Disk × Except Fault (List Path) :=
  match refusal? m d outputs with
  | some cause => (d, .error cause)
  | none =>
    let b := (Batch.ofOutputs d outputs).run m schedule
    (b.disk, b.result)

/-- Who chooses the schedules of batches. -/
structure Scheduler where
  schedule : Manner → Disk → List (Path × Text) → List Nat
  atRest (m : Manner) (d : Disk) (outputs : List (Path × Text)) :
    ((Batch.ofOutputs d outputs).run m (schedule m d outputs)).AtRest

def Scheduler.write (s : Scheduler) (m : Manner) (d : Disk) (outputs : List (Path × Text)) :
    Disk × Except Fault (List Path) :=
  writeBy (s.schedule m d outputs) m d outputs

/-- Writes one output.  Its place is given back. -/
def writeOne (m : Manner) (d : Disk) (path : Path) (content : Text) : Disk × Except Fault Path :=
  let b := (Batch.ofOutputs d [(path, content)]).run m [0, 0, 0, 0]
  (b.disk, b.result.map fun _ => path)

/-! ## Schedules -/

namespace Task

/-- A step leaves a task one step less. -/
theorem stepsLeft_advance (m : Manner) (d : Disk) (t : Task) :
    (t.advance m d).2.stage.stepsLeft ≤ t.stage.stepsLeft - 1 := by
  obtain ⟨path, content, stage⟩ := t
  cases stage with
  | check =>
    change (check m d _).stage.stepsLeft ≤ 3
    unfold check
    split
    · exact Nat.zero_le _
    · split
      · exact Nat.zero_le _
      · exact Nat.le_refl _
  | provide =>
    change (provide d _).2.stage.stepsLeft ≤ 2
    unfold provide
    split
    · exact Nat.zero_le _
    · exact Nat.le_refl _
  | clear =>
    change (clear m d _).2.stage.stepsLeft ≤ 1
    unfold clear
    split
    · exact Nat.zero_le _
    · split
      · exact Nat.zero_le _
      · split
        · exact Nat.zero_le _
        · exact Nat.le_refl _
  | fill l =>
    change (fill m d _ l).2.stage.stepsLeft ≤ 0
    unfold fill
    split
    · exact Nat.le_refl _
    · split <;> exact Nat.le_refl _
  | finished | failed => exact Nat.le_refl _

end Task

namespace Batch

variable {m : Manner} {b : Batch} {t : Task}

theorem advance_of_some {n : Nat} (h : b.tasks[n]? = some t) :
    b.advance m n = ⟨(t.advance m b.disk).1, b.tasks.set n (t.advance m b.disk).2,
      b.faults ++ (newFault? t.stage (t.advance m b.disk).2.stage).toList⟩ := by
  unfold advance
  rw [h]

theorem advance_of_none {n : Nat} (h : b.tasks[n]? = none) : b.advance m n = b := by
  unfold advance
  rw [h]

/-- A step moves the task of its number and no other. -/
theorem tasks_advance (m : Manner) (b : Batch) (n k : Nat) :
    (b.advance m n).tasks[k]? =
      if n = k then (b.tasks[k]?).map fun t => (t.advance m b.disk).2 else b.tasks[k]? := by
  cases hn : b.tasks[n]? with
  | none =>
    rw [advance_of_none hn]
    split
    · rename_i hk
      rw [← hk, hn]
      rfl
    · rfl
  | some t =>
    rw [advance_of_some hn]
    dsimp only
    rw [List.getElem?_set]
    split
    · rename_i hk
      rw [← hk, hn, if_pos (List.getElem?_eq_some_iff.1 hn).1]
      rfl
    · rfl

/-- Every time that a schedule lists a task, the task has one step less to take. -/
theorem stepsLeft_run (m : Manner) (b : Batch) (schedule : List Nat) {n : Nat} {u : Task}
    (h : (b.run m schedule).tasks[n]? = some u) :
    ∃ t, b.tasks[n]? = some t ∧ u.stage.stepsLeft ≤ t.stage.stepsLeft - schedule.count n := by
  induction schedule generalizing b with
  | nil => exact ⟨u, h, Nat.le_refl _⟩
  | cons k schedule ih =>
    obtain ⟨t', ht', hsteps⟩ := ih (b.advance m k) h
    rw [tasks_advance] at ht'
    split at ht'
    · rename_i hk
      subst hk
      obtain ⟨t, ht, rfl⟩ := Option.map_eq_some_iff.1 ht'
      have hstep := t.stepsLeft_advance m b.disk
      refine ⟨t, ht, ?_⟩
      rw [List.count_cons_self]
      omega
    · rename_i hk
      rw [List.count_cons_of_ne hk]
      exact ⟨t', ht', hsteps⟩

/-- A schedule by which all tasks make their check, and then each ends before the next goes on. -/
def inTurn (count : Nat) : List Nat :=
  List.range count ++ (List.range count).flatMap fun n => List.replicate 3 n

/-- A schedule that lists every task as often as it has steps leaves nothing under way. -/
theorem atRest_of_count (m : Manner) (d : Disk) (outputs : List (Path × Text)) {schedule : List Nat}
    (h : ∀ n < outputs.length, 4 ≤ schedule.count n) :
    ((ofOutputs d outputs).run m schedule).AtRest := by
  intro u hu
  obtain ⟨n, hn⟩ := List.mem_iff_getElem?.1 hu
  obtain ⟨t, ht, hsteps⟩ := stepsLeft_run m _ schedule hn
  have hlength : n < outputs.length := by
    have hn := (List.getElem?_eq_some_iff.1 ht).1
    rwa [show (ofOutputs d outputs).tasks.length = outputs.length from List.length_map ..] at hn
  have hfresh : t.stage.stepsLeft = 4 := by
    obtain ⟨o, -, rfl⟩ := List.mem_map.1 (List.mem_of_getElem? ht)
    rfl
  have hcount := h n hlength
  exact .inl (by omega)

theorem count_inTurn {n count : Nat} (h : n < count) : (inTurn count).count n = 4 := by
  have hlisted : ∀ k, (List.range k).count n = if n < k then 1 else 0 := by
    intro k
    induction k with
    | zero => rfl
    | succ k ih =>
      rw [List.range_succ, List.count_append, ih, List.count_singleton]
      by_cases hn : k = n
      · simp [hn]
      · have hless : n < k + 1 ↔ n < k := by omega
        simp [hn, hless]
  have hrepeated : ∀ k, ((List.range k).flatMap fun n => List.replicate 3 n).count n =
      if n < k then 3 else 0 := by
    intro k
    induction k with
    | zero => rfl
    | succ k ih =>
      rw [List.range_succ, List.flatMap_append, List.count_append, ih, List.flatMap_singleton,
        List.count_replicate]
      by_cases hn : k = n
      · simp [hn]
      · have hless : n < k + 1 ↔ n < k := by omega
        simp [hn, hless]
  rw [inTurn, List.count_append, hlisted, hrepeated, if_pos h, if_pos h]

end Batch

/-- Schedules by which one task follows the other. -/
def Scheduler.inTurn : Scheduler where
  schedule := fun _ _ outputs => Batch.inTurn outputs.length
  atRest := fun m d outputs => Batch.atRest_of_count m d outputs fun _ h =>
    Nat.le_of_eq (Batch.count_inTurn h).symm

end Formwork.Output
