import Formwork.CommandLine.Run
import Formwork.Proofs.Preset.Name

/-!
# What a run tells, and to whom

What a run passes to the console may be refused.  Then what comes after it is not passed any more, and
the refusal is a trouble like any other, or nothing catches it if the run was reporting a trouble
already.  `Run.Reported` and `Run.Told` list the ways in which this can go, once for all: what is known
of a run that reports a trouble or announces something is shown by cases of them.
-/

namespace Formwork.CommandLine

variable {host : Host} {d : Disk} {before entries : List Console.Entry} {t : Trouble} {left : Run}
  {next : List Console.Entry → Run} {error : Foreign}

/-! ## The console -/

/-- The console takes all entries. -/
def Host.Takes (host : Host) (entries : List Console.Entry) : Prop :=
  ∀ e ∈ entries, host.refuses e = none

namespace Host

lemma print_of_takes (h : host.Takes entries) : host.print entries = (entries, none) := by
  induction entries with
  | nil => rfl
  | cons e entries ih =>
    obtain ⟨he, hrest⟩ := List.forall_mem_cons.1 h
    rw [print, he, ih hrest]

/-- What was passed when the console refuses an entry: those that it took before, and this one. -/
lemma exists_of_print_eq_some {passed : List Console.Entry}
    (h : host.print entries = (passed, some error)) :
    ∃ taken e behind, entries = taken ++ e :: behind ∧ host.Takes taken ∧
      host.refuses e = some error ∧ passed = taken ++ [e] := by
  induction entries generalizing passed with
  | nil => cases h
  | cons e entries ih =>
    rw [print] at h
    split at h
    · rename_i hrefused
      cases h
      exact ⟨[], e, entries, rfl, List.forall_mem_nil _, hrefused, rfl⟩
    · rename_i htaken
      obtain ⟨hpassed, herror⟩ := Prod.mk.inj h
      obtain ⟨taken, e', behind, rfl, htakes, hrefused, hrest⟩ := ih (Prod.ext rfl herror)
      refine ⟨e :: taken, e', behind, rfl, List.forall_mem_cons.2 ⟨htaken, htakes⟩, hrefused, ?_⟩
      rw [← hpassed]
      exact congrArg (e :: ·) hrest

lemma takes_of_print_eq_none {passed : List Console.Entry} (h : host.print entries = (passed, none)) :
    host.Takes entries ∧ passed = entries := by
  induction entries generalizing passed with
  | nil =>
    cases h
    exact ⟨List.forall_mem_nil _, rfl⟩
  | cons e entries ih =>
    rw [print] at h
    split at h
    · cases h
    · rename_i htaken
      obtain ⟨hpassed, herror⟩ := Prod.mk.inj h
      obtain ⟨htakes, hrest⟩ := ih (Prod.ext rfl herror)
      exact ⟨List.forall_mem_cons.2 ⟨htaken, htakes⟩, hpassed ▸ congrArg (e :: ·) hrest⟩

end Host

namespace Run

/-! ## Troubles -/

/-- How a run ends with a trouble: without a word, with a report, or with a report that the console
did not take to its end. -/
inductive Reported (host : Host) (d : Disk) (before : List Console.Entry) (t : Trouble) : Run → Prop
  | silent (unreported : t.isReported = false) :
    Reported host d before t { outcome := .crash t, disk := d, console := before }
  | whole (reported : t.isReported = true) (taken : host.Takes ((troubleMessages t).map .message)) :
    Reported host d before t
      { outcome := .exit (codeOf t), disk := d,
        console := before ++ (troubleMessages t).map .message }
  | cut {told behind : List Console.Message} {m : Console.Message} {error : Foreign}
    (reported : t.isReported = true) (messages : troubleMessages t = told ++ m :: behind)
    (refused : host.refuses (.message m) = some error) :
    Reported host d before t
      { outcome := .crash (.console error), disk := d,
        console := before ++ (told ++ [m]).map .message }

lemma reported_ofTrouble (host : Host) (d : Disk) (before : List Console.Entry) (t : Trouble) :
    Reported host d before t (ofTrouble host d before t) := by
  unfold ofTrouble
  split
  · rename_i hreported
    split
    · rename_i passed hprint
      obtain ⟨htakes, rfl⟩ := Host.takes_of_print_eq_none hprint
      exact .whole hreported htakes
    · rename_i passed error hprint
      obtain ⟨taken, e, behind, hsplit, htakes, hrefused, rfl⟩ := Host.exists_of_print_eq_some hprint
      obtain ⟨told, rest, hmessages, rfl, hrest⟩ := List.map_eq_append_iff.1 hsplit
      obtain ⟨m, others, rfl, rfl, -⟩ := List.map_eq_cons_iff.1 hrest
      have hconsole : told.map Console.Entry.message ++ [.message m] =
          (told ++ [m]).map .message := by simp
      rw [hconsole]
      exact .cut hreported hmessages hrefused
  · rename_i hsilent
    exact .silent (Bool.not_eq_true _ ▸ hsilent)

lemma codeOf_ne_success (t : Trouble) : codeOf t ≠ success := by
  unfold codeOf
  split <;> decide

lemma Reported.disk (h : Reported host d before t left) : left.disk = d := by
  cases h <;> rfl

lemma Reported.outcome_ne_success (h : Reported host d before t left) :
    left.outcome ≠ .exit success := by
  cases h with
  | silent => exact nofun
  | whole => exact fun h => codeOf_ne_success t (Outcome.exit.inj h)
  | cut => exact nofun

lemma disk_ofTrouble (host : Host) (d : Disk) (before : List Console.Entry) (t : Trouble) :
    (ofTrouble host d before t).disk = d := (reported_ofTrouble host d before t).disk

lemma outcome_ofTrouble_ne_success (host : Host) (d : Disk) (before : List Console.Entry)
    (t : Trouble) : (ofTrouble host d before t).outcome ≠ .exit success :=
  (reported_ofTrouble host d before t).outcome_ne_success

/-- A trouble that is a failure ends with the exit code of one, if the console takes the report. -/
lemma outcome_ofTrouble_of_isFailure (h : t.IsFailure)
    (htaken : host.Takes ((troubleMessages t).map .message)) (d : Disk)
    (before : List Console.Entry) : (ofTrouble host d before t).outcome = .exit failure := by
  unfold ofTrouble
  rw [if_pos h.1, Host.print_of_takes htaken]
  simp [codeOf, h.2]

/-! ## Announcements -/

/-- How a run goes on when it passes entries to the console: as it would, or with the trouble that one
was refused. -/
inductive Told (host : Host) (d : Disk) (before entries : List Console.Entry)
    (next : List Console.Entry → Run) : Run → Prop
  | all (taken : host.Takes entries) : Told host d before entries next (next (before ++ entries))
  | cut {told behind : List Console.Entry} {e : Console.Entry} {error : Foreign}
    (split : entries = told ++ e :: behind) (refused : host.refuses e = some error) :
    Told host d before entries next (ofTrouble host d (before ++ (told ++ [e])) (.console error))

lemma told_telling (host : Host) (d : Disk) (before entries : List Console.Entry)
    (next : List Console.Entry → Run) :
    Told host d before entries next (telling host d before entries next) := by
  unfold telling
  split
  · rename_i passed hprint
    obtain ⟨htakes, rfl⟩ := Host.takes_of_print_eq_none hprint
    exact .all htakes
  · rename_i passed error hprint
    obtain ⟨taken, e, behind, hsplit, -, hrefused, rfl⟩ := Host.exists_of_print_eq_some hprint
    exact .cut hsplit hrefused

lemma Told.disk (h : Told host d before entries next left) (hnext : ∀ sofar, (next sofar).disk = d) :
    left.disk = d := by
  cases h with
  | all => exact hnext _
  | cut => exact disk_ofTrouble host d _ _

lemma disk_telling (host : Host) (before entries : List Console.Entry)
    (hnext : ∀ sofar, (next sofar).disk = d) : (telling host d before entries next).disk = d :=
  (told_telling host d before entries next).disk hnext

lemma telling_of_takes (h : host.Takes entries) (d : Disk) (before : List Console.Entry)
    (next : List Console.Entry → Run) :
    telling host d before entries next = next (before ++ entries) := by
  unfold telling
  rw [Host.print_of_takes h]

/-- A run that succeeds has passed everything to the console. -/
lemma telling_of_success (h : (telling host d before entries next).outcome = .exit success) :
    host.Takes entries ∧ telling host d before entries next = next (before ++ entries) := by
  have htold := told_telling host d before entries next
  generalize telling host d before entries next = left at htold h ⊢
  cases htold with
  | all taken => exact ⟨taken, rfl⟩
  | cut => exact absurd h (outcome_ofTrouble_ne_success host d _ _)

/-- A run that succeeds with an output text has put it out. -/
lemma ofOutput_of_success {text : Text}
    (h : (ofOutput host d before text).outcome = .exit success) :
    ofOutput host d before text = { ofSuccess d before with stdout := text } := by
  unfold ofOutput at h ⊢
  split
  · rfl
  · rename_i hrejected
    rw [hrejected] at h
    exact absurd h (outcome_ofTrouble_ne_success host d before _)

end Run

end Formwork.CommandLine
