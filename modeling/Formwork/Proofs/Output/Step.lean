import Formwork.Output.Batch
import Formwork.Proofs.Disk.Change

/-!
# One step of a task

`Task.Step` lists what a step of a task can do: the disk and the stage that it leads to, for each stage
and each way in which the step can go.  `Task.step_advance` says that there is nothing else, so what is
said of tasks and batches is shown by cases of it.

A first consequence is that a task which has opened its file has a file to write to (`Task.Open`), and
that every step leads to a later disk (`Task.Step.later`).
-/

namespace Formwork.Output

variable {m : Manner} {e f : Disk} {t u : Task} {s : Stage}

/-- The bytes are those of the text in the codec that is asked for. -/
def Manner.Encodes (m : Manner) (content : Text) (bytes : Bytes) : Prop :=
  ∃ codec, m.codec = .ok codec ∧ codec.encode content = .ok bytes

/-- The bytes are those that a file has received when the text has been written to it. -/
def Manner.Writes (m : Manner) (content : Text) (bytes : Bytes) : Prop :=
  ∃ codec, m.codec = .ok codec ∧ codec.written content = .ok bytes

lemma Manner.Encodes.unique {content : Text} {bytes bytes' : Bytes} (h : m.Encodes content bytes)
    (h' : m.Encodes content bytes') : bytes = bytes' := by
  obtain ⟨codec, hcodec, hbytes⟩ := h
  obtain ⟨codec', hcodec', hbytes'⟩ := h'
  cases hcodec.symm.trans hcodec'
  exact Except.ok.inj (hbytes.symm.trans hbytes')

lemma Manner.Writes.unique {content : Text} {bytes bytes' : Bytes} (h : m.Writes content bytes)
    (h' : m.Writes content bytes') : bytes = bytes' := by
  obtain ⟨codec, hcodec, hbytes⟩ := h
  obtain ⟨codec', hcodec', hbytes'⟩ := h'
  cases hcodec.symm.trans hcodec'
  exact Except.ok.inj (hbytes.symm.trans hbytes')

/-- A file that a text is written to receives all its bytes. -/
def Manner.Whole (m : Manner) : Prop :=
  ∀ codec content, m.codec = .ok codec → codec.written content = codec.encode content

lemma Manner.Writes.encodes {content : Text} {bytes : Bytes} (h : m.Writes content bytes)
    (hwhole : m.Whole) : m.Encodes content bytes := by
  obtain ⟨codec, hcodec, hwritten⟩ := h
  exact ⟨codec, hcodec, (hwhole codec content hcodec).symm.trans hwritten⟩

namespace Task

@[simp] lemma stage_goTo (t : Task) (s : Stage) : (t.goTo s).stage = s := rfl

/-- What a step of a task can do. -/
inductive Step (m : Manner) (e : Disk) (t : Task) : Disk → Stage → Prop
  | ended (stage : t.stage.stepsLeft = 0) : Step m e t e t.stage
  | unseen {error : Disk.Error} (stage : t.stage = .check) (look : e.holds t.path = .error error) :
    Step m e t e (.failed (.disk error))
  | taken (stage : t.stage = .check) (look : e.holds t.path = .ok true) (kept : m.replace = false) :
    Step m e t e (.failed (.taken t.path))
  | passed {there : Bool} (stage : t.stage = .check) (look : e.holds t.path = .ok there)
    (free : (there && !m.replace) = false) : Step m e t e .provide
  | barred {f : Disk} {error : Disk.Error} (stage : t.stage = .provide)
    (provide : e.provideAll t.path.root t.path.parent.names = (f, some error)) :
    Step m e t f (.failed (.disk error))
  | provided {f : Disk} (stage : t.stage = .provide)
    (provide : e.provideAll t.path.root t.path.parent.names = (f, none)) : Step m e t f .clear
  | nameless (stage : t.stage = .clear) (known : m.codec = .error .nullCharacter) :
    Step m e t e (.failed (.encoding .nullCharacter))
  | unopened {error : Disk.Error} (stage : t.stage = .clear)
    (openFile : e.openFile t.path = .error error) : Step m e t e (.failed (.disk error))
  | uncoded {f : Disk} {l : Location} {cause : Encoding.NameError} (stage : t.stage = .clear)
    (openFile : e.openFile t.path = .ok (f, l)) (known : m.codec = .error cause) :
    Step m e t f (.failed (.encoding cause))
  | opened {f : Disk} {l : Location} {codec : Codec} (stage : t.stage = .clear)
    (openFile : e.openFile t.path = .ok (f, l)) (known : m.codec = .ok codec) : Step m e t f (.fill l)
  | lost {l : Location} {cause : Encoding.NameError} (stage : t.stage = .fill l)
    (known : m.codec = .error cause) : Step m e t e (.failed (.encoding cause))
  | unencodable {l : Location} {codec : Codec} {cause : Foreign} (stage : t.stage = .fill l)
    (known : m.codec = .ok codec) (write : codec.written t.content = .error cause) :
    Step m e t e (.failed (.unencodable cause))
  | written {l : Location} {bytes : Bytes} (stage : t.stage = .fill l)
    (write : m.Writes t.content bytes) : Step m e t (e.fill l bytes) .finished

/-- A step does one of the things that are listed. -/
theorem step_advance (m : Manner) (e : Disk) (t : Task) :
    ∃ f s, t.advance m e = (f, t.goTo s) ∧ t.Step m e f s := by
  obtain ⟨path, content, stage⟩ := t
  cases stage with
  | check =>
    change ∃ f s, (e, check m e _) = _ ∧ _
    unfold check
    split
    · rename_i hlook
      exact ⟨_, _, rfl, .unseen rfl hlook⟩
    · rename_i there hlook
      split
      · rename_i htaken
        rw [Bool.and_eq_true, Bool.not_eq_true'] at htaken
        exact ⟨_, _, rfl, .taken rfl (hlook.trans (congrArg _ htaken.1)) htaken.2⟩
      · rename_i hfree
        exact ⟨_, _, rfl, .passed rfl hlook (Bool.not_eq_true _ ▸ hfree)⟩
  | provide =>
    change ∃ f s, provide e _ = _ ∧ _
    unfold provide
    split
    · rename_i hprovide
      exact ⟨_, _, rfl, .barred rfl hprovide⟩
    · rename_i hprovide
      exact ⟨_, _, rfl, .provided rfl hprovide⟩
  | clear =>
    change ∃ f s, clear m e _ = _ ∧ _
    unfold clear
    split
    · rename_i hcodec
      exact ⟨_, _, rfl, .nameless rfl hcodec⟩
    · split
      · rename_i hopen
        exact ⟨_, _, rfl, .unopened rfl hopen⟩
      · rename_i hopen
        split
        · rename_i hcodec
          exact ⟨_, _, rfl, .uncoded rfl hopen hcodec⟩
        · rename_i hcodec
          exact ⟨_, _, rfl, .opened rfl hopen hcodec⟩
  | fill l =>
    change ∃ f s, fill m e _ l = _ ∧ _
    unfold fill
    split
    · rename_i hcodec
      exact ⟨_, _, rfl, .lost rfl hcodec⟩
    · rename_i codec hcodec
      split
      · rename_i hwrite
        exact ⟨_, _, rfl, .unencodable rfl hcodec hwrite⟩
      · rename_i hwrite
        exact ⟨_, _, rfl, .written rfl ⟨codec, hcodec, hwrite⟩⟩
  | finished => exact ⟨_, _, rfl, .ended rfl⟩
  | failed => exact ⟨_, _, rfl, .ended rfl⟩

/-- A task that has opened a file has it where its path leads. -/
def Open (e : Disk) (t : Task) : Prop :=
  ∀ l, t.stage = .fill l → e.locate t.path = .ok l ∧ ∃ bytes, e.standing l = some (.file bytes)

lemma Open.later (h : t.Open e) (hlater : e.Later f) : t.Open f := by
  intro l hl
  obtain ⟨hlocate, bytes, hfile⟩ := h l hl
  exact ⟨hlater.locate hlocate, hlater.files l bytes hfile⟩

/-- Every step leads to a later disk. -/
lemma Step.later (h : t.Step m e f s) (hopen : t.Open e) : e.Later f := by
  cases h with
  | barred stage provide | provided stage provide =>
    have hgrown := Disk.grown_provideAll e t.path.root t.path.parent.names
    rw [provide] at hgrown
    exact hgrown.toLater
  | uncoded stage openFile | opened stage openFile => exact Disk.later_openFile openFile
  | written stage write =>
    obtain ⟨-, bytes, hfile⟩ := hopen _ stage
    exact Disk.later_fill hfile _
  | _ => exact .refl e

lemma Step.open (h : t.Step m e f s) (hopen : t.Open e) : (t.goTo s).Open f := by
  cases h with
  | ended => exact hopen
  | opened stage openFile =>
    rintro l ⟨⟩
    obtain ⟨hl, hopenable, rfl⟩ := Disk.openFile_eq_ok_iff.1 openFile
    have hfree := Disk.openable_ne_directory hopenable
    exact ⟨(Disk.later_openFile openFile).locate hl, [], Disk.standing_put_self hfree _⟩
  | _ => nofun

/-- A task that has ended takes no more steps. -/
lemma Step.ends (h : t.Step m e f s) (hended : t.stage.stepsLeft = 0) : f = e ∧ s = t.stage := by
  cases h with
  | ended => exact ⟨rfl, rfl⟩
  | _ stage =>
    rw [stage] at hended
    cases hended

end Task

end Formwork.Output
