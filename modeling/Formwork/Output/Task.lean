import Formwork.Config.Fields
import Formwork.Disk
import Formwork.Encoding.Codec
import Formwork.Names

/-!
# Writing one output

Writing an output takes four steps, each of which looks at the disk as the step finds it:

* a file that is already there is refused, unless it may be replaced;
* the directories that lead to the file are provided;
* the file is opened, which leaves it empty;
* the encoded text is written to the file that was opened.

A `Task` is an output on its way through these steps.  The text is encoded in the last step, so a
text that has no bytes leaves an empty file behind; likewise for an encoding that does not exist,
which is noticed when the file is already open.
-/

namespace Formwork.Output

/-- Why an output is not written. -/
inductive Fault where
  /-- Something is there already. -/
  | taken (path : Path)
  /-- These places of a batch are taken. -/
  | allTaken (paths : List Path)
  | disk (cause : Disk.Error)
  | encoding (cause : Encoding.NameError)
  | unencodable (cause : Foreign)
  deriving Repr, DecidableEq

def Fault.message : Fault → Text
  | taken path => "Output file already exists: " ++ path.text
  | allTaken paths => "Output files already exist: " ++ Names.commaList (paths.map Path.text)
  | disk cause => cause.message
  | encoding cause => cause.message
  | unencodable cause => cause.message

/-- The next step of a task, or how it has ended. -/
inductive Stage where
  | check
  | provide
  | clear
  /-- The file at this location is open. -/
  | fill (l : Location)
  | finished
  | failed (cause : Fault)
  deriving Repr, DecidableEq

/-- The number of steps that are still to be taken. -/
def Stage.stepsLeft : Stage → Nat
  | check => 4
  | provide => 3
  | clear => 2
  | fill _ => 1
  | finished => 0
  | failed _ => 0

/-- An output on its way to the disk. -/
structure Task where
  path : Path
  content : Text
  stage : Stage := .check
  deriving Repr, DecidableEq

/-- How outputs are written: the codecs there are, the name of one of them, and whether files may
be replaced. -/
structure Manner where
  codecs : Codec.Table := Encoding.codecs
  encoding : Text := Config.defaultEncoding
  replace : Bool := false

def Manner.codec (m : Manner) : Except Encoding.NameError Codec := m.codecs.text m.encoding

namespace Task

def goTo (t : Task) (s : Stage) : Task := { t with stage := s }

def fail (t : Task) (cause : Fault) : Task := t.goTo (.failed cause)

/-- Refuses a place that is taken, or that cannot be looked at. -/
def check (m : Manner) (d : Disk) (t : Task) : Task :=
  match d.holds t.path with
  | .error e => t.fail (.disk e)
  | .ok there => if there && !m.replace then t.fail (.taken t.path) else t.goTo .provide

/-- Provides the directories that lead to the file. -/
def provide (d : Disk) (t : Task) : Disk × Task :=
  match d.provideAll t.path.root t.path.parent.names with
  | (d, some e) => (d, t.fail (.disk e))
  | (d, none) => (d, t.goTo .clear)

/-- Opens the file, which leaves it empty. -/
def clear (m : Manner) (d : Disk) (t : Task) : Disk × Task :=
  match m.codec with
  | .error .nullCharacter => (d, t.fail (.encoding .nullCharacter))
  | codec =>
    match d.openFile t.path with
    | .error e => (d, t.fail (.disk e))
    | .ok (d, l) =>
      match codec with
      | .error cause => (d, t.fail (.encoding cause))
      | .ok _ => (d, t.goTo (.fill l))

def fill (m : Manner) (d : Disk) (t : Task) (l : Location) : Disk × Task :=
  match m.codec with
  | .error cause => (d, t.fail (.encoding cause))
  | .ok codec =>
    match codec.written t.content with
    | .error cause => (d, t.fail (.unencodable cause))
    | .ok bytes => (d.fill l bytes, t.goTo .finished)

def advance (m : Manner) (d : Disk) (t : Task) : Disk × Task :=
  match t.stage with
  | .check => (d, t.check m d)
  | .provide => t.provide d
  | .clear => t.clear m d
  | .fill l => t.fill m d l
  | .finished => (d, t)
  | .failed _ => (d, t)

end Task

end Formwork.Output
