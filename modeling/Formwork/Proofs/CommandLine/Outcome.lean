import Formwork.Proofs.CommandLine.Directory
import Formwork.Proofs.CommandLine.Ending
import Formwork.Proofs.Config.Fields
import Formwork.Proofs.Output.Failure

/-!
# How a run ends

A command ends with success, with a failure that is reported, or abruptly.  The main statement,
`run_outcome`, says what it is that can end a command abruptly (`Unforeseen`), that a failure goes with
an error message, and that the exit code for a fault of the program itself does not occur.  It is about
all hosts, whatever codecs, readers and console they have, and all disks, whatever the system refuses.

What ends a command abruptly comes from four sides.  The system cannot look at a path or open a file; a
codec, a reader or the rendering fails in a way of its own; no file can be written at a place; or the
console or the output does not take what is passed to it.  The last has one case apart: while a trouble is
reported nothing catches what the console refuses, so the command ends abruptly after it has told of an
error.

Everything else is reported.  The encoding that is asked for is known once the options have been
accepted (`exists_codec_of_configOf`), so neither reading nor writing stumbles over its name.  The rules
of presets and arguments apply styles, which do not fail, and completed values suffice for a template
(`accounted_of_scaffold`).
-/

namespace Formwork

namespace CommandLine

variable {host : Host} {env : Config.Environment} {d e : Disk} {r : RenderRequest}
  {rendered : Rendered} {output encoding path : Text} {outputs : List (Path × Text)} {t : Trouble}
  {j : Job} {config : Config} {given : Table Text} {rules : List Rule} {command : Command}

/-! ## Options that have been accepted -/

lemma exists_codec_of_configOf {indent force : Bool} {asked : Option Text}
    (h : configOf host env indent force asked = .ok config) :
    ∃ codec, host.codecs config.encoding = .ok codec := by
  unfold configOf at h
  obtain ⟨_, -, h⟩ := Except.bind_eq_ok_iff.1 h
  exact Config.exists_lookup_of_readFieldsBy ⟨_, host.codecs_default⟩
    (Except.mapError_eq_ok_iff.1 h)

/-- A name that is known selects no codec for texts only if it is that of another codec. -/
lemma text_eq_error_of_known {codecs : Codec.Table} {name : Text} {cause : Encoding.NameError}
    (hknown : ∃ codec, codecs name = .ok codec) (h : codecs.text name = .error cause) :
    cause = .notText name ∧ ∃ codec, codecs name = .ok codec ∧ codec.isText = false := by
  obtain ⟨codec, hcodec⟩ := hknown
  unfold Codec.Table.text at h
  rw [hcodec] at h
  dsimp only at h
  split at h
  · cases h
  · rename_i hbytes
    cases h
    exact ⟨rfl, codec, hcodec, Bool.not_eq_true _ ▸ hbytes⟩

/-! ## Trouble -/

/-- The paths of templates that a command reads. -/
def Command.templates : Command → List Text
  | .render r => r.templates
  | .inspect r => (nonempty r.template).toList
  | _ => []

/-- What can end a command abruptly, and where it comes from. -/
inductive Unforeseen (host : Host) (env : Config.Environment) (d : Disk) : Command → Trouble → Prop
  /-- The path of a template cannot be looked at: it is too long, or the system refuses. -/
  | template {command : Command} {path : Text} {error : Disk.Error}
    (asked : path ∈ command.templates) (look : d.isFile (Path.ofText path) = .error error) :
    Unforeseen host env d command (.disk error)
  /-- The system refuses to have a template read. -/
  | unread {command : Command} {path : Text} {reason : Disk.Refusal}
    (asked : path ∈ command.templates)
    (read : d.read (Path.ofText path) = .error ⟨.refused reason, Path.ofText path⟩) :
    Unforeseen host env d command (.disk ⟨.refused reason, Path.ofText path⟩)
  /-- The encoding of templates is none of texts. -/
  | bytes {command : Command} {path name : Text} {codec : Codec} (asked : path ∈ command.templates)
    (known : host.codecs name = .ok codec) (other : codec.isText = false) :
    Unforeseen host env d command (.encoding (.notText name))
  /-- The bytes of a template make the codec fail in a way of its own. -/
  | decoder {command : Command} {path name : Text} {bytes : Bytes} {codec : Codec} {cause : Foreign}
    (asked : path ∈ command.templates) (read : d.read (Path.ofText path) = .ok bytes)
    (known : host.codecs.text name = .ok codec) (decode : codec.decode bytes = .error cause)
    (unexpected : cause.isExpected = false) : Unforeseen host env d command (.undecodable cause)
  /-- What should be a file of values is a directory, lies in a file, or cannot be opened. -/
  | values {r : RenderRequest} {path : Text} {error : Disk.Error}
    (asked : nonempty r.valuesFile = some path)
    (load : ValuesFile.load host.readers d (Path.ofText path) = .error (.disk error))
    (unexpected : Trouble.isExpectedOnDisk error.cause = false) :
    Unforeseen host env d (.render r) (.values (.disk error))
  /-- The text of a file of values makes its reader fail in a way of its own. -/
  | reader {r : RenderRequest} {path : Text} {cause : Foreign}
    (asked : nonempty r.valuesFile = some path)
    (load : ValuesFile.load host.readers d (Path.ofText path) = .error (.raised cause))
    (unexpected : cause.isExpected = false) :
    Unforeseen host env d (.render r) (.values (.raised cause))
  /-- There is no room for rendering. -/
  | room {r : RenderRequest} {source : Text} {given : Table Text} {rules : List Rule}
    {cause : Foreign} (exhausts : host.exhausts source given rules = some cause)
    (unexpected : cause.isExpected = false) : Unforeseen host env d (.render r) (.exhausted cause)
  /-- The path of the output cannot be looked at: it is too long, or the system refuses. -/
  | place {r : RenderRequest} {output : Text} {error : Disk.Error}
    (asked : nonempty r.output = some output)
    (look : d.isDirectory (Path.ofText output) = .error error) :
    Unforeseen host env d (.render r) (.disk error)
  /-- No file can be written at a place: a directory is there, a file is on the way, the path is too
  long, or the system refuses. -/
  | output {r : RenderRequest} {output : Text} {rendered : Rendered} {outputs : List (Path × Text)}
    {e : Disk} {error : Disk.Error} (asked : nonempty r.output = some output)
    (made : prepare host env d r = .ok rendered) (chosen : places d output rendered = .ok outputs)
    (write : host.scheduler.write (rendered.manner host) d outputs = (e, .error (.disk error)))
    (unexpected : Trouble.isExpectedOnDisk error.cause = false) :
    Unforeseen host env d (.render r) (.output (.disk error))
  /-- The encoding of outputs is none of texts. -/
  | unwritten {r : RenderRequest} {output name : Text} {codec : Codec}
    (asked : nonempty r.output = some output) (known : host.codecs name = .ok codec)
    (other : codec.isText = false) :
    Unforeseen host env d (.render r) (.output (.encoding (.notText name)))
  /-- An output makes the codec fail in a way of its own. -/
  | encoder {r : RenderRequest} {output content name : Text} {codec : Codec} {cause : Foreign}
    (asked : nonempty r.output = some output) (known : host.codecs.text name = .ok codec)
    (encode : codec.written content = .error cause) (unexpected : cause.isExpected = false) :
    Unforeseen host env d (.render r) (.output (.unencodable cause))
  /-- The output of the run does not take a text. -/
  | stdout {r : RenderRequest} {text : Text} {cause : Foreign}
    (rejected : host.rejects text = some cause) (unexpected : cause.isExpected = false) :
    Unforeseen host env d (.render r) (.stdout cause)
  /-- The console does not take what is announced or listed. -/
  | console {command : Command} {entry : Console.Entry} {cause : Foreign}
    (refused : host.refuses entry = some cause) (unexpected : cause.isExpected = false) :
    Unforeseen host env d command (.console cause)
  /-- The console does not take what is told of a trouble. -/
  | report {command : Command} {m : Console.Message} {cause : Foreign}
    (told : (∃ text, m = .error text) ∨ ∃ name, m = .hint name)
    (refused : host.refuses (.message m) = some cause) :
    Unforeseen host env d command (.console cause)

/-- The outputs of a command lie in one directory, and they lead outwards only if the place that was
given does. -/
lemma exists_parent_of_places (hfrom : ∀ x ∈ rendered.results, x.1.From d)
    (h : places d output rendered = .ok outputs) :
    ∃ q : Path, ∀ o ∈ outputs, o.1.parent = q ∧
      (Disk.outwards ∈ o.1.names → Disk.outwards ∈ (Path.ofText output).names) := by
  rcases places_cases d output rendered with
    ⟨error, -, -, hplaces⟩ | ⟨x, -, -, -, hplaces⟩ | ⟨-, hplaces⟩
  · cases hplaces.symm.trans h
  · cases hplaces.symm.trans h
    exact ⟨_, List.forall_mem_singleton.2 ⟨rfl, id⟩⟩
  · obtain ⟨_, rfl, -, hnamed⟩ := exists_named_of_placesIn (hplaces.symm.trans h) .nil
    have hplaced := ((List.forall₂_and_left _ _).2 ⟨hfrom, hnamed⟩).imp
      fun x o ⟨hx, ho⟩ => ho.isPlaced hx
    refine ⟨⟨(Path.ofText output).root, (Path.ofText output).names⟩, ?_⟩
    refine Except.forall_of_forall₂ hplaced fun x o ho => ?_
    rw [ho.path]
    refine ⟨rfl, fun houtwards => ?_⟩
    rcases List.mem_cons.1 houtwards with hname | hin
    · exact absurd hname.symm ho.entry.notOutwards
    · exact hin

variable {before : List Console.Entry}

end CommandLine

end Formwork
