import Formwork.CommandLine.Command
import Formwork.CommandLine.Host
import Formwork.CommandLine.Trouble

/-!
# Jobs

A job is a template that a command asks for: a file, or a preset.  Its rules and default values are
those of the preset, and the rules given on the command line come after them.
-/

namespace Formwork.CommandLine

/-- A template to be rendered. -/
structure Job where
  /-- The path of the file, or the name of the preset. -/
  label : Text
  source : Text
  preset : Option Preset := none

namespace Job

def ofPreset (p : Preset) : Job := ⟨p.name, p.source, some p⟩

/-- The rules that come with a job. -/
def rules (j : Job) : List Rule := (j.preset.map Preset.rules).getD []

/-- The values of a job under the given ones. -/
def values (j : Job) (given : Table Text) : Table Text :=
  match j.preset with
  | some p => p.values given
  | none => given

/-- The name of the output in a directory: that of the preset, or that of the file. -/
def outputFile (j : Job) (given : Table Text) : Except Trouble Text :=
  match j.preset with
  | some p => (p.outputFile given).mapError .name
  | none => .ok (Path.ofText j.label).name

/-- The output of a job under the given values and rules. -/
def scaffold (host : Host) (j : Job) (config : Config) (given : Table Text) (rules : List Rule) :
    Except Trouble Scaffold :=
  let engine : Engine := { config }
  match host.exhausts j.source (j.values given) (j.rules ++ rules) with
  | some error => .error (.exhausted error)
  | none => (engine.scaffold j.source (j.values given) (.list (j.rules ++ rules))).mapError .engine

end Job

/-! ## What the arguments ask for -/

/-- An argument that is given and not empty. -/
def nonempty : Option Text → Option Text
  | some [] => none
  | other => other

section Host

variable (host : Host)

/-- The options of a run: those of the environment, which must be good by themselves, and over
them those of the command line. -/
def configOf (env : Config.Environment) (indent force : Bool) (encoding : Option Text) :
    Except Trouble Config := do
  let fromEnvironment := Text.strip ((env.get? "STENCIL_ENCODING").getD [])
  let c ← (Config.ofEnvironmentBy host.codecs env).mapError (.config fromEnvironment)
  let name := (nonempty encoding).getD c.encoding
  let merged : Config := ⟨c.indentMultiline || indent, name, c.overwrite || force⟩
  (Config.readFieldsBy host.codecs .wide merged.toMembers).mapError (.config name)

def readTemplate (d : Disk) (encoding path : Text) : Except Trouble Text := do
  let p := Path.ofText path
  if ← (d.isFile p).mapError .disk then
    -- The codec is looked for when the file is open already.
    let bytes ← (d.read p).mapError .disk
    let codec ← (host.codecs.text encoding).mapError .encoding
    (codec.decodeLines bytes).mapError .undecodable
  else throw (.templateNotFound p)

def findPreset (name : Text) : Except Trouble Preset := (Preset.ofName name).mapError .preset

/-- The jobs for template files and presets, the files first. -/
def jobsOf (d : Disk) (encoding : Text) (templates presets : List Text) :
    Except Trouble (List Job) := do
  let files ← templates.mapM fun path => do return ⟨path, ← readTemplate host d encoding path, none⟩
  let others ← presets.mapM fun name => return Job.ofPreset (← findPreset name)
  let jobs := files ++ others
  if jobs.isEmpty then throw .noTemplate else return jobs

/-- The values of a file with those of assignments over them. -/
def valuesOf (d : Disk) (file : Option Text) (assignments : List Text) :
    Except Trouble (Table Text) := do
  let loaded ← match nonempty file with
    | some path => (ValuesFile.load host.readers d (Path.ofText path)).mapError .values
    | none => pure .empty
  let assigned ← assignments.mapM fun a => (readAssignment a).mapError .argument
  return loaded.setAll assigned

end Host

def derivationsOf (arguments : List Text) : Except Trouble (List Rule) :=
  arguments.mapM fun a => (readDerivation a).mapError .argument

end Formwork.CommandLine
