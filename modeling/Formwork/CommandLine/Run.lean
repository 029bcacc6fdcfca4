import Formwork.CommandLine.Job

/-!
# Runs

A run carries out a command line on a host and a disk, in an environment.  It leaves a disk, an output
text, what was passed to the console, and an outcome: an exit code, or trouble that is not reported.

Everything that can be checked is checked before anything is written: the templates are rendered
first, then the places of the outputs are chosen, and the whole batch is refused if one of them is
taken.

The console may fail to take what is passed to it.  This is trouble like any other, unless the run was
reporting a trouble already: then nothing catches it.
-/

namespace Formwork.CommandLine

/-- How a run ends. -/
inductive Outcome where
  | exit (code : Nat)
  | crash (cause : Trouble)
  deriving Repr, DecidableEq

/-- What a run leaves. -/
structure Run where
  outcome : Outcome
  disk : Disk
  stdout : Text := []
  /-- What was passed to the console, also if the console did not take it. -/
  console : List Console.Entry := []

namespace Run

/-- The exit code of a run that did what was asked. -/
def success : Nat := 0

/-- The exit code of a run that reported a trouble. -/
def failure : Nat := 1

/-- The exit code of a command line without a meaning. -/
def usage : Nat := 2

/-- The exit code of a run that found the program itself at fault. -/
def internal : Nat := 3

/-- The exit code for a trouble that is reported. -/
def codeOf (t : Trouble) : Nat := if t.isInternal then internal else failure

def complaint (t : Trouble) : Text :=
  if t.isInternal then "Internal error: " ++ t.message else t.message

/-- The messages about a trouble: what it is, and how each missing value can be given. -/
def troubleMessages (t : Trouble) : List Console.Message :=
  .error (complaint t) :: t.missing.map .hint

variable (host : Host)

/-- A run that fails after something has been passed to the console. -/
def ofTrouble (d : Disk) (before : List Console.Entry) (t : Trouble) : Run :=
  if t.isReported then
    match host.print ((troubleMessages t).map .message) with
    | (passed, none) => { outcome := .exit (codeOf t), disk := d, console := before ++ passed }
    | (passed, some error) =>
      { outcome := .crash (.console error), disk := d, console := before ++ passed }
  else { outcome := .crash t, disk := d, console := before }

/-- Passes entries to the console after others, and goes on if the console takes them. -/
def telling (d : Disk) (before entries : List Console.Entry) (next : List Console.Entry → Run) : Run :=
  match host.print entries with
  | (passed, none) => next (before ++ passed)
  | (passed, some error) => ofTrouble host d (before ++ passed) (.console error)

def ofSuccess (d : Disk) (console : List Console.Entry) : Run :=
  { outcome := .exit success, disk := d, console }

/-- A run that ends with an output text. -/
def ofOutput (d : Disk) (before : List Console.Entry) (text : Text) : Run :=
  match host.rejects text with
  | none => { ofSuccess d before with stdout := text }
  | some error => ofTrouble host d before (.stdout error)

def ofListing (d : Disk) (l : Console.Listing) : Run :=
  telling host d [] [.listing { l with toOutput := true }] (ofSuccess d)

end Run

/-! ## Rendering -/

/-- The outputs of a command, before they have a place. -/
structure Rendered where
  config : Config
  values : Table Text
  results : List (Job × Scaffold)

section Host

variable (host : Host)

/-- Renders what is asked for. -/
def prepare (env : Config.Environment) (d : Disk) (r : RenderRequest) : Except Trouble Rendered := do
  let config ← configOf host env r.indent r.force r.encoding
  let jobs ← jobsOf host d config.encoding r.templates r.presets
  let values ← valuesOf host d r.valuesFile r.assignments
  let rules ← derivationsOf r.derivations
  if 1 < jobs.length && (nonempty r.output).isNone then throw .noDirectory
  let results ← jobs.mapM fun j => do return (j, ← j.scaffold host config values rules)
  return { config, values, results }

end Host

/-- Whether a text ends as the path of a directory does. -/
def endsAsDirectory (s : Text) : Bool := s.getLast? == some '/' || s.getLast? == some '\\'

/-- The places of outputs in a directory, all of them different. -/
def placesIn (directory : Path) (values : Table Text) :
    List (Path × Text) → List (Job × Scaffold) → Except Trouble (List (Path × Text))
  | chosen, [] => .ok chosen
  | chosen, (j, s) :: rest => do
    let path := directory.join (Path.ofText (← j.outputFile values))
    if chosen.any fun c => c.1 == path then throw (.collision path)
    else placesIn directory values (chosen ++ [(path, s.output)]) rest

/-- The places of all outputs.  A single one goes to the given path itself, unless that is a
directory or ends as one. -/
def places (d : Disk) (output : Text) (r : Rendered) : Except Trouble (List (Path × Text)) := do
  let target := Path.ofText output
  match r.results with
  | [(j, s)] =>
    if (← (d.isDirectory target).mapError .disk) || endsAsDirectory output then
      placesIn target r.values [] [(j, s)]
    else return [(target, s.output)]
  | results => placesIn target r.values [] results

/-- The messages about the values of a run. -/
def warnings (r : Rendered) : List Console.Message :=
  (Bindings.mergedWarnings (r.results.map fun x => x.2.bindings)).map .warning

def wrote (p : Path) : Console.Message := .success ("Wrote " ++ p.text)

/-- How the outputs of a command are written. -/
def Rendered.manner (host : Host) (r : Rendered) : Output.Manner :=
  ⟨host.codecs, r.config.encoding, r.config.overwrite⟩

section Host

variable (host : Host)

/-- Writes the outputs to their places. -/
def deliver (d : Disk) (before : List Console.Entry) (output : Text) (r : Rendered) : Run :=
  match places d output r with
  | .error t => .ofTrouble host d before t
  | .ok outputs =>
    match host.scheduler.write (r.manner host) d outputs with
    | (d, .error cause) => .ofTrouble host d before (.output cause)
    | (d, .ok paths) => .telling host d before (paths.map fun p => .message (wrote p)) (.ofSuccess d)

/-- Renders templates; a single one without a place is the output of the run. -/
def runRender (env : Config.Environment) (d : Disk) (r : RenderRequest) : Run :=
  match prepare host env d r with
  | .error t => .ofTrouble host d [] t
  | .ok rendered =>
    .telling host d [] ((warnings rendered).map .message) fun before =>
      match nonempty r.output with
      | some output => deliver host d before output rendered
      | none => .ofOutput host d before ((rendered.results.head?.map fun x => x.2.output).getD [])

end Host

/-! ## Listing -/

/-- The template to be listed, and the preset it comes from. -/
def templateOf (host : Host) (d : Disk) (encoding : Text) (r : InspectRequest) :
    Except Trouble (Text × Option Preset) := do
  match nonempty r.preset, nonempty r.template with
  | some _, some _ => throw .bothGiven
  | some name, none => do
    let p ← findPreset name
    return (p.source, some p)
  | none, some path => return (← readTemplate host d encoding path, none)
  | none, none => throw .noTemplate

def slotRow (s : Slot) : List Text :=
  [s.name, Nat.toDigits 10 s.count, if s.derived then "yes" else []]

/-- The rows of names, each of which is looked up among the slots.  There are none if a name has no
slot. -/
def slotRows (names : List Text) (slots : List Slot) : Option (List (List Text)) :=
  names.mapM fun n => ((Template.slotTable slots).get? n).map slotRow

/-- In whatever order the slots of a template come, the rows of its names are those of its slots. -/
theorem slotRows_of_perm {t : Template} {derived : List Text} {slots : List Slot}
    (h : slots.Perm (t.slots derived)) :
    slotRows t.names slots = some ((t.slots derived).map slotRow) := by
  have hlookup : ∀ names : List Text, (∀ n ∈ names, n ∈ t.names) →
      slotRows names slots =
        some (names.map fun n => slotRow ⟨n, t.mentions.count n, derived.contains n⟩) := by
    intro names
    unfold slotRows
    induction names with
    | nil => intro _; rfl
    | cons n names ih =>
      intro hnames
      rw [List.mapM_cons, Template.get?_slotTable h (hnames n List.mem_cons_self),
        ih fun m hm => hnames m (List.mem_cons_of_mem n hm)]
      rfl
  rw [hlookup t.names fun _ hn => hn, Template.slots_eq, List.map_map]
  rfl

theorem isSome_slotRows (t : Template) (derived : List Text) :
    (slotRows t.names (t.slots derived)).isSome = true := by
  rw [slotRows_of_perm (List.Perm.refl _)]
  rfl

/-- The placeholders of a template, in the order of first mention.  Every name has a slot, so that
none is looked for in vain. -/
def inspect (host : Host) (env : Config.Environment) (d : Disk) (r : InspectRequest) :
    Except Trouble Console.Listing := do
  let config ← configOf host env false false r.encoding
  let (source, preset) ← templateOf host d config.encoding r
  let t ← (Template.parse source).mapError fun m => .engine (.malformed m)
  let rules ← derivationsOf r.derivations
  let own := (preset.map Preset.rules).getD []
  let derived := (own ++ rules).map Rule.name
  return {
    title := "Placeholders"
    columns := ["Placeholder", "Occurrences", "Derived"]
    rows := (slotRows t.names (t.slots derived)).get (isSome_slotRows t derived) }

def presetListing : Console.Listing where
  title := "Presets"
  columns := ["Preset", "Template", "Description"]
  rows := Preset.bundled.map fun p => [p.name, p.template, p.description]

def runInspect (host : Host) (env : Config.Environment) (d : Disk) (r : InspectRequest) : Run :=
  match inspect host env d r with
  | .error t => .ofTrouble host d [] t
  | .ok l => .ofListing host d l

/-! ## Command lines -/

def run (host : Host) (env : Config.Environment) (d : Disk) (arguments : List Text) : Run :=
  match Command.read arguments with
  | none => { outcome := .exit Run.usage, disk := d }
  | some .help => { outcome := .exit Run.success, disk := d }
  | some (.render r) => runRender host env d r
  | some (.inspect r) => runInspect host env d r
  | some .presets => .ofListing host d presetListing

end Formwork.CommandLine
