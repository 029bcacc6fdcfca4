import Formwork.CommandLine.Run

/-!
# The program

The program carries out its command line on the files that the command line is about.  It looks at
the paths that are mentioned, carries the command line out on what it has seen, looks at the places
where that would write, and carries it out again; what the second run leaves is then done to the
files.
-/

namespace Formwork.Program

/-- The path of a location, for the system. -/
def systemPath (l : Location) : String :=
  String.ofList ('/' :: List.intercalate ['/'] l.reverse)

/-- What stands at a location of the file system, whose directory is there.  A directory is known
by the error that reading it as a file gives. -/
def look (l : Location) : IO (Option Disk.Entry) := do
  try
    let content ← IO.FS.readBinFile (systemPath l)
    return some (.file content.toList)
  catch
    | .inappropriateType .. => return some .directory
    | _ => return none

/-- Enters what stands at a location, if its directory is there. -/
def see (d : Disk) (l : Location) : IO Disk := do
  if d.standing l.tail != some .directory then return d
  match ← look l with
  | some e => return d.put l e
  | none => return d

/-- Enters what stands on the way of a path. -/
def seePath (d : Disk) (p : Path) : IO Disk := do
  let mut disk := d
  let mut l := Disk.Setting.startFrom d.setting.here p.root
  for name in p.names.reverse do
    l := Disk.follow l name
    disk ← see disk l
  return disk

def mentioned : CommandLine.Command → List Text
  | .render r => r.templates ++ r.valuesFile.toList ++ r.output.toList
  | .inspect r => r.template.toList
  | _ => []

/-- What a disk holds that another does not, in the order in which it was made. -/
def news (before after : Disk) : List (Location × Disk.Entry) :=
  (after.entries.filter fun e => before.standing e.1 != some e.2).reverse

def perform (l : Location) (e : Disk.Entry) : IO Unit :=
  match e with
  | .directory => IO.FS.createDir (systemPath l)
  | .file content => IO.FS.writeBinFile (systemPath l) ⟨content.toArray⟩

def environment : IO Config.Environment := do
  let mut env : Config.Environment := .empty
  for name in ["STENCIL_INDENT_MULTILINE", "STENCIL_ENCODING", "STENCIL_OVERWRITE"] do
    if let some value ← IO.getEnv name then
      env := env.set name.toList value.toList
  return env

def display (r : CommandLine.Run) : IO Unit := do
  IO.print (String.ofList r.stdout)
  for e in r.console do
    let (text, isOutput) := e.plain
    if isOutput then IO.println (String.ofList text) else IO.eprintln (String.ofList text)

/-- Carries out a command line and gives the exit code. -/
def carryOut (arguments : List Text) : IO UInt32 := do
  let env ← environment
  let here := (Path.ofText (← IO.currentDir).toString.toList).names
  let mut disk : Disk := { setting := { here } }
  for path in ((CommandLine.Command.read arguments).map mentioned).getD [] do
    disk ← seePath disk (Path.ofText path)
  for (l, _) in news disk (CommandLine.run .library env disk arguments).disk do
    disk ← see disk l
  let r := CommandLine.run .library env disk arguments
  for (l, e) in news disk r.disk do
    perform l e
  display r
  match r.outcome with
  | .exit code => return code.toUInt32
  | .crash cause => throw (.userError (String.ofList cause.message))

end Formwork.Program

def main (arguments : List String) : IO UInt32 :=
  Formwork.Program.carryOut (arguments.map String.toList)
