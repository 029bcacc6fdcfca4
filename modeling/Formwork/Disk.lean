import Formwork.Encoding.Unicode
import Formwork.Path
import Formwork.Text.Quoted

/-!
# The disk

The disk is a table of locations, each a directory or a file with its bytes.  A location is a list
of names that leads inwards from the root, innermost first.  The working directory has a location
too, so that paths from the root and paths from there can meet.

Some things about a disk never change here, its `Setting`: where the working directory is, which
locations are links to other paths, and what the system refuses for reasons of its own, such as
missing permissions.  A second name for a file is taken as a link to the first.

A path is resolved name by name.  Every name on the way must be that of a directory which may be
searched, and a link is replaced by the path that it stands for, up to a limit.  What an operation
finds wrong is a cause with a number and a fixed text, together with the path.
-/

namespace Formwork

/-- A place on the disk, innermost name first; the root is the empty list. -/
abbrev Location := List Text

/-- What stands at a location. -/
inductive Disk.Entry where
  | directory
  | file (content : Bytes)
  deriving Repr, DecidableEq

namespace Disk

/-! ## Errors -/

/-- An error that the system gives for reasons of its own.  The numbers that have a meaning for
the operations below are excluded. -/
structure Refusal where
  number : Nat
  text : Text
  isOwn : number ∉ [2, 9, 17, 20, 40]
  deriving Repr, DecidableEq

/-- What is wrong with a path. -/
inductive Cause where
  | absent
  | present
  | notDirectory
  | isDirectory
  | nameTooLong
  | tooManyLinks
  /-- No path holds the null character. -/
  | nullCharacter
  | refused (reason : Refusal)
  deriving Repr, DecidableEq

structure Error where
  cause : Cause
  path : Path
  deriving Repr, DecidableEq

def Cause.description : Cause → Nat × Text
  | absent => (2, "No such file or directory")
  | present => (17, "File exists")
  | notDirectory => (20, "Not a directory")
  | isDirectory => (21, "Is a directory")
  | nameTooLong => (36, "File name too long")
  | tooManyLinks => (40, "Too many levels of symbolic links")
  | nullCharacter => (0, "embedded null byte")
  | refused reason => (reason.number, reason.text)

def Error.message (e : Error) : Text :=
  let (number, text) := e.cause.description
  if e.cause = .nullCharacter then text
  else "[Errno " ++ Nat.toDigits 10 number ++ "] " ++ text ++ ": " ++ Text.quoted e.path.text

/-! ## The setting -/

inductive Access where
  /-- To look up a name in a directory. -/
  | search
  | read
  | write
  /-- To make a file or a directory where nothing is. -/
  | make
  deriving Repr, DecidableEq

/-- What never changes about a disk. -/
structure Setting where
  /-- The working directory. -/
  here : Location := []
  links : Location → Option Path := fun _ => none
  refuses : Access → Location → Option Refusal := fun _ _ => none

end Disk

/-- A disk: its setting and what was made on it.  The first entry of a location counts. -/
structure Disk where
  entries : List (Location × Disk.Entry) := []
  setting : Disk.Setting := {}

namespace Disk

/-- Whether a location is there without having been made: the working directory and all that it
lies in. -/
def Setting.isGiven (s : Setting) (l : Location) : Bool := l.isSuffixOf s.here

/-- What stands at a location.  For a link this is not asked. -/
def standing (d : Disk) (l : Location) : Option Entry :=
  if d.setting.isGiven l then some .directory
  else (d.entries.find? fun e => e.1 == l).map Prod.snd

/-! ## Where paths lead -/

/-- The name that leads outwards. -/
def outwards : Text := ['.', '.']

def follow (l : Location) (name : Text) : Location := if name = outwards then l.tail else name :: l

def maxNameSize : Nat := 255

/-- The number of bytes that a path must stay below. -/
def pathSizeLimit : Nat := 4096

/-- How many links may be followed on the way of a path. -/
def maxLinks : Nat := 40

def utf8Size (s : Text) : Nat := (Encoding.encodeUtf8 s).length

namespace Setting

variable (s : Setting) (look : Location → Option Entry)

/-- Where a path with these slashes in front starts when it is met in a directory. -/
def startFrom (l : Location) (root : Text) : Location := if root.isEmpty then l else []

/-- The path that a name in a directory stands for, if it is that of a link. -/
def linkAt (l : Location) (name : Text) : Option Path :=
  if name = outwards then none else s.links (name :: l)

/-- Looks up a name at a location, where a directory must be. -/
def enter (l : Location) (name : Text) : Except Cause Location :=
  match look l with
  | none => .error .absent
  | some (.file _) => .error .notDirectory
  | some .directory =>
    match s.refuses .search l with
    | some reason => .error (.refused reason)
    | none => if maxNameSize < utf8Size name then .error .nameTooLong else .ok (follow l name)

/-- Looks up names, the first one first, up to the first link, which is left to `jump`.  What is
given back is a location, and how many links may still be followed. -/
def walkBy (links : Nat) (jump : Location → Path → List Text → Except Cause (Location × Nat))
    (l : Location) : List Text → Except Cause (Location × Nat)
  | [] => .ok (l, links)
  | name :: names =>
    match s.enter look l name with
    | .error cause => .error cause
    | .ok m =>
      match s.linkAt l name with
      | none => walkBy links jump m names
      | some p => jump l p names

/-- Looks up names, the first one first, and follows links, at most as many as given. -/
def walk : Nat → Location → List Text → Except Cause (Location × Nat)
  | 0 => s.walkBy look 0 fun _ _ _ => .error .tooManyLinks
  | links + 1 => s.walkBy look (links + 1) fun l p names =>
    walk links (startFrom l p.root) (p.names.reverse ++ names)

/-- What is wrong with a path on whatever disk. -/
def flaw? (p : Path) : Option Cause :=
  if p.names.any fun n => n.contains '\x00' then some .nullCharacter
  else if pathSizeLimit ≤ utf8Size p.text then some .nameTooLong
  else none

/-- The location that a path leads to, and how many links it might still go through. -/
def lead (p : Path) : Except Cause (Location × Nat) :=
  match flaw? p with
  | some cause => .error cause
  | none => s.walk look maxLinks (startFrom s.here p.root) p.names.reverse

/-- The location that a path leads to; what may stand there is left open. -/
def locate (p : Path) : Except Cause Location := (s.lead look p).map Prod.fst

end Setting

def locate (d : Disk) (p : Path) : Except Cause Location := d.setting.locate d.standing p

/-- The location that a path names: if the last name is that of a link, the location of the link
itself. -/
def nameplace (d : Disk) (p : Path) : Except Cause Location :=
  match p.names with
  | [] => d.locate p
  | name :: names =>
    match Setting.flaw? p with
    | some cause => .error cause
    | none => do
      let l ← d.locate ⟨p.root, names⟩
      d.setting.enter d.standing l name

/-! ## Looking -/

/-- What stands where a path leads. -/
def find (d : Disk) (p : Path) : Except Cause Entry := do
  match d.standing (← d.locate p) with
  | some e => return e
  | none => throw .absent

/-- Whether the cause means that there is nothing at the end of a path. -/
def Cause.meansNothing : Cause → Bool
  | absent => true
  | notDirectory => true
  | tooManyLinks => true
  | nullCharacter => true
  | _ => false

/-- What stands where a path leads, if anything does.  That a name on the way is missing or is no
directory is not an error here. -/
def find? (d : Disk) (p : Path) : Except Error (Option Entry) :=
  match d.find p with
  | .ok e => .ok (some e)
  | .error cause => if cause.meansNothing then .ok none else .error ⟨cause, p⟩

/-- Whether anything stands where a path leads. -/
def holds (d : Disk) (p : Path) : Except Error Bool := (d.find? p).map Option.isSome

def isDirectory (d : Disk) (p : Path) : Except Error Bool :=
  (d.find? p).map fun e => e == some .directory

def isFile (d : Disk) (p : Path) : Except Error Bool :=
  (d.find? p).map fun e => e.any fun e => e != .directory

def permit (d : Disk) (a : Access) (l : Location) : Except Cause Unit :=
  match d.setting.refuses a l with
  | some reason => .error (.refused reason)
  | none => .ok ()

def readAt (d : Disk) (l : Location) : Except Cause Bytes := do
  d.permit .read l
  match d.standing l with
  | some (.file content) => return content
  | some .directory => throw .isDirectory
  | none => throw .absent

def read (d : Disk) (p : Path) : Except Error Bytes :=
  (do d.readAt (← d.locate p)).mapError (⟨·, p⟩)

/-! ## Changing -/

def put (d : Disk) (l : Location) (e : Entry) : Disk :=
  { d with entries := (l, e) :: d.entries.filter fun x => x.1 != l }

/-- Whether neither a file, a directory nor a link is at a location. -/
def isVacant (d : Disk) (l : Location) : Bool :=
  (d.standing l).isNone && (d.setting.links l).isNone

def makeDirectory (d : Disk) (p : Path) : Except Error Disk :=
  (do
    let l ← d.nameplace p
    if d.isVacant l then
      d.permit .make l
      return d.put l .directory
    else throw .present : Except Cause Disk).mapError (⟨·, p⟩)

/-- Makes a directory unless it is there already. -/
def provideDirectory (d : Disk) (p : Path) : Except Error Disk :=
  match d.makeDirectory p with
  | .ok e => .ok e
  | .error ⟨.absent, q⟩ => .error ⟨.absent, q⟩
  | .error e =>
    match d.isDirectory p with
    | .ok true => .ok d
    | .ok false => .error e
    | .error f => .error f

/-- Provides the directory of the given names and those that lead to it.  Directories made before
an error stay. -/
def provideAll (d : Disk) (root : Text) : List Text → Disk × Option Error
  | [] =>
    match d.provideDirectory ⟨root, []⟩ with
    | .ok e => (e, none)
    | .error e => (d, some e)
  | name :: names =>
    match d.provideDirectory ⟨root, name :: names⟩ with
    | .ok e => (e, none)
    | .error ⟨.absent, _⟩ =>
      match d.provideAll root names with
      | (d, some e) => (d, some e)
      | (d, none) =>
        match d.provideDirectory ⟨root, name :: names⟩ with
        | .ok e => (e, none)
        | .error e => (d, some e)
    | .error e => (d, some e)

/-- Whether the file at a location may be opened for writing; a file that is not there may be
made. -/
def openable (d : Disk) (l : Location) : Except Cause Unit :=
  match d.standing l with
  | some .directory => .error .isDirectory
  | some (.file _) => d.permit .write l
  | none => d.permit .make l

/-- Opens a file for writing, which leaves it empty, and gives its location. -/
def openFile (d : Disk) (p : Path) : Except Error (Disk × Location) :=
  (do
    let l ← d.locate p
    d.openable l
    return (d.put l (.file []), l)).mapError (⟨·, p⟩)

/-- Writes bytes to the front of the file at a location.  What else it holds stays. -/
def fill (d : Disk) (l : Location) (bytes : Bytes) : Disk :=
  match d.standing l with
  | some (.file content) => d.put l (.file (bytes ++ content.drop bytes.length))
  | _ => d.put l (.file bytes)

def write (d : Disk) (p : Path) (content : Bytes) : Except Error Disk :=
  (d.openFile p).map fun (d, l) => d.fill l content

/-! ## What stands where after a change -/

@[simp] theorem setting_put (d : Disk) (l : Location) (e : Entry) : (d.put l e).setting = d.setting :=
  rfl

theorem standing_put {d : Disk} {l m : Location} {e : Entry} :
    (d.put l e).standing m =
      if d.setting.isGiven m then some .directory else if m = l then some e else d.standing m := by
  unfold standing put
  by_cases hg : d.setting.isGiven m = true
  · simp [hg]
  · rw [if_neg hg, if_neg hg]
    by_cases hm : m = l
    · simp [hm]
    · have hl : ¬ l = m := fun h => hm h.symm
      rw [if_neg hm, if_neg hg, List.find?_cons_of_neg (by simpa using hl)]
      congr 1
      induction d.entries with
      | nil => rfl
      | cons x r ih =>
        by_cases hx : x.1 = l
        · have hxm : ¬ x.1 = m := fun h => hl (hx ▸ h)
          rw [List.filter_cons_of_neg (by simpa using hx), ih,
            List.find?_cons_of_neg (by simpa using hxm)]
        · rw [List.filter_cons_of_pos (by simpa using hx)]
          by_cases hxm : x.1 = m
          · rw [List.find?_cons_of_pos (by simpa using hxm),
              List.find?_cons_of_pos (by simpa using hxm)]
          · rw [List.find?_cons_of_neg (by simpa using hxm),
              List.find?_cons_of_neg (by simpa using hxm), ih]

end Disk

end Formwork
