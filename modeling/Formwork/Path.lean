import Formwork.Text.Basic

/-!
# Paths

A path is a list of names that lead from a starting point to a file or a directory.  It starts at
the working directory or, with one or two slashes in front, at the root.  Slashes separate the
names; a doubled slash, a slash at the end and a name that is a single point mean nothing.  Two
points lead outwards; they stay in the path, since where they lead depends on the disk.
-/

namespace Formwork

/-- A path.  The names are kept from the last one to the first, so that the path without its last
name is the tail. -/
structure Path where
  /-- The slashes in front: none, one or two. -/
  root : Text
  names : List Text
  deriving Repr, DecidableEq

namespace Path

/-- The slashes that count in front of a text: exactly two are kept, and more count as one. -/
def rootOf (s : Text) : Text :=
  match (s.takeWhile (· == '/')).length with
  | 0 => []
  | 2 => ['/', '/']
  | _ => ['/']

/-- Whether a name between slashes means something. -/
def isName (s : Text) : Bool := !s.isEmpty && s != ['.']

def ofText (s : Text) : Path := ⟨rootOf s, ((s.splitOn '/').filter isName).reverse⟩

/-- The text of a path; the working directory is a single point. -/
def text (p : Path) : Text :=
  if p.root.isEmpty && p.names.isEmpty then ['.']
  else p.root ++ List.intercalate ['/'] p.names.reverse

def parent (p : Path) : Path := { p with names := p.names.tail }

def name (p : Path) : Text := p.names.headD []

/-- The path that leads on along another one, which takes over if it starts at the root. -/
def join (p q : Path) : Path := if q.root.isEmpty then ⟨p.root, q.names ++ p.names⟩ else q

/-- The end of the last name from its last point on, unless the point is its first or its last
character. -/
def suffix (p : Path) : Text :=
  let ending := (p.name.reverse.takeWhile (· != '.')).reverse
  if ending.isEmpty || p.name.length ≤ ending.length + 1 then [] else '.' :: ending

end Path

end Formwork
