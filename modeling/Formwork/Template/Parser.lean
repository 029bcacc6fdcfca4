import Formwork.Template.Basic
import Formwork.Text.Blank
import Formwork.Text.Quoted

/-!
# Reading a template

A placeholder is written as a name between two opening and two closing braces, with any blank
characters around the name.  A single brace is ordinary text, and so are two closing braces that
close nothing; a backslash has no special meaning.

Reading goes from left to right.  The first pair of opening braces begins a placeholder, and the
first pair of closing braces after it ends it; what stands between them, the *body*, must be a
name surrounded by blanks.  Four things can be wrong, each a `Flaw`, and the error carries the
position of the braces at fault: the ones that begin the placeholder, or those inside its body.

`parse` is the reader.  Its two searches are both `cutPair?`, which cuts a text at the first place
where a character stands twice.
-/

namespace Formwork.Template

/-! ## Cutting at a doubled character -/

/-- What stands before and after the first place where `b` stands twice in a row. -/
def cutPair? (b : Char) : Text → Option (Text × Text)
  | [] => none
  | c :: r =>
    match r with
    | [] => none
    | d :: s => if c = b ∧ d = b then some ([], s) else (cutPair? b r).map fun (x, y) => (c :: x, y)

/-- The pieces and the doubled character make up the text. -/
theorem eq_of_cutPair? {b : Char} {s x y : Text} (h : cutPair? b s = some (x, y)) :
    s = x ++ b :: b :: y := by
  induction s generalizing x with
  | nil => cases h
  | cons c r ih =>
    cases r with
    | nil => cases h
    | cons d t =>
      rw [cutPair?] at h
      split at h
      · rename_i hb
        cases h
        rw [hb.1, hb.2]
        rfl
      · rw [Option.map_eq_some_iff] at h
        obtain ⟨⟨x', y'⟩, h, he⟩ := h
        cases he
        rw [ih h]
        rfl

theorem length_of_cutPair? {b : Char} {s x y : Text} (h : cutPair? b s = some (x, y)) :
    s.length = x.length + y.length + 2 := by
  rw [eq_of_cutPair? h, List.length_append, List.length_cons, List.length_cons]
  omega

/-! ## What can be wrong -/

/-- Why a text is not a template. -/
inductive Flaw where
  /-- No closing braces follow. -/
  | unclosed
  /-- The body holds opening braces. -/
  | nested
  /-- The body is blank. -/
  | empty
  /-- The body holds this text, which is not a name. -/
  | invalid (name : Text)
  deriving Repr, DecidableEq

/-- A flaw and where it lies. -/
structure Malformed where
  flaw : Flaw
  position : Position
  deriving Repr, DecidableEq

def Flaw.message : Flaw → Text
  | unclosed => "Unclosed placeholder delimiter '\x7b\x7b'"
  | nested => "Nested '\x7b\x7b' inside placeholder"
  | empty => "Empty placeholder name"
  | invalid name => "Invalid placeholder name " ++ Text.quoted name

def Malformed.message (m : Malformed) : Text :=
  m.flaw.message ++ " (line " ++ Nat.toDigits 10 m.position.line ++ ", column "
    ++ Nat.toDigits 10 m.position.column ++ ")"

/-! ## The reader -/

/-- The literal segment of a text; an empty text has none. -/
def literalOf (s : Text) : List Segment := if s.isEmpty then [] else [.literal s]

/-- The name in a body whose braces begin at `position`. -/
def readBody (position : Position) (body : Text) : Except Malformed Text :=
  match cutPair? '{' body with
  | some (before, _) => .error ⟨.nested, (position.advance ['{', '{']).advance before⟩
  | none =>
    let name := Text.strip body
    if name.isEmpty then .error ⟨.empty, position⟩
    else if isIdentifier name then .ok name
    else .error ⟨.invalid name, position⟩

/-- The segments of a text that begins at `position`. -/
def readSegments (position : Position) (s : Text) : Except Malformed (List Segment) :=
  match _opens : cutPair? '{' s with
  | none => .ok (literalOf s)
  | some (before, rest) =>
    let opening := position.advance before
    match _closes : cutPair? '}' rest with
    | none => .error ⟨.unclosed, opening⟩
    | some (body, after) => do
      let name ← readBody opening body
      let inside := (opening.advance ['{', '{']).advance body
      let segments ← readSegments (inside.advance ['}', '}']) after
      return literalOf before ++ .placeholder name opening :: segments
termination_by s.length
decreasing_by
  have := length_of_cutPair? _opens
  have := length_of_cutPair? _closes
  omega

/-- Reads a text as a template. -/
def parse (source : Text) : Except Malformed Template :=
  (readSegments .start source).map fun segments => ⟨source, segments⟩

end Formwork.Template
