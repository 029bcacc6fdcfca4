import Formwork.Text.Basic

/-!
# Positions in a text

A position is an offset, counted from zero, together with the line and the column, counted from
one, where that offset lies.  Lines end at newlines only.  A position is never computed from an
offset alone: it is advanced over the text that has been read, so the three numbers belong
together by construction.
-/

namespace Formwork

/-- An offset with the line and column where it lies. -/
structure Position where
  offset : Nat
  line : Nat
  column : Nat
  deriving Repr, DecidableEq

namespace Position

def start : Position := ⟨0, 1, 1⟩

def next (p : Position) (c : Char) : Position :=
  if c = '\n' then ⟨p.offset + 1, p.line + 1, 1⟩ else ⟨p.offset + 1, p.line, p.column + 1⟩

/-- The position after the given text. -/
def advance (p : Position) (s : Text) : Position := s.foldl next p

@[simp] theorem advance_nil (p : Position) : p.advance [] = p := rfl

@[simp] theorem advance_cons (p : Position) (c : Char) (s : Text) :
    p.advance (c :: s) = (p.next c).advance s := rfl

theorem advance_append (p : Position) (s t : Text) :
    p.advance (s ++ t) = (p.advance s).advance t := List.foldl_append

@[simp] theorem offset_next (p : Position) (c : Char) : (p.next c).offset = p.offset + 1 := by
  unfold next; split <;> rfl

@[simp] theorem offset_advance (p : Position) (s : Text) :
    (p.advance s).offset = p.offset + s.length := by
  induction s generalizing p with
  | nil => rfl
  | cons c s ih => rw [advance_cons, ih, offset_next, List.length_cons]; omega

end Position

end Formwork
