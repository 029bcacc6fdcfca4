import Formwork.Proofs.Text.Lines
import Formwork.Text.Position
import Mathlib.Algebra.GroupWithZero.Nat

/-!
# Positions and lines

A position is advanced character by character.  What it has become behind a text is said here in terms of
the lines of the text: the line has gone up by the number of newlines, and the column counts from the
last one (`line_advance`, `column_advance_start`).

So the position behind a text `s` is that of its last line, the unfinished one, which is the line with
that number in every text that `s` begins (`getElem?_lines_append`), and the lines before it account for
the rest of the offset (`sum_lines_append`).

`Position.behind s` gives the position that a position of one text has when `s` is put in front of the
text.  On the way through a text positions go up, in the order of reading (`Position.Before`).
-/

namespace Formwork

open Text (lines lastLine firstLine)

namespace Text

/-! ## The line that a text leaves unfinished -/

/-- The last line of a text goes on in what follows. -/
lemma getElem?_lines_append (s t : Text) :
    (lines (s ++ t))[s.count '\n']? = some (lastLine s ++ firstLine t) := by
  induction s using lines_induction with
  | single s hs =>
    rw [List.count_eq_zero_of_not_mem hs, getElem?_lines_zero, firstLine_append_of_not_mem hs,
      lastLine_of_not_mem hs]
  | newline s u hs ih =>
    have hcount : (s ++ '\n' :: u).count '\n' = (lines s).length + u.count '\n' := by
      rw [length_lines, List.count_append, List.count_cons_self]
      omega
    rw [hcount, List.append_assoc, List.cons_append, lines_append_newline, lastLine_append_newline,
      List.getElem?_append_right (Nat.le_add_right _ _), Nat.add_sub_cancel_left, ih]

/-- The lines before the last one, each with its newline, are all else of the text. -/
lemma sum_lines_append (s t : Text) :
    (((lines (s ++ t)).take (s.count '\n')).map fun l => l.length + 1).sum + (lastLine s).length =
      s.length := by
  induction s using lines_induction with
  | single s hs => simp [List.count_eq_zero_of_not_mem hs, lastLine_of_not_mem hs]
  | newline s u hs ih =>
    have hcount : (s ++ '\n' :: u).count '\n' = (lines s).length + u.count '\n' := by
      rw [length_lines, List.count_append, List.count_cons_self]
      omega
    rw [hcount, List.append_assoc, List.cons_append, lines_append_newline, lastLine_append_newline,
      List.take_length_add_append, List.map_append, List.sum_append, Nat.add_assoc, ih,
      lines_of_not_mem hs, List.length_append]
    simp
    omega

lemma mem_iff_count_ne_zero {s : Text} : '\n' ∈ s ↔ s.count '\n' ≠ 0 := by
  rw [← List.count_pos_iff, Nat.pos_iff_ne_zero]

end Text

attribute [ext] Position

namespace Position

/-! ## Positions behind a text -/

lemma line_advance (p : Position) (s : Text) : (p.advance s).line = p.line + s.count '\n' := by
  induction s generalizing p with
  | nil => rfl
  | cons c s ih =>
    rw [advance_cons, ih, List.count_cons]
    unfold next
    by_cases hc : c = '\n'
    · simp [hc]
      omega
    · simp [hc]

lemma column_advance_of_not_mem (p : Position) {s : Text} (h : '\n' ∉ s) :
    (p.advance s).column = p.column + s.length := by
  induction s generalizing p with
  | nil => rfl
  | cons c s ih =>
    rw [List.mem_cons, not_or] at h
    have hnext : (p.next c).column = p.column + 1 := by
      unfold next
      rw [if_neg (Ne.symm h.1)]
    rw [advance_cons, ih _ h.2, hnext, List.length_cons]
    omega

/-- Behind a newline, columns are counted anew. -/
lemma column_advance_of_mem (p : Position) {s : Text} (h : '\n' ∈ s) :
    (p.advance s).column = (lastLine s).length + 1 := by
  induction s using Text.lines_induction generalizing p with
  | single s hs => exact absurd h hs
  | newline s t _ ih =>
    rw [advance_append, advance_cons, Text.lastLine_append_newline]
    by_cases ht : '\n' ∈ t
    · exact ih _ ht
    · rw [column_advance_of_not_mem _ ht, Text.lastLine_of_not_mem ht, Nat.add_comm]
      rfl

lemma column_advance_start (s : Text) : (start.advance s).column = (lastLine s).length + 1 := by
  by_cases h : '\n' ∈ s
  · exact column_advance_of_mem start h
  · rw [column_advance_of_not_mem start h, Text.lastLine_of_not_mem h, Nat.add_comm]
    rfl

lemma line_advance_start (s : Text) : (start.advance s).line = s.count '\n' + 1 := by
  rw [line_advance, Nat.add_comm]
  rfl

/-! ## Positions with a text in front -/

/-- The position that `p` becomes when the text `s` is put in front: the offset and the lines count on,
and on the first line so do the columns. -/
def behind (s : Text) (p : Position) : Position where
  offset := s.length + p.offset
  line := s.count '\n' + p.line
  column := if p.line = 1 then (lastLine s).length + p.column else p.column

lemma behind_advance (s t : Text) : behind s (start.advance t) = start.advance (s ++ t) := by
  ext
  · simp [behind, start]
  · change s.count '\n' + (start.advance t).line = _
    rw [line_advance_start, line_advance_start, List.count_append, Nat.add_assoc]
  · change (if (start.advance t).line = 1 then _ else _) = _
    rw [advance_append]
    by_cases ht : '\n' ∈ t
    · have hline : (start.advance t).line ≠ 1 := by
        rw [line_advance_start]
        simpa using Text.mem_iff_count_ne_zero.1 ht
      rw [if_neg hline, column_advance_of_mem _ ht, column_advance_of_mem _ ht]
    · have hline : (start.advance t).line = 1 := by
        rw [line_advance_start, List.count_eq_zero_of_not_mem ht]
      rw [if_pos hline, column_advance_of_not_mem _ ht, column_advance_of_not_mem _ ht,
        column_advance_start, ← Nat.add_assoc]
      rfl

/-! ## Positions in the order of reading -/

/-- The one position comes before the other: its line does, or on the same line its column. -/
def Before (p q : Position) : Prop := p.line < q.line ∨ p.line = q.line ∧ p.column < q.column

lemma Before.trans {p q r : Position} (h : p.Before q) (h' : q.Before r) : p.Before r := by
  unfold Before at *
  omega

lemma before_next (p : Position) (c : Char) : p.Before (p.next c) := by
  unfold Before next
  split
  · exact .inl (Nat.lt_succ_self _)
  · exact .inr ⟨rfl, Nat.lt_succ_self _⟩

/-- Any text that is not empty brings a position forward. -/
lemma before_advance (p : Position) {s : Text} (h : s ≠ []) : p.Before (p.advance s) := by
  induction s generalizing p with
  | nil => exact absurd rfl h
  | cons c s ih =>
    rw [advance_cons]
    by_cases hs : s = []
    · rw [hs]
      exact before_next p c
    · exact (before_next p c).trans (ih _ hs)

end Position

end Formwork
