import Formwork.Proofs.Template.Rejection
import Formwork.Proofs.Text.Position
import Mathlib.Data.List.Pairwise

/-!
# Where positions point

The positions of placeholders and errors are those of opening braces, given in three numbers that agree:
`Position.PointsAt` says that the line with the number has the braces at the column, and that the lines
before it make up the rest of the offset.  The main statement, `positions_point_at_braces`, says this of
every position that reading gives, and that the positions of placeholders go up.

The reader advances its position over the text that it leaves behind, so each position is that behind some
text in front of a pair of braces (`Position.pointsAt_advance`).  For placeholders the text is part of the
outline (`exists_eq_append_of_mem_positions`), and for errors it is the outline with what leads from its
end to the braces at fault.
-/

namespace Formwork

open Text (lines PairAt)

namespace Position

/-- The position is that of opening braces in a text: the line exists, the braces stand in it at the
column, and the lines before it, each with its newline, and the columns before that one add up to the
offset. -/
structure PointsAt (source : Text) (p : Position) : Prop where
  line : 1 ≤ p.line
  column : 1 ≤ p.column
  braces : ∃ l, (lines source)[p.line - 1]? = some l ∧ PairAt '{' l (p.column - 1)
  offset : (((lines source).take (p.line - 1)).map fun l => l.length + 1).sum + (p.column - 1) = p.offset

lemma pointsAt_advance (s rest : Text) :
    (start.advance s).PointsAt (s ++ '{' :: '{' :: rest) := by
  have hline : (start.advance s).line - 1 = s.count '\n' := by
    rw [line_advance_start, Nat.add_sub_cancel]
  have hcolumn : (start.advance s).column - 1 = (Text.lastLine s).length := by
    rw [column_advance_start, Nat.add_sub_cancel]
  refine ⟨?_, ?_, ⟨Text.lastLine s ++ Text.firstLine ('{' :: '{' :: rest), ?_, ?_⟩, ?_⟩
  · rw [line_advance_start]
    exact Nat.le_add_left 1 _
  · rw [column_advance_start]
    exact Nat.le_add_left 1 _
  · rw [hline]
    exact Text.getElem?_lines_append s _
  · rw [hcolumn]
    exact Text.pairAt_length '{' _ _
  · rw [hline, hcolumn, Text.sum_lines_append, offset_advance]
    exact (Nat.zero_add _).symm

end Position

/-- The position of a placeholder. -/
def Segment.position? : Segment → Option Position
  | literal _ => none
  | placeholder _ position => some position

namespace Template

def positions (parts : List Segment) : List Position := parts.filterMap Segment.position?

lemma positions_literalOf_append (text : Text) (parts : List Segment) :
    positions (literalOf text ++ parts) = positions parts := by
  cases text <;> rfl

/-- The positions of the placeholders of openings. -/
lemma positions_segmentsFrom_cons (position : Position) (a : Opening) (as : List Opening)
    (rest : Text) :
    positions (segmentsFrom position (a :: as) rest) =
      position.advance a.before :: positions (segmentsFrom (position.advance a.write) as rest) := by
  rw [segmentsFrom, positions_literalOf_append]
  rfl

lemma positions_segmentsFrom_nil (position : Position) (rest : Text) :
    positions (segmentsFrom position [] rest) = [] := by
  cases rest <;> rfl

lemma exists_eq_append_of_mem_positions {position p : Position} {as : List Opening} {rest : Text}
    (h : p ∈ positions (segmentsFrom position as rest)) :
    ∃ s more, (Outline.mk as rest).write = s ++ '{' :: '{' :: more ∧ p = position.advance s := by
  induction as generalizing position with
  | nil =>
    rw [positions_segmentsFrom_nil] at h
    exact absurd h List.not_mem_nil
  | cons a as ih =>
    rw [positions_segmentsFrom_cons] at h
    rcases List.mem_cons.1 h with rfl | h
    · exact ⟨a.before, _, by rw [Outline.write_cons, Opening.write_append], rfl⟩
    · obtain ⟨s, more, hwrite, rfl⟩ := ih h
      refine ⟨a.write ++ s, more, ?_, (Position.advance_append _ _ _).symm⟩
      rw [Outline.write_cons, hwrite, List.append_assoc]

/-- A lawful body has a name in it. -/
lemma Opening.Lawful.length_body_pos {a : Opening} (h : a.Lawful) : 0 < a.body.length := by
  have hname : isIdentifier (Text.strip a.body) = true := h.pads.choose_spec.choose_spec.2.2.1
  rw [List.length_pos_iff]
  intro hnil
  rw [hnil] at hname
  cases hname

/-- The positions of placeholders go up, with room for a placeholder between any two. -/
lemma pairwise_positions {as : List Opening} (has : ∀ a ∈ as, a.Lawful) (position : Position)
    (rest : Text) :
    (positions (segmentsFrom position as rest)).Pairwise fun p q =>
      p.offset + 5 ≤ q.offset ∧ p.Before q := by
  induction as generalizing position with
  | nil =>
    rw [positions_segmentsFrom_nil]
    exact .nil
  | cons a as ih =>
    obtain ⟨ha, has⟩ := List.forall_mem_cons.1 has
    rw [positions_segmentsFrom_cons]
    refine .cons (fun q hq => ?_) (ih has _)
    obtain ⟨s, -, -, rfl⟩ := exists_eq_append_of_mem_positions hq
    have hbody := ha.length_body_pos
    have hwrite : a.write = a.before ++ '{' :: '{' :: (a.body ++ ['}', '}']) := rfl
    constructor
    · simp only [Position.offset_advance, Opening.length_write]
      omega
    · rw [hwrite, Position.advance_append, ← Position.advance_append]
      exact Position.before_advance _ (by simp)

/-- **Positions point at the braces.**  Of every text that is read, the position of each placeholder is
that of its opening braces, in lines and columns as well as in characters; along the placeholders the
positions go up, at least by the five characters that a placeholder has.  Of every text that is not read,
the position of the error is that of opening braces too. -/
theorem positions_point_at_braces (source : Text) :
    (∀ t, parse source = .ok t →
      (∀ name p, .placeholder name p ∈ t.segments → p.PointsAt source) ∧
      (positions t.segments).Pairwise fun p q => p.offset + 5 ≤ q.offset ∧ p.Before q) ∧
    ∀ m, parse source = .error m → m.position.PointsAt source := by
  refine ⟨fun t h => ?_, fun m h => ?_⟩
  · obtain ⟨o, ho, rfl, rfl⟩ := parse_eq_ok_iff.1 h
    refine ⟨fun name p hp => ?_, pairwise_positions ho.openings .start o.rest⟩
    have hposition : p ∈ positions o.segments := List.mem_filterMap.2 ⟨_, hp, rfl⟩
    obtain ⟨s, more, hwrite, rfl⟩ := exists_eq_append_of_mem_positions hposition
    have hsource : o.write = s ++ '{' :: '{' :: more := hwrite
    rw [hsource]
    exact Position.pointsAt_advance s more
  · obtain ⟨o, tail, way, -, -, rfl, hdefect, hposition⟩ := parse_eq_error_iff.1 h
    obtain ⟨rest, hrest⟩ := hdefect.exists_eq_append
    rw [hposition, hrest, ← List.append_assoc]
    exact Position.pointsAt_advance _ rest

/-- Lines end at newlines, not at carriage returns, and a placeholder may have newlines in it. -/
theorem positions_point_at_braces_over_lines :
    (∃ t, parse "\r\n\x7b\x7b a\n\x7d\x7d\x7b\n \x7b\x7bb\x7d\x7d" = .ok t ∧
      positions t.segments = [⟨2, 2, 1⟩, ⟨12, 4, 2⟩] ∧
      (positions t.segments).Pairwise fun p q => p.offset + 5 ≤ q.offset ∧ p.Before q) ∧
    parse "\n\x7b\x7ba\n\x7b\x7b\x7d\x7d" = .error ⟨.nested, ⟨5, 3, 1⟩⟩ ∧
    Position.PointsAt "\n\x7b\x7ba\n\x7b\x7b\x7d\x7d" ⟨5, 3, 1⟩ := by
  have hparse : parse "\r\n\x7b\x7b a\n\x7d\x7d\x7b\n \x7b\x7bb\x7d\x7d" =
      .ok ⟨"\r\n\x7b\x7b a\n\x7d\x7d\x7b\n \x7b\x7bb\x7d\x7d", [.literal ['\r', '\n'],
        .placeholder ['a'] ⟨2, 2, 1⟩, .literal ['{', '\n', ' '], .placeholder ['b'] ⟨12, 4, 2⟩]⟩ := by
    cbv
  have herror : parse "\n\x7b\x7ba\n\x7b\x7b\x7d\x7d" = .error ⟨.nested, ⟨5, 3, 1⟩⟩ := by cbv
  exact ⟨⟨_, hparse, rfl, ((positions_point_at_braces _).1 _ hparse).2⟩, herror,
    (positions_point_at_braces _).2 _ herror⟩

end Template

end Formwork
