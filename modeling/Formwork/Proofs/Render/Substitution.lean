import Formwork.Proofs.Render.Writer
import Formwork.Proofs.Template.Grammar

/-!
# Output as substitution

Without indentation the unfinished line of the output has no influence on what is written, and the
output is what the segments contribute, one after the other (`Render.segments_eq_flatMap`).  For the
segments of an outline this is the text of the outline with a value in the place of every
`{{ name }}`, `Outline.fill` (`Render.template_eq_fill`).  The values are inserted as they are, all
at once, so nothing in a value can count as a placeholder.
-/

namespace Formwork

/-! ## Filling an outline -/

/-- What a segment contributes to the output. -/
def Segment.fill (value : Text → Text) : Segment → Text
  | literal text => text
  | placeholder name _ => value name

namespace Template

open Text (strip)

/-- The text of an outline in which every opening is replaced, braces and all, by the value of the
name in it.  The rest is copied. -/
def Outline.fill (o : Outline) (value : Text → Text) : Text :=
  o.openings.flatMap (fun a => a.before ++ value (strip a.body)) ++ o.rest

lemma flatMap_fill_literalOf (value : Text → Text) (s : Text) :
    (literalOf s).flatMap (Segment.fill value) = s := by
  cases s with
  | nil => rfl
  | cons c r =>
    show (c :: r) ++ [] = c :: r
    exact List.append_nil _

lemma flatMap_fill_segmentsFrom (value : Text → Text) (position : Position)
    (openings : List Opening) (rest : Text) :
    (segmentsFrom position openings rest).flatMap (Segment.fill value)
      = (Outline.mk openings rest).fill value := by
  induction openings generalizing position with
  | nil => exact flatMap_fill_literalOf value rest
  | cons a openings ih =>
    rw [segmentsFrom, List.flatMap_append, List.flatMap_cons, flatMap_fill_literalOf, ih]
    simp [Segment.fill, Outline.fill]

end Template

/-! ## Without indentation -/

namespace Render

variable {r : Render} {values : Table Text}

lemma contribution_eq_fill (hindent : r.indent = false) {line text : Text} {part : Segment}
    (h : r.contribution values line part = .ok text) :
    text = part.fill fun name => r.escape ((values.get? name).getD []) := by
  cases part with
  | literal _ =>
    cases h
    rfl
  | placeholder name position =>
    cases hvalue : values.get? name with
    | none => simp [contribution, hvalue] at h
    | some value =>
      rw [contribution_placeholder hvalue, insertion, hindent] at h
      cases h
      simp [Segment.fill, hvalue]

/-- Without indentation, the output is what the segments contribute, one after the other. -/
lemma segments_eq_flatMap (hindent : r.indent = false) {line output : Text}
    {parts : List Segment} (h : r.segments values line parts = .ok output) :
    output = parts.flatMap (Segment.fill fun name => r.escape ((values.get? name).getD [])) := by
  induction parts generalizing line output with
  | nil =>
    cases h
    rfl
  | cons part rest ih =>
    obtain ⟨text, following, htext, hfollowing, rfl⟩ := segments_cons_eq_ok_iff.1 h
    rw [List.flatMap_cons, ← ih hfollowing, ← contribution_eq_fill hindent htext]

/-- Without indentation, the output of a template is its outline, filled with the values. -/
theorem template_eq_fill (hindent : r.indent = false) {o : Template.Outline} {source output : Text}
    (h : r.template ⟨source, o.segments⟩ values = .ok output) :
    output = o.fill fun name => r.escape ((values.get? name).getD []) := by
  have hfill := segments_eq_flatMap hindent h
  unfold Template.Outline.segments at hfill
  rw [Template.flatMap_fill_segmentsFrom] at hfill
  exact hfill

end Render

end Formwork
