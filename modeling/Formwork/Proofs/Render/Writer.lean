import Formwork.Proofs.Stages
import Formwork.Proofs.Text.Lines
import Formwork.Render

/-!
# The writer, segment by segment

The writer goes through the segments of a template from left to right and carries the unfinished
line of the output along, for the sake of indentation.  What it adds for one segment is its
`contribution` after that line.  One equation says what a step does (`segments_cons_eq_ok_iff`), and
another one that segments are written one part after the other, each where the one before it has
left off (`segments_append_eq_ok_iff`).

The writer fails only for want of a value: there is an output exactly when every mentioned name has
a value (`exists_segments_iff`), whatever is indented or escaped.  And the output depends on the
values of the mentioned names only (`segments_congr`).
-/

namespace Formwork.Render

variable {r : Render} {values : Table Text}

/-! ## One step of the writer -/

/-- What is written for a segment when `line` is the unfinished line of the output. -/
def contribution (r : Render) (values : Table Text) (line : Text) : Segment → Except Fault Text
  | .literal text => .ok text
  | .placeholder name _ =>
    match values.get? name with
    | none => .error (.unbound name)
    | some value => .ok (r.insertion line value)

@[simp] lemma contribution_literal (line text : Text) :
    r.contribution values line (.literal text) = .ok text := rfl

/-- A name with a value is replaced by the value. -/
lemma contribution_placeholder {name value : Text} (h : values.get? name = some value)
    (line : Text) (position : Position) :
    r.contribution values line (.placeholder name position) = .ok (r.insertion line value) := by
  rw [contribution, h]

/-- A segment can be written when the name that it mentions, if any, has a value. -/
lemma exists_contribution_iff (line : Text) {part : Segment} :
    (∃ text, r.contribution values line part = .ok text) ↔
      ∀ name ∈ part.name?, name ∈ values.keys := by
  cases part with
  | literal text => simp
  | placeholder name position =>
    simp only [Segment.name?_placeholder, Option.mem_some_iff, forall_eq', ← Table.isSome_get?_iff]
    rw [contribution]
    cases values.get? name <;> simp

lemma contribution_congr {values' : Table Text} {line : Text} {part : Segment}
    (h : ∀ name ∈ part.name?, values.get? name = values'.get? name) :
    r.contribution values line part = r.contribution values' line part := by
  cases part with
  | literal text => rfl
  | placeholder name position => rw [contribution, contribution, h name rfl]

lemma segments_cons (line : Text) (part : Segment) (rest : List Segment) :
    r.segments values line (part :: rest) =
      (r.contribution values line part).bind fun text =>
        (r.segments values (Text.lastLine (line ++ text)) rest).map (text ++ ·) := by
  cases part with
  | literal text => rw [segments]; rfl
  | placeholder name position =>
    rw [segments, contribution]
    cases values.get? name <;> rfl

lemma segments_cons_eq_ok_iff {line output : Text} {part : Segment} {rest : List Segment} :
    r.segments values line (part :: rest) = .ok output ↔
      ∃ text following, r.contribution values line part = .ok text ∧
        r.segments values (Text.lastLine (line ++ text)) rest = .ok following ∧
        output = text ++ following := by
  rw [segments_cons]
  constructor
  · intro h
    obtain ⟨text, htext, h⟩ := Except.bind_eq_ok_iff.1 h
    obtain ⟨following, hfollowing, rfl⟩ := Except.map_eq_ok_iff.1 h
    exact ⟨text, following, htext, hfollowing, rfl⟩
  · rintro ⟨text, following, htext, hfollowing, rfl⟩
    exact Except.bind_eq_ok_iff.2 ⟨text, htext, Except.map_eq_ok_iff.2 ⟨following, hfollowing, rfl⟩⟩

/-! ## Several segments -/

/-- What comes later is written after the last line of what was written before, be it for segments
or, as `s`, for something else. -/
lemma segments_append_eq_ok_iff {s output : Text} {parts more : List Segment} :
    r.segments values (Text.lastLine s) (parts ++ more) = .ok output ↔
      ∃ before behind, r.segments values (Text.lastLine s) parts = .ok before ∧
        r.segments values (Text.lastLine (s ++ before)) more = .ok behind ∧
        output = before ++ behind := by
  induction parts generalizing s output with
  | nil => simp [segments]
  | cons part parts ih =>
    simp only [List.cons_append, segments_cons_eq_ok_iff, Text.lastLine_append, ih]
    constructor
    · rintro ⟨text, _, htext, ⟨before, behind, hbefore, hbehind, rfl⟩, rfl⟩
      refine ⟨text ++ before, behind, ⟨text, before, htext, hbefore, rfl⟩, ?_, by simp⟩
      rwa [← List.append_assoc]
    · rintro ⟨_, behind, ⟨text, before, htext, hbefore, rfl⟩, hbehind, rfl⟩
      refine ⟨text, before ++ behind, htext, ⟨before, behind, hbefore, ?_, rfl⟩, by simp⟩
      rwa [List.append_assoc]

/-- What is written for the first segments is what the output begins with. -/
lemma exists_prefix_of_segments_append {output : Text} {parts more : List Segment}
    (h : r.segments values [] (parts ++ more) = .ok output) :
    ∃ before, r.segments values [] parts = .ok before ∧ before <+: output := by
  rw [← Text.lastLine_nil, segments_append_eq_ok_iff] at h
  obtain ⟨before, behind, hbefore, -, rfl⟩ := h
  exact ⟨before, hbefore, List.prefix_append before behind⟩

/-- The output around one of the segments. -/
lemma segments_around_eq_ok_iff {output : Text} {before behind : List Segment} {part : Segment} :
    r.segments values [] (before ++ part :: behind) = .ok output ↔
      ∃ above text below, r.segments values [] before = .ok above ∧
        r.contribution values (Text.lastLine above) part = .ok text ∧
        r.segments values (Text.lastLine (above ++ text)) behind = .ok below ∧
        output = above ++ (text ++ below) := by
  rw [← Text.lastLine_nil, segments_append_eq_ok_iff]
  simp only [List.nil_append, segments_cons_eq_ok_iff, Text.lastLine_append]
  constructor
  · rintro ⟨above, _, habove, ⟨text, below, htext, hbelow, rfl⟩, rfl⟩
    exact ⟨above, text, below, habove, htext, hbelow, rfl⟩
  · rintro ⟨above, text, below, habove, htext, hbelow, rfl⟩
    exact ⟨above, _, habove, ⟨text, below, htext, hbelow, rfl⟩, rfl⟩

/-- Segments can be written exactly when all names that they mention have values. -/
lemma exists_segments_iff {line : Text} {parts : List Segment} :
    (∃ output, r.segments values line parts = .ok output) ↔
      ∀ name ∈ parts.filterMap Segment.name?, name ∈ values.keys := by
  induction parts generalizing line with
  | nil => simp [segments]
  | cons part rest ih =>
    have hnames : (∀ name ∈ (part :: rest).filterMap Segment.name?, name ∈ values.keys) ↔
        (∀ name ∈ part.name?, name ∈ values.keys) ∧
          ∀ name ∈ rest.filterMap Segment.name?, name ∈ values.keys := by
      cases part <;> simp [Segment.name?]
    rw [hnames, ← exists_contribution_iff line]
    simp only [segments_cons_eq_ok_iff]
    constructor
    · rintro ⟨_, text, following, htext, hfollowing, -⟩
      exact ⟨⟨text, htext⟩, ih.1 ⟨following, hfollowing⟩⟩
    · rintro ⟨⟨text, htext⟩, hrest⟩
      obtain ⟨following, hfollowing⟩ := ih.2 hrest
      exact ⟨_, text, following, htext, hfollowing, rfl⟩

/-- The output depends on the values of the mentioned names only. -/
lemma segments_congr {values' : Table Text} {line : Text} {parts : List Segment}
    (h : ∀ name ∈ parts.filterMap Segment.name?, values.get? name = values'.get? name) :
    r.segments values line parts = r.segments values' line parts := by
  induction parts generalizing line with
  | nil => rfl
  | cons part rest ih =>
    have hpart : ∀ name ∈ part.name?, values.get? name = values'.get? name := by
      intro name hname
      exact h name (List.mem_filterMap.2 ⟨part, List.mem_cons_self, hname⟩)
    have hrest : ∀ name ∈ rest.filterMap Segment.name?, values.get? name = values'.get? name := by
      intro name hname
      obtain ⟨p, hp, hpname⟩ := List.mem_filterMap.1 hname
      exact h name (List.mem_filterMap.2 ⟨p, List.mem_cons_of_mem _ hp, hpname⟩)
    simp only [segments_cons, contribution_congr hpart, ih hrest]

lemma template_congr {t : Template} {values' : Table Text}
    (h : ∀ name ∈ t.mentions, values.get? name = values'.get? name) :
    r.template t values = r.template t values' :=
  segments_congr h

end Formwork.Render
