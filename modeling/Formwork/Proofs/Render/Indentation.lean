import Formwork.Proofs.Render.Writer
import Mathlib.Data.List.Induction
import Mathlib.Data.List.Permutation

/-!
# What indentation adds

Written with indentation, a template has the lines that it has without it, and some of them are
moved to the right.  `Render.Indents` says by how much, line by line, and only looks at where the
newline in front of the line comes from.  The main statement is `template_indents_lines`.

The indentation of a value is described by one equation: behind every newline in it, spaces and tabs
are put in front of the next line unless that line is blank (`indentRest_newline`).  Everything else
follows from two facts about segments that are written in both ways.  The two outputs always begin
with the same line and break equally often (`sameBreaks_segments`), since only what stands behind a
newline is changed.  And a line of an output that is not its first stands behind a newline of one
segment, which has the output of the segments before it in front of it (`exists_indents`).
-/

namespace Formwork.Render

open Text (lines firstLine lastLine allBlank SameBreaks)

/-! ## The indentation of a value -/

/-- What is put in front of a line after the first of a value. -/
def padding (margin line : Text) : Text := if allBlank line then [] else margin

lemma indentLine_eq (margin line : Text) :
    indentLine margin line = padding margin line ++ line := by
  unfold indentLine padding
  split <;> simp

/-- A margin consists of spaces and tabs. -/
lemma not_mem_margin {c : Char} (hspace : c ≠ ' ') (htab : c ≠ '\t') (line : Text) :
    c ∉ margin line := by
  intro h
  have hc : c = ' ' ∨ c = '\t' := by simpa using List.mem_takeWhile_imp h
  exact hc.elim hspace htab

lemma newline_not_mem_margin (line : Text) : '\n' ∉ margin line :=
  not_mem_margin (by decide) (by decide) line

lemma not_mem_padding {c : Char} {margin : Text} (h : c ∉ margin) (line : Text) :
    c ∉ padding margin line := by
  unfold padding
  split
  · exact List.not_mem_nil
  · exact h

lemma indentRest_of_not_mem {value : Text} (h : '\n' ∉ value) (margin : Text) :
    indentRest margin value = value := by
  unfold indentRest
  rw [Text.lines_of_not_mem h]
  simp [Text.unlines]

/-- Indentation puts the padding behind the newlines of a value. -/
lemma indentRest_newline (margin s t : Text) :
    indentRest margin (s ++ '\n' :: t) =
      indentRest margin s ++ '\n' :: (padding margin (firstLine t) ++ indentRest margin t) := by
  obtain ⟨ls, hs⟩ := Text.exists_lines_eq_cons s
  obtain ⟨ms, ht⟩ := Text.exists_lines_eq_cons t
  have hpad : Text.unlines ((firstLine t :: ms).map (indentLine margin)) =
      padding margin (firstLine t) ++ Text.unlines (firstLine t :: ms.map (indentLine margin)) := by
    rw [List.map_cons, indentLine_eq, Text.unlines_append_cons]
  unfold indentRest
  rw [Text.lines_append_newline, hs, ht, List.cons_append]
  dsimp only
  rw [List.map_append, ← List.cons_append,
    Text.unlines_append (List.cons_ne_nil _ _) (by simp), hpad]

lemma sameBreaks_indentRest {margin : Text} (h : '\n' ∉ margin) (value : Text) :
    SameBreaks value (indentRest margin value) := by
  induction value using Text.lines_induction with
  | single s hs =>
    rw [indentRest_of_not_mem hs]
    exact .refl s
  | newline s t hs ih =>
    have hpad : (padding margin (firstLine t)).count '\n' = 0 :=
      List.count_eq_zero_of_not_mem (not_mem_padding h _)
    rw [indentRest_newline, indentRest_of_not_mem hs]
    constructor
    · rw [Text.firstLine_append_newline, Text.firstLine_append_newline]
    · simp [hpad, ih.count]

/-! ## Writing in both ways -/

/-- The same writer without indentation. -/
def plain (r : Render) : Render := { r with indent := false }

def indented (r : Render) : Render := { r with indent := true }

variable {r : Render} {values : Table Text}

lemma insertion_plain (line value : Text) : r.plain.insertion line value = r.escape value := rfl

lemma insertion_indented (line value : Text) :
    r.indented.insertion line value = indentRest (margin line) (r.escape value) := rfl

lemma sameBreaks_contribution {line line' text text' : Text} {part : Segment}
    (h : r.plain.contribution values line part = .ok text)
    (h' : r.indented.contribution values line' part = .ok text') : SameBreaks text text' := by
  cases part with
  | literal _ =>
    cases h
    cases h'
    exact .refl _
  | placeholder name position =>
    cases hvalue : values.get? name with
    | none => simp [contribution, hvalue] at h
    | some value =>
      rw [contribution_placeholder hvalue] at h h'
      cases h
      cases h'
      exact sameBreaks_indentRest (newline_not_mem_margin _) _

/-- The outputs begin with the same line and break equally often, after whatever lines. -/
lemma sameBreaks_segments {line line' output output' : Text} {parts : List Segment}
    (h : r.plain.segments values line parts = .ok output)
    (h' : r.indented.segments values line' parts = .ok output') : SameBreaks output output' := by
  induction parts generalizing line line' output output' with
  | nil =>
    cases h
    cases h'
    exact .refl _
  | cons part rest ih =>
    obtain ⟨text, following, htext, hfollowing, rfl⟩ := segments_cons_eq_ok_iff.1 h
    obtain ⟨text', following', htext', hfollowing', rfl⟩ := segments_cons_eq_ok_iff.1 h'
    exact (sameBreaks_contribution htext htext').append (ih hfollowing hfollowing')

/-! ## Which lines are indented, and by what -/

/-- The line with the number `k` is indented by `w`.  What decides is the newline in front of the
line: the segment it belongs to, with the segments before it, and what of this segment stands before
and behind it. -/
inductive Indents (r : Render) (values : Table Text) (parts : List Segment) : Nat → Text → Prop
  /-- The first line is not indented. -/
  | first : Indents r values parts 0 []
  /-- Nor is a line whose newline belongs to a literal. -/
  | literal {before behind : List Segment} {upTo rest above : Text}
      (split : parts = before ++ .literal (upTo ++ '\n' :: rest) :: behind)
      (written : r.plain.segments values [] before = .ok above) :
      Indents r values parts ((above ++ upTo).count '\n' + 1) []
  /-- A line whose newline belongs to a value is indented like the line on which the placeholder
  goes, unless the line is blank as far as the value goes. -/
  | value {before behind : List Segment} {name value upTo rest above aboveIndented : Text}
      {position : Position}
      (split : parts = before ++ .placeholder name position :: behind)
      (bound : values.get? name = some value) (escaped : r.escape value = upTo ++ '\n' :: rest)
      (written : r.plain.segments values [] before = .ok above)
      (indented : r.indented.segments values [] before = .ok aboveIndented) :
      Indents r values parts ((above ++ upTo).count '\n' + 1)
        (padding (margin (lastLine aboveIndented)) (firstLine rest))

/-- Further segments change nothing about the lines that begin in the ones before. -/
lemma Indents.append {parts : List Segment} {k : Nat} {w : Text} (h : Indents r values parts k w)
    (more : List Segment) : Indents r values (parts ++ more) k w := by
  cases h with
  | first => exact .first
  | literal split written =>
    exact .literal (by rw [split, List.append_assoc, List.cons_append]) written
  | value split bound escaped written indented =>
    exact .value (by rw [split, List.append_assoc, List.cons_append]) bound escaped written indented

/-- A line that begins in the last segment is accounted for. -/
lemma exists_indents_of_newline {parts : List Segment} {part : Segment}
    {above above' upTo rest : Text} (h : r.plain.segments values [] parts = .ok above)
    (h' : r.indented.segments values [] parts = .ok above')
    (hpart : r.plain.contribution values (lastLine above) part = .ok (upTo ++ '\n' :: rest)) :
    ∃ w, Indents r values (parts ++ [part]) ((above ++ upTo).count '\n' + 1) w := by
  cases part with
  | literal text =>
    rw [contribution_literal, Except.ok.injEq] at hpart
    exact ⟨_, .literal (by rw [hpart]) h⟩
  | placeholder name position =>
    cases hvalue : values.get? name with
    | none => simp [contribution, hvalue] at hpart
    | some value =>
      rw [contribution_placeholder hvalue, insertion_plain, Except.ok.injEq] at hpart
      exact ⟨_, .value rfl hvalue hpart h h'⟩

/-- Every line of an output is accounted for.  The induction is on the segments from the last one
backwards, since the lines are numbered from the first. -/
lemma exists_indents {parts : List Segment} {output output' : Text} {k : Nat}
    (h : r.plain.segments values [] parts = .ok output)
    (h' : r.indented.segments values [] parts = .ok output') (hk : k < (lines output).length) :
    ∃ w, Indents r values parts k w := by
  rw [Text.length_lines] at hk
  cases k with
  | zero => exact ⟨[], .first⟩
  | succ k =>
    replace hk : k < output.count '\n' := by omega
    induction parts using List.reverseRecOn generalizing output output' with
    | nil =>
      cases h
      simp at hk
    | append_singleton parts part ih =>
      obtain ⟨above, text, below, habove, htext, hbelow, rfl⟩ := segments_around_eq_ok_iff.1 h
      obtain ⟨above', text', below', habove', -, -, -⟩ := segments_around_eq_ok_iff.1 h'
      cases hbelow
      rw [List.append_nil, List.count_append] at hk
      by_cases hearly : k < above.count '\n'
      · obtain ⟨w, hw⟩ := ih habove habove' hearly
        exact ⟨w, hw.append [part]⟩
      · have hlate : k - above.count '\n' < text.count '\n' := by omega
        obtain ⟨upTo, rest, rfl, hupTo⟩ := Text.exists_newline_of_lt_count hlate
        obtain ⟨w, hw⟩ := exists_indents_of_newline habove habove' htext
        rw [List.count_append, hupTo, Nat.add_sub_of_le (by omega)] at hw
        exact ⟨w, hw⟩

lemma lines_of_indents {parts : List Segment} {output output' w : Text} {k : Nat}
    (h : r.plain.segments values [] parts = .ok output)
    (h' : r.indented.segments values [] parts = .ok output') (hw : Indents r values parts k w) :
    ∃ line, (lines output)[k]? = some line ∧ (lines output')[k]? = some (w ++ line) := by
  cases hw with
  | first =>
    refine ⟨firstLine output, Text.getElem?_lines_zero output, ?_⟩
    rw [Text.getElem?_lines_zero, (sameBreaks_segments h h').firstLine]
    rfl
  | @literal before behind upTo rest _ split written =>
    subst split
    obtain ⟨above, text, below, habove, htext, hbelow, rfl⟩ := segments_around_eq_ok_iff.1 h
    obtain ⟨above', text', below', habove', htext', hbelow', rfl⟩ := segments_around_eq_ok_iff.1 h'
    cases htext
    cases htext'
    cases written.symm.trans habove
    have hin := (sameBreaks_segments habove habove').append (.refl upTo)
    have hout := (SameBreaks.refl rest).append (sameBreaks_segments hbelow hbelow')
    simpa using hin.exists_line hout List.not_mem_nil
  | @value before behind name value upTo rest _ aboveIndented position split bound escaped written
      indented =>
    subst split
    obtain ⟨above, text, below, habove, htext, hbelow, rfl⟩ := segments_around_eq_ok_iff.1 h
    obtain ⟨above', text', below', habove', htext', hbelow', rfl⟩ := segments_around_eq_ok_iff.1 h'
    rw [contribution_placeholder bound, insertion_plain, escaped] at htext
    rw [contribution_placeholder bound, insertion_indented, escaped, indentRest_newline] at htext'
    cases htext
    cases htext'
    cases written.symm.trans habove
    cases indented.symm.trans habove'
    have hmargin := newline_not_mem_margin (lastLine aboveIndented)
    have hin := (sameBreaks_segments habove habove').append (sameBreaks_indentRest hmargin upTo)
    have hout :=
      (sameBreaks_indentRest hmargin rest).append (sameBreaks_segments hbelow hbelow')
    simpa using hin.exists_line hout (not_mem_padding hmargin (firstLine rest))

/-! ## The outputs line by line -/

/-- **Indentation adds spaces and tabs in front of lines, and nothing else.**  When all names have
values, both outputs exist and have the same number of lines.  Every line of the indented output is
the same line of the plain one with something in front, and `Indents` says what: nothing for the
first line and for a line that a literal begins, and nothing for a line of a value that is blank as
far as the value goes; for the other lines of a value, the spaces and tabs that the unfinished line
begins with where the placeholder stands.  This line is part of the indented output: what is written
for the first segments of a template is what the output begins with. -/
theorem template_indents_lines (r : Render) (t : Template) (values : Table Text)
    (hbound : ∀ name ∈ t.mentions, name ∈ values.keys) :
    ∃ output indented, r.plain.template t values = .ok output ∧
      r.indented.template t values = .ok indented ∧
      (lines indented).length = (lines output).length ∧
      (∀ k < (lines output).length, ∃ w, Indents r values t.segments k w) ∧
      (∀ k w, Indents r values t.segments k w →
        ∃ line, (lines output)[k]? = some line ∧ (lines indented)[k]? = some (w ++ line)) ∧
      ∀ before behind, t.segments = before ++ behind →
        ∃ above aboveIndented, r.plain.segments values [] before = .ok above ∧
          r.indented.segments values [] before = .ok aboveIndented ∧
          above <+: output ∧ aboveIndented <+: indented := by
  obtain ⟨output, h⟩ : ∃ output, r.plain.segments values [] t.segments = .ok output :=
    exists_segments_iff.2 hbound
  obtain ⟨indented, h'⟩ : ∃ indented, r.indented.segments values [] t.segments = .ok indented :=
    exists_segments_iff.2 hbound
  have hlength : (lines indented).length = (lines output).length := by
    rw [Text.length_lines, Text.length_lines, (sameBreaks_segments h h').count]
  refine ⟨output, indented, h, h', hlength, fun k hk => exists_indents h h' hk,
    fun k w hw => lines_of_indents h h' hw, ?_⟩
  intro before behind hsplit
  rw [hsplit] at h h'
  obtain ⟨above, habove, hprefix⟩ := exists_prefix_of_segments_append h
  obtain ⟨aboveIndented, haboveIndented, hprefix'⟩ := exists_prefix_of_segments_append h'
  exact ⟨above, aboveIndented, habove, haboveIndented, hprefix, hprefix'⟩

/-- Two values on a line, where the second one goes behind the last line of the first. -/
def twoOnLine : Template :=
  ⟨[], [.literal "\t k: ", .placeholder ['x'] .start, .literal "; ", .placeholder ['y'] .start,
    .literal "end"]⟩

/-- Values of several lines; one line of the first is blank, and the second ends with a newline. -/
def twoOnLineValues : Table Text := Table.ofList [(['x'], "1\n \n2"), (['y'], "p\nq\n")]

theorem template_indents_second_value :
    (∀ name ∈ twoOnLine.mentions, name ∈ twoOnLineValues.keys) ∧
    (plain {}).template twoOnLine twoOnLineValues = .ok "\t k: 1\n \n2; p\nq\nend" ∧
    (indented {}).template twoOnLine twoOnLineValues = .ok "\t k: 1\n \n\t 2; p\n\t q\nend" ∧
    Indents {} twoOnLineValues twoOnLine.segments 3 "\t " ∧
    ∃ output indented', (plain {}).template twoOnLine twoOnLineValues = .ok output ∧
      (indented {}).template twoOnLine twoOnLineValues = .ok indented' ∧
      ∃ line, (lines output)[3]? = some line ∧
        (lines indented')[3]? = some ('\t' :: ' ' :: line) := by
  have hbound : ∀ name ∈ twoOnLine.mentions, name ∈ twoOnLineValues.keys := by decide
  have hfourth : Indents {} twoOnLineValues twoOnLine.segments 3 "\t " := by
    have split : twoOnLine.segments = twoOnLine.segments.take 3 ++
      .placeholder ['y'] .start :: [.literal "end"] := rfl
    have bound : twoOnLineValues.get? ['y'] = some "p\nq\n" := by decide
    have escaped : Render.escape {} "p\nq\n" = ['p'] ++ '\n' :: ['q', '\n'] := rfl
    have written : (plain {}).segments twoOnLineValues [] (twoOnLine.segments.take 3) =
      .ok "\t k: 1\n \n2; " := by cbv
    have indented : (indented {}).segments twoOnLineValues [] (twoOnLine.segments.take 3) =
      .ok "\t k: 1\n \n\t 2; " := by cbv
    exact .value split bound escaped written indented
  obtain ⟨output, indented', h, h', -, -, hlines, -⟩ :=
    template_indents_lines {} twoOnLine twoOnLineValues hbound
  exact ⟨hbound, by cbv, by cbv, hfourth, output, indented', h, h', hlines 3 _ hfourth⟩

end Formwork.Render
