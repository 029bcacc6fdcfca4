import Formwork.Proofs.Render.Indentation
import Formwork.Proofs.Template.Printing

/-!
# Finished output

When no inserted value holds two opening braces or ends in one, neither does the output hold two: it
is a template without placeholders, and writing it again changes nothing.  The main statement is
`template_finished`.

A pair of braces could arise wherever two pieces of the output meet, and values may be empty, so
that pieces meet over several of them.  What excludes it is the same for both kinds of pieces, and
only looks at the end of the first: the literals in front of placeholders do not end in an opening
brace, because what is read is normal, and the values do not by assumption.  Indentation does not
interfere: it puts in nothing but spaces and tabs, and not at the end of a value
(`hasPair_indentRest_iff`, `getLast?_indentRest_iff`).
-/

namespace Formwork.Render

open Template (Normal literalOf)
open Text (HasPair firstLine)

/-! ## Indentation makes no pairs -/

lemma brace_not_mem_padding (line line' : Text) : '{' ∉ padding (margin line) line' :=
  not_mem_padding (not_mem_margin (by decide) (by decide) line) line'

/-- Between the braces of a pair there is no room for padding. -/
lemma hasPair_indentRest_iff (line value : Text) :
    HasPair '{' (indentRest (margin line) value) ↔ HasPair '{' value := by
  induction value using Text.lines_induction with
  | single s hs => rw [indentRest_of_not_mem hs]
  | newline s t hs ih =>
    have hpadding := brace_not_mem_padding line (firstLine t)
    have hpair : ¬ HasPair '{' (padding (margin line) (firstLine t)) := fun h => hpadding h.mem
    have hlast : (padding (margin line) (firstLine t)).getLast? ≠ some '{' :=
      fun h => hpadding (List.mem_of_getLast? h)
    rw [indentRest_newline, indentRest_of_not_mem hs]
    simp [Text.hasPair_append_iff, Text.hasPair_cons_iff, hpair, hlast, ih]

/-- Nor is padding what ends in a brace. -/
lemma getLast?_indentRest_iff (line value : Text) :
    (indentRest (margin line) value).getLast? = some '{' ↔ value.getLast? = some '{' := by
  induction value using Text.lines_induction with
  | single s hs => rw [indentRest_of_not_mem hs]
  | newline s t hs ih =>
    have hnewline : '\n' ≠ '{' := by decide
    rw [indentRest_newline, Text.getLast?_append_cons_eq_iff hnewline,
      Text.getLast?_append_eq_iff (brace_not_mem_padding line (firstLine t)), ih,
      Text.getLast?_append_cons_eq_iff hnewline]

variable {r : Render} {values : Table Text}

/-- What is inserted for a value is as harmless as the escaped value. -/
lemma insertion_harmless {value : Text} (line : Text) (hpair : ¬ HasPair '{' (r.escape value))
    (hbrace : (r.escape value).getLast? ≠ some '{') :
    ¬ HasPair '{' (r.insertion line value) ∧ (r.insertion line value).getLast? ≠ some '{' := by
  unfold insertion
  split
  · rw [hasPair_indentRest_iff, Ne, getLast?_indentRest_iff]
    exact ⟨hpair, hbrace⟩
  · exact ⟨hpair, hbrace⟩

/-! ## The output has no pairs -/

/-- A literal in front of other segments, empty or not, is what their output has in front. -/
lemma exists_of_segments_literalOf_append {line text output : Text} {rest : List Segment}
    (h : r.segments values line (literalOf text ++ rest) = .ok output) :
    ∃ line' following, r.segments values line' rest = .ok following ∧
      output = text ++ following := by
  cases text with
  | nil => exact ⟨line, output, h, rfl⟩
  | cons c s =>
    obtain ⟨_, following, htext, hfollowing, rfl⟩ := segments_cons_eq_ok_iff.1 h
    cases htext
    exact ⟨_, following, hfollowing, rfl⟩

/-- The value of every mentioned name neither holds two opening braces nor ends in one, once it is
escaped. -/
def Harmless (r : Render) (values : Table Text) (mentions : List Text) : Prop :=
  ∀ name ∈ mentions, ∃ value, values.get? name = some value ∧
    ¬ HasPair '{' (r.escape value) ∧ (r.escape value).getLast? ≠ some '{'

lemma not_hasPair_segments {segments : List Segment} (h : Normal segments) {line output : Text}
    (hvalues : r.Harmless values (segments.filterMap Segment.name?))
    (houtput : r.segments values line segments = .ok output) : ¬ HasPair '{' output := by
  induction h using Template.Normal.induction generalizing line output with
  | rest text hpair =>
    rw [← List.append_nil (literalOf text)] at houtput
    obtain ⟨_, following, hfollowing, rfl⟩ := exists_of_segments_literalOf_append houtput
    cases hfollowing
    rwa [List.append_nil]
  | opening before name position following hpair hbrace hname hfollowing ih =>
    obtain ⟨line', _, hrest, rfl⟩ := exists_of_segments_literalOf_append houtput
    obtain ⟨text, behind, htext, hbehind, rfl⟩ := segments_cons_eq_ok_iff.1 hrest
    obtain ⟨value, hvalue, hescaped⟩ := hvalues name (by simp)
    rw [contribution_placeholder hvalue] at htext
    cases htext
    obtain ⟨hpair', hbrace'⟩ := insertion_harmless line' hescaped.1 hescaped.2
    have hbehind' : ¬ HasPair '{' behind :=
      ih (fun n hn => hvalues n (by simp [hn])) hbehind
    exact Text.not_hasPair_append hpair hbrace (Text.not_hasPair_append hpair' hbrace' hbehind')

/-! ## Writing again -/

/-- A text without such braces is a template that mentions nothing, and it is written as it is. -/
lemma exists_parse_of_not_hasPair {output : Text} (h : ¬ HasPair '{' output) :
    ∃ t, Template.parse output = .ok t ∧ t.mentions = [] ∧
      ∀ (r : Render) (values : Table Text), r.template t values = .ok output := by
  have hparse : Template.parse output = .ok ⟨output, literalOf output⟩ :=
    Template.parse_eq_ok_iff.2 ⟨⟨[], output⟩, Template.Outline.lawful_nil h, rfl, rfl⟩
  refine ⟨_, hparse, Template.filterMap_name?_literalOf output, fun r values => ?_⟩
  cases output with
  | nil => rfl
  | cons c s => exact segments_cons_eq_ok_iff.2 ⟨c :: s, [], rfl, rfl, (List.append_nil _).symm⟩

/-- **Finished output holds no placeholders.**  Let all names that a template mentions have values
that, once escaped, neither hold two opening braces nor end in one; they may be empty, and they may
begin with a brace.  Then the output of the template, indented or not, does not hold two opening
braces.  So it can be read as a template, which mentions nothing, and with any values or none and in
whatever way it is written, that template is the output again. -/
theorem template_finished {source : Text} {t : Template} (ht : Template.parse source = .ok t)
    (hvalues : r.Harmless values t.mentions) :
    ∃ output, r.template t values = .ok output ∧ ¬ HasPair '{' output ∧
      ∃ t', Template.parse output = .ok t' ∧ t'.mentions = [] ∧
        ∀ (r' : Render) (values' : Table Text), r'.template t' values' = .ok output := by
  have hbound : ∀ name ∈ t.mentions, name ∈ values.keys := by
    intro name hname
    obtain ⟨value, hvalue, -⟩ := hvalues name hname
    exact Table.isSome_get?_iff.1 (by rw [hvalue]; rfl)
  obtain ⟨output, houtput⟩ := exists_segments_iff.2 hbound
  have hpair : ¬ HasPair '{' output :=
    not_hasPair_segments (Template.normal_of_parse ht) hvalues houtput
  exact ⟨output, houtput, hpair, exists_parse_of_not_hasPair hpair⟩

/-- A brace, an empty value, a value of two lines that begin with braces, and a brace. -/
def besideBraces : Template :=
  ⟨"\t\x7b \x7b\x7ba\x7d\x7d\x7b\x7bb\x7d\x7d\x7b",
    [.literal ['\t', '{', ' '], .placeholder ['a'] ⟨3, 1, 4⟩, .placeholder ['b'] ⟨8, 1, 9⟩,
      .literal ['{']]⟩

def besideBracesValues : Table Text := Table.ofList [(['a'], []), (['b'], "\x7by\n\x7bz")]

theorem template_finished_beside_braces :
    Template.parse besideBraces.source = .ok besideBraces ∧
    Harmless ⟨true, id⟩ besideBracesValues besideBraces.mentions ∧
    Render.template ⟨true, id⟩ besideBraces besideBracesValues =
      .ok "\t\x7b \x7by\n\t\x7bz\x7b" ∧
    ∃ t, Template.parse "\t\x7b \x7by\n\t\x7bz\x7b" = .ok t ∧ t.mentions = [] ∧
      ∀ (r : Render) (values : Table Text),
        r.template t values = .ok "\t\x7b \x7by\n\t\x7bz\x7b" := by
  have hparse : Template.parse besideBraces.source = .ok besideBraces := by cbv
  have hwritten : Render.template ⟨true, id⟩ besideBraces besideBracesValues =
      .ok "\t\x7b \x7by\n\t\x7bz\x7b" := by
    cbv
  have hharmless : Harmless ⟨true, id⟩ besideBracesValues besideBraces.mentions := by
    have hmentions : besideBraces.mentions = [['a'], ['b']] := rfl
    have hpair : ¬ HasPair '{' ['{', 'y', '\n', '{', 'z'] := by simp [Text.hasPair_cons_iff]
    rw [hmentions]
    intro name hname
    rcases List.mem_pair.1 hname with rfl | rfl
    · exact ⟨[], by decide, Text.not_hasPair_nil, by decide⟩
    · exact ⟨['{', 'y', '\n', '{', 'z'], by decide, hpair, by decide⟩
  obtain ⟨output, houtput, -, t, ht, hmentions, hagain⟩ := template_finished hparse hharmless
  cases houtput.symm.trans hwritten
  exact ⟨hparse, hharmless, hwritten, t, ht, hmentions, hagain⟩

end Formwork.Render
