import Formwork.Proofs.Render.Writer
import Formwork.Proofs.Template.Grammar

/-!
# Printing a template

Segments are printed by writing the text of a literal and, for a placeholder, its name between
double braces.  The main statement, `parse_print_inverse`, says that reading and printing are
inverse to each other, as far as positions and the blanks around names go.

Not all segments come back from their printed text.  Two literals in a row run together, an empty
one is lost, and an opening brace at the end of a literal is taken for one of the braces behind it.
Segments without such accidents are `Normal`.  They are built from the end by putting an opening in
front, which is a literal, possibly empty, and a placeholder (`normal_opening_iff`,
`Normal.induction`); a lawful outline is built in the same way, so normal segments are those of
lawful outlines (`Normal.exists_outline`, `Outline.Lawful.normal`).  Since a text has only one
lawful outline, nothing more needs to be known about the reader.
-/

namespace Formwork

namespace Segment

/-- A segment as it is written in a template. -/
def write : Segment → Text
  | literal text => text
  | placeholder name _ => '{' :: '{' :: (name ++ ['}', '}'])

/-- The segment without its position. -/
def unplaced : Segment → Segment
  | literal text => .literal text
  | placeholder name _ => .placeholder name .start

end Segment

/-- Positions are not written. -/
lemma Render.segments_unplaced (r : Render) (values : Table Text) (line : Text)
    (parts : List Segment) :
    r.segments values line (parts.map Segment.unplaced) = r.segments values line parts := by
  induction parts generalizing line with
  | nil => rfl
  | cons part rest ih =>
    have hpart : r.contribution values line part.unplaced = r.contribution values line part := by
      cases part <;> rfl
    simp only [List.map_cons, segments_cons, hpart, ih]

namespace Template

open Text (HasPair strip)

/-! ## Normal segments -/

/-- Segments that come back from their printed text: no literal is empty, next to another one or
holds two opening braces, a literal in front of a placeholder does not end in an opening brace, and
placeholders are for names. -/
structure Normal (segments : List Segment) : Prop extends Compact segments where
  no_pair : ∀ part ∈ segments, ¬ HasPair '{' part.text
  no_brace : segments.IsChain fun a b => b.name?.isSome → a.text.getLast? ≠ some '{'
  identifier : ∀ part ∈ segments, ∀ name ∈ part.name?, isIdentifier name = true

lemma normal_nil : Normal [] :=
  ⟨⟨List.not_mem_nil, .nil⟩, by simp, .nil, by simp⟩

lemma normal_cons_iff {part : Segment} {rest : List Segment} :
    Normal (part :: rest) ↔
      (part ≠ .literal [] ∧ ¬ HasPair '{' part.text ∧
        ∀ name ∈ part.name?, isIdentifier name = true) ∧
      (∀ next ∈ rest.head?, (part.name?.isSome ∨ next.name?.isSome) ∧
        (next.name?.isSome → part.text.getLast? ≠ some '{')) ∧ Normal rest := by
  constructor
  · rintro ⟨⟨hnonempty, hapart⟩, hpair, hbrace, hname⟩
    rw [List.mem_cons, not_or] at hnonempty
    rw [List.forall_mem_cons] at hpair hname
    rw [List.isChain_cons] at hapart hbrace
    exact ⟨⟨Ne.symm hnonempty.1, hpair.1, hname.1⟩,
      fun next hnext => ⟨hapart.1 next hnext, hbrace.1 next hnext⟩,
      ⟨⟨hnonempty.2, hapart.2⟩, hpair.2, hbrace.2, hname.2⟩⟩
  · rintro ⟨⟨hnonempty, hpair, hname⟩, hnext, hrest⟩
    refine ⟨⟨?_, List.isChain_cons.2 ⟨fun next h => (hnext next h).1, hrest.apart⟩⟩,
      List.forall_mem_cons.2 ⟨hpair, hrest.no_pair⟩,
      List.isChain_cons.2 ⟨fun next h => (hnext next h).2, hrest.no_brace⟩,
      List.forall_mem_cons.2 ⟨hname, hrest.identifier⟩⟩
    rw [List.mem_cons, not_or]
    exact ⟨Ne.symm hnonempty, hrest.nonempty⟩

lemma normal_literalOf_iff {text : Text} : Normal (literalOf text) ↔ ¬ HasPair '{' text := by
  cases text with
  | nil => simp [literalOf, normal_nil]
  | cons c r => simp [literalOf, normal_cons_iff, normal_nil, Segment.text]

/-- An opening in front of normal segments. -/
lemma normal_opening_iff {before name : Text} {position : Position} {rest : List Segment} :
    Normal (literalOf before ++ .placeholder name position :: rest) ↔
      (¬ HasPair '{' before ∧ before.getLast? ≠ some '{') ∧ isIdentifier name = true ∧
        Normal rest := by
  cases before with
  | nil => simp [literalOf, normal_cons_iff, Segment.text]
  | cons c r => simp [literalOf, normal_cons_iff, Segment.text, and_assoc]

/-- What is compact is a literal, possibly empty, or begins with one and a placeholder. -/
lemma Compact.exists_literalOf {segments : List Segment} (h : Compact segments) :
    (∃ text, segments = literalOf text) ∨
      ∃ before name position rest,
        segments = literalOf before ++ .placeholder name position :: rest := by
  match segments, h with
  | [], _ => exact .inl ⟨[], rfl⟩
  | .placeholder name position :: rest, _ => exact .inr ⟨[], name, position, rest, rfl⟩
  | .literal [] :: _, h => exact absurd List.mem_cons_self h.nonempty
  | [.literal (c :: s)], _ => exact .inl ⟨c :: s, rfl⟩
  | .literal (c :: s) :: .placeholder name position :: rest, _ =>
    exact .inr ⟨c :: s, name, position, rest, rfl⟩
  | .literal _ :: .literal _ :: _, h =>
    have hapart := (List.isChain_cons_cons.1 h.apart).1
    simp at hapart

/-- Normal segments are some openings and a text after them. -/
@[elab_as_elim]
lemma Normal.induction {motive : ∀ segments, Normal segments → Prop}
    (rest : ∀ text (hpair : ¬ HasPair '{' text),
      motive (literalOf text) (normal_literalOf_iff.2 hpair))
    (opening : ∀ before name position following (hpair : ¬ HasPair '{' before)
      (hbrace : before.getLast? ≠ some '{') (hname : isIdentifier name = true)
      (hfollowing : Normal following), motive following hfollowing →
      motive (literalOf before ++ .placeholder name position :: following)
        (normal_opening_iff.2 ⟨⟨hpair, hbrace⟩, hname, hfollowing⟩))
    {segments : List Segment} (h : Normal segments) : motive segments h := by
  induction hn : segments.length using Nat.strong_induction_on generalizing segments with
  | _ n ih =>
    obtain ⟨text, rfl⟩ | ⟨before, name, position, following, rfl⟩ := h.exists_literalOf
    · exact rest text (normal_literalOf_iff.1 h)
    · obtain ⟨⟨hpair, hbrace⟩, hname, hfollowing⟩ := normal_opening_iff.1 h
      have hlength : following.length < n := by
        rw [← hn, List.length_append, List.length_cons]
        omega
      exact opening before name position following hpair hbrace hname hfollowing
        (ih _ hlength hfollowing rfl)

/-! ## Printing -/

/-- The text of some segments. -/
def print (segments : List Segment) : Text := segments.flatMap Segment.write

lemma print_literalOf (text : Text) : print (literalOf text) = text := by
  cases text with
  | nil => rfl
  | cons c r => simp [literalOf, print, Segment.write]

lemma print_opening (before name : Text) (position : Position) (rest : List Segment) :
    print (literalOf before ++ .placeholder name position :: rest) =
      (Opening.mk before name).write ++ print rest := by
  have hbefore := print_literalOf before
  unfold print at hbefore ⊢
  rw [List.flatMap_append, hbefore, List.flatMap_cons]
  simp [Opening.write, Segment.write]

lemma print_unplaced (segments : List Segment) :
    print (segments.map Segment.unplaced) = print segments := by
  induction segments with
  | nil => rfl
  | cons part rest ih =>
    have hpart : part.unplaced.write = part.write := by cases part <;> rfl
    unfold print at ih ⊢
    rw [List.map_cons, List.flatMap_cons, List.flatMap_cons, hpart, ih]

/-! ## Normal segments and lawful outlines -/

/-- Normal segments, as they are printed, are those of a lawful outline. -/
lemma Normal.exists_outline {segments : List Segment} (h : Normal segments) :
    ∃ o : Outline, o.Lawful ∧ o.write = print segments ∧ ∀ position,
      (segmentsFrom position o.openings o.rest).map Segment.unplaced =
        segments.map Segment.unplaced := by
  induction h using Normal.induction with
  | rest text hpair =>
    exact ⟨⟨[], text⟩, Outline.lawful_nil hpair, (print_literalOf text).symm, fun _ => rfl⟩
  | opening before name position following hpair hbrace hname _ ih =>
    obtain ⟨o, ho, hwrite, hsegments⟩ := ih
    have hlawful : (Opening.mk before name).Lawful := ⟨hpair, hbrace, name, pads_self hname⟩
    refine ⟨⟨⟨before, name⟩ :: o.openings, o.rest⟩, Outline.lawful_cons_iff.2 ⟨hlawful, ho⟩, ?_, ?_⟩
    · rw [Outline.write_cons, hwrite, print_opening]
    · intro p
      simp [segmentsFrom, (pads_self hname).strip_eq, hsegments, Segment.unplaced]

/-- The segments of a lawful outline are normal. -/
lemma Outline.Lawful.normal {o : Outline} (h : o.Lawful) (position : Position) :
    Normal (segmentsFrom position o.openings o.rest) := by
  obtain ⟨as, rest⟩ := o
  induction as generalizing position with
  | nil => exact normal_literalOf_iff.2 h.rest
  | cons a as ih =>
    obtain ⟨ha, has⟩ := Outline.lawful_cons_iff.1 h
    have hname : isIdentifier (strip a.body) = true := ha.pads.choose_spec.choose_spec.2.2.1
    exact normal_opening_iff.2 ⟨⟨ha.no_pair, ha.no_brace⟩, hname, ih _ has⟩

/-! ## Reading and printing -/

/-- Normal segments are read from their printed text. -/
lemma Normal.exists_parse_print {segments : List Segment} (h : Normal segments) :
    ∃ t, parse (print segments) = .ok t ∧
      t.segments.map Segment.unplaced = segments.map Segment.unplaced := by
  obtain ⟨o, ho, hwrite, hsegments⟩ := h.exists_outline
  exact ⟨⟨print segments, o.segments⟩, parse_eq_ok_iff.2 ⟨o, ho, hwrite, rfl⟩, hsegments .start⟩

lemma normal_of_parse {source : Text} {t : Template} (h : parse source = .ok t) :
    Normal t.segments := by
  obtain ⟨o, ho, -, rfl⟩ := parse_eq_ok_iff.1 h
  exact ho.normal .start

/-- **Reading and printing are inverse to each other.**  Normal segments are read from their printed
text, with positions of their own, and what is read from any text is normal.  So a template may be
replaced by its printed text: this is read again, as the same segments up to positions, it is
printed as it is from then on, and as a template it has the same output, with and without
indentation. -/
theorem parse_print_inverse :
    (∀ segments, Normal segments → ∃ t, parse (print segments) = .ok t ∧
      t.segments.map Segment.unplaced = segments.map Segment.unplaced) ∧
    (∀ source t, parse source = .ok t → Normal t.segments) ∧
    ∀ source t, parse source = .ok t →
      ∃ t', parse (print t.segments) = .ok t' ∧
        t'.segments.map Segment.unplaced = t.segments.map Segment.unplaced ∧
        print t'.segments = print t.segments ∧
        (∀ (r : Render) values, r.template t' values = r.template t values) ∧
        ∀ (r : Render) values, (∀ name ∈ t.mentions, name ∈ values.keys) →
          ∃ output, r.template t values = .ok output ∧ r.template t' values = .ok output := by
  refine ⟨fun segments h => h.exists_parse_print, fun source t h => normal_of_parse h, ?_⟩
  intro source t h
  obtain ⟨t', ht', hsegments⟩ := (normal_of_parse h).exists_parse_print
  have hrender : ∀ (r : Render) values, r.template t' values = r.template t values := by
    intro r values
    unfold Render.template
    rw [← r.segments_unplaced values [] t'.segments, hsegments, r.segments_unplaced]
  refine ⟨t', ht', hsegments, ?_, hrender, ?_⟩
  · rw [← print_unplaced t'.segments, hsegments, print_unplaced]
  · intro r values hbound
    obtain ⟨output, houtput⟩ := Render.exists_segments_iff.2 hbound
    exact ⟨output, houtput, (hrender r values).trans houtput⟩

theorem parse_print_braces :
    (∃ t, parse "\x7d\x7b \x7b\x7bx\x7d\x7d\x7b\x7by\x7d\x7d\x7d\x7b" = .ok t ∧
      t.segments.map Segment.unplaced = [.literal ['}', '{', ' '], .placeholder ['x'] .start,
        .placeholder ['y'] .start, .literal ['}', '{']]) ∧
    ∃ t t', parse "\x7b\n\x7b\x7b a\x7d\x7d\x7d\x7d" = .ok t ∧ Normal t.segments ∧
      parse "\x7b\n\x7b\x7ba\x7d\x7d\x7d\x7d" = .ok t' ∧
      print t'.segments = "\x7b\n\x7b\x7ba\x7d\x7d\x7d\x7d" ∧
      ∃ output, Render.template {} t (Table.ofList [(['a'], ['{'])]) = .ok output ∧
        Render.template {} t' (Table.ofList [(['a'], ['{'])]) = .ok output := by
  have hnormal : Normal [.literal ['}', '{', ' '], .placeholder ['x'] .start,
      .placeholder ['y'] .start, .literal ['}', '{']] := by
    simp [normal_cons_iff, normal_nil, Segment.text, Text.hasPair_cons_iff, isIdentifier,
      isNameStart]
  have hparse : parse "\x7b\n\x7b\x7b a\x7d\x7d\x7d\x7d" =
      .ok ⟨"\x7b\n\x7b\x7b a\x7d\x7d\x7d\x7d",
        [.literal ['{', '\n'], .placeholder ['a'] ⟨2, 2, 1⟩, .literal ['}', '}']]⟩ := by
    cbv
  obtain ⟨hread, hnormal', hagain⟩ := parse_print_inverse
  obtain ⟨t', ht', -, hprint, -, hrender⟩ := hagain _ _ hparse
  exact ⟨hread _ hnormal, _, t', hparse, hnormal' _ _ hparse, ht', hprint,
    hrender {} (Table.ofList [(['a'], ['{'])]) (by decide)⟩

end Template

end Formwork
