import Formwork.Proofs.Render.Substitution
import Formwork.Proofs.Template.Rejection
import Formwork.Proofs.Text.Position

/-!
# Texts one after the other

Reading respects concatenation, unless the two texts make opening braces where they meet.  The main
statement, `parse_concatenation`, has three parts.  Two templates make a template whose segments are
those of both, and whose output is the outputs of both.  A text that is rejected is rejected behind a
template as well, for the same reason.  And what has been found wrong with a text stays wrong whatever
follows; only braces that nothing closes can still be closed, so they are the exception.

Outlines are put together as their texts are: the text in front of the first opening of the second one
joins what is left of the first one (`Outline.append`).  That makes a lawful outline if no pair of braces
arises where they meet (`Outline.Lawful.append`).  Since a rejected text is a lawful outline with a
defect behind it, and a defect does not look at what is in front, the two first parts come from the same
fact.
-/

namespace Formwork

open Template (literalOf)

/-! ## Segments one after the other -/

namespace Segment

/-- The segment as it is when the text `s` is put in front. -/
def behind (s : Text) : Segment → Segment
  | literal text => .literal text
  | placeholder name position => .placeholder name (position.behind s)

/-- The segments of two templates, one after the other.  A literal at the end of the first and one at the
beginning of the second become one. -/
def join : List Segment → List Segment → List Segment
  | [], more => more
  | [.literal text], .literal text' :: more => .literal (text ++ text') :: more
  | part :: parts, more => part :: join parts more

lemma join_literalOf (text text' : Text) :
    join (literalOf text) (literalOf text') = literalOf (text ++ text') := by
  cases text <;> cases text' <;> simp [literalOf, join]

lemma join_literalOf_opening (text before name : Text) (position : Position)
    (more : List Segment) :
    join (literalOf text) (literalOf before ++ .placeholder name position :: more) =
      literalOf (text ++ before) ++ .placeholder name position :: more := by
  cases text <;> cases before <;> simp [literalOf, join]

/-- What is joined to an opening is joined to what follows it. -/
lemma join_opening (before name : Text) (position : Position) (rest more : List Segment) :
    join (literalOf before ++ .placeholder name position :: rest) more =
      literalOf before ++ .placeholder name position :: join rest more := by
  cases before <;> simp [literalOf, join]

lemma flatMap_fill_join (value : Text → Text) (parts more : List Segment) :
    (join parts more).flatMap (fill value) = parts.flatMap (fill value) ++ more.flatMap (fill value) := by
  fun_induction join parts more with
  | case1 => rfl
  | case2 => simp [fill]
  | case3 part parts more _ ih => simp [ih]

lemma filterMap_name?_join (parts more : List Segment) :
    (join parts more).filterMap name? = parts.filterMap name? ++ more.filterMap name? := by
  fun_induction join parts more with
  | case1 => rfl
  | case2 => simp [List.filterMap_cons]
  | case3 part parts more _ ih => cases part <;> simp [List.filterMap_cons, ih]

lemma flatMap_fill_behind (value : Text → Text) (s : Text) (parts : List Segment) :
    (parts.map (behind s)).flatMap (fill value) = parts.flatMap (fill value) := by
  rw [List.flatMap_map]
  congr
  funext part
  cases part <;> rfl

lemma filterMap_name?_behind (s : Text) (parts : List Segment) :
    (parts.map (behind s)).filterMap name? = parts.filterMap name? := by
  rw [List.filterMap_map]
  congr
  funext part
  cases part <;> rfl

end Segment

namespace Template

open Text (HasPair strip)

lemma map_behind_literalOf (s text : Text) :
    (literalOf text).map (Segment.behind s) = literalOf text := by
  cases text <;> rfl

/-- Putting a text in front of openings moves their placeholders. -/
lemma segmentsFrom_behind (s t : Text) (as : List Opening) (rest : Text) :
    segmentsFrom (Position.start.advance (s ++ t)) as rest =
      (segmentsFrom (Position.start.advance t) as rest).map (Segment.behind s) := by
  induction as generalizing t with
  | nil => exact (map_behind_literalOf s rest).symm
  | cons a as ih =>
    have hposition : (Position.start.advance (s ++ t)).advance a.before =
        ((Position.start.advance t).advance a.before).behind s := by
      rw [← Position.advance_append, ← Position.advance_append, List.append_assoc,
        Position.behind_advance]
    have hmore := ih (t ++ a.write)
    rw [← List.append_assoc, Position.advance_append, Position.advance_append _ t] at hmore
    rw [segmentsFrom, segmentsFrom, hmore, hposition, List.map_append, map_behind_literalOf]
    rfl

/-! ## Outlines one after the other -/

namespace Outline

/-- Two outlines one after the other. -/
def append (o o' : Outline) : Outline :=
  match o'.openings with
  | [] => ⟨o.openings, o.rest ++ o'.rest⟩
  | a :: as => ⟨o.openings ++ ⟨o.rest ++ a.before, a.body⟩ :: as, o'.rest⟩

lemma write_append (o o' : Outline) : (o.append o').write = o.write ++ o'.write := by
  obtain ⟨as', rest'⟩ := o'
  cases as' <;> simp [append, write, Opening.write]

lemma getLast?_rest {o : Outline} (h : o.rest.getLast? = some '{') :
    o.write.getLast? = some '{' := by
  rw [write, List.getLast?_append, h]
  rfl

/-- An outline that ends in a brace has it behind its last opening. -/
lemma Lawful.append {o o' : Outline} (ho : o.Lawful) (ho' : o'.Lawful)
    (hseam : o.write.getLast? = some '{' → o'.write.head? ≠ some '{') : (o.append o').Lawful := by
  obtain ⟨as', rest'⟩ := o'
  cases as' with
  | nil =>
    refine ⟨ho.openings, ?_⟩
    change ¬ HasPair '{' (o.rest ++ rest')
    rw [Text.hasPair_append_iff]
    rintro (h | h | ⟨h, h'⟩)
    · exact ho.rest h
    · exact ho'.rest h
    · exact hseam (getLast?_rest h) h'
  | cons a as' =>
    obtain ⟨ha, has⟩ := lawful_cons_iff.1 ho'
    have hpair : ¬ HasPair '{' ((o.rest ++ a.before) ++ ['{']) := by
      rw [List.append_assoc, Text.hasPair_append_iff]
      rintro (h | h | ⟨h, h'⟩)
      · exact ho.rest h
      · exact ha.not_hasPair_concat h
      · refine hseam (getLast?_rest h) ?_
        rw [write_cons, Opening.write_append]
        cases hbefore : a.before with
        | nil => rfl
        | cons c r =>
          rw [hbefore] at h'
          exact h'
    rw [Text.hasPair_concat_iff, not_or] at hpair
    have hjoined : (Opening.mk (o.rest ++ a.before) a.body).Lawful := ⟨hpair.1, hpair.2, ha.padded⟩
    refine ⟨fun b hb => ?_, ho'.rest⟩
    rcases List.mem_append.1 hb with hb | hb
    · exact ho.openings b hb
    rcases List.mem_cons.1 hb with rfl | hb
    · exact hjoined
    · exact has.openings b hb

/-- The segments of two outlines are joined. -/
lemma segmentsFrom_append (o o' : Outline) (position : Position) :
    segmentsFrom position (o.append o').openings (o.append o').rest =
      Segment.join (segmentsFrom position o.openings o.rest)
        (segmentsFrom (position.advance o.write) o'.openings o'.rest) := by
  obtain ⟨as, rest⟩ := o
  obtain ⟨as', rest'⟩ := o'
  induction as generalizing position with
  | nil =>
    cases as' with
    | nil => exact (Segment.join_literalOf rest rest').symm
    | cons a as' =>
      simp only [append, write_nil, List.nil_append, segmentsFrom, Segment.join_literalOf_opening,
        Position.advance_append, Opening.write]
  | cons a as ih =>
    have happend : (Outline.mk (a :: as) rest).append ⟨as', rest'⟩ =
        ⟨a :: ((Outline.mk as rest).append ⟨as', rest'⟩).openings,
          ((Outline.mk as rest).append ⟨as', rest'⟩).rest⟩ := by
      cases as' <;> rfl
    rw [happend, write_cons, Position.advance_append]
    simp only [segmentsFrom, Segment.join_opening, ih]

/-- What an outline behind another one ends in, the whole ends in. -/
lemma getLast?_rest_append {o o' : Outline} (h : (o.append o').rest.getLast? = some '{') :
    o'.rest.getLast? = some '{' ∨ o'.write = [] ∧ o.write.getLast? = some '{' := by
  obtain ⟨as', rest'⟩ := o'
  cases as' with
  | nil =>
    change (o.rest ++ rest').getLast? = some '{' at h
    cases rest' with
    | nil =>
      rw [List.append_nil] at h
      exact .inr ⟨rfl, getLast?_rest h⟩
    | cons c r =>
      rw [List.getLast?_append_of_ne_nil _ (List.cons_ne_nil c r)] at h
      exact .inl h
  | cons a as' => exact .inl h

end Outline

/-! ## Reading -/

variable {s t : Text} {a b : Template} {m : Malformed}

lemma parse_append_of_ok (hs : parse s = .ok a) (ht : parse t = .ok b)
    (hseam : s.getLast? = some '{' → t.head? ≠ some '{') :
    parse (s ++ t) = .ok ⟨s ++ t, Segment.join a.segments (b.segments.map (Segment.behind s))⟩ := by
  obtain ⟨o, ho, rfl, rfl⟩ := parse_eq_ok_iff.1 hs
  obtain ⟨o', ho', rfl, rfl⟩ := parse_eq_ok_iff.1 ht
  refine parse_eq_ok_iff.2 ⟨o.append o', ho.append ho' hseam, Outline.write_append o o', ?_⟩
  have hbehind := segmentsFrom_behind o.write [] o'.openings o'.rest
  rw [List.append_nil] at hbehind
  unfold Outline.segments
  rw [Outline.segmentsFrom_append, hbehind]
  rfl

lemma parse_append_of_error (hs : parse s = .ok a) (ht : parse t = .error m)
    (hseam : s.getLast? = some '{' → t.head? ≠ some '{') :
    parse (s ++ t) = .error ⟨m.flaw, m.position.behind s⟩ := by
  obtain ⟨o, ho, rfl, -⟩ := parse_eq_ok_iff.1 hs
  obtain ⟨o', tail, way, ho', hlast, rfl, hdefect, hposition⟩ := parse_eq_error_iff.1 ht
  have hfront : o.write.getLast? = some '{' → o'.write.head? ≠ some '{' := by
    intro hbrace hhead
    refine hseam hbrace ?_
    rw [List.head?_append, hhead]
    rfl
  refine parse_eq_error_iff.2 ⟨o.append o', tail, way, ho.append ho' hfront, ?_, ?_, hdefect, ?_⟩
  · intro hbrace
    rcases Outline.getLast?_rest_append hbrace with hbrace | ⟨hnil, hbrace⟩
    · exact hlast hbrace
    · refine hseam hbrace ?_
      rw [hnil]
      rfl
  · rw [Outline.write_append, List.append_assoc]
  · rw [hposition, Position.behind_advance, Outline.write_append, List.append_assoc]

/-- Only what nothing closes depends on what follows. -/
lemma Defect.append {tail way : Text} {flaw : Flaw} (h : Defect tail flaw way)
    (hclosed : flaw ≠ .unclosed) (t : Text) : Defect (tail ++ t) flaw way := by
  cases h with
  | unclosed => exact absurd rfl hclosed
  | @body body after _ _ closing wrong =>
    obtain ⟨rfl, hbody⟩ := Text.cutPair?_eq_some_iff.1 closing
    have hagain := Text.cutPair?_append hbody (after ++ t)
    rw [List.append_assoc]
    exact .body hagain wrong

lemma parse_append_of_flaw (hs : parse s = .error m) (hclosed : m.flaw ≠ .unclosed) (t : Text) :
    parse (s ++ t) = .error m := by
  obtain ⟨o, tail, way, ho, hlast, rfl, hdefect, hposition⟩ := parse_eq_error_iff.1 hs
  exact parse_eq_error_iff.2 ⟨o, tail ++ t, way, ho, hlast, by simp, hdefect.append hclosed t,
    hposition⟩

/-- Without indentation, joined segments have the outputs of both. -/
lemma exists_outputs_of_join {r : Render} (hindent : r.indent = false) {values : Table Text}
    {source : Text}
    (hbound : ∀ name ∈ (Template.mk source
      (Segment.join a.segments (b.segments.map (Segment.behind s)))).mentions, name ∈ values.keys) :
    ∃ x y, r.template a values = .ok x ∧ r.template b values = .ok y ∧
      r.template ⟨source, Segment.join a.segments (b.segments.map (Segment.behind s))⟩ values =
        .ok (x ++ y) := by
  obtain ⟨z, hz⟩ := Render.exists_segments_iff.2 hbound
  unfold mentions at hbound
  rw [Segment.filterMap_name?_join, Segment.filterMap_name?_behind] at hbound
  obtain ⟨x, hx⟩ := Render.exists_segments_iff.2 fun n hn => hbound n (List.mem_append_left _ hn)
  obtain ⟨y, hy⟩ := Render.exists_segments_iff.2 fun n hn => hbound n (List.mem_append_right _ hn)
  refine ⟨x, y, hx, hy, hz.trans (congrArg _ ?_)⟩
  rw [Render.segments_eq_flatMap hindent hz, Segment.flatMap_fill_join, Segment.flatMap_fill_behind,
    ← Render.segments_eq_flatMap hindent hx, ← Render.segments_eq_flatMap hindent hy]

/-- **Reading respects concatenation.**  Let `s` be a template, and let it not end in an opening brace
where `t` begins with one.  If `t` is a template, so is `s ++ t`: its segments are those of `s` followed
by those of `t`, where two literals that meet become one and the placeholders of `t` are as far behind `s`
as they were behind the beginning, and without indentation its output is the output of `s` followed by
that of `t`, whenever all names have values.  If `t` is rejected, so is `s ++ t`, for the same flaw as far
behind `s`.  And if `s` is rejected for anything but braces that nothing closes, then whatever follows,
`s ++ t` is rejected with the same error. -/
theorem parse_concatenation (s t : Text) :
    (∀ a, parse s = .ok a → (s.getLast? ≠ some '{' ∨ t.head? ≠ some '{') →
      (∀ b, parse t = .ok b →
        ∃ c, parse (s ++ t) = .ok c ∧
          c.segments = Segment.join a.segments (b.segments.map (Segment.behind s)) ∧
          ∀ (r : Render) values, r.indent = false → (∀ name ∈ c.mentions, name ∈ values.keys) →
            ∃ x y, r.template a values = .ok x ∧ r.template b values = .ok y ∧
              r.template c values = .ok (x ++ y)) ∧
      ∀ m, parse t = .error m → parse (s ++ t) = .error ⟨m.flaw, m.position.behind s⟩) ∧
    ∀ m, parse s = .error m → m.flaw ≠ .unclosed → parse (s ++ t) = .error m := by
  refine ⟨fun a ha hapart => ?_, fun m hm hclosed => parse_append_of_flaw hm hclosed t⟩
  have hseam : s.getLast? = some '{' → t.head? ≠ some '{' := fun h => hapart.resolve_left (· h)
  refine ⟨fun b hb => ⟨_, parse_append_of_ok ha hb hseam, rfl, ?_⟩,
    fun m hm => parse_append_of_error ha hm hseam⟩
  exact fun r values hindent hbound => exists_outputs_of_join hindent hbound

/-- A brace at the end of the first text does not make a placeholder with what follows it, here a newline
or the end. -/
theorem parse_concatenation_at_brace :
    (∃ b, parse "\n\x7b\x7b y\x7d\x7d\x7d" = .ok b ∧
      ∃ c, parse "\x7b\x7bx\x7d\x7da\x7b\n\x7b\x7b y\x7d\x7d\x7d" = .ok c ∧
        c.segments = [.placeholder ['x'] ⟨0, 1, 1⟩, .literal ['a', '{', '\n'],
          .placeholder ['y'] ⟨8, 2, 1⟩, .literal ['}']]) ∧
    parse "\n\x7b\x7b" = .error ⟨.unclosed, ⟨1, 2, 1⟩⟩ ∧
    parse "\x7b\x7bx\x7d\x7da\x7b\n\x7b\x7b" = .error ⟨.unclosed, ⟨8, 2, 1⟩⟩ ∧
    parse "\x7b\x7b-\x7d\x7d" = .error ⟨.invalid ['-'], ⟨0, 1, 1⟩⟩ ∧
    ∀ t : Text, parse (("\x7b\x7b-\x7d\x7d" : Text) ++ t) = .error ⟨.invalid ['-'], ⟨0, 1, 1⟩⟩ := by
  have hs : parse "\x7b\x7bx\x7d\x7da\x7b" = .ok ⟨"\x7b\x7bx\x7d\x7da\x7b",
      [.placeholder ['x'] ⟨0, 1, 1⟩, .literal ['a', '{']]⟩ := by cbv
  have ht : parse "\n\x7b\x7b y\x7d\x7d\x7d" = .ok ⟨"\n\x7b\x7b y\x7d\x7d\x7d",
      [.literal ['\n'], .placeholder ['y'] ⟨1, 2, 1⟩, .literal ['}']]⟩ := by cbv
  have hrejected : parse "\n\x7b\x7b" = .error ⟨.unclosed, ⟨1, 2, 1⟩⟩ := by cbv
  have hinvalid : parse "\x7b\x7b-\x7d\x7d" = .error ⟨.invalid ['-'], ⟨0, 1, 1⟩⟩ := by cbv
  obtain ⟨hok, -⟩ := (parse_concatenation _ "\n\x7b\x7b y\x7d\x7d\x7d").1 _ hs (.inr (by decide))
  obtain ⟨c, hc, hsegments, -⟩ := hok _ ht
  obtain ⟨-, herror⟩ := (parse_concatenation _ "\n\x7b\x7b").1 _ hs (.inr (by decide))
  exact ⟨⟨_, ht, c, hc, hsegments⟩, hrejected, herror _ hrejected, hinvalid,
    fun t => (parse_concatenation _ t).2 _ hinvalid (by decide)⟩

end Template

end Formwork
