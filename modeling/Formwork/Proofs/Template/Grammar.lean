import Formwork.Proofs.Stages
import Formwork.Proofs.Text.Pair
import Formwork.Proofs.Text.Trim
import Mathlib.Data.List.Chain
import Mathlib.Data.List.Permutation

/-!
# The grammar of templates

A template is written as L0 {{B1}} L1 ... {{Bn}} Ln.  Such a layout of a text is an `Outline`: the
openings, each with the text in front of it and the body between its braces, and the text after the
last of them.  It is `Lawful` when

* no text in front of an opening holds two opening braces or ends in one, so that the braces of the
  opening are the first ones,
* every body is a name padded with blanks, and
* the text after the last opening holds no two opening braces.

The main result, `parse_reads_grammar`, says that reading accepts the texts that have a lawful
outline, that a text has at most one, and that the segments are those of the outline.

The reader is described by three equations, one for each way in which its two searches can end
(`readSegments_of_no_pair`, `readSegments_of_unclosed`, `readSegments_of_closed`).  In one
direction, a lawful outline is read by induction on its openings: the searches find the braces of
the first opening because it is lawful (`Opening.Lawful.cut_open`, `Opening.Lawful.cut_close`).  In
the other, an outline is put together by induction on the length of what is left to read.

That nothing is lost, doubled or moved is stated on its own, without outlines: the segments tile the
text (`Tiles`), each at its offset, and no literal is empty or next to another one (`Compact`).
-/

namespace Formwork.Template

open Text (HasPair allBlank isBlank strip)

/-! ## Names and their padding -/

lemma toNat_of_isNameChar {c : Char} (h : isNameChar c = true) :
    48 ≤ c.toNat ∧ c.toNat ≤ 122 := by
  have hval : c.toNat = c.val.toNat := rfl
  simp only [isNameChar, isNameStart, Bool.or_eq_true, Bool.and_eq_true, decide_eq_true_eq,
    beq_iff_eq, Char.le_def, UInt32.le_iff_toNat_le] at h
  rw [hval]
  rcases h with ((h | h) | rfl) | h
  · exact ⟨le_trans (by decide) h.1, le_trans h.2 (by decide)⟩
  · exact ⟨le_trans (by decide) h.1, le_trans h.2 (by decide)⟩
  · decide
  · exact ⟨h.1, le_trans h.2 (by decide)⟩

lemma isBlank_of_isNameChar {c : Char} (h : isNameChar c = true) : isBlank c = false := by
  obtain ⟨hlow, hhigh⟩ := toNat_of_isNameChar h
  simp only [isBlank, Text.blankRanges, List.any_cons, List.any_nil, Bool.or_false,
    Bool.or_eq_false_iff, Bool.and_eq_false_iff, decide_eq_false_iff_not]
  omega

lemma isNameChar_of_mem {name : Text} (h : isIdentifier name = true) :
    ∀ c ∈ name, isNameChar c = true := by
  cases name with
  | nil => cases h
  | cons c r =>
    rw [isIdentifier, Bool.and_eq_true] at h
    intro d hd
    rcases List.mem_cons.1 hd with rfl | hd
    · rw [isNameChar, h.1, Bool.true_or]
    · exact List.all_eq_true.1 h.2 d hd

/-- The body is the name with blanks around it. -/
def Pads (body name : Text) : Prop :=
  ∃ l r, body = l ++ name ++ r ∧ allBlank l = true ∧ isIdentifier name = true ∧ allBlank r = true

lemma pads_self {name : Text} (h : isIdentifier name = true) : Pads name name :=
  ⟨[], [], by simp, rfl, h, rfl⟩

/-- Stripping a body gives the name in it. -/
lemma Pads.strip_eq {body name : Text} (h : Pads body name) : strip body = name := by
  obtain ⟨l, r, rfl, hl, hname, hr⟩ := h
  exact Text.strip_append hl (fun c hc => isBlank_of_isNameChar (isNameChar_of_mem hname c hc)) hr

lemma pads_strip {body : Text} (h : isIdentifier (strip body) = true) :
    Pads body (strip body) := by
  obtain ⟨l, r, hs, hl, hr⟩ := Text.exists_eq_append_strip body
  exact ⟨l, r, hs, hl, h, hr⟩

/-- A body consists of blanks and of characters that may stand in a name. -/
lemma Pads.mem {body name : Text} (h : Pads body name) {c : Char} (hc : c ∈ body) :
    isBlank c = true ∨ isNameChar c = true := by
  obtain ⟨l, r, rfl, hl, hname, hr⟩ := h
  rw [List.mem_append, List.mem_append] at hc
  rcases hc with (hc | hc) | hc
  · exact .inl (Text.allBlank_iff.1 hl c hc)
  · exact .inr (isNameChar_of_mem hname c hc)
  · exact .inl (Text.allBlank_iff.1 hr c hc)

lemma Pads.not_mem_open {body name : Text} (h : Pads body name) : '{' ∉ body := by
  intro hc
  rcases h.mem hc with hb | hn
  · exact absurd hb (by decide)
  · exact absurd hn (by decide)

lemma Pads.not_mem_close {body name : Text} (h : Pads body name) : '}' ∉ body := by
  intro hc
  rcases h.mem hc with hb | hn
  · exact absurd hb (by decide)
  · exact absurd hn (by decide)

/-- A body is read exactly when it is a name with blanks around it. -/
lemma readBody_eq_ok_iff {position : Position} {body name : Text} :
    readBody position body = .ok name ↔ Pads body name := by
  constructor
  · intro h
    unfold readBody at h
    split at h
    · cases h
    · dsimp only at h
      split at h
      · cases h
      · split at h
        · rename_i hid
          cases h
          exact pads_strip hid
        · cases h
  · intro h
    have hcut : cutPair? '{' body = none :=
      Text.cutPair?_eq_none_iff.2 fun hp => h.not_mem_open hp.mem
    have hname : isIdentifier name = true := h.choose_spec.choose_spec.2.2.1
    have hne : name.isEmpty = false := by
      cases name with
      | nil => cases hname
      | cons c r => rfl
    unfold readBody
    rw [hcut]
    dsimp only
    rw [h.strip_eq, hne, hname]
    rfl

/-! ## Openings and outlines -/

/-- A place left open, as it is written: the text in front of it and the body between its braces. -/
structure Opening where
  before : Text
  body : Text
  deriving Repr, DecidableEq

/-- A text laid out as a template: the places left open, and the text after the last of them. -/
structure Outline where
  openings : List Opening
  rest : Text
  deriving Repr, DecidableEq

namespace Opening

/-- The text of an opening. -/
def write (a : Opening) : Text := a.before ++ '{' :: '{' :: (a.body ++ ['}', '}'])

/-- What the grammar asks of an opening.  The text in front of it neither holds two opening braces
nor ends in one, so that the braces of the opening are the first; the body is a padded name. -/
structure Lawful (a : Opening) : Prop where
  no_pair : ¬ HasPair '{' a.before
  no_brace : a.before.getLast? ≠ some '{'
  padded : ∃ name, Pads a.body name

lemma length_write (a : Opening) : a.write.length = a.before.length + a.body.length + 4 := by
  simp only [write, List.length_append, List.length_cons, List.length_nil]
  omega

/-- What follows an opening stands after its closing braces. -/
lemma write_append (a : Opening) (s : Text) :
    a.write ++ s = a.before ++ '{' :: '{' :: (a.body ++ '}' :: '}' :: s) := by
  simp [write]

lemma advance_write (p : Position) (a : Opening) :
    ((((p.advance a.before).advance ['{', '{']).advance a.body).advance ['}', '}'])
      = p.advance a.write := by
  rw [← Position.advance_append, ← Position.advance_append, ← Position.advance_append]
  simp [write]

lemma Lawful.not_hasPair_concat {a : Opening} (h : a.Lawful) :
    ¬ HasPair '{' (a.before ++ ['{']) := by
  rw [Text.hasPair_concat_iff]
  rintro (hp | hb)
  · exact h.no_pair hp
  · exact h.no_brace hb

lemma Lawful.pads {a : Opening} (h : a.Lawful) : Pads a.body (strip a.body) := by
  obtain ⟨name, hname⟩ := h.padded
  rw [hname.strip_eq]
  exact hname

/-- The first pair of opening braces belongs to a lawful opening that begins the text. -/
lemma Lawful.cut_open {a : Opening} (h : a.Lawful) (s : Text) :
    cutPair? '{' (a.write ++ s) = some (a.before, a.body ++ '}' :: '}' :: s) := by
  rw [write_append]
  exact Text.cutPair?_append h.not_hasPair_concat _

/-- The first pair of closing braces behind the opening ones ends it. -/
lemma Lawful.cut_close {a : Opening} (h : a.Lawful) (s : Text) :
    cutPair? '}' (a.body ++ '}' :: '}' :: s) = some (a.body, s) :=
  Text.cutPair?_append_of_not_mem h.pads.not_mem_close s

/-- A lawful opening begins a text in one way only. -/
lemma Lawful.eq_of_append {a a' : Opening} (h : a.Lawful) (h' : a'.Lawful) {s s' : Text}
    (hw : a.write ++ s = a'.write ++ s') : a = a' ∧ s = s' := by
  have hopen := h.cut_open s
  rw [hw, h'.cut_open] at hopen
  obtain ⟨hbefore, hrest⟩ := Prod.mk.inj (Option.some.inj hopen)
  have hclose := h.cut_close s
  rw [← hrest, h'.cut_close] at hclose
  obtain ⟨hbody, hs⟩ := Prod.mk.inj (Option.some.inj hclose)
  cases a
  cases a'
  cases hbefore
  cases hbody
  exact ⟨rfl, hs.symm⟩

/-- The text of an opening has a pair of opening braces. -/
lemma hasPair_write_append (a : Opening) (s : Text) : HasPair '{' (a.write ++ s) := by
  rw [write_append]
  exact Text.hasPair_append_pair '{' _ _

end Opening

/-- The segments of some openings and the text after them, when they begin at `position`. -/
def segmentsFrom (position : Position) : List Opening → Text → List Segment
  | [], rest => literalOf rest
  | a :: as, rest =>
    literalOf a.before ++ .placeholder (strip a.body) (position.advance a.before)
      :: segmentsFrom (position.advance a.write) as rest

namespace Outline

/-- The text of an outline: L0 {{B1}} L1 ... {{Bn}} Ln without a gap. -/
def write (o : Outline) : Text := o.openings.flatMap Opening.write ++ o.rest

/-- The segments of an outline. -/
def segments (o : Outline) : List Segment := segmentsFrom .start o.openings o.rest

/-- What the grammar asks of an outline: every opening is lawful, and no two opening braces follow
the last one. -/
structure Lawful (o : Outline) : Prop where
  openings : ∀ a ∈ o.openings, a.Lawful
  rest : ¬ HasPair '{' o.rest

lemma write_nil (rest : Text) : (Outline.mk [] rest).write = rest := rfl

lemma write_cons (a : Opening) (as : List Opening) (rest : Text) :
    (Outline.mk (a :: as) rest).write = a.write ++ (Outline.mk as rest).write := by
  simp [write]

lemma lawful_nil {rest : Text} (h : ¬ HasPair '{' rest) : (Outline.mk [] rest).Lawful :=
  ⟨fun _ ha => absurd ha List.not_mem_nil, h⟩

lemma lawful_cons_iff {a : Opening} {as : List Opening} {rest : Text} :
    (Outline.mk (a :: as) rest).Lawful ↔ a.Lawful ∧ (Outline.mk as rest).Lawful := by
  constructor
  · intro h
    exact ⟨h.openings a List.mem_cons_self,
      fun b hb => h.openings b (List.mem_cons_of_mem _ hb), h.rest⟩
  · rintro ⟨ha, h⟩
    refine ⟨fun b hb => ?_, h.rest⟩
    rcases List.mem_cons.1 hb with rfl | hb
    · exact ha
    · exact h.openings b hb

end Outline

/-! ## The names in an outline -/

lemma filterMap_name?_literalOf (s : Text) : (literalOf s).filterMap Segment.name? = [] := by
  cases s <;> rfl

/-- The names that an outline mentions are those in its openings. -/
lemma filterMap_name?_segmentsFrom (position : Position) (openings : List Opening) (rest : Text) :
    (segmentsFrom position openings rest).filterMap Segment.name?
      = openings.map fun a => strip a.body := by
  induction openings generalizing position with
  | nil => exact filterMap_name?_literalOf rest
  | cons a openings ih =>
    rw [segmentsFrom, List.filterMap_append, filterMap_name?_literalOf, List.nil_append,
      List.filterMap_cons, Segment.name?_placeholder, ih]
    rfl

/-- The name in an opening is mentioned by the template. -/
lemma mem_mentions_of_mem_openings {o : Outline} {source : Text} {a : Opening}
    (ha : a ∈ o.openings) : strip a.body ∈ (Template.mk source o.segments).mentions := by
  unfold mentions Outline.segments
  rw [filterMap_name?_segmentsFrom]
  exact List.mem_map_of_mem ha

/-! ## One step of the reader -/

/-- A text without opening braces is one literal. -/
lemma readSegments_of_no_pair {s : Text} (h : ¬ HasPair '{' s) (position : Position) :
    readSegments position s = .ok (literalOf s) := by
  have hcut : cutPair? '{' s = none := Text.cutPair?_eq_none_iff.2 h
  rw [readSegments]
  split
  · rfl
  · rename_i hopen
    rw [hcut] at hopen
    cases hopen

/-- Opening braces that nothing closes are an error. -/
lemma readSegments_of_unclosed {s before rest : Text}
    (hopen : cutPair? '{' s = some (before, rest)) (hclose : cutPair? '}' rest = none)
    (position : Position) :
    readSegments position s = .error ⟨.unclosed, position.advance before⟩ := by
  rw [readSegments]
  split
  · rename_i hnone
    rw [hopen] at hnone
    cases hnone
  · rename_i before' rest' hopen'
    rw [hopen] at hopen'
    cases hopen'
    dsimp only
    split
    · rfl
    · rename_i hsome
      rw [hclose] at hsome
      cases hsome

/-- Braces that are opened and closed make an opening: its body is read, and then what follows. -/
lemma readSegments_of_closed {s before rest body after : Text}
    (hopen : cutPair? '{' s = some (before, rest)) (hclose : cutPair? '}' rest = some (body, after))
    (position : Position) :
    readSegments position s =
      (readBody (position.advance before) body).bind fun name =>
        (readSegments (position.advance (Opening.mk before body).write) after).map fun segments =>
          literalOf before ++ .placeholder name (position.advance before) :: segments := by
  rw [readSegments]
  split
  · rename_i hnone
    rw [hopen] at hnone
    cases hnone
  · rename_i before' rest' hopen'
    rw [hopen] at hopen'
    cases hopen'
    dsimp only
    split
    · rename_i hnone
      rw [hclose] at hnone
      cases hnone
    · rename_i body' after' hclose'
      rw [hclose] at hclose'
      cases hclose'
      rw [← Opening.advance_write]
      rfl

/-! ## The reader accepts the grammar, and nothing else -/

/-- A lawful outline is read from its text. -/
lemma readSegments_write {o : Outline} (h : o.Lawful) (position : Position) :
    readSegments position o.write = .ok (segmentsFrom position o.openings o.rest) := by
  obtain ⟨as, rest⟩ := o
  induction as generalizing position with
  | nil => exact readSegments_of_no_pair h.rest position
  | cons a as ih =>
    obtain ⟨ha, has⟩ := Outline.lawful_cons_iff.1 h
    rw [Outline.write_cons, readSegments_of_closed (ha.cut_open _) (ha.cut_close _),
      readBody_eq_ok_iff.2 ha.pads]
    show (readSegments (position.advance a.write) (Outline.mk as rest).write).map _ = _
    rw [ih _ has]
    rfl

/-- A text that is read has a lawful outline. -/
lemma exists_outline_of_readSegments {position : Position} {s : Text} {segments : List Segment}
    (h : readSegments position s = .ok segments) : ∃ o : Outline, o.Lawful ∧ o.write = s := by
  induction hn : s.length using Nat.strong_induction_on generalizing position s segments with
  | _ n ih =>
    cases hopen : cutPair? '{' s with
    | none =>
      exact ⟨⟨[], s⟩, Outline.lawful_nil (Text.cutPair?_eq_none_iff.1 hopen), rfl⟩
    | some cut =>
      obtain ⟨before, rest⟩ := cut
      obtain ⟨hs, hbefore⟩ := Text.cutPair?_eq_some_iff.1 hopen
      cases hclose : cutPair? '}' rest with
      | none =>
        rw [readSegments_of_unclosed hopen hclose] at h
        cases h
      | some cut =>
        obtain ⟨body, after⟩ := cut
        rw [readSegments_of_closed hopen hclose] at h
        obtain ⟨name, hname, h⟩ := Except.bind_eq_ok_iff.1 h
        obtain ⟨following, hafter, -⟩ := Except.map_eq_ok_iff.1 h
        have hlength : after.length < n := by
          have := length_of_cutPair? hopen
          have := length_of_cutPair? hclose
          omega
        obtain ⟨o, ho, hwrite⟩ := ih _ hlength hafter rfl
        have hlawful : (Opening.mk before body).Lawful := by
          rw [Text.hasPair_concat_iff, not_or] at hbefore
          exact ⟨hbefore.1, hbefore.2, name, readBody_eq_ok_iff.1 hname⟩
        refine ⟨⟨⟨before, body⟩ :: o.openings, o.rest⟩,
          Outline.lawful_cons_iff.2 ⟨hlawful, ho⟩, ?_⟩
        rw [Outline.write_cons, hwrite, Opening.write_append, hs,
          (Text.cutPair?_eq_some_iff.1 hclose).1]

/-- A text has at most one lawful outline. -/
lemma Outline.Lawful.eq_of_write {o o' : Outline} (h : o.Lawful) (h' : o'.Lawful)
    (hw : o.write = o'.write) : o = o' := by
  obtain ⟨as, rest⟩ := o
  obtain ⟨as', rest'⟩ := o'
  induction as generalizing as' with
  | nil =>
    cases as' with
    | nil =>
      rw [Outline.write_nil, Outline.write_nil] at hw
      rw [hw]
    | cons a' as' =>
      rw [Outline.write_nil, Outline.write_cons] at hw
      exact absurd (hw ▸ a'.hasPair_write_append _) h.rest
  | cons a as ih =>
    obtain ⟨ha, has⟩ := Outline.lawful_cons_iff.1 h
    cases as' with
    | nil =>
      rw [Outline.write_nil, Outline.write_cons] at hw
      exact absurd (hw ▸ a.hasPair_write_append _) h'.rest
    | cons a' as' =>
      obtain ⟨ha', has'⟩ := Outline.lawful_cons_iff.1 h'
      rw [Outline.write_cons, Outline.write_cons] at hw
      obtain ⟨rfl, hfollowing⟩ := ha.eq_of_append ha' hw
      cases ih has as' has' hfollowing
      rfl

/-- A template is read from a text exactly when the text has a lawful outline, and it has the
segments of that outline. -/
lemma parse_eq_ok_iff {source : Text} {t : Template} :
    parse source = .ok t ↔
      ∃ o : Outline, o.Lawful ∧ o.write = source ∧ t = ⟨source, o.segments⟩ := by
  constructor
  · intro h
    obtain ⟨segments, hs, rfl⟩ := Except.map_eq_ok_iff.1 h
    obtain ⟨o, ho, rfl⟩ := exists_outline_of_readSegments hs
    rw [readSegments_write ho] at hs
    cases hs
    exact ⟨o, ho, rfl, rfl⟩
  · rintro ⟨o, ho, rfl, rfl⟩
    unfold parse
    rw [readSegments_write ho]
    rfl

/-! ## Nothing is lost, doubled or moved -/

/-- The segments cover the text from offset `n` on, one after the other without a gap.  A literal
covers its own characters, and a placeholder, which records the offset it begins at, its padded name
between braces. -/
inductive Tiles : Nat → Text → List Segment → Prop
  | nil (n : Nat) : Tiles n [] []
  | literal {n : Nat} {text s : Text} {segments : List Segment}
      (following : Tiles (n + text.length) s segments) :
      Tiles n (text ++ s) (.literal text :: segments)
  | placeholder {n : Nat} {body name s : Text} {position : Position} {segments : List Segment}
      (padded : Pads body name) (offset : position.offset = n)
      (following : Tiles (n + body.length + 4) s segments) :
      Tiles n ('{' :: '{' :: (body ++ '}' :: '}' :: s)) (.placeholder name position :: segments)

lemma tiles_literalOf {n : Nat} {text s : Text} {segments : List Segment}
    (h : Tiles (n + text.length) s segments) :
    Tiles n (text ++ s) (literalOf text ++ segments) := by
  cases text with
  | nil => exact h
  | cons c r => exact .literal h

/-- The segments of a lawful outline cover its text. -/
lemma tiles_segmentsFrom {o : Outline} (h : o.Lawful) (position : Position) :
    Tiles position.offset o.write (segmentsFrom position o.openings o.rest) := by
  obtain ⟨as, rest⟩ := o
  induction as generalizing position with
  | nil =>
    have hrest : Tiles position.offset (rest ++ []) (literalOf rest ++ []) :=
      tiles_literalOf (.nil _)
    rw [List.append_nil, List.append_nil] at hrest
    exact hrest
  | cons a as ih =>
    obtain ⟨ha, has⟩ := Outline.lawful_cons_iff.1 h
    rw [Outline.write_cons, Opening.write_append]
    refine tiles_literalOf (.placeholder ha.pads (Position.offset_advance _ _) ?_)
    have hoffset : (position.advance a.write).offset
        = position.offset + a.before.length + a.body.length + 4 := by
      rw [Position.offset_advance, Opening.length_write]
      omega
    rw [← hoffset]
    exact ih _ has

/-- No literal is empty, and of two neighbours at least one is a placeholder. -/
structure Compact (segments : List Segment) : Prop where
  nonempty : .literal [] ∉ segments
  apart : segments.IsChain fun a b => a.name?.isSome ∨ b.name?.isSome

lemma compact_literalOf (s : Text) : Compact (literalOf s) := by
  cases s with
  | nil => exact ⟨List.not_mem_nil, .nil⟩
  | cons c r => exact ⟨by simp [literalOf], .singleton _⟩

lemma Compact.cons_placeholder {segments : List Segment} (h : Compact segments) (name : Text)
    (position : Position) : Compact (.placeholder name position :: segments) := by
  refine ⟨fun hm => ?_, h.apart.cons fun b _ => .inl rfl⟩
  rcases List.mem_cons.1 hm with he | hm
  · cases he
  · exact h.nonempty hm

lemma Compact.literalOf_append {name : Text} {position : Position} {segments : List Segment}
    (h : Compact (.placeholder name position :: segments)) (s : Text) :
    Compact (literalOf s ++ .placeholder name position :: segments) := by
  cases s with
  | nil => exact h
  | cons c r =>
    refine ⟨fun hm => ?_, h.apart.cons fun b hb => ?_⟩
    · rcases List.mem_cons.1 hm with he | hm
      · cases he
      · exact h.nonempty hm
    · cases hb
      exact .inr rfl

lemma compact_segmentsFrom (position : Position) (as : List Opening) (rest : Text) :
    Compact (segmentsFrom position as rest) := by
  induction as generalizing position with
  | nil => exact compact_literalOf rest
  | cons a as ih => exact ((ih _).cons_placeholder _ _).literalOf_append _

/-- **Reading a template accepts exactly the grammar.**  A text is read if and only if it has a
lawful outline.  It has at most one, and its segments are those that are read: the texts in front of
the openings and after them where they are not empty, and the stripped bodies, each at the place of
its opening braces.  These segments cover the whole text, and literals are neither empty nor next to
each other. -/
theorem parse_reads_grammar (source : Text) :
    ((∃ t, parse source = .ok t) ↔ ∃ o : Outline, o.Lawful ∧ o.write = source) ∧
      (∀ o o' : Outline, o.Lawful → o'.Lawful → o.write = source → o'.write = source → o = o') ∧
      (∀ o : Outline, o.Lawful → o.write = source → parse source = .ok ⟨source, o.segments⟩) ∧
      ∀ t, parse source = .ok t → Tiles 0 source t.segments ∧ Compact t.segments := by
  refine ⟨⟨?_, ?_⟩, ?_, ?_, ?_⟩
  · rintro ⟨t, h⟩
    obtain ⟨o, ho, hw, -⟩ := parse_eq_ok_iff.1 h
    exact ⟨o, ho, hw⟩
  · rintro ⟨o, ho, hw⟩
    exact ⟨_, parse_eq_ok_iff.2 ⟨o, ho, hw, rfl⟩⟩
  · intro o o' ho ho' hw hw'
    exact ho.eq_of_write ho' (hw.trans hw'.symm)
  · intro o ho hw
    exact parse_eq_ok_iff.2 ⟨o, ho, hw, rfl⟩
  · intro t h
    obtain ⟨o, ho, rfl, rfl⟩ := parse_eq_ok_iff.1 h
    exact ⟨tiles_segmentsFrom ho .start, compact_segmentsFrom .start o.openings o.rest⟩

theorem parse_braces_in_a_row :
    ∃ t, parse "a\x7b \x7b\x7b x \x7d\x7d\x7b\x7by\x7d\x7d\x7d\x7d" = .ok t ∧
      t.segments = [.literal ['a', '{', ' '], .placeholder ['x'] ⟨3, 1, 4⟩,
        .placeholder ['y'] ⟨10, 1, 11⟩, .literal ['}', '}']] ∧
      Tiles 0 "a\x7b \x7b\x7b x \x7d\x7d\x7b\x7by\x7d\x7d\x7d\x7d" t.segments ∧
      Compact t.segments := by
  have hparse : parse "a\x7b \x7b\x7b x \x7d\x7d\x7b\x7by\x7d\x7d\x7d\x7d" =
      .ok ⟨"a\x7b \x7b\x7b x \x7d\x7d\x7b\x7by\x7d\x7d\x7d\x7d",
        [.literal ['a', '{', ' '], .placeholder ['x'] ⟨3, 1, 4⟩, .placeholder ['y'] ⟨10, 1, 11⟩,
          .literal ['}', '}']]⟩ := by
    cbv
  exact ⟨_, hparse, rfl, (parse_reads_grammar _).2.2.2 _ hparse⟩

end Formwork.Template
