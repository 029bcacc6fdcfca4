import Formwork.Proofs.Template.Grammar

/-!
# What is reported of a text that is no template

A text that is not read begins with a lawful outline, which opening braces follow that do not belong to
a placeholder.  `parse_eq_error_iff` says so, and what the error is then: the outline is read up to these
braces, and a `Defect` of what stands behind them is reported.  Either nothing closes the braces, or the
body up to the first closing ones is wrong.

The main statement, `parse_error_iff_first_bad_opening`, says the same in terms of offsets, without
outlines and without searches.  A `BadOpening` is an offset where opening braces stand that begin no
placeholder, behind a text that is a template.  The error is about the first one, and its `Diagnosis`
is determined by the first closing braces behind it.

What makes the bad opening of the reader the first of all is that the braces of a lawful outline stand at
its openings and nowhere else (`startsPlaceholder_or_exists_pairAt`).
-/

namespace Formwork.Template

open Text (HasPair PairAt allBlank strip)

/-! ## What can be wrong behind opening braces -/

/-- What is wrong with a body, and the text from its opening braces to the braces at fault. -/
inductive BodyDefect (body : Text) : Flaw → Text → Prop
  | nested {inside more : Text} (inner : cutPair? '{' body = some (inside, more)) :
    BodyDefect body .nested ('{' :: '{' :: inside)
  | empty (flat : ¬ HasPair '{' body) (blank : strip body = []) : BodyDefect body .empty []
  | invalid (flat : ¬ HasPair '{' body) (filled : strip body ≠ [])
    (wrong : isIdentifier (strip body) = false) : BodyDefect body (.invalid (strip body)) []

/-- What is wrong with what stands behind opening braces, and the text from these to the braces at
fault. -/
inductive Defect (tail : Text) : Flaw → Text → Prop
  | unclosed (never : ¬ HasPair '}' tail) : Defect tail .unclosed []
  | body {body after way : Text} {flaw : Flaw} (closing : cutPair? '}' tail = some (body, after))
    (wrong : BodyDefect body flaw way) : Defect tail flaw way

lemma readBody_eq_error_iff {position : Position} {body : Text} {m : Malformed} :
    readBody position body = .error m ↔
      ∃ way, BodyDefect body m.flaw way ∧ m.position = position.advance way := by
  constructor
  · intro h
    unfold readBody at h
    split at h
    · rename_i inner
      cases h
      exact ⟨_, .nested inner, (Position.advance_append _ ['{', '{'] _).symm⟩
    · rename_i hflat
      have hflat := Text.cutPair?_eq_none_iff.1 hflat
      dsimp only at h
      split at h
      · rename_i hblank
        cases h
        exact ⟨[], .empty hflat (List.isEmpty_iff.1 hblank), rfl⟩
      · rename_i hfilled
        split at h
        · cases h
        · rename_i hwrong
          cases h
          exact ⟨[], .invalid hflat (fun hnil => hfilled (List.isEmpty_iff.2 hnil))
            (Bool.eq_false_iff.2 hwrong), rfl⟩
  · obtain ⟨flaw, p⟩ := m
    rintro ⟨way, hdefect, rfl⟩
    unfold readBody
    cases hdefect with
    | nested inner =>
      rw [inner]
      dsimp only
      rw [← Position.advance_append]
      rfl
    | empty flat blank =>
      rw [Text.cutPair?_eq_none_iff.2 flat]
      dsimp only
      rw [blank]
      rfl
    | invalid flat filled wrong =>
      rw [Text.cutPair?_eq_none_iff.2 flat]
      dsimp only
      rw [if_neg (fun hnil => filled (List.isEmpty_iff.1 hnil)), wrong]
      rfl

lemma BodyDefect.not_pads {body way name : Text} {flaw : Flaw} (h : BodyDefect body flaw way) :
    ¬ Pads body name := by
  intro hpads
  have hok : readBody .start body = .ok name := readBody_eq_ok_iff.2 hpads
  have herror : readBody .start body = .error ⟨flaw, Position.start.advance way⟩ :=
    readBody_eq_error_iff.2 ⟨way, h, rfl⟩
  cases hok.symm.trans herror

/-- The braces at fault are opening ones. -/
lemma Defect.exists_eq_append {tail way : Text} {flaw : Flaw} (h : Defect tail flaw way) :
    ∃ rest, '{' :: '{' :: tail = way ++ '{' :: '{' :: rest := by
  cases h with
  | unclosed => exact ⟨tail, rfl⟩
  | @body _ after _ _ closing wrong =>
    cases wrong with
    | @nested inside more inner =>
      rw [eq_of_cutPair? closing, eq_of_cutPair? inner]
      exact ⟨more ++ '}' :: '}' :: after, by simp⟩
    | empty | invalid => exact ⟨tail, rfl⟩

/-! ## The reader's error -/

/-- Openings in front of a text have no influence on whether it is read, nor on what is wrong with
it. -/
lemma readSegments_append_eq_error_iff {as : List Opening} (has : ∀ a ∈ as, a.Lawful)
    {position : Position} {s : Text} {m : Malformed} :
    readSegments position (as.flatMap Opening.write ++ s) = .error m ↔
      readSegments (position.advance (as.flatMap Opening.write)) s = .error m := by
  induction as generalizing position with
  | nil => exact Iff.rfl
  | cons a as ih =>
    obtain ⟨ha, has⟩ := List.forall_mem_cons.1 has
    rw [List.flatMap_cons, List.append_assoc,
      readSegments_of_closed (ha.cut_open _) (ha.cut_close _), readBody_eq_ok_iff.2 ha.pads]
    change (readSegments (position.advance a.write) _).map _ = _ ↔ _
    rw [Except.map_eq_error_iff, ih has, Position.advance_append]

/-- The first pair of opening braces behind a lawful outline that does not end in one are those that
follow it. -/
lemma Outline.Lawful.not_hasPair_concat {o : Outline} (ho : o.Lawful)
    (hlast : o.rest.getLast? ≠ some '{') : ¬ HasPair '{' (o.rest ++ ['{']) := by
  rw [Text.hasPair_concat_iff]
  rintro (hp | hb)
  · exact ho.rest hp
  · exact hlast hb

/-- Opening braces that begin no placeholder are an error, wherever they follow a lawful outline. -/
lemma readSegments_of_defect {o : Outline} (ho : o.Lawful) (hlast : o.rest.getLast? ≠ some '{')
    {tail way : Text} {flaw : Flaw} (h : Defect tail flaw way) (position : Position) :
    readSegments position (o.write ++ '{' :: '{' :: tail) =
      .error ⟨flaw, position.advance (o.write ++ way)⟩ := by
  obtain ⟨as, rest⟩ := o
  unfold Outline.write
  rw [List.append_assoc, readSegments_append_eq_error_iff ho.openings, List.append_assoc,
    Position.advance_append, Position.advance_append]
  have hopen := Text.cutPair?_append (ho.not_hasPair_concat hlast) tail
  cases h with
  | unclosed never => exact readSegments_of_unclosed hopen (Text.cutPair?_eq_none_iff.2 never) _
  | body closing wrong =>
    have hbody : ∀ p : Position, readBody p _ = .error ⟨flaw, p.advance way⟩ :=
      fun p => readBody_eq_error_iff.2 ⟨way, wrong, rfl⟩
    rw [readSegments_of_closed hopen closing, hbody]
    rfl

/-- Whenever the reader fails, it has come to such braces. -/
lemma exists_defect_of_readSegments {position : Position} {s : Text} {m : Malformed}
    (h : readSegments position s = .error m) :
    ∃ (o : Outline) (tail way : Text), o.Lawful ∧ o.rest.getLast? ≠ some '{' ∧
      s = o.write ++ '{' :: '{' :: tail ∧ Defect tail m.flaw way := by
  induction hn : s.length using Nat.strong_induction_on generalizing position s with
  | _ n ih =>
    cases hopen : cutPair? '{' s with
    | none =>
      rw [readSegments_of_no_pair (Text.cutPair?_eq_none_iff.1 hopen)] at h
      cases h
    | some cut =>
      obtain ⟨before, rest⟩ := cut
      obtain ⟨hs, hbefore⟩ := Text.cutPair?_eq_some_iff.1 hopen
      rw [Text.hasPair_concat_iff, not_or] at hbefore
      cases hclose : cutPair? '}' rest with
      | none =>
        rw [readSegments_of_unclosed hopen hclose] at h
        cases h
        exact ⟨⟨[], before⟩, rest, [], Outline.lawful_nil hbefore.1, hbefore.2, hs,
          .unclosed (Text.cutPair?_eq_none_iff.1 hclose)⟩
      | some cut =>
        obtain ⟨body, after⟩ := cut
        rw [readSegments_of_closed hopen hclose] at h
        rcases Except.bind_eq_error_iff.1 h with hbody | ⟨name, hname, h⟩
        · obtain ⟨way, hwrong, -⟩ := readBody_eq_error_iff.1 hbody
          exact ⟨⟨[], before⟩, rest, way, Outline.lawful_nil hbefore.1, hbefore.2, hs,
            .body hclose hwrong⟩
        · have hlength : after.length < n := by
            have := length_of_cutPair? hopen
            have := length_of_cutPair? hclose
            omega
          obtain ⟨o, tail, way, ho, hlast, rfl, hdefect⟩ :=
            ih _ hlength (Except.map_eq_error_iff.1 h) rfl
          have hlawful : (Opening.mk before body).Lawful :=
            ⟨hbefore.1, hbefore.2, name, readBody_eq_ok_iff.1 hname⟩
          refine ⟨⟨⟨before, body⟩ :: o.openings, o.rest⟩, tail, way,
            Outline.lawful_cons_iff.2 ⟨hlawful, ho⟩, hlast, ?_, hdefect⟩
          rw [Outline.write_cons, List.append_assoc, Opening.write_append, hs,
            eq_of_cutPair? hclose]

/-- A text is rejected exactly when opening braces that begin no placeholder follow a lawful outline in
it, and the error says what is wrong with the first such braces. -/
theorem parse_eq_error_iff {source : Text} {m : Malformed} :
    parse source = .error m ↔
      ∃ (o : Outline) (tail way : Text), o.Lawful ∧ o.rest.getLast? ≠ some '{' ∧
        source = o.write ++ '{' :: '{' :: tail ∧ Defect tail m.flaw way ∧
        m.position = Position.start.advance (o.write ++ way) := by
  unfold parse
  rw [Except.map_eq_error_iff]
  constructor
  · intro h
    obtain ⟨o, tail, way, ho, hlast, rfl, hdefect⟩ := exists_defect_of_readSegments h
    refine ⟨o, tail, way, ho, hlast, rfl, hdefect, ?_⟩
    rw [readSegments_of_defect ho hlast hdefect] at h
    exact (congrArg Malformed.position (Except.error.inj h)).symm
  · obtain ⟨flaw, p⟩ := m
    rintro ⟨o, tail, way, ho, hlast, rfl, hdefect, rfl⟩
    exact readSegments_of_defect ho hlast hdefect .start

/-! ## Where opening braces stand -/

/-- The text begins with a placeholder: opening braces, a padded name and closing braces. -/
def StartsPlaceholder (s : Text) : Prop :=
  ∃ body name rest, s = '{' :: '{' :: (body ++ '}' :: '}' :: rest) ∧ Pads body name

lemma not_startsPlaceholder_of_defect {tail way : Text} {flaw : Flaw} (h : Defect tail flaw way) :
    ¬ StartsPlaceholder ('{' :: '{' :: tail) := by
  rintro ⟨body, name, rest, htail, hpads⟩
  obtain rfl : tail = body ++ '}' :: '}' :: rest := by simpa using htail
  cases h with
  | unclosed never => exact never (Text.hasPair_append_pair '}' body rest)
  | body closing wrong =>
    rw [Text.cutPair?_append_of_not_mem hpads.not_mem_close] at closing
    cases closing
    exact wrong.not_pads hpads

/-- In the text of a lawful opening the only opening braces are its own. -/
lemma Opening.Lawful.eq_or_exists_of_pairAt {a : Opening} (h : a.Lawful) {s : Text} {k : Nat}
    (hk : PairAt '{' (a.write ++ s) k) :
    k = a.before.length ∨ ∃ j, k = a.write.length + j ∧ PairAt '{' s j := by
  have hinside : '{' ∉ a.body ++ ['}', '}'] := by simp [h.pads.not_mem_open]
  have hwrite : a.write ++ s = (a.before ++ ['{']) ++ '{' :: ((a.body ++ ['}', '}']) ++ s) := by
    simp [write]
  have hfirst : a.before.length ≤ k := by
    rw [write_append] at hk
    exact (Text.isLeast_pairAt h.not_hasPair_concat _).2 hk
  rcases hfirst.eq_or_lt with hfirst | hlater
  · exact .inl hfirst.symm
  -- Behind the first brace comes the second one, which a brace does not follow, and then the body.
  right
  obtain ⟨i, rfl⟩ := Nat.exists_eq_add_of_le (Nat.succ_le_of_lt hlater)
  have hlength : a.before.length.succ = (a.before ++ ['{']).length := by simp
  rw [hwrite, hlength, Text.pairAt_append_add] at hk
  cases i with
  | zero =>
    have hsecond : (a.body ++ ['}', '}'] ++ s)[0]? = some '{' := hk.2
    rw [List.getElem?_append_left (by simp)] at hsecond
    exact absurd (List.mem_of_getElem? hsecond) hinside
  | succ i =>
    have hbody : PairAt '{' (a.body ++ ['}', '}'] ++ s) i := hk
    obtain ⟨j, rfl, hj⟩ := hbody.exists_add hinside
    refine ⟨j, ?_, hj⟩
    rw [length_write, List.length_append]
    simp only [List.length_cons, List.length_nil]
    omega

/-- Behind some openings, opening braces begin a placeholder or stand in the text that follows. -/
lemma startsPlaceholder_or_exists_pairAt {as : List Opening} (has : ∀ a ∈ as, a.Lawful) {s : Text}
    {k : Nat} (hk : PairAt '{' (as.flatMap Opening.write ++ s) k) :
    StartsPlaceholder ((as.flatMap Opening.write ++ s).drop k) ∨
      ∃ j, k = (as.flatMap Opening.write).length + j ∧ PairAt '{' s j := by
  induction as generalizing k with
  | nil => exact .inr ⟨k, by simp, hk⟩
  | cons a as ih =>
    obtain ⟨ha, has⟩ := List.forall_mem_cons.1 has
    rw [List.flatMap_cons, List.append_assoc] at hk ⊢
    rcases ha.eq_or_exists_of_pairAt hk with rfl | ⟨i, rfl, hi⟩
    · refine .inl ⟨a.body, strip a.body, as.flatMap Opening.write ++ s, ?_, ha.pads⟩
      rw [Opening.write_append, List.drop_left]
    · rw [List.drop_length_add_append]
      refine (ih has hi).imp_right ?_
      rintro ⟨j, rfl, hj⟩
      exact ⟨j, by rw [List.length_append, Nat.add_assoc], hj⟩

/-! ## The first bad opening -/

/-- At the offset `k` stand opening braces that begin no placeholder, though what stands before them is
a template. -/
structure BadOpening (source : Text) (k : Nat) : Prop where
  braces : PairAt '{' source k
  accepted : ∃ t, parse (source.take k) = .ok t
  wrong : ¬ StartsPlaceholder (source.drop k)

lemma not_badOpening_of_parse {source : Text} {t : Template} (h : parse source = .ok t) (k : Nat) :
    ¬ BadOpening source k := by
  obtain ⟨o, ho, rfl, -⟩ := parse_eq_ok_iff.1 h
  rintro ⟨hbraces, -, hwrong⟩
  rcases startsPlaceholder_or_exists_pairAt ho.openings hbraces with hstarts | ⟨j, -, hj⟩
  · exact hwrong hstarts
  · exact ho.rest (Text.hasPair_iff_exists_pairAt.2 ⟨j, hj⟩)

/-- Defective braces behind a lawful outline are the first bad opening. -/
lemma isLeast_badOpening {o : Outline} (ho : o.Lawful) (hlast : o.rest.getLast? ≠ some '{')
    {tail way : Text} {flaw : Flaw} (h : Defect tail flaw way) :
    IsLeast {k | BadOpening (o.write ++ '{' :: '{' :: tail) k} o.write.length := by
  constructor
  · refine ⟨Text.pairAt_length '{' o.write tail, ⟨⟨o.write, o.segments⟩, ?_⟩, ?_⟩
    · rw [List.take_left]
      exact parse_eq_ok_iff.2 ⟨o, ho, rfl, rfl⟩
    · rw [List.drop_left]
      exact not_startsPlaceholder_of_defect h
  · rintro k ⟨hbraces, -, hwrong⟩
    have hfirst := Text.isLeast_pairAt (ho.not_hasPair_concat hlast) tail
    unfold Outline.write at hbraces hwrong ⊢
    rw [List.append_assoc] at hbraces hwrong
    rcases startsPlaceholder_or_exists_pairAt ho.openings hbraces with hstarts | ⟨j, rfl, hj⟩
    · exact absurd hstarts hwrong
    · rw [List.length_append]
      exact Nat.add_le_add_left (hfirst.2 hj) _

/-! ## The diagnosis -/

/-- The characters of a text from one offset up to another. -/
def slice (s : Text) (i j : Nat) : Text := (s.take j).drop i

lemma slice_append (front body after : Text) :
    slice (front ++ (body ++ after)) front.length (front.length + body.length) = body := by
  unfold slice
  rw [List.take_length_add_append, List.take_left, List.drop_left]

/-- What is wrong with the opening braces at the offset `s`, and the offset of the braces at fault.  This
is decided by the first closing braces behind them, if there are any: the body in between can have
opening braces, of which the first are at fault, it can be blank, and otherwise it is no name. -/
inductive Diagnosis (source : Text) (s : Nat) : Flaw → Nat → Prop
  | unclosed (never : ∀ k, s + 2 ≤ k → ¬ PairAt '}' source k) : Diagnosis source s .unclosed s
  | nested {c n : Nat} (closing : IsLeast {k | s + 2 ≤ k ∧ PairAt '}' source k} c)
    (inner : IsLeast {k | s + 2 ≤ k ∧ k + 2 ≤ c ∧ PairAt '{' source k} n) :
    Diagnosis source s .nested n
  | empty {c : Nat} (closing : IsLeast {k | s + 2 ≤ k ∧ PairAt '}' source k} c)
    (flat : ∀ k, s + 2 ≤ k → k + 2 ≤ c → ¬ PairAt '{' source k)
    (blank : allBlank (slice source (s + 2) c) = true) : Diagnosis source s .empty s
  | invalid {c : Nat} (closing : IsLeast {k | s + 2 ≤ k ∧ PairAt '}' source k} c)
    (flat : ∀ k, s + 2 ≤ k → k + 2 ≤ c → ¬ PairAt '{' source k)
    (filled : allBlank (slice source (s + 2) c) = false) :
    Diagnosis source s (.invalid (strip (slice source (s + 2) c))) s

lemma Diagnosis.unique {source : Text} {s n n' : Nat} {flaw flaw' : Flaw}
    (h : Diagnosis source s flaw n) (h' : Diagnosis source s flaw' n') : flaw = flaw' ∧ n = n' := by
  cases h with
  | unclosed never =>
    cases h' with
    | unclosed => exact ⟨rfl, rfl⟩
    | nested closing | empty closing | invalid closing =>
      exact absurd closing.1.2 (never _ closing.1.1)
  | nested closing inner =>
    cases h' with
    | unclosed never => exact absurd closing.1.2 (never _ closing.1.1)
    | nested closing' inner' =>
      obtain rfl := closing.unique closing'
      exact ⟨rfl, inner.unique inner'⟩
    | empty closing' flat | invalid closing' flat =>
      obtain rfl := closing.unique closing'
      exact absurd inner.1.2.2 (flat _ inner.1.1 inner.1.2.1)
  | empty closing flat blank =>
    cases h' with
    | unclosed never => exact absurd closing.1.2 (never _ closing.1.1)
    | nested closing' inner =>
      obtain rfl := closing.unique closing'
      exact absurd inner.1.2.2 (flat _ inner.1.1 inner.1.2.1)
    | empty => exact ⟨rfl, rfl⟩
    | invalid closing' _ filled =>
      obtain rfl := closing.unique closing'
      exact absurd blank (Bool.eq_false_iff.1 filled)
  | invalid closing flat filled =>
    cases h' with
    | unclosed never => exact absurd closing.1.2 (never _ closing.1.1)
    | nested closing' inner =>
      obtain rfl := closing.unique closing'
      exact absurd inner.1.2.2 (flat _ inner.1.1 inner.1.2.1)
    | empty closing' _ blank =>
      obtain rfl := closing.unique closing'
      exact absurd blank (Bool.eq_false_iff.1 filled)
    | invalid closing' =>
      obtain rfl := closing.unique closing'
      exact ⟨rfl, rfl⟩

section

variable {body way : Text} {flaw : Flaw} (front after : Text)

lemma append_braces (s : Text) : front ++ '{' :: '{' :: s = front ++ ['{', '{'] ++ s := by simp

lemma length_append_braces : (front ++ ['{', '{']).length = front.length + 2 := by simp

/-- The first closing braces behind the opening ones end the body. -/
lemma isLeast_closing (hbody : ¬ HasPair '}' (body ++ ['}'])) :
    IsLeast {k | front.length + 2 ≤ k ∧
      PairAt '}' (front ++ '{' :: '{' :: (body ++ '}' :: '}' :: after)) k}
      (front.length + 2 + body.length) := by
  rw [append_braces, ← length_append_braces]
  exact Text.isLeast_pairAt_append (Text.isLeast_pairAt hbody after)

/-- The opening braces in the body, by their offsets in the whole. -/
lemma pairAt_body_iff {k : Nat} :
    (front.length + 2 ≤ k ∧ k + 2 ≤ front.length + 2 + body.length ∧
      PairAt '{' (front ++ '{' :: '{' :: (body ++ '}' :: '}' :: after)) k) ↔
      ∃ j, k = front.length + 2 + j ∧ PairAt '{' body j := by
  rw [append_braces, ← length_append_braces]
  exact Text.pairAt_between_iff _

lemma slice_body : slice (front ++ '{' :: '{' :: (body ++ '}' :: '}' :: after)) (front.length + 2)
    (front.length + 2 + body.length) = body := by
  rw [append_braces, ← length_append_braces]
  exact slice_append _ body _

lemma BodyDefect.diagnosis (h : BodyDefect body flaw way) (hbody : ¬ HasPair '}' (body ++ ['}'])) :
    Diagnosis (front ++ '{' :: '{' :: (body ++ '}' :: '}' :: after)) front.length flaw
      (front.length + way.length) := by
  have hclosing := isLeast_closing front after hbody
  have hflat : ¬ HasPair '{' body → ∀ k, front.length + 2 ≤ k →
      k + 2 ≤ front.length + 2 + body.length →
      ¬ PairAt '{' (front ++ '{' :: '{' :: (body ++ '}' :: '}' :: after)) k := by
    intro hnone k hk hupTo hpair
    obtain ⟨j, -, hj⟩ := (pairAt_body_iff front after).1 ⟨hk, hupTo, hpair⟩
    exact hnone (Text.hasPair_iff_exists_pairAt.2 ⟨j, hj⟩)
  cases h with
  | @nested inside more inner =>
    obtain ⟨rfl, hinner⟩ := Text.cutPair?_eq_some_iff.1 inner
    have hfirst := Text.isLeast_pairAt hinner more
    refine .nested hclosing ⟨(pairAt_body_iff front after).2 ⟨inside.length, ?_, hfirst.1⟩, ?_⟩
    · rw [List.length_cons, List.length_cons]
      omega
    · intro k hk
      obtain ⟨j, rfl, hj⟩ := (pairAt_body_iff front after).1 hk
      have hle := hfirst.2 hj
      rw [List.length_cons, List.length_cons]
      omega
  | empty flat blank =>
    refine .empty hclosing (hflat flat) ?_
    rw [slice_body]
    exact Text.strip_eq_nil_iff.1 blank
  | invalid flat filled =>
    have hdiagnosis := Diagnosis.invalid hclosing (hflat flat)
    rw [slice_body] at hdiagnosis
    exact hdiagnosis (Bool.eq_false_iff.2 fun hblank => filled (Text.strip_eq_nil_iff.2 hblank))

/-- A defect is diagnosed. -/
lemma Defect.diagnosis {tail : Text} (h : Defect tail flaw way) :
    Diagnosis (front ++ '{' :: '{' :: tail) front.length flaw (front.length + way.length) := by
  cases h with
  | unclosed never =>
    refine .unclosed fun k hk hpair => ?_
    rw [← length_append_braces] at hk
    rw [append_braces] at hpair
    obtain ⟨j, rfl⟩ := Nat.exists_eq_add_of_le hk
    exact never (Text.hasPair_iff_exists_pairAt.2 ⟨j, Text.pairAt_append_add.1 hpair⟩)
  | body closing wrong =>
    obtain ⟨rfl, hbody⟩ := Text.cutPair?_eq_some_iff.1 closing
    exact wrong.diagnosis front _ hbody

end

/-- **A text is rejected at its first bad opening.**  A text is no template if and only if it has a bad
opening, and the error is the diagnosis of the first one, the least offset behind an accepted text where
opening braces begin no placeholder.  The error has the offset, line and column of the braces at fault,
and these are opening ones. -/
theorem parse_error_iff_first_bad_opening (source : Text) (m : Malformed) :
    parse source = .error m ↔ ∃ s, IsLeast {k | BadOpening source k} s ∧
      Diagnosis source s m.flaw m.position.offset ∧ PairAt '{' source m.position.offset ∧
      m.position = Position.start.advance (source.take m.position.offset) := by
  have hreported : ∀ m', parse source = .error m' → ∃ s, IsLeast {k | BadOpening source k} s ∧
      Diagnosis source s m'.flaw m'.position.offset ∧ PairAt '{' source m'.position.offset ∧
      m'.position = Position.start.advance (source.take m'.position.offset) := by
    intro m' h
    obtain ⟨o, tail, way, ho, hlast, rfl, hdefect, hposition⟩ := parse_eq_error_iff.1 h
    have hoffset : m'.position.offset = o.write.length + way.length := by
      rw [hposition, Position.offset_advance, List.length_append]
      exact Nat.zero_add _
    obtain ⟨rest, hrest⟩ := hdefect.exists_eq_append
    refine ⟨_, isLeast_badOpening ho hlast hdefect, ?_, ?_, ?_⟩
    · rw [hoffset]
      exact hdefect.diagnosis _
    · rw [hoffset, hrest, ← List.append_assoc, ← List.length_append]
      exact Text.pairAt_length '{' _ rest
    · rw [hoffset, ← List.length_append, hrest, ← List.append_assoc, List.take_left, hposition]
  refine ⟨hreported m, ?_⟩
  rintro ⟨s, hs, hdiagnosis, -, hposition⟩
  cases hparse : parse source with
  | ok t => exact absurd hs.1 (not_badOpening_of_parse hparse s)
  | error m' =>
    obtain ⟨s', hs', hdiagnosis', -, hposition'⟩ := hreported m' hparse
    obtain rfl := hs.unique hs'
    obtain ⟨hflaw, hoffset⟩ := hdiagnosis.unique hdiagnosis'
    rw [hoffset, ← hposition'] at hposition
    obtain ⟨flaw, position⟩ := m
    obtain ⟨flaw', position'⟩ := m'
    cases hflaw
    cases hposition
    rfl

theorem parse_error_of_braces_in_a_row :
    parse "a\x7b\x7bx\x7d\x7d\x7b \x7b\x7b\x7bb c\n\x7d\x7d\x7d\x7b\x7b" =
      .error ⟨.invalid "\x7bb c", ⟨8, 1, 9⟩⟩ ∧
    (Malformed.mk (.invalid "\x7bb c") ⟨8, 1, 9⟩).message =
      "Invalid placeholder name '\x7bb c' (line 1, column 9)" ∧
    ∃ s, IsLeast {k | BadOpening "a\x7b\x7bx\x7d\x7d\x7b \x7b\x7b\x7bb c\n\x7d\x7d\x7d\x7b\x7b" k} s ∧
      Diagnosis "a\x7b\x7bx\x7d\x7d\x7b \x7b\x7b\x7bb c\n\x7d\x7d\x7d\x7b\x7b" s (.invalid "\x7bb c") 8 := by
  have hparse : parse "a\x7b\x7bx\x7d\x7d\x7b \x7b\x7b\x7bb c\n\x7d\x7d\x7d\x7b\x7b" =
      .error ⟨.invalid "\x7bb c", ⟨8, 1, 9⟩⟩ := by cbv
  obtain ⟨s, hs, hdiagnosis, -⟩ := (parse_error_iff_first_bad_opening _ _).1 hparse
  exact ⟨hparse, by decide +kernel, s, hs, hdiagnosis⟩

end Formwork.Template
