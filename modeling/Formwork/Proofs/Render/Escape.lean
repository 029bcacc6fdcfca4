import Formwork.Proofs.Render.Indentation

/-!
# Missing values and escaped values

The writer fails at the first placeholder whose name has no value, and on no other ground
(`segments_eq_error_iff`).  Otherwise escaping is nothing but a change of the values: a value that is
escaped when it is inserted and a value that has been escaped beforehand are written alike, after
whatever line (`segments_escape`).  Escaping may put newlines into a value or take them out, and so
change how later values are indented; but it does so in the same place on both sides, so that the
unfinished lines that the two writers carry along are the same.

The main statement, `template_unbound_or_escaped`, adds what escaping does not touch: the literals,
which stand in the output as they are, and values that are not inserted.
-/

namespace Formwork.Render

open Text (lastLine)

variable {r : Render} {values : Table Text} {line : Text} {part : Segment} {parts : List Segment}
  {fault : Fault} {name : Text}

/-! ## The first name without a value -/

/-- The name has no value, and all names in the list before it have one. -/
def FirstUnbound (values : Table Text) (names : List Text) (name : Text) : Prop :=
  ∃ bound rest, names = bound ++ name :: rest ∧ (∀ n ∈ bound, n ∈ values.keys) ∧ name ∉ values.keys

lemma firstUnbound_cons_iff {n : Text} {names : List Text} :
    FirstUnbound values (n :: names) name ↔
      (n ∉ values.keys ∧ name = n) ∨ (n ∈ values.keys ∧ FirstUnbound values names name) := by
  constructor
  · rintro ⟨bound, rest, hsplit, hbound, hname⟩
    rcases List.cons_eq_append_iff.1 hsplit with ⟨rfl, hcons⟩ | ⟨bound', rfl, hsplit'⟩
    · cases hcons
      exact .inl ⟨hname, rfl⟩
    · obtain ⟨hn, hbound'⟩ := List.forall_mem_cons.1 hbound
      exact .inr ⟨hn, bound', rest, hsplit', hbound', hname⟩
  · rintro (⟨hn, rfl⟩ | ⟨hn, bound, rest, rfl, hbound, hname⟩)
    · exact ⟨[], names, rfl, List.forall_mem_nil _, hn⟩
    · exact ⟨n :: bound, rest, rfl, List.forall_mem_cons.2 ⟨hn, hbound⟩, hname⟩

/-- A segment cannot be written when it mentions a name without a value. -/
lemma contribution_eq_error_iff :
    r.contribution values line part = .error fault ↔
      ∃ name ∈ part.name?, name ∉ values.keys ∧ fault = .unbound name := by
  cases part with
  | literal text => simp
  | placeholder name position =>
    simp only [Segment.name?_placeholder, Option.mem_some_iff, exists_eq_left',
      ← Table.get?_eq_none_iff]
    rw [contribution]
    cases values.get? name with
    | none => simp [eq_comm]
    | some value => simp

lemma segments_cons_eq_error_iff {rest : List Segment} :
    r.segments values line (part :: rest) = .error fault ↔
      r.contribution values line part = .error fault ∨
      ∃ text, r.contribution values line part = .ok text ∧
        r.segments values (lastLine (line ++ text)) rest = .error fault := by
  rw [segments_cons]
  exact Except.bind_eq_error_iff.trans (or_congr_right (exists_congr fun text =>
    and_congr_right fun _ => Except.map_eq_error_iff))

/-- Segments cannot be written when they mention a name without a value, and the first such name is
reported. -/
lemma segments_eq_error_iff :
    r.segments values line parts = .error fault ↔
      ∃ name, FirstUnbound values (parts.filterMap Segment.name?) name ∧ fault = .unbound name := by
  induction parts generalizing line with
  | nil => simp [segments, FirstUnbound]
  | cons part rest ih =>
    rw [segments_cons_eq_error_iff]
    cases part with
    | literal text =>
      rw [List.filterMap_cons_none (Segment.name?_literal text)]
      simp [ih]
    | placeholder name position =>
      simp only [List.filterMap_cons_some (Segment.name?_placeholder name position),
        firstUnbound_cons_iff]
      by_cases hname : name ∈ values.keys
      · obtain ⟨text, htext⟩ : ∃ text, r.contribution values line (.placeholder name position) =
            .ok text := (exists_contribution_iff line).2 (by simpa using hname)
        simp [htext, hname, ih]
      · have hfail : r.contribution values line (.placeholder name position) =
            .error (.unbound name) := contribution_eq_error_iff.2 ⟨name, rfl, hname, rfl⟩
        simp [hfail, hname, eq_comm]

/-! ## Escaping -/

/-- The same writer without escaping. -/
def unescaped (r : Render) : Render := { r with escape := id }

lemma contribution_escape (r : Render) (values : Table Text) (line : Text) (part : Segment) :
    r.contribution values line part =
      r.unescaped.contribution (values.map r.escape) line part := by
  cases part with
  | literal text => rfl
  | placeholder name position =>
    rw [contribution, contribution, Table.get?_map]
    cases values.get? name <;> rfl

lemma segments_escape (r : Render) (values : Table Text) (line : Text) (parts : List Segment) :
    r.segments values line parts = r.unescaped.segments (values.map r.escape) line parts := by
  induction parts generalizing line with
  | nil => rfl
  | cons part rest ih =>
    rw [segments_cons, segments_cons, ← contribution_escape]
    simp only [← ih]

/-- What escaping does to values that are not inserted does not matter. -/
lemma segments_escape_congr {escape : Text → Text}
    (h : ∀ name ∈ parts.filterMap Segment.name?, ∀ value, values.get? name = some value →
      escape value = r.escape value) :
    ({ r with escape } : Render).segments values line parts = r.segments values line parts := by
  have hescaped : ∀ name ∈ parts.filterMap Segment.name?,
      (values.map escape).get? name = (values.map r.escape).get? name := by
    intro name hname
    rw [Table.get?_map, Table.get?_map]
    cases hvalue : values.get? name with
    | none => rfl
    | some value => exact congrArg some (h name hname value hvalue)
  calc ({ r with escape } : Render).segments values line parts
      = r.unescaped.segments (values.map escape) line parts := segments_escape _ _ _ _
    _ = r.unescaped.segments (values.map r.escape) line parts := segments_congr hescaped
    _ = r.segments values line parts := (segments_escape _ _ _ _).symm

/-! ## Templates -/

/-- The writer fails on a template when some name in it has no value. -/
lemma exists_template_eq_error_iff {t : Template} :
    (∃ fault, r.template t values = .error fault) ↔ ∃ name ∈ t.mentions, name ∉ values.keys := by
  have hok : (∃ output, r.template t values = .ok output) ↔
      ∀ name ∈ t.mentions, name ∈ values.keys := exists_segments_iff
  rw [← not_iff_not]
  simp only [not_exists, not_and, not_not]
  rw [← hok]
  cases r.template t values <;> simp

/-- The text of a literal is in the output as it is, between what is written for the segments before
it and what is written for those behind it. -/
lemma exists_around_literal {t : Template} {before behind : List Segment} {text output : Text}
    (hsplit : t.segments = before ++ .literal text :: behind)
    (h : r.template t values = .ok output) :
    ∃ above below, r.segments values [] before = .ok above ∧
      r.segments values (lastLine (above ++ text)) behind = .ok below ∧
      output = above ++ (text ++ below) := by
  unfold template at h
  rw [hsplit] at h
  obtain ⟨above, _, below, habove, htext, hbelow, rfl⟩ := segments_around_eq_ok_iff.1 h
  cases htext
  exact ⟨above, below, habove, hbelow, rfl⟩

/-- **The writer fails for want of a value only, and escapes values only.**  However values are
indented and escaped, a template cannot be written when some name in it has no value, and the fault
is that of the first placeholder without one; there is no output then.  Otherwise escaping the values
as they are inserted gives what inserting the escaped values gives.  Literals are not escaped: each
stands in the output as it is, behind what is written for the segments before it.  Another escaping
that does the same to the inserted values gives the same output, and so do other values that are the
same for the names in the template. -/
theorem template_unbound_or_escaped (r : Render) (t : Template) (values : Table Text) :
    (∀ fault, r.template t values = .error fault ↔
      ∃ name, FirstUnbound values t.mentions name ∧ fault = .unbound name) ∧
    ((∃ fault, r.template t values = .error fault) ↔ ∃ name ∈ t.mentions, name ∉ values.keys) ∧
    r.template t values = r.unescaped.template t (values.map r.escape) ∧
    (∀ before text behind output, t.segments = before ++ .literal text :: behind →
      r.template t values = .ok output →
      ∃ above below, r.segments values [] before = .ok above ∧
        r.segments values (lastLine (above ++ text)) behind = .ok below ∧
        output = above ++ (text ++ below)) ∧
    (∀ escape : Text → Text,
      (∀ name ∈ t.mentions, ∀ value, values.get? name = some value →
        escape value = r.escape value) →
      ({ r with escape } : Render).template t values = r.template t values) ∧
    ∀ values' : Table Text, (∀ name ∈ t.mentions, values.get? name = values'.get? name) →
      r.template t values = r.template t values' :=
  ⟨fun _ => segments_eq_error_iff, exists_template_eq_error_iff, segments_escape _ _ _ _,
    fun _ _ _ _ hsplit h => exists_around_literal hsplit h, fun _ h => segments_escape_congr h,
    fun _ h => template_congr h⟩

/-- Lines are broken at the semicolons of values. -/
def breakLines : Render where
  indent := true
  escape value := value.map fun c => if c == ';' then '\n' else c

/-- Values for the names of `twoOnLine`, each of which becomes two lines. -/
def semicolonValues : Table Text := .ofList [(['x'], "1;2"), (['y'], "p;q")]

theorem template_breakLines :
    breakLines.template twoOnLine semicolonValues = .ok "\t k: 1\n\t 2; p\n\t qend" ∧
    breakLines.unescaped.template twoOnLine (semicolonValues.map breakLines.escape) =
      .ok "\t k: 1\n\t 2; p\n\t qend" ∧
    (twoOnLine.segments = twoOnLine.segments.take 2 ++ .literal "; " :: twoOnLine.segments.drop 3 ∧
      ∃ above below, breakLines.segments semicolonValues [] (twoOnLine.segments.take 2) = .ok above ∧
        breakLines.segments semicolonValues (lastLine (above ++ "; ")) (twoOnLine.segments.drop 3) =
          .ok below ∧
        "\t k: 1\n\t 2; p\n\t qend" = above ++ ("; " ++ below)) ∧
    breakLines.template twoOnLine (.ofList [(['y'], "p")]) = .error (.unbound ['x']) := by
  have hwritten : breakLines.template twoOnLine semicolonValues =
      .ok "\t k: 1\n\t 2; p\n\t qend" := by
    cbv
  have hsplit : twoOnLine.segments =
      twoOnLine.segments.take 2 ++ .literal "; " :: twoOnLine.segments.drop 3 := rfl
  obtain ⟨-, -, hescaped, hliteral, -, -⟩ :=
    template_unbound_or_escaped breakLines twoOnLine semicolonValues
  obtain ⟨hfault, -⟩ := template_unbound_or_escaped breakLines twoOnLine (.ofList [(['y'], "p")])
  refine ⟨hwritten, hescaped ▸ hwritten, ⟨hsplit, hliteral _ _ _ _ hsplit hwritten⟩, ?_⟩
  exact (hfault _).2 ⟨['x'], ⟨[], [['y']], rfl, List.forall_mem_nil _, by decide⟩, rfl⟩

end Formwork.Render
