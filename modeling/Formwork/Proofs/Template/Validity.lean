import Formwork.Proofs.Fields.Checked
import Formwork.Proofs.Template.Placement
import Formwork.Proofs.Template.Printing
import Formwork.Proofs.Template.Slots
import Formwork.Template.Build
import Mathlib.Computability.Language

/-!
# The reader and the records agree

What makes a template valid is said twice: the reader takes apart a text and keeps names that it finds
good, and the records of segments, slots and templates check their fields.  Were the two to disagree, a
text with a mistake in it, or even one without, would end in a complaint about the program's own data.

They agree.  Building a template with every part checked is the same as reading it (`build_eq_parse`):
the check of a name accepts the names that the reader keeps, both being the language `nameLanguage`, and
the line and the column that are worked out from an offset are those that the reader has counted, so that
they are at least one (`Position.ofOffset_length`).  Both ways are known by three equations, one for each
way in which the searches for braces can end, and these are compared one by one.  The invariant is that
the source is what has been read followed by what is left, and the offset the length of the former.

What is read is valid in itself too: written field by field and read as data it comes back
(`built_templates_are_valid`).
-/

namespace Formwork

open Computability Fields Checked

/-! ## Names as a language -/

/-- A letter or an underscore. -/
def nameInitials : Language Char :=
  {w | ∃ c, w = [c] ∧ ('A' ≤ c ∧ c ≤ 'Z' ∨ 'a' ≤ c ∧ c ≤ 'z' ∨ c = '_')}

/-- A letter, an underscore or a digit. -/
def nameLetters : Language Char :=
  {w | ∃ c, w = [c] ∧ ('A' ≤ c ∧ c ≤ 'Z' ∨ 'a' ≤ c ∧ c ≤ 'z' ∨ '0' ≤ c ∧ c ≤ '9' ∨ c = '_')}

/-- The names of placeholders: `[A-Za-z_][A-Za-z0-9_]*`. -/
def nameLanguage : Language Char := nameInitials * nameLetters∗

lemma singleton_mem_nameInitials_iff {c : Char} : [c] ∈ nameInitials ↔ isNameStart c = true := by
  show (∃ d, [c] = [d] ∧ _) ↔ _
  simp only [isNameStart, List.cons.injEq, and_true, Bool.or_eq_true, Bool.and_eq_true,
    decide_eq_true_eq, beq_iff_eq]
  constructor
  · rintro ⟨_, rfl, h⟩
    tauto
  · intro h
    exact ⟨c, rfl, by tauto⟩

lemma singleton_mem_nameLetters_iff {c : Char} : [c] ∈ nameLetters ↔ isNameChar c = true := by
  show (∃ d, [c] = [d] ∧ _) ↔ _
  simp only [isNameChar, isNameStart, List.cons.injEq, and_true, Bool.or_eq_true, Bool.and_eq_true,
    decide_eq_true_eq, beq_iff_eq]
  constructor
  · rintro ⟨_, rfl, h⟩
    tauto
  · intro h
    exact ⟨c, rfl, by tauto⟩

lemma mem_kstar_nameLetters_iff {s : Text} :
    s ∈ nameLetters∗ ↔ ∀ c ∈ s, isNameChar c = true := by
  rw [Language.mem_kstar]
  constructor
  · rintro ⟨parts, rfl, hparts⟩ c hc
    obtain ⟨part, hpart, hmem⟩ := List.mem_flatten.1 hc
    obtain ⟨d, rfl, hd⟩ := hparts part hpart
    rw [List.mem_singleton.1 hmem]
    exact singleton_mem_nameLetters_iff.1 ⟨d, rfl, hd⟩
  · intro h
    refine ⟨s.map fun c => [c], ?_, ?_⟩
    · rw [← List.flatMap_def, List.flatMap_singleton']
    · intro part hpart
      obtain ⟨c, hc, rfl⟩ := List.mem_map.1 hpart
      exact singleton_mem_nameLetters_iff.2 (h c hc)

/-- The names of placeholders are the texts of that language. -/
lemma isIdentifier_iff_mem {s : Text} : isIdentifier s = true ↔ s ∈ nameLanguage := by
  unfold nameLanguage
  rw [Language.mem_mul]
  constructor
  · intro h
    cases s with
    | nil => cases h
    | cons c r =>
      rw [isIdentifier, Bool.and_eq_true, List.all_eq_true] at h
      exact ⟨[c], singleton_mem_nameInitials_iff.2 h.1, r, mem_kstar_nameLetters_iff.2 h.2, rfl⟩
  · rintro ⟨_, ⟨c, rfl, hc⟩, r, hr, rfl⟩
    show (isNameStart c && r.all isNameChar) = true
    rw [Bool.and_eq_true, List.all_eq_true]
    exact ⟨singleton_mem_nameInitials_iff.1 ⟨c, rfl, hc⟩, mem_kstar_nameLetters_iff.1 hr⟩

/-- The reader keeps the names of that language. -/
lemma Template.readBody_eq_ok_iff_mem {position : Position} {body name : Text} :
    readBody position body = .ok name ↔ Text.strip body = name ∧ name ∈ nameLanguage := by
  rw [readBody_eq_ok_iff]
  constructor
  · intro h
    obtain ⟨l, r, -, -, hname, -⟩ := id h
    exact ⟨h.strip_eq, isIdentifier_iff_mem.1 hname⟩
  · rintro ⟨rfl, hname⟩
    exact pads_strip (isIdentifier_iff_mem.2 hname)

/-- The check of a name accepts the names of that language. -/
lemma Fields.identifier_eq_ok_iff {s name : Text} :
    identifier (.text s) = .ok name ↔ s = name ∧ name ∈ nameLanguage := by
  constructor
  · intro h
    have hcheck : (if isIdentifier s then Except.ok s else Checked.fail .wrongPattern) = .ok name := h
    split at hcheck
    · rename_i hs
      cases hcheck
      exact ⟨rfl, isIdentifier_iff_mem.1 hs⟩
    · cases hcheck
  · rintro ⟨rfl, h⟩
    exact identifier_text (isIdentifier_iff_mem.2 h)

/-! ## Positions of offsets -/

namespace Text

lemma neg_one_le_lastNewline (s : Text) : -1 ≤ lastNewline s := by
  induction s with
  | nil => exact Int.le_refl _
  | cons c s ih =>
    rw [lastNewline]
    split
    · omega
    · split <;> omega

lemma lastNewline_of_not_mem {s : Text} (h : '\n' ∉ s) : lastNewline s = -1 := by
  induction s with
  | nil => rfl
  | cons c s ih =>
    rw [List.mem_cons, not_or] at h
    rw [lastNewline, ih h.2, if_neg (by decide), if_neg (Ne.symm h.1)]

lemma lastNewline_append_newline (s t : Text) :
    lastNewline (s ++ '\n' :: t) = s.length + 1 + lastNewline t := by
  have ht := neg_one_le_lastNewline t
  induction s with
  | nil =>
    rw [List.nil_append, lastNewline, if_pos rfl]
    split
    · simp
      omega
    · simp
      omega
  | cons c s ih =>
    rw [List.cons_append, lastNewline, ih, if_pos (by omega), List.length_cons]
    omega

/-- Behind the last newline stands the last line. -/
lemma lastNewline_add_length (s : Text) : lastNewline s + 1 + (lastLine s).length = s.length := by
  induction s using lines_induction with
  | single s hs =>
    rw [lastNewline_of_not_mem hs, lastLine_of_not_mem hs]
    omega
  | newline s u hs ih =>
    rw [lastNewline_append_newline, lastLine_append_newline, List.length_append, List.length_cons]
    omega

end Text

namespace Position

variable (s t : Text)

lemma lineAt_length : lineAt (s ++ t) s.length = (start.advance s).line := by
  rw [lineAt, List.take_left, line_advance_start]
  rfl

lemma columnAt_length : columnAt (s ++ t) s.length = (start.advance s).column := by
  have hlast := Text.lastNewline_add_length s
  rw [columnAt, List.take_left, column_advance_start]
  omega

/-- Working out the position of an offset gives what counting up to it gives. -/
lemma ofOffset_length : ofOffset (s ++ t) s.length = start.advance s := by
  unfold ofOffset
  rw [lineAt_length, columnAt_length, Int.toNat_natCast, Int.toNat_natCast]
  ext
  · rw [offset_advance]
    exact (Nat.zero_add _).symm
  · rfl
  · rfl

end Position

/-! ## Checked parts -/

namespace Segment

variable {name : Text} {position : Position}

lemma checks_of_valid (hname : isIdentifier name = true) (hline : 1 ≤ position.line)
    (hcolumn : 1 ≤ position.column) :
    (both (.ok ()) (both (under (.field "name") (identifier (.text name)))
      (both (under (.field "offset") (atLeast 0 (.integer position.offset)))
        (both (under (.field "line") (atLeast 1 (.integer position.line)))
          (under (.field "column") (atLeast 1 (.integer position.column))))))).map
      (fun (_, name, offset, line, column) => placeholder name ⟨offset, line, column⟩) =
        .ok (.placeholder name position) := by
  rw [identifier_text hname, atLeast_integer (Nat.zero_le _), atLeast_integer hline,
    atLeast_integer hcolumn]
  rfl

/-- A placeholder whose kind goes without saying is read back from its other fields. -/
lemma readPlaceholder_of_valid (hname : isIdentifier name = true) (hline : 1 ≤ position.line)
    (hcolumn : 1 ≤ position.column) :
    readPlaceholder [("name", .text name), ("offset", .integer position.offset),
      ("line", .integer position.line), ("column", .integer position.column)] =
        .ok (.placeholder name position) :=
  checks_of_valid hname hline hcolumn

/-- A segment that is valid is read back from its fields. -/
lemma read_toMembers {g : Segment} (h : ∀ name position, g = .placeholder name position →
      isIdentifier name = true ∧ 1 ≤ position.line ∧ 1 ≤ position.column) :
    read (.object g.toMembers) = .ok g := by
  cases g with
  | literal text => rfl
  | placeholder name position =>
    obtain ⟨hname, hline, hcolumn⟩ := h name position rfl
    show under (.field _) (readPlaceholder _) = _
    rw [under_eq_ok_iff]
    exact checks_of_valid hname hline hcolumn

end Segment

lemma Slot.readFields_toMembers {s : Slot} (hname : isIdentifier s.name = true)
    (hcount : 1 ≤ s.count) : readFields s.toMembers = .ok s := by
  show (both (under (.field "name") (identifier (.text s.name)))
    (both (under (.field "occurrence_count") (atLeast 1 (.integer s.count)))
      (under (.field "is_derived") (.ok s.derived)))).map _ = _
  rw [identifier_text hname, atLeast_integer hcount]
  rfl

namespace Template

lemma readFields_toMembers {t : Template}
    (h : ∀ g ∈ t.segments, Segment.read (.object g.toMembers) = .ok g) :
    readFields t.toMembers = .ok t := by
  have hsegments : tuple Segment.read (.array (t.segments.map fun g => .object g.toMembers)) =
      .ok t.segments := Checked.each_map_eq_ok h
  show (both (under (.field "source") (.ok t.source)) (under (.field "segments") (tuple Segment.read
    (.array (t.segments.map fun g => .object g.toMembers))))).map _ = _
  rw [hsegments]
  rfl

/-! ## Building is reading -/

lemma buildLiteralOf_eq (s : Text) : buildLiteralOf s = .ok (literalOf s) := by
  unfold buildLiteralOf literalOf
  split <;> rfl

lemma one_le_advance_start (s : Text) :
    1 ≤ (Position.start.advance s).line ∧ 1 ≤ (Position.start.advance s).column := by
  rw [Position.line_advance_start, Position.column_advance_start]
  exact ⟨Nat.le_add_left 1 _, Nat.le_add_left 1 _⟩

/-- A placeholder behind a text that has been read is built where the reader has counted it. -/
lemma buildPlaceholder_length (s t : Text) {name : Text} (hname : isIdentifier name = true) :
    Segment.buildPlaceholder (s ++ t) name s.length =
      .ok (.placeholder name (Position.start.advance s)) := by
  obtain ⟨hline, hcolumn⟩ := one_le_advance_start s
  have hoffset : (Position.start.advance s).offset = s.length := by
    rw [Position.offset_advance]
    exact Nat.zero_add _
  unfold Segment.buildPlaceholder
  rw [Position.lineAt_length, Position.columnAt_length, ← hoffset]
  exact Segment.readPlaceholder_of_valid hname hline hcolumn

lemma buildSegments_of_no_pair {source s : Text} (h : ¬ Text.HasPair '{' s) (offset : Nat) :
    buildSegments source offset s = .ok (literalOf s) := by
  have hcut : cutPair? '{' s = none := Text.cutPair?_eq_none_iff.2 h
  rw [buildSegments]
  split
  · exact buildLiteralOf_eq s
  · rename_i hopen
    rw [hcut] at hopen
    cases hopen

/-- Opening braces that nothing closes are an error. -/
lemma buildSegments_of_unclosed {source s before rest : Text}
    (hopen : cutPair? '{' s = some (before, rest)) (hclose : cutPair? '}' rest = none) (offset : Nat) :
    buildSegments source offset s =
      .error (.malformed ⟨.unclosed, .ofOffset source (offset + before.length)⟩) := by
  rw [buildSegments]
  split
  · rename_i hnone
    rw [hopen] at hnone
    cases hnone
  · rename_i before' rest' hopen'
    rw [hopen] at hopen'
    cases hopen'
    dsimp only
    split
    · rfl
    · rename_i hsome
      rw [hclose] at hsome
      cases hsome

/-- Braces that are opened and closed make an opening: its body is read, its placeholder is built, and
then what follows. -/
lemma buildSegments_of_closed {source s before rest body after : Text}
    (hopen : cutPair? '{' s = some (before, rest)) (hclose : cutPair? '}' rest = some (body, after))
    (offset : Nat) :
    buildSegments source offset s =
      ((readBody (.ofOffset source (offset + before.length)) body).mapError .malformed).bind fun name =>
        ((Segment.buildPlaceholder source name (offset + before.length)).mapError .invalid).bind
          fun placeholder =>
            (buildSegments source (offset + (Opening.mk before body).write.length) after).map
              fun following => literalOf before ++ placeholder :: following := by
  have hlength : offset + before.length + 2 + body.length + 2 =
      offset + (Opening.mk before body).write.length := by
    rw [Opening.length_write]
    dsimp only
    omega
  rw [buildSegments]
  split
  · rename_i hnone
    rw [hopen] at hnone
    cases hnone
  · rename_i before' rest' hopen'
    rw [hopen] at hopen'
    cases hopen'
    dsimp only
    split
    · rename_i hnone
      rw [hclose] at hnone
      cases hnone
    · rename_i body' after' hclose'
      rw [hclose] at hclose'
      cases hclose'
      rw [hlength, buildLiteralOf_eq]
      rfl

/-- Behind what has been read, building gives what reading gives. -/
lemma buildSegments_eq_readSegments (s t : Text) :
    buildSegments (s ++ t) s.length t = (readSegments (.advance .start s) t).mapError .malformed := by
  induction hn : t.length using Nat.strong_induction_on generalizing s t with
  | _ n ih =>
    cases hopen : cutPair? '{' t with
    | none =>
      have hplain := Text.cutPair?_eq_none_iff.1 hopen
      rw [readSegments_of_no_pair hplain, buildSegments_of_no_pair hplain]
      rfl
    | some cut =>
      obtain ⟨before, rest⟩ := cut
      have ht : s ++ t = (s ++ before) ++ '{' :: '{' :: rest := by
        rw [eq_of_cutPair? hopen, List.append_assoc]
      have hposition : Position.ofOffset (s ++ t) (s.length + before.length) =
          (Position.start.advance s).advance before := by
        rw [ht, ← List.length_append, Position.ofOffset_length, Position.advance_append]
      cases hclose : cutPair? '}' rest with
      | none =>
        rw [readSegments_of_unclosed hopen hclose, buildSegments_of_unclosed hopen hclose, hposition]
        rfl
      | some cut =>
        obtain ⟨body, after⟩ := cut
        rw [readSegments_of_closed hopen hclose, buildSegments_of_closed hopen hclose, hposition]
        cases hname : readBody ((Position.start.advance s).advance before) body with
        | error m => rfl
        | ok name =>
          have hplaceholder : Segment.buildPlaceholder (s ++ t) name (s.length + before.length) =
              .ok (.placeholder name ((Position.start.advance s).advance before)) := by
            have hidentifier := isIdentifier_iff_mem.2 (readBody_eq_ok_iff_mem.1 hname).2
            rw [ht, ← List.length_append, ← Position.advance_append]
            exact buildPlaceholder_length _ _ hidentifier
          have hfollowing : buildSegments (s ++ t)
              (s.length + (Opening.mk before body).write.length) after =
                (readSegments ((Position.start.advance s).advance (Opening.mk before body).write)
                  after).mapError .malformed := by
            have hless : after.length < n := by
              have hrest := length_of_cutPair? hopen
              have hafter := length_of_cutPair? hclose
              omega
            have hsource : s ++ t = (s ++ (Opening.mk before body).write) ++ after := by
              rw [ht, eq_of_cutPair? hclose, List.append_assoc, List.append_assoc,
                Opening.write_append]
            rw [hsource, ← List.length_append, ih after.length hless _ _ rfl,
              Position.advance_append]
          show ((Segment.buildPlaceholder _ name _).mapError BuildFault.invalid).bind _ = _
          rw [hplaceholder]
          show (buildSegments _ _ after).map _ = ((readSegments _ after).map _).mapError _
          rw [hfollowing]
          cases readSegments ((Position.start.advance s).advance (Opening.mk before body).write) after
          · rfl
          · rfl

/-- The segments of a text that is read have good names, and lines and columns from one on. -/
lemma valid_of_parse {source : Text} {t : Template} (h : parse source = .ok t) {name : Text}
    {position : Position} (hg : .placeholder name position ∈ t.segments) :
    isIdentifier name = true ∧ 1 ≤ position.line ∧ 1 ≤ position.column := by
  have hpoints := ((positions_point_at_braces source).1 t h).1 name position hg
  exact ⟨(normal_of_parse h).identifier _ hg name rfl, hpoints.line, hpoints.column⟩

/-- Building a template with all its parts checked is reading it. -/
theorem build_eq_parse (source : Text) : build source = (parse source).mapError .malformed := by
  have hsegments : buildSegments source 0 source =
      (readSegments .start source).mapError .malformed := buildSegments_eq_readSegments [] source
  show (buildSegments source 0 source >>= _) = _
  rw [hsegments]
  cases hread : readSegments .start source with
  | error m =>
    unfold parse
    rw [hread]
    rfl
  | ok segments =>
    have hparse : parse source = .ok ⟨source, segments⟩ := by
      unfold parse
      rw [hread]
      rfl
    have hfields : readFields (toMembers ⟨source, segments⟩) = .ok ⟨source, segments⟩ :=
      readFields_toMembers fun g hg => Segment.read_toMembers fun name position heq =>
        valid_of_parse hparse (heq ▸ hg)
    show (readFields (toMembers ⟨source, segments⟩)).mapError BuildFault.invalid = _
    rw [hfields, hparse]
    rfl

/-- **The reader and the records agree on what is valid.**  A name is one that the reader keeps when it
is one that the check of a record accepts, blanks around it apart.  So building a template with all its
parts checked gives what reading gives, and fails for what is wrong with the text or not at all.  A
template that has been read has names of the language, offsets from zero on and lines and columns from
one on.  Each of its segments, and the template itself, comes back when it is read from its fields, and
so does each of its slots, whatever names are derived. -/
theorem built_templates_are_valid (source : Text) :
    (∀ position body name, readBody position body = .ok name ↔
      identifier (.text (Text.strip body)) = .ok name) ∧
    (∀ s, identifier (.text s) = .ok s ↔ s ∈ nameLanguage) ∧
    build source = (parse source).mapError .malformed ∧
    (∀ issues, build source ≠ .error (.invalid issues)) ∧
    ∀ t, parse source = .ok t →
      build source = .ok t ∧
      (∀ name p, .placeholder name p ∈ t.segments →
        name ∈ nameLanguage ∧ 0 ≤ p.offset ∧ 1 ≤ p.line ∧ 1 ≤ p.column) ∧
      (∀ g ∈ t.segments, Segment.read (.object g.toMembers) = .ok g) ∧
      record readFields (.object t.toMembers) = .ok t ∧
      ∀ derived, ∀ s ∈ t.slots derived, s.name ∈ nameLanguage ∧ 1 ≤ s.count ∧
        record Slot.readFields (.object s.toMembers) = .ok s := by
  refine ⟨fun position body name => ?_, fun s => ?_, build_eq_parse source, fun issues => ?_,
    fun t h => ?_⟩
  · rw [readBody_eq_ok_iff_mem, identifier_eq_ok_iff]
  · rw [identifier_eq_ok_iff]
    exact and_iff_right rfl
  · rw [build_eq_parse]
    cases parse source <;> exact nofun
  · have hvalid : ∀ name p, .placeholder name p ∈ t.segments →
        isIdentifier name = true ∧ 1 ≤ p.line ∧ 1 ≤ p.column := fun name p => valid_of_parse h
    have hsegments : ∀ g ∈ t.segments, Segment.read (.object g.toMembers) = .ok g :=
      fun g hg => Segment.read_toMembers fun name p heq => hvalid name p (heq ▸ hg)
    refine ⟨?_, fun name p hp => ?_, hsegments, readFields_toMembers hsegments, fun derived s hs => ?_⟩
    · rw [build_eq_parse, h]
      rfl
    · obtain ⟨hname, hline, hcolumn⟩ := hvalid name p hp
      exact ⟨isIdentifier_iff_mem.1 hname, Nat.zero_le _, hline, hcolumn⟩
    · obtain ⟨hmem, heq⟩ := eq_of_mem_slots hs
      obtain ⟨p, hp⟩ := mem_names_iff.1 hmem
      have hname := (hvalid s.name p hp).1
      have hcount : 1 ≤ s.count := by
        rw [heq]
        exact occurrences_pos hmem
      exact ⟨isIdentifier_iff_mem.1 hname, hcount, Slot.readFields_toMembers hname hcount⟩

/-- Newlines and other blanks around a name are no part of it, and inside it they are a mistake of the
text, never one of the program. -/
theorem built_templates_are_valid_over_lines :
    (∃ t, parse "\n\x7b\x7b\u2003_a1\n\x7d\x7d\x7b\n \x7b\x7b\xa0b\x0b\x7d\x7d" = .ok t ∧
      build "\n\x7b\x7b\u2003_a1\n\x7d\x7d\x7b\n \x7b\x7b\xa0b\x0b\x7d\x7d" = .ok t ∧
      record readFields (.object t.toMembers) = .ok t ∧
      t.slots ["b"] = [⟨"_a1", 1, false⟩, ⟨"b", 1, true⟩] ∧
      ∀ s ∈ t.slots ["b"], record Slot.readFields (.object s.toMembers) = .ok s) ∧
    build "\x7b\x7ba\nb\x7d\x7d" = .error (.malformed ⟨.invalid "a\nb", ⟨0, 1, 1⟩⟩) := by
  have hparse : parse "\n\x7b\x7b\u2003_a1\n\x7d\x7d\x7b\n \x7b\x7b\xa0b\x0b\x7d\x7d" =
      .ok ⟨"\n\x7b\x7b\u2003_a1\n\x7d\x7d\x7b\n \x7b\x7b\xa0b\x0b\x7d\x7d", [.literal ['\n'],
        .placeholder "_a1" ⟨1, 2, 1⟩, .literal "\x7b\n ", .placeholder "b" ⟨13, 4, 2⟩]⟩ := by
    cbv
  have herror : parse "\x7b\x7ba\nb\x7d\x7d" = .error ⟨.invalid "a\nb", ⟨0, 1, 1⟩⟩ := by cbv
  obtain ⟨-, -, -, -, hvalid⟩ :=
    built_templates_are_valid "\n\x7b\x7b\u2003_a1\n\x7d\x7d\x7b\n \x7b\x7b\xa0b\x0b\x7d\x7d"
  obtain ⟨hbuild, -, -, hfields, hslots⟩ := hvalid _ hparse
  refine ⟨⟨_, hparse, hbuild, hfields, by decide, fun s hs => (hslots ["b"] s hs).2.2⟩, ?_⟩
  rw [(built_templates_are_valid _).2.2.1, herror]
  rfl

end Template

end Formwork
