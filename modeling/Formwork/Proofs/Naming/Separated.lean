import Formwork.Proofs.Naming.Scan

/-!
# Names in the separated styles are normal forms

A name in a separated style consists of words in small letters with one mark between any two, and such a
name says which words it was made of: `lowered_joined` reads them off again, whichever of the two marks
stands between them.  So a separated name is written in its own style as it is, and in the other style
with the other mark.  What a reader sees of such a name is `IsSeparated`.
-/

namespace Formwork.Naming

open Text

/-- What a name looks like whose words are separated by one mark, where another style has another: it has
no blanks, no capitals and not the other mark, and the mark stands neither at an end nor twice in a row. -/
structure IsSeparated (mark other : Char) (s : Text) : Prop where
  noBlank : ∀ c ∈ s, isBlank c = false
  noCapital : ∀ c ∈ s, isCapital c = false
  noOther : other ∉ s
  noPair : ¬ HasPair mark s
  head : s.head? ≠ some mark
  last : s.getLast? ≠ some mark

/-- Without capitals there are no boundaries but the separators. -/
lemma pieces_of_no_capital {s : Text} (hs : ∀ c ∈ s, isCapital c = false) :
    pieces s = s.splitOnP isSeparator := by
  induction s with
  | nil => simp [pieces, List.splitOnP_nil]
  | cons x r ih =>
    obtain ⟨-, hr⟩ := List.forall_mem_cons.1 hs
    have hboundary : isBoundary x r = false := by
      cases r with
      | nil => rfl
      | cons c r => simp [isBoundary, hr c List.mem_cons_self]
    rw [List.splitOnP_cons_eq_if_modifyHead, ← ih hr]
    cases hx : isSeparator x with
    | true => rw [pieces_of_separator hx, if_pos rfl]
    | false => rw [pieces_of_not_boundary hx hboundary, if_neg Bool.false_ne_true]

lemma scan_of_no_capital {s : Text} (hs : ∀ c ∈ s, isCapital c = false) :
    scan s = words isSeparator s := by
  rw [words_eq_filter_splitOnP, scan, pieces_of_no_capital hs]

/-! ## Joined words in small letters -/

section Joined

variable {mark : Char} {ws : List Text}

/-- A character of joined words is the mark, or it is a small form and no separator. -/
lemma mark_or_small (hws : ∀ w ∈ ws, IsSmallWord w) {c : Char} (hc : c ∈ joined mark ws) :
    c = mark ∨ isSeparator c = false ∧ smallOf c = [c] := by
  rcases mem_joined hc with rfl | ⟨w, hw, hcw⟩
  · exact .inl rfl
  · exact .inr ⟨(hws w hw).noSeparator c hcw, (hws w hw).small c hcw⟩

lemma strip_joined (hmark : mark = '_' ∨ mark = '-') (hws : ∀ w ∈ ws, IsSmallWord w) :
    strip (joined mark ws) = joined mark ws := by
  refine trim_eq_self fun c hc => ?_
  rcases mark_or_small hws hc with rfl | ⟨h, -⟩
  · rcases hmark with rfl | rfl <;> decide
  · exact isBlank_eq_false h

/-- The words of a joined text are found again, whichever mark stands between them. -/
lemma lowered_joined (hmark : mark = '_' ∨ mark = '-') (hws : ∀ w ∈ ws, IsSmallWord w) :
    lowered (joined mark ws) = ws := by
  have hvisible : isSeparator mark = true ∧ isCapital mark = false := by
    rcases hmark with rfl | rfl <;> decide
  obtain ⟨hsep, hcapital⟩ := hvisible
  have hscan : scan (joined mark ws) = ws := by
    rw [scan_of_no_capital, words_joined hsep fun w hw => ⟨(hws w hw).nonempty, (hws w hw).noSeparator⟩]
    intro c hc
    rcases mark_or_small hws hc with rfl | ⟨-, h⟩
    · exact hcapital
    · exact isCapital_eq_false_of_smallOf h
  have hself : ∀ w ∈ ws, toLower w = w := fun w hw => toLower_eq_self (hws w hw).small
  rw [lowered, strip_joined hmark hws, hscan, List.map_congr_left hself, List.map_id']

lemma snake_joined (hmark : mark = '_' ∨ mark = '-') (hws : ∀ w ∈ ws, IsSmallWord w) :
    snake (joined mark ws) = joined '_' ws := by
  rw [snake_eq_joined, lowered_joined hmark hws]

lemma kebab_joined (hmark : mark = '_' ∨ mark = '-') (hws : ∀ w ∈ ws, IsSmallWord w) :
    kebab (joined mark ws) = joined '-' ws := by
  rw [kebab_eq_joined, lowered_joined hmark hws]

lemma isSeparated_joined {other : Char}
    (hmarks : mark = '_' ∧ other = '-' ∨ mark = '-' ∧ other = '_') (hws : ∀ w ∈ ws, IsSmallWord w) :
    IsSeparated mark other (joined mark ws) := by
  have hvisible : isBlank mark = false ∧ isCapital mark = false ∧ isSeparator mark = true ∧
      isSeparator other = true ∧ other ≠ mark := by
    rcases hmarks with ⟨rfl, rfl⟩ | ⟨rfl, rfl⟩ <;> decide
  obtain ⟨hblank, hcapital, hsep, hother, hne⟩ := hvisible
  have hclean : ∀ w ∈ ws, w ≠ [] ∧ mark ∉ w := fun w hw => ⟨(hws w hw).nonempty, (hws w hw).not_mem hsep⟩
  obtain ⟨hhead, hlast⟩ := joined_ends hclean
  refine ⟨fun c hc => ?_, fun c hc => ?_, fun hc => ?_, not_hasPair_joined hclean, hhead, hlast⟩
  · rcases mark_or_small hws hc with rfl | ⟨h, -⟩
    · exact hblank
    · exact isBlank_eq_false h
  · rcases mark_or_small hws hc with rfl | ⟨-, h⟩
    · exact hcapital
    · exact isCapital_eq_false_of_smallOf h
  · rcases mark_or_small hws hc with h | ⟨h, -⟩
    · exact hne h
    · rw [hother] at h
      cases h

end Joined

/-- **Separated names are normal forms.**  Whatever the text, its name in a separated style looks like one,
and to write a separated name in a separated style is to write the text in that style. -/
theorem separated_normal_form (v : Text) :
    IsSeparated '_' '-' (snake v) ∧ IsSeparated '-' '_' (kebab v) ∧
    snake (snake v) = snake v ∧ snake (kebab v) = snake v ∧
    kebab (kebab v) = kebab v ∧ kebab (snake v) = kebab v := by
  have hws : ∀ w ∈ lowered v, IsSmallWord w := fun w => isSmallWord_of_mem_lowered
  rw [snake_eq_joined v, kebab_eq_joined v]
  exact ⟨isSeparated_joined (.inl ⟨rfl, rfl⟩) hws, isSeparated_joined (.inr ⟨rfl, rfl⟩) hws,
    snake_joined (.inl rfl) hws, snake_joined (.inr rfl) hws,
    kebab_joined (.inr rfl) hws, kebab_joined (.inl rfl) hws⟩

/-- A letter may become one and a mark of its own, and a sigma is final where a word ends. -/
example : snake " ΟΔΟΣ-İd--2Go_" = "οδος_i\u0307d_2_go" := by decide +kernel

end Formwork.Naming
