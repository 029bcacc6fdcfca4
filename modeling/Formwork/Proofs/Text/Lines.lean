import Formwork.Proofs.Text.Words
import Mathlib.Data.List.TakeWhile

/-!
# The lines of a text

`Text.lines` cuts a text at every newline, which is what `List.splitOn` does
(`lines_eq_splitOn`), and `unlines` puts the lines together again (`unlines_lines`).

For proofs, a text is either a single line or a line with a newline and a text behind it, and
`lines_induction` is the induction that goes with this.  Three things are said of a text in these
terms: `firstLine`, the line that it begins with, `lastLine`, the line that it leaves unfinished,
and how many newlines it has, which is one less than its lines (`length_lines`).  A line other than
the first is found behind a newline: it is the first line of what follows
(`getElem?_lines_of_newline`), and there is a newline in front of every such line
(`exists_newline_of_lt_count`).
-/

namespace Formwork.Text

/-! ## Cutting and putting together -/

theorem lines_eq_splitOn (s : Text) : lines s = s.splitOn '\n' := by
  unfold List.splitOn
  induction s with
  | nil => rfl
  | cons c r ih =>
    rw [List.splitOnP_cons_eq_if_modifyHead, ← ih, lines]
    by_cases hc : c = '\n'
    · simp [hc]
    · cases hr : lines r with
      | nil => exact absurd hr (lines_ne_nil r)
      | cons l ls => simp [hc]

@[simp] theorem unlines_lines (s : Text) : unlines (lines s) = s := by
  unfold unlines
  rw [lines_eq_splitOn, List.intercalate_splitOn]

lemma lines_append_newline (s t : Text) : lines (s ++ '\n' :: t) = lines s ++ lines t := by
  simp only [lines_eq_splitOn, List.splitOn]
  exact List.splitOnP_append_cons s t (beq_self_eq_true _)

lemma lines_of_not_mem {s : Text} (h : '\n' ∉ s) : lines s = [s] := by
  rw [lines_eq_splitOn]
  refine List.splitOnP_eq_singleton fun c hc => ?_
  rw [beq_eq_false_iff_ne]
  rintro rfl
  exact h hc

lemma unlines_append {ls ms : List Text} (hl : ls ≠ []) (hm : ms ≠ []) :
    unlines (ls ++ ms) = unlines ls ++ '\n' :: unlines ms := by
  unfold unlines
  induction ls with
  | nil => exact absurd rfl hl
  | cons l ls ih =>
    cases ls with
    | nil => simp [List.intercalate_cons_of_ne_nil hm]
    | cons l' ls =>
      have hrest := ih (List.cons_ne_nil _ _)
      rw [List.cons_append] at hrest
      simp [List.intercalate_cons_cons, hrest]

/-- What stands in front of the first line stands in front of the text. -/
lemma unlines_append_cons (s l : Text) (ls : List Text) :
    unlines ((s ++ l) :: ls) = s ++ unlines (l :: ls) := by
  unfold unlines
  cases ls with
  | nil => simp
  | cons l' ls => simp [List.intercalate_cons_cons]

/-- A text is a single line, or it is a line, a newline and a text. -/
@[elab_as_elim]
lemma lines_induction {motive : Text → Prop} (single : ∀ s, '\n' ∉ s → motive s)
    (newline : ∀ s t, '\n' ∉ s → motive t → motive (s ++ '\n' :: t)) (s : Text) : motive s := by
  have hline : ∀ l : Text, (∀ c ∈ l, (c == '\n') = false) → '\n' ∉ l := by
    intro l hl hc
    simpa using hl _ hc
  induction s using words_induction (· == '\n') with
  | plain l hl => exact single l (hline l hl)
  | cut l c t hl hc ih =>
    obtain rfl : c = '\n' := beq_iff_eq.1 hc
    exact newline l t (hline l hl) ih

/-! ## The first line -/

/-- The line that a text begins with. -/
def firstLine (s : Text) : Text := s.takeWhile (· != '\n')

lemma firstLine_append_of_not_mem {s : Text} (h : '\n' ∉ s) (t : Text) :
    firstLine (s ++ t) = s ++ firstLine t := by
  refine List.takeWhile_append_of_pos fun c hc => ?_
  rw [bne_iff_ne]
  rintro rfl
  exact h hc

lemma firstLine_of_not_mem {s : Text} (h : '\n' ∉ s) : firstLine s = s := by
  have happend := firstLine_append_of_not_mem h []
  simpa [firstLine] using happend

/-- What follows a newline has no part in the first line. -/
lemma firstLine_append_newline (s t : Text) : firstLine (s ++ '\n' :: t) = firstLine s := by
  unfold firstLine
  rw [List.takeWhile_append]
  split
  · rename_i hall
    rw [List.takeWhile_cons_of_neg (by simp), List.append_nil]
    exact ((List.takeWhile_prefix _).eq_of_length hall).symm
  · rfl

lemma firstLine_append_of_mem {s : Text} (h : '\n' ∈ s) (t : Text) :
    firstLine (s ++ t) = firstLine s := by
  obtain ⟨a, b, rfl⟩ := List.append_of_mem h
  rw [List.append_assoc, List.cons_append, firstLine_append_newline, firstLine_append_newline]

lemma getElem?_lines_zero (s : Text) : (lines s)[0]? = some (firstLine s) := by
  induction s using lines_induction with
  | single s hs => rw [lines_of_not_mem hs, firstLine_of_not_mem hs]; rfl
  | newline s t hs _ =>
    rw [lines_append_newline, lines_of_not_mem hs, firstLine_append_newline,
      firstLine_of_not_mem hs]
    rfl

lemma exists_lines_eq_cons (s : Text) : ∃ ls, lines s = firstLine s :: ls := by
  have hfirst := getElem?_lines_zero s
  cases hs : lines s with
  | nil => exact absurd hs (lines_ne_nil s)
  | cons l ls =>
    rw [hs, List.getElem?_cons_zero, Option.some_inj] at hfirst
    exact ⟨ls, by rw [hfirst]⟩

/-! ## Counting newlines -/

lemma length_lines (s : Text) : (lines s).length = s.count '\n' + 1 := by
  induction s using lines_induction with
  | single s hs => simp [lines_of_not_mem hs, List.count_eq_zero_of_not_mem hs]
  | newline s t hs ih =>
    rw [lines_append_newline, List.length_append, ih, lines_of_not_mem hs]
    simp [List.count_eq_zero_of_not_mem hs]
    omega

/-- Behind a newline stands the line with the number of the newlines so far. -/
lemma getElem?_lines_of_newline (s t : Text) :
    (lines (s ++ '\n' :: t))[s.count '\n' + 1]? = some (firstLine t) := by
  rw [lines_append_newline, ← length_lines, List.getElem?_append_right (Nat.le_refl _),
    Nat.sub_self, getElem?_lines_zero]

/-- Newlines are numbered from the front. -/
lemma exists_newline_of_lt_count {s : Text} {k : Nat} (h : k < s.count '\n') :
    ∃ a b, s = a ++ '\n' :: b ∧ a.count '\n' = k := by
  induction s using lines_induction generalizing k with
  | single s hs => simp [List.count_eq_zero_of_not_mem hs] at h
  | newline s t hs ih =>
    cases k with
    | zero => exact ⟨s, t, rfl, List.count_eq_zero_of_not_mem hs⟩
    | succ k =>
      have hk : k < t.count '\n' := by
        simp [List.count_append, List.count_eq_zero_of_not_mem hs] at h
        omega
      obtain ⟨a, b, rfl, ha⟩ := ih hk
      refine ⟨s ++ '\n' :: a, b, by simp, ?_⟩
      simp [List.count_append, List.count_eq_zero_of_not_mem hs, ha]

/-! ## The last line -/

lemma lastLine_of_not_mem {s : Text} (h : '\n' ∉ s) : lastLine s = s := by
  unfold lastLine
  simp only [lines_of_not_mem h, List.getLast_singleton]

@[simp] lemma lastLine_nil : lastLine [] = [] := rfl

lemma lastLine_append_newline (s t : Text) : lastLine (s ++ '\n' :: t) = lastLine t := by
  unfold lastLine
  simp only [lines_append_newline, List.getLast_append_of_ne_nil _ (lines_ne_nil t)]

/-- To know the last line, the lines before the last one may be forgotten on the way. -/
lemma lastLine_append (s t : Text) : lastLine (lastLine s ++ t) = lastLine (s ++ t) := by
  induction s using lines_induction with
  | single s hs => rw [lastLine_of_not_mem hs]
  | newline s u _ ih =>
    rw [lastLine_append_newline, ih, List.append_assoc, List.cons_append, lastLine_append_newline]

/-! ## Texts that break in the same places -/

/-- The texts begin with the same line and have as many lines. -/
structure SameBreaks (s t : Text) : Prop where
  firstLine : firstLine s = firstLine t
  count : s.count '\n' = t.count '\n'

namespace SameBreaks

variable {s s' t t' : Text}

lemma refl (s : Text) : SameBreaks s s := ⟨rfl, rfl⟩

lemma newline_mem_iff (h : SameBreaks s t) : '\n' ∈ s ↔ '\n' ∈ t := by
  rw [← List.count_pos_iff, ← List.count_pos_iff, h.count]

lemma eq_of_not_mem (h : SameBreaks s t) (hs : '\n' ∉ s) : s = t := by
  have ht : '\n' ∉ t := fun hm => hs (h.newline_mem_iff.2 hm)
  rw [← firstLine_of_not_mem hs, h.firstLine, firstLine_of_not_mem ht]

lemma append (h : SameBreaks s t) (h' : SameBreaks s' t') : SameBreaks (s ++ s') (t ++ t') := by
  refine ⟨?_, by rw [List.count_append, List.count_append, h.count, h'.count]⟩
  by_cases hs : '\n' ∈ s
  · rw [firstLine_append_of_mem hs, firstLine_append_of_mem (h.newline_mem_iff.1 hs), h.firstLine]
  · obtain rfl := h.eq_of_not_mem hs
    rw [firstLine_append_of_not_mem hs, firstLine_append_of_not_mem hs, h'.firstLine]

/-- A newline in the same place of both texts begins the same line, up to what is put in front. -/
lemma exists_line {w : Text} (h : SameBreaks s t) (h' : SameBreaks s' t') (hw : '\n' ∉ w) :
    ∃ line, (lines (s ++ '\n' :: s'))[s.count '\n' + 1]? = some line ∧
      (lines (t ++ '\n' :: (w ++ t')))[s.count '\n' + 1]? = some (w ++ line) := by
  refine ⟨Text.firstLine s', getElem?_lines_of_newline s s', ?_⟩
  rw [h.count, getElem?_lines_of_newline, firstLine_append_of_not_mem hw, h'.firstLine]

end SameBreaks

end Formwork.Text
