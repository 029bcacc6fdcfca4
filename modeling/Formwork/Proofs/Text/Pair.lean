import Formwork.Template.Parser
import Mathlib.Data.List.Infix
import Mathlib.Order.Bounds.Basic

/-!
# Doubled characters

Templates are cut at doubled braces.  `HasPair b s` says that `b` stands twice in a row somewhere
in `s`, with no reference to any search, and the search `cutPair?` is described by it: it fails
exactly when there is no pair (`cutPair?_eq_none_iff`), and otherwise it cuts at the first one
(`cutPair?_eq_some_iff`).

Where two texts meet, a pair arises only between a `b` at the end of the first and one at the
beginning of the second (`hasPair_append_iff`).

First means that no pair begins earlier.  A pair that begins earlier may still reach into the one
that is cut at, since braces may come in longer runs, so the condition is on what stands before
together with one more `b`: it has no pair.  That is the same as having no pair and not ending in
`b` (`hasPair_concat_iff`).

Where a text is spoken of by offsets, `PairAt b s k` says that a pair begins at the offset `k`, and a
cut is made at the least such offset (`isLeast_pairAt`).
-/

namespace Formwork.Text

open Template (cutPair? eq_of_cutPair?)

/-- The character stands twice in a row somewhere in the text. -/
def HasPair (b : Char) (s : Text) : Prop := [b, b] <:+: s

variable {b : Char}

@[simp] lemma not_hasPair_nil : ¬ HasPair b [] := by
  simp [HasPair]

lemma hasPair_cons_iff {c : Char} {s : Text} :
    HasPair b (c :: s) ↔ (c = b ∧ s.head? = some b) ∨ HasPair b s := by
  unfold HasPair
  rw [List.infix_cons_iff, List.cons_prefix_cons]
  cases s with
  | nil => simp
  | cons d t => simp [eq_comm]

lemma HasPair.mem {s : Text} (h : HasPair b s) : b ∈ s :=
  List.IsInfix.subset h List.mem_cons_self

lemma hasPair_append_pair (b : Char) (s t : Text) : HasPair b (s ++ b :: b :: t) :=
  ⟨s, t, by simp⟩

/-- Two texts one after the other have the pairs of both, and one more where they meet if the first
ends and the second begins in `b`. -/
lemma hasPair_append_iff {s t : Text} :
    HasPair b (s ++ t) ↔
      HasPair b s ∨ HasPair b t ∨ s.getLast? = some b ∧ t.head? = some b := by
  induction s with
  | nil => simp
  | cons c r ih =>
    rw [List.cons_append, hasPair_cons_iff, ih, hasPair_cons_iff]
    cases r with
    | nil => simp [or_comm]
    | cons d u =>
      rw [List.cons_append, List.head?_cons, List.head?_cons, List.getLast?_cons_cons, or_assoc]

/-- One more `b` at the end makes a pair only after a `b`. -/
lemma hasPair_concat_iff {s : Text} :
    HasPair b (s ++ [b]) ↔ HasPair b s ∨ s.getLast? = some b := by
  simp [hasPair_append_iff, hasPair_cons_iff]

/-- No pair arises behind a text that does not end in `b`. -/
lemma not_hasPair_append {s t : Text} (hs : ¬ HasPair b s) (hlast : s.getLast? ≠ some b)
    (ht : ¬ HasPair b t) : ¬ HasPair b (s ++ t) := by
  rw [hasPair_append_iff]
  rintro (h | h | ⟨h, -⟩)
  · exact hs h
  · exact ht h
  · exact hlast h

/-- What does not hold `b` makes no difference at the end of what is in front. -/
lemma getLast?_append_eq_iff {s : Text} (h : b ∉ s) (t : Text) :
    (s ++ t).getLast? = some b ↔ t.getLast? = some b := by
  rw [List.getLast?_append]
  cases ht : t.getLast? with
  | none => simpa using fun hs => h (List.mem_of_getLast? hs)
  | some c => simp

lemma getLast?_append_cons_eq_iff {c : Char} (hc : c ≠ b) (s t : Text) :
    (s ++ c :: t).getLast? = some b ↔ t.getLast? = some b := by
  have hsingle : b ∉ [c] := by simpa using hc.symm
  rw [← getLast?_append_eq_iff hsingle t, List.getLast?_append_of_ne_nil s (by simp)]
  rfl

/-! ## The first pair -/

/-- There is nothing to cut at exactly when the text has no pair. -/
lemma cutPair?_eq_none_iff {s : Text} : cutPair? b s = none ↔ ¬ HasPair b s := by
  induction s with
  | nil => simp [cutPair?]
  | cons c r ih =>
    cases r with
    | nil => simp [cutPair?, hasPair_cons_iff]
    | cons d t =>
      rw [cutPair?, hasPair_cons_iff, List.head?_cons, Option.some_inj]
      by_cases hb : c = b ∧ d = b
      · simp [hb]
      · rw [if_neg hb, Option.map_eq_none_iff, ih]
        simp [hb]

/-- In a text cut before its second character at the earliest, the second character decides
whether a pair begins in front of the cut. -/
lemma head?_of_append_pair {d : Char} {t x y : Text} (h : d :: t = x ++ b :: b :: y) :
    (x ++ [b]).head? = some d := by
  cases x with
  | nil => rw [List.cons.inj h |>.1]; rfl
  | cons e x => rw [List.cons.inj h |>.1]; rfl

/-- A cut is at the first pair: no pair begins in what stands before it. -/
lemma not_hasPair_of_cutPair? {s x y : Text} (h : cutPair? b s = some (x, y)) :
    ¬ HasPair b (x ++ [b]) := by
  induction s generalizing x with
  | nil => cases h
  | cons c r ih =>
    cases r with
    | nil => cases h
    | cons d t =>
      rw [cutPair?] at h
      by_cases hb : c = b ∧ d = b
      · rw [if_pos hb] at h
        cases h
        simp [hasPair_cons_iff]
      · rw [if_neg hb, Option.map_eq_some_iff] at h
        obtain ⟨⟨x', y'⟩, h', he⟩ := h
        cases he
        have hd := head?_of_append_pair (eq_of_cutPair? h')
        rw [List.cons_append, hasPair_cons_iff, hd, Option.some_inj]
        rintro (hcd | hx)
        · exact hb hcd
        · exact ih h' hx

lemma cutPair?_append {x : Text} (hx : ¬ HasPair b (x ++ [b])) (y : Text) :
    cutPair? b (x ++ b :: b :: y) = some (x, y) := by
  induction x with
  | nil => rw [List.nil_append, cutPair?, if_pos ⟨rfl, rfl⟩]
  | cons c r ih =>
    rw [List.cons_append, hasPair_cons_iff, not_or] at hx
    obtain ⟨hc, hr⟩ := hx
    -- The text after `c` is not empty, and it begins like `r ++ [b]`.
    obtain ⟨d, t, ht⟩ : ∃ d t, r ++ b :: b :: y = d :: t := by
      cases r with
      | nil => exact ⟨b, b :: y, rfl⟩
      | cons e r => exact ⟨e, r ++ b :: b :: y, rfl⟩
    rw [head?_of_append_pair ht.symm, Option.some_inj] at hc
    have hcut := ih hr
    rw [ht] at hcut
    rw [List.cons_append, ht, cutPair?, if_neg hc, hcut]
    rfl

/-- Cutting finds the first pair. -/
lemma cutPair?_eq_some_iff {s x y : Text} :
    cutPair? b s = some (x, y) ↔ s = x ++ b :: b :: y ∧ ¬ HasPair b (x ++ [b]) := by
  constructor
  · intro h
    exact ⟨eq_of_cutPair? h, not_hasPair_of_cutPair? h⟩
  · rintro ⟨rfl, hx⟩
    exact cutPair?_append hx y

/-- The first pair ends a text without the character. -/
lemma cutPair?_append_of_not_mem {x : Text} (hx : b ∉ x) (y : Text) :
    cutPair? b (x ++ b :: b :: y) = some (x, y) := by
  apply cutPair?_append
  rw [hasPair_concat_iff]
  rintro (h | h)
  · exact hx h.mem
  · exact hx (List.mem_of_getLast? h)

/-! ## Pairs by their places -/

/-- The character stands twice in a row from the offset `k` on. -/
def PairAt (b : Char) (s : Text) (k : Nat) : Prop := s[k]? = some b ∧ s[k + 1]? = some b

lemma pairAt_length (b : Char) (x y : Text) : PairAt b (x ++ b :: b :: y) x.length := by
  simp [PairAt]

lemma PairAt.exists_eq_append {s : Text} {k : Nat} (h : PairAt b s k) :
    ∃ x y, s = x ++ b :: b :: y ∧ x.length = k := by
  obtain ⟨hlt, hb⟩ := List.getElem?_eq_some_iff.1 h.1
  obtain ⟨hlt', hb'⟩ := List.getElem?_eq_some_iff.1 h.2
  refine ⟨s.take k, s.drop (k + 2), ?_, by simp [Nat.le_of_lt hlt]⟩
  calc s = s.take k ++ s.drop k := (List.take_append_drop k s).symm
    _ = s.take k ++ b :: b :: s.drop (k + 2) := by
      rw [List.drop_eq_getElem_cons hlt, List.drop_eq_getElem_cons hlt', hb, hb']

lemma hasPair_iff_exists_pairAt {s : Text} : HasPair b s ↔ ∃ k, PairAt b s k := by
  constructor
  · rintro ⟨x, y, rfl⟩
    refine ⟨x.length, ?_⟩
    simpa using pairAt_length b x y
  · rintro ⟨k, h⟩
    obtain ⟨x, y, rfl, -⟩ := h.exists_eq_append
    exact hasPair_append_pair b x y

/-- Offsets behind a text count from its end. -/
lemma pairAt_append_add {x s : Text} {k : Nat} :
    PairAt b (x ++ s) (x.length + k) ↔ PairAt b s k := by
  unfold PairAt
  rw [Nat.add_assoc, List.getElem?_append_right (by omega), List.getElem?_append_right (by omega),
    Nat.add_sub_cancel_left, Nat.add_sub_cancel_left]

lemma pairAt_append_of_le {x : Text} {k : Nat} (h : k + 2 ≤ x.length) (s : Text) :
    PairAt b (x ++ s) k ↔ PairAt b x k := by
  unfold PairAt
  rw [List.getElem?_append_left (by omega), List.getElem?_append_left (by omega)]

lemma PairAt.add_two_le {s : Text} {k : Nat} (h : PairAt b s k) : k + 2 ≤ s.length :=
  (List.getElem?_eq_some_iff.1 h.2).1

/-- Pairs that lie wholly in a part of a text, by their offsets in the whole. -/
lemma pairAt_between_iff {x s : Text} {k : Nat} (y : Text) :
    (x.length ≤ k ∧ k + 2 ≤ x.length + s.length ∧ PairAt b (x ++ (s ++ y)) k) ↔
      ∃ j, k = x.length + j ∧ PairAt b s j := by
  constructor
  · rintro ⟨hfrom, hupTo, h⟩
    obtain ⟨j, rfl⟩ := Nat.exists_eq_add_of_le hfrom
    rw [pairAt_append_add, pairAt_append_of_le (by omega)] at h
    exact ⟨j, rfl, h⟩
  · rintro ⟨j, rfl, h⟩
    have hle := h.add_two_le
    refine ⟨Nat.le_add_right _ _, by omega, ?_⟩
    rwa [pairAt_append_add, pairAt_append_of_le hle]

/-- No pair begins in a text without the character. -/
lemma PairAt.exists_add {x s : Text} {k : Nat} (hx : b ∉ x) (h : PairAt b (x ++ s) k) :
    ∃ j, k = x.length + j ∧ PairAt b s j := by
  by_cases hk : k < x.length
  · have hfirst := h.1
    rw [List.getElem?_append_left hk] at hfirst
    exact absurd (List.mem_of_getElem? hfirst) hx
  · obtain ⟨j, rfl⟩ := Nat.exists_eq_add_of_le (Nat.le_of_not_lt hk)
    exact ⟨j, rfl, pairAt_append_add.1 h⟩

/-- Where a cut is made, the first pair begins. -/
lemma isLeast_pairAt {x : Text} (hx : ¬ HasPair b (x ++ [b])) (y : Text) :
    IsLeast {k | PairAt b (x ++ b :: b :: y) k} x.length := by
  refine ⟨pairAt_length b x y, fun k hk => ?_⟩
  by_contra hlt
  have hle : k + 2 ≤ (x ++ [b]).length := by
    rw [List.length_append, List.length_singleton]
    omega
  have hsplit : x ++ b :: b :: y = (x ++ [b]) ++ b :: y := by simp
  have hpair : PairAt b (x ++ b :: b :: y) k := hk
  rw [hsplit, pairAt_append_of_le hle] at hpair
  exact hx (hasPair_iff_exists_pairAt.2 ⟨k, hpair⟩)

/-- The first pair behind a text, by its offset in the whole. -/
lemma isLeast_pairAt_append {x s : Text} {k : Nat} (h : IsLeast {j | PairAt b s j} k) :
    IsLeast {j | x.length ≤ j ∧ PairAt b (x ++ s) j} (x.length + k) := by
  refine ⟨⟨Nat.le_add_right _ _, pairAt_append_add.2 h.1⟩, ?_⟩
  rintro n ⟨hn, hpair⟩
  obtain ⟨j, rfl⟩ := Nat.exists_eq_add_of_le hn
  exact Nat.add_le_add_left (h.2 (pairAt_append_add.1 hpair)) _

end Formwork.Text
