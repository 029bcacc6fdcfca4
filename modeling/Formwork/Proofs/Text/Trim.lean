import Formwork.Text.Blank
import Mathlib.Data.List.DropRight
import Mathlib.Data.List.TakeWhile

/-!
# What trimming takes away

Trimming a text splits it in three: characters that satisfy the test, what is left, and again
characters that satisfy it (`exists_eq_append_trim`).  What is left is not changed by more such
characters around the text (`trim_append`), and a text without any of them is left as it is
(`trim_eq_self`).  Together the two say that trimming recovers a core from its padding, which is
how names are found in the braces of a placeholder.
-/

namespace Formwork.Text

lemma trim_eq_rdropWhile (p : Char → Bool) (s : Text) :
    trim p s = (s.dropWhile p).rdropWhile p := rfl

/-- A text is what trimming leaves, between two runs of what it takes away. -/
lemma exists_eq_append_trim (p : Char → Bool) (s : Text) :
    ∃ l r, s = l ++ trim p s ++ r ∧ (∀ c ∈ l, p c = true) ∧ ∀ c ∈ r, p c = true := by
  refine ⟨s.takeWhile p, (s.dropWhile p).rtakeWhile p, ?_, ?_, ?_⟩
  · rw [trim_eq_rdropWhile, List.append_assoc, List.rdropWhile_append_rtakeWhile,
      List.takeWhile_append_dropWhile]
  · intro c hc
    exact List.mem_takeWhile_imp hc
  · intro c hc
    exact List.mem_rtakeWhile_imp hc

/-- Characters that satisfy the test make no difference at the end of what is dropped from the
right. -/
lemma rdropWhile_append_of_forall {p : Char → Bool} (s : Text) {r : Text}
    (hr : ∀ c ∈ r, p c = true) : (s ++ r).rdropWhile p = s.rdropWhile p := by
  have hrev : ∀ c ∈ r.reverse, p c = true := fun c hc => hr c (List.mem_reverse.1 hc)
  unfold List.rdropWhile
  rw [List.reverse_append, List.dropWhile_append_of_pos hrev]

/-- Padding does not change what trimming leaves. -/
lemma trim_append {p : Char → Bool} {l r : Text} (hl : ∀ c ∈ l, p c = true) (s : Text)
    (hr : ∀ c ∈ r, p c = true) : trim p (l ++ s ++ r) = trim p s := by
  rw [trim_eq_rdropWhile, trim_eq_rdropWhile, List.append_assoc, List.dropWhile_append_of_pos hl,
    List.dropWhile_append]
  split
  · rename_i hs
    have hnil : s.dropWhile p = [] := by simpa using hs
    have hdrop : r.dropWhile p = [] := List.dropWhile_eq_nil_iff.2 hr
    rw [hnil, hdrop]
  · exact rdropWhile_append_of_forall _ hr

/-- Nothing is taken away from a text whose ends do not satisfy the test. -/
lemma trim_eq_self_of_ends {p : Char → Bool} {s : Text} (hhead : ∀ c ∈ s.head?, p c = false)
    (hlast : ∀ c ∈ s.getLast?, p c = false) : trim p s = s := by
  have hleft : s.dropWhile p = s := by
    cases s with
    | nil => rfl
    | cons c r => rw [List.dropWhile_cons_of_neg (by simp [hhead c rfl])]
  rw [trim_eq_rdropWhile, hleft, List.rdropWhile_eq_self_iff]
  intro hne
  rw [hlast _ (List.getLast?_eq_some_getLast hne)]
  exact Bool.false_ne_true

lemma trim_eq_self {p : Char → Bool} {s : Text} (h : ∀ c ∈ s, p c = false) : trim p s = s :=
  trim_eq_self_of_ends (fun c hc => h c (List.mem_of_head? hc))
    fun c hc => h c (List.mem_of_getLast? hc)

lemma allBlank_iff {s : Text} : allBlank s = true ↔ ∀ c ∈ s, isBlank c = true :=
  List.all_eq_true

lemma exists_eq_append_strip (s : Text) :
    ∃ l r, s = l ++ strip s ++ r ∧ allBlank l = true ∧ allBlank r = true := by
  obtain ⟨l, r, hs, hl, hr⟩ := exists_eq_append_trim isBlank s
  exact ⟨l, r, hs, allBlank_iff.2 hl, allBlank_iff.2 hr⟩

/-- Stripping recovers a text without blanks from its padding. -/
lemma strip_append {l s r : Text} (hl : allBlank l = true) (hs : ∀ c ∈ s, isBlank c = false)
    (hr : allBlank r = true) : strip (l ++ s ++ r) = s := by
  unfold strip
  rw [trim_append (allBlank_iff.1 hl) s (allBlank_iff.1 hr), trim_eq_self hs]

/-- Nothing is left of a blank text, and only of such a text. -/
lemma strip_eq_nil_iff {s : Text} : strip s = [] ↔ allBlank s = true := by
  constructor
  · intro h
    obtain ⟨l, r, hs, hl, hr⟩ := exists_eq_append_strip s
    rw [h, List.append_nil] at hs
    rw [hs, allBlank_iff]
    exact fun c hc => (List.mem_append.1 hc).elim (allBlank_iff.1 hl c) (allBlank_iff.1 hr c)
  · intro h
    have hpadding := strip_append h (fun _ hc => absurd hc List.not_mem_nil) (rfl : allBlank [] = true)
    simpa using hpadding

end Formwork.Text
