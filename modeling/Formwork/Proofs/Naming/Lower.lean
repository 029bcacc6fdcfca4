import Formwork.Proofs.Naming.Letter

/-!
# Texts in small letters

A text is written in small letters character by character, except that the capital sigma looks at its
neighbours on both sides.  The marks between words are a barrier to this: they are neither cased nor
looked through, so a letter in front of a mark does not see what is behind it, and joined words are
written in small letters word by word (`toLower_joined`).

What is written that way is left alone by writing it that way again (`smallOf_of_mem_toLower`,
`toLower_eq_self`), and it has separators only where the text had them
(`isSeparator_of_mem_toLower`).
-/

namespace Formwork.Text

open Letter

variable {m d : Char} {s : Text}

/-! ## Letter by letter -/

/-- A small letter comes from a letter of the text, in a way that its neighbours may decide. -/
lemma exists_of_mem_lowerAfter {before : Text} (h : d ∈ lowerAfter before s) :
    ∃ c ∈ s, d ∈ smallOf c ∨ c = capitalSigma ∧ d = 'ς' := by
  induction s generalizing before with
  | nil => cases h
  | cons c r ih =>
    rw [lowerAfter, List.mem_append] at h
    rcases h with h | h
    · refine ⟨c, List.mem_cons_self, ?_⟩
      split at h
      · rename_i hsigma
        simp only [Bool.and_eq_true, decide_eq_true_eq] at hsigma
        exact .inr ⟨hsigma.1.1, List.mem_singleton.1 h⟩
      · exact .inl h
    · obtain ⟨e, he, hd⟩ := ih h
      exact ⟨e, List.mem_cons_of_mem _ he, hd⟩

/-- Small letters are their own small forms. -/
lemma smallOf_of_mem_toLower (h : d ∈ toLower s) : smallOf d = [d] := by
  obtain ⟨c, -, hd | ⟨-, rfl⟩⟩ := exists_of_mem_lowerAfter h
  · exact isCaseMap_smallOf.self_of_mem hd
  · decide +kernel

/-- Small letters are no separators unless the text has some. -/
lemma isSeparator_of_mem_toLower (hs : ∀ c ∈ s, isSeparator c = false) (h : d ∈ toLower s) :
    isSeparator d = false := by
  obtain ⟨c, hc, hd | ⟨-, rfl⟩⟩ := exists_of_mem_lowerAfter h
  · exact isCaseMap_smallOf.isSeparator_of_mem hd (hs c hc)
  · decide +kernel

lemma toLower_ne_nil (hs : s ≠ []) : toLower s ≠ [] := by
  cases s with
  | nil => exact absurd rfl hs
  | cons c r =>
    unfold toLower
    rw [lowerAfter, ne_eq, List.append_eq_nil_iff, not_and]
    intro h
    split at h
    · cases h
    · exact absurd h (isCaseMap_smallOf.ne_nil c)

lemma lowerAfter_eq_self (hs : ∀ c ∈ s, smallOf c = [c]) (before : Text) :
    lowerAfter before s = s := by
  have hsigma : smallOf capitalSigma ≠ [capitalSigma] := by decide
  induction s generalizing before with
  | nil => rfl
  | cons c r ih =>
    obtain ⟨hc, hr⟩ := List.forall_mem_cons.1 hs
    have hne : c ≠ capitalSigma := fun h => hsigma (h ▸ hc)
    rw [lowerAfter, if_neg (by simp [hne]), hc, ih hr]
    rfl

lemma toLower_eq_self (hs : ∀ c ∈ s, smallOf c = [c]) : toLower s = s := lowerAfter_eq_self hs []

/-! ## Word by word -/

/-- A character that may stand between words: it is its own small form, and the sigma of one side does
not look beyond it. -/
structure IsBarrier (m : Char) : Prop where
  self : smallOf m = [m]
  seen : isTransparent m = false
  caseless : isCased m = false

lemma isBarrier_underscore : IsBarrier '_' := ⟨by decide +kernel, by decide +kernel, by decide +kernel⟩

lemma isBarrier_hyphen : IsBarrier '-' := ⟨by decide +kernel, by decide +kernel, by decide +kernel⟩

namespace IsBarrier

lemma meetsCased_append (hm : IsBarrier m) (s t : Text) :
    meetsCased (s ++ m :: t) = meetsCased s := by
  have hmark : (m :: t).dropWhile isTransparent = m :: t :=
    List.dropWhile_cons_of_neg (by simp [hm.seen])
  unfold meetsCased
  rw [List.dropWhile_append, hmark]
  cases s.dropWhile isTransparent with
  | nil => simp [hm.caseless]
  | cons c r => simp

/-- What stands in front of a barrier does not matter behind it. -/
lemma lowerAfter_append (hm : IsBarrier m) (near far t : Text) :
    lowerAfter (near ++ m :: far) t = lowerAfter near t := by
  induction t generalizing near with
  | nil => rfl
  | cons c r ih =>
    have hrest := ih (c :: near)
    rw [List.cons_append] at hrest
    rw [lowerAfter, lowerAfter, hrest, hm.meetsCased_append]

lemma toLower_append_cons (hm : IsBarrier m) (s t : Text) :
    toLower (s ++ m :: t) = toLower s ++ m :: toLower t := by
  have hne : m ≠ capitalSigma := by
    rintro rfl
    exact absurd hm.self (by decide)
  have hall : ∀ before, lowerAfter before (s ++ m :: t) = lowerAfter before s ++ m :: toLower t := by
    induction s with
    | nil =>
      intro before
      have hbehind : lowerAfter (m :: before) t = toLower t := hm.lowerAfter_append [] before t
      calc lowerAfter before (m :: t) = smallOf m ++ lowerAfter (m :: before) t := by
            rw [lowerAfter, if_neg (by simp [hne])]
        _ = m :: toLower t := by
            rw [hm.self, hbehind]
            rfl
    | cons c r ih =>
      intro before
      rw [List.cons_append, lowerAfter, lowerAfter, hm.meetsCased_append, ih, List.append_assoc]
  exact hall []

/-- Joined words are written in small letters word by word. -/
lemma toLower_joined (hm : IsBarrier m) (ws : List Text) :
    toLower (joined m ws) = joined m (ws.map toLower) := by
  induction ws with
  | nil => rfl
  | cons w ws ih =>
    rcases eq_or_ne ws [] with rfl | hws
    · simp
    · rw [joined_cons hws, hm.toLower_append_cons, ih, List.map_cons, joined_cons (by simpa using hws)]

/-- Barriers at the ends of a text are left where they are. -/
lemma toLower_around (hm : IsBarrier m) {l r : Text} (hl : ∀ c ∈ l, c = m) (hr : ∀ c ∈ r, c = m)
    (s : Text) : toLower (l ++ s ++ r) = l ++ toLower s ++ r := by
  have hself : ∀ c ∈ r, smallOf c = [c] := fun c hc => hr c hc ▸ hm.self
  have hright : toLower (s ++ r) = toLower s ++ r := by
    cases r with
    | nil => simp
    | cons c r =>
      obtain rfl := hr c List.mem_cons_self
      rw [hm.toLower_append_cons, toLower_eq_self fun d hd => hself d (List.mem_cons_of_mem _ hd)]
  rw [List.append_assoc, List.append_assoc, ← hright]
  induction l with
  | nil => rfl
  | cons c l ih =>
    obtain ⟨rfl, hrest⟩ := List.forall_mem_cons.1 hl
    have hfront := hm.toLower_append_cons [] (l ++ (s ++ r))
    rw [ih hrest] at hfront
    exact hfront

end IsBarrier

end Formwork.Text
