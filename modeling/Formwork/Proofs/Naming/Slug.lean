import Formwork.Proofs.Naming.Lower
import Mathlib.Computability.Language

/-!
# Slugs

A slug holds the ASCII letters and digits of a text written in small letters, and a hyphen for whatever
is between them.  It is found in four steps, each of which looks at blanks, hyphens or the rest in its own
way, but what comes of it can be said without them: a slug is the maximal runs of small letters and
digits, joined with hyphens (`slug_eq_joined`).  The steps differ in what they leave at the ends, and this
is taken away; blanks there are not in a run anyway.

`slugs` is the language of words with a hyphen between any two.  Its members are the texts that are slugs
already, the empty text apart (`slug_eq_self_iff`).
-/

namespace Formwork.Naming

open Text
open scoped Computability

/-! ## The runs of a text -/

lemma isSmallOrDigit_eq_false_of_isBlank {c : Char} (h : isBlank c = true) :
    isSmallOrDigit c = false := by
  rw [← Bool.not_eq_true]
  intro hc
  have hblank := isBlank_eq_false (isSeparator_eq_false (.inr hc))
  rw [h] at hblank
  cases hblank

/-- What is between the words of a slug. -/
def isGap (c : Char) : Bool := !isSmallOrDigit c

lemma slug_eq_joined (v : Text) : slug v = joined '-' (words isGap (toLower v)) := by
  have hblank : ∀ s : Text, allBlank s = true → ∀ c ∈ s, isGap c = true := by
    intro s hs c hc
    simp [isGap, isSmallOrDigit_eq_false_of_isBlank (allBlank_iff.1 hs c hc)]
  -- Stripping takes blanks away, which are in no word, so that it makes no difference here.
  have hstrip : words isGap (strip (toLower v)) = words isGap (toLower v) := by
    obtain ⟨l, r, hv, hl, hr⟩ := exists_eq_append_strip (toLower v)
    conv_rhs => rw [hv]
    rw [words_around (hblank l hl) _ (hblank r hr)]
  have hclean : ∀ w ∈ words isGap (toLower v), w ≠ [] ∧ '-' ∉ w := by
    intro w hw
    obtain ⟨hne, hin⟩ := forall_mem_words hw
    refine ⟨hne, fun hmem => ?_⟩
    exact absurd (hin _ hmem) (by decide)
  obtain ⟨r, hr, hcollapse⟩ := exists_collapse_eq isGap '-' (strip (toLower v))
  have hfront : ∀ c ∈ (if (strip (toLower v)).head?.any isGap then ['-'] else []), c = '-' := by
    split <;> simp
  change trim (· == '-') (collapse isGap '-' (strip (toLower v))) = _
  rw [hcollapse, hstrip,
    trim_append (fun c hc => beq_iff_eq.2 (hfront c hc)) _ fun c hc => beq_iff_eq.2 (hr c hc)]
  exact trim_joined hclean

/-! ## The language of slugs -/

/-- The words of a slug: small letters and digits, at least one. -/
def slugWords : Language Char := {w | w ≠ [] ∧ ∀ c ∈ w, isSmallOrDigit c = true}

/-- A word, and any number of others, each behind a hyphen. -/
def slugs : Language Char := slugWords * ({['-']} * slugWords)∗

lemma mem_slugs_iff {s : Text} :
    s ∈ slugs ↔ ∃ ws, ws ≠ [] ∧ (∀ w ∈ ws, w ∈ slugWords) ∧ s = joined '-' ws := by
  have hmore : ∀ t : Text, t ∈ ({['-']} : Language Char) * slugWords ↔ ∃ w ∈ slugWords, t = '-' :: w := by
    intro t
    simp only [Language.mem_mul]
    constructor
    · rintro ⟨_, rfl, w, hw, rfl⟩
      exact ⟨w, hw, rfl⟩
    · rintro ⟨w, hw, rfl⟩
      exact ⟨_, rfl, w, hw, rfl⟩
  unfold slugs
  rw [Language.mem_mul]
  constructor
  · rintro ⟨w, hw, _, hrest, rfl⟩
    obtain ⟨parts, rfl, hparts⟩ := Language.mem_kstar.1 hrest
    choose! word hword hpart using fun t ht => (hmore t).1 (hparts t ht)
    refine ⟨w :: parts.map word, List.cons_ne_nil _ _, ?_, ?_⟩
    · simpa [hw] using hword
    · rw [joined_cons_eq_append, List.map_map, List.map_congr_left (g := id), List.map_id]
      exact fun t ht => (hpart t ht).symm
  · rintro ⟨ws, hne, hws, rfl⟩
    obtain ⟨w, ws, rfl⟩ := List.exists_cons_of_ne_nil hne
    obtain ⟨hw, hrest⟩ := List.forall_mem_cons.1 hws
    refine ⟨w, hw, _, Language.join_mem_kstar ?_, (joined_cons_eq_append w ws).symm⟩
    intro t ht
    obtain ⟨v, hv, rfl⟩ := List.mem_map.1 ht
    exact (hmore _).2 ⟨v, hrest v hv, rfl⟩

lemma mem_slugWords_of_mem_words {v w : Text} (h : w ∈ words isGap v) : w ∈ slugWords := by
  obtain ⟨hne, hin⟩ := forall_mem_words h
  exact ⟨hne, fun c hc => by simpa [isGap] using hin c hc⟩

lemma slug_eq_nil_or_mem (v : Text) : slug v = [] ∨ slug v ∈ slugs := by
  rw [slug_eq_joined]
  rcases eq_or_ne (words isGap (toLower v)) [] with hnil | hne
  · exact .inl (by rw [hnil, joined_nil])
  · exact .inr (mem_slugs_iff.2 ⟨_, hne, fun w => mem_slugWords_of_mem_words, rfl⟩)

/-- Words of a slug are the words of their slug. -/
lemma slug_joined {ws : List Text} (hws : ∀ w ∈ ws, w ∈ slugWords) :
    slug (joined '-' ws) = joined '-' ws := by
  have hsmall : ∀ c ∈ joined '-' ws, smallOf c = [c] := by
    intro c hc
    rcases mem_joined hc with rfl | ⟨w, hw, hcw⟩
    · exact isBarrier_hyphen.self
    · exact smallOf_of_isSmallOrDigit ((hws w hw).2 c hcw)
  have hwords : words isGap (joined '-' ws) = ws :=
    words_joined (by decide) fun w hw =>
      ⟨(hws w hw).1, fun c hc => by simp [isGap, (hws w hw).2 c hc]⟩
  rw [slug_eq_joined, toLower_eq_self hsmall, hwords]

/-- The texts that are their own slugs. -/
theorem slug_eq_self_iff {s : Text} : slug s = s ↔ s = [] ∨ s ∈ slugs := by
  constructor
  · intro h
    rw [← h]
    exact slug_eq_nil_or_mem s
  · rintro (rfl | h)
    · rfl
    · obtain ⟨ws, -, hws, rfl⟩ := mem_slugs_iff.1 h
      exact slug_joined hws

/-- **A slug is the runs of letters and digits.**  A text written in small letters has just one list of
maximal runs of small letters and digits, and the slug is these runs with a hyphen between any two.  So a
slug is empty or in the language of slugs, it has the letters and digits of the text and these in order,
and it is its own slug. -/
theorem slug_runs (v : Text) :
    (∃ ws, (∀ us, IsRuns isSmallOrDigit (toLower v) us ↔ us = ws) ∧ slug v = joined '-' ws) ∧
    (slug v = [] ∨ slug v ∈ slugs) ∧
    (slug v).filter isSmallOrDigit = (toLower v).filter isSmallOrDigit ∧
    slug (slug v) = slug v := by
  have hruns : ∀ us, IsRuns isSmallOrDigit (toLower v) us ↔ us = words isGap (toLower v) := by
    intro us
    constructor
    · exact IsRuns.eq_words
    · rintro rfl
      exact isRuns_words isSmallOrDigit (toLower v)
  have hkept : (slug v).filter isSmallOrDigit = (toLower v).filter isSmallOrDigit := by
    rw [slug_eq_joined, filter_joined (by decide), flatten_words, List.filter_filter]
    simp [isGap]
  have hslug : slug v = [] ∨ slug v ∈ slugs := slug_eq_nil_or_mem v
  exact ⟨⟨_, hruns, slug_eq_joined v⟩, hslug, hkept, slug_eq_self_iff.2 hslug⟩

/-- Some letters are in ASCII only when they are small, and one of them leaves a mark behind. -/
example : slug " \u212Aö-İx__2! " = "k-i-x-2" := by decide +kernel

end Formwork.Naming
