import Formwork.Proofs.Naming.Compound
import Formwork.Proofs.Naming.Separated

/-!
# From one style to another and back

Writing words together drops the marks between them, so the capitals are all there is to find the words by.
That is enough for words of at least two characters, a small letter and then small letters and digits: each
of them ends in a small letter or digit, so there is a boundary where the capital of the next one follows,
and there is no other capital (`scan_append`).  A word of one letter would be lost, since `AB` may as well
be an acronym.

The main statement is `styles_convert`.
-/

namespace Formwork.Naming

open Text

/-- A word of small letters and digits that begins with a letter and has at least two characters. -/
structure IsLongWord (w : Text) : Prop where
  head : ∀ c ∈ w.head?, isSmall c = true
  length : 2 ≤ w.length
  plain : ∀ c ∈ w, isSmallOrDigit c = true

namespace IsLongWord

variable {w : Text}

lemma isSmallWord (hw : IsLongWord w) : IsSmallWord w where
  nonempty := List.ne_nil_of_length_pos (Nat.lt_of_succ_lt hw.length)
  noSeparator c hc := isSeparator_eq_false (.inr (hw.plain c hc))
  small c hc := smallOf_of_isSmallOrDigit (hw.plain c hc)

/-- With a capital initial, the word differs in that letter only. -/
lemma exists_capitalised (hw : IsLongWord w) :
    ∃ c C x run, w = c :: x :: run ∧ capitalised w = C :: x :: run ∧ IsLetterPair C c ∧
      ∀ d ∈ x :: run, isSmallOrDigit d = true := by
  rcases w with _ | ⟨c, _ | ⟨x, run⟩⟩
  · exact absurd hw.length (by simp)
  · exact absurd hw.length (by simp)
  · obtain ⟨C, hpair⟩ := exists_capital_of_isSmall (hw.head c rfl)
    refine ⟨c, C, x, run, rfl, ?_, hpair, fun d hd => hw.plain d (List.mem_cons_of_mem _ hd)⟩
    rw [capitalised, hpair.capitalOf]
    rfl

end IsLongWord

/-! ## Words written together -/

section Together

variable {a x : Char} {run t : Text}

/-- What follows a small letter or digit begins a word if it begins with a capital. -/
lemma isBoundary_of_isSmallOrDigit (hx : isSmallOrDigit x = true) (t : Text) :
    isBoundary x t = t.head?.any isCapital := by
  cases t <;> simp [isBoundary, hx]

/-- A run of small letters and digits is cut at its end and not before. -/
lemma exists_pieces_run (hrun : ∀ c ∈ x :: run, isSmallOrDigit c = true)
    (ht : ∀ c ∈ t.head?, isCapital c = true) :
    ∃ ps, pieces (x :: (run ++ t)) = (x :: run) :: ps ∧ ps.filter (!·.isEmpty) = scan t := by
  induction run generalizing x with
  | nil =>
    have hx := hrun x List.mem_cons_self
    have hsep : isSeparator x = false := isSeparator_eq_false (.inr hx)
    cases t with
    | nil => exact ⟨[], by simp [pieces, hsep, isBoundary], rfl⟩
    | cons c t =>
      have hboundary : isBoundary x (c :: t) = true := by
        rw [isBoundary_of_isSmallOrDigit hx]
        exact ht c rfl
      exact ⟨pieces (c :: t), pieces_of_boundary hsep hboundary, rfl⟩
  | cons y run ih =>
    obtain ⟨hx, hrest⟩ := List.forall_mem_cons.1 hrun
    obtain ⟨ps, hps, hscan⟩ := ih hrest
    have hy := isCapital_eq_false_of_isSmallOrDigit (hrest y List.mem_cons_self)
    have hinside : isBoundary x (y :: run ++ t) = false := by
      rw [isBoundary_of_isSmallOrDigit hx]
      exact hy
    refine ⟨ps, ?_, hscan⟩
    rw [pieces_of_not_boundary (isSeparator_eq_false (.inr hx)) hinside, List.cons_append, hps]
    rfl

/-- Words that are written together are found again one by one. -/
lemma scan_append (ha : isSeparator a = false) (hrun : ∀ c ∈ x :: run, isSmallOrDigit c = true)
    (ht : ∀ c ∈ t.head?, isCapital c = true) :
    scan (a :: x :: (run ++ t)) = (a :: x :: run) :: scan t := by
  obtain ⟨ps, hps, hscan⟩ := exists_pieces_run hrun ht
  have hx := isCapital_eq_false_of_isSmallOrDigit (hrun x List.mem_cons_self)
  have hinside : isBoundary a (x :: (run ++ t)) = false := by simp [isBoundary, hx]
  rw [scan, pieces_of_not_boundary ha hinside, hps, List.modifyHead_cons, ← hscan]
  rfl

end Together

section Words

variable {ws : List Text}

lemma isCapital_of_head? (hws : ∀ w ∈ ws, IsLongWord w) :
    ∀ c ∈ (ws.flatMap capitalised).head?, isCapital c = true := by
  intro c hc
  cases ws with
  | nil => cases hc
  | cons w ws =>
    obtain ⟨d, C, x, run, -, hname, hpair, -⟩ := (hws w List.mem_cons_self).exists_capitalised
    rw [List.flatMap_cons, hname] at hc
    cases hc
    exact hpair.isCapital

lemma scan_flatMap_capitalised (hws : ∀ w ∈ ws, IsLongWord w) :
    scan (ws.flatMap capitalised) = ws.map capitalised := by
  induction ws with
  | nil => rfl
  | cons w ws ih =>
    obtain ⟨hw, hrest⟩ := List.forall_mem_cons.1 hws
    obtain ⟨c, C, x, run, -, hname, hpair, hrun⟩ := hw.exists_capitalised
    have hC : isSeparator C = false := isSeparator_eq_false (.inl hpair.isCapital)
    rw [List.flatMap_cons, List.map_cons, hname, ← ih hrest]
    exact scan_append hC hrun (isCapital_of_head? hrest)

lemma toLower_capitalised {w : Text} (hw : IsLongWord w) : toLower (capitalised w) = w := by
  obtain ⟨c, C, x, run, rfl, hname, hpair, hrun⟩ := hw.exists_capitalised
  have hsigma : C ≠ capitalSigma := by
    rintro rfl
    exact absurd hpair.isCapital (by decide)
  rw [hname, toLower, lowerAfter, if_neg (by simp [hsigma]), hpair.smallOf,
    lowerAfter_eq_self fun d hd => smallOf_of_isSmallOrDigit (hrun d hd)]
  rfl

lemma map_toLower_capitalised (hws : ∀ w ∈ ws, IsLongWord w) :
    (ws.map capitalised).map toLower = ws := by
  have hword : ∀ w ∈ ws, (toLower ∘ capitalised) w = w := fun w hw => toLower_capitalised (hws w hw)
  rw [List.map_map, List.map_congr_left hword, List.map_id']

/-! ## Both ways -/

variable {mark : Char}

lemma pascal_joined (hmark : mark = '_' ∨ mark = '-') (hws : ∀ w ∈ ws, IsSmallWord w) :
    pascal (joined mark ws) = ws.flatMap capitalised := by
  have hsep : isSeparator mark = true := by
    rcases hmark with rfl | rfl <;> decide
  rw [pascal, strip_joined hmark hws,
    words_joined hsep fun w hw => ⟨(hws w hw).nonempty, (hws w hw).noSeparator⟩]

/-- The words are found again in the name with a capital initial. -/
lemma lowered_pascal (hmark : mark = '_' ∨ mark = '-') (hws : ∀ w ∈ ws, IsLongWord w) :
    lowered (pascal (joined mark ws)) = ws := by
  have hpascal := pascal_joined hmark fun w hw => (hws w hw).isSmallWord
  rw [lowered, strip_of_noSeparator fun c => isSeparator_of_mem_pascal, hpascal,
    scan_flatMap_capitalised hws, map_toLower_capitalised hws]

/-- The words are found again in the name with a small initial. -/
lemma lowered_camel (hmark : mark = '_' ∨ mark = '-') (hws : ∀ w ∈ ws, IsLongWord w) :
    lowered (camel (joined mark ws)) = ws := by
  have hpascal := pascal_joined hmark fun w hw => (hws w hw).isSmallWord
  rw [lowered, strip_of_noSeparator fun c => isSeparator_of_mem_camel]
  cases ws with
  | nil => rfl
  | cons w ws =>
    obtain ⟨hw, hrest⟩ := List.forall_mem_cons.1 hws
    obtain ⟨c, C, x, run, rfl, hname, hpair, hrun⟩ := hw.exists_capitalised
    have hcamel : camel (joined mark ((c :: x :: run) :: ws)) =
        c :: x :: (run ++ ws.flatMap capitalised) := by
      rw [camel, hpascal, List.flatMap_cons, hname]
      exact congrArg (· ++ _) hpair.smallOf
    have hc : isSeparator c = false := hw.isSmallWord.noSeparator c List.mem_cons_self
    rw [hcamel, scan_append hc hrun (isCapital_of_head? hrest), scan_flatMap_capitalised hrest,
      List.map_cons, map_toLower_capitalised hrest, toLower_eq_self hw.isSmallWord.small]

end Words

/-- **Styles convert back and forth.**  For words of at least two characters, it does not matter for the
joined styles which mark is between the words, the separated styles come back from the joined ones, and
either joined style comes back from the other. -/
theorem styles_convert {ws : List Text} (hws : ∀ w ∈ ws, IsLongWord w) :
    pascal (joined '-' ws) = pascal (joined '_' ws) ∧ camel (joined '-' ws) = camel (joined '_' ws) ∧
    (snake (pascal (joined '_' ws)) = joined '_' ws ∧ kebab (pascal (joined '_' ws)) = joined '-' ws) ∧
    (snake (camel (joined '_' ws)) = joined '_' ws ∧ kebab (camel (joined '_' ws)) = joined '-' ws) ∧
    camel (pascal (joined '_' ws)) = camel (joined '_' ws) ∧
    pascal (camel (joined '_' ws)) = pascal (joined '_' ws) := by
  have hsmall : ∀ w ∈ ws, IsSmallWord w := fun w hw => (hws w hw).isSmallWord
  have hpascal : pascal (joined '-' ws) = pascal (joined '_' ws) := by
    rw [pascal_joined (.inr rfl) hsmall, pascal_joined (.inl rfl) hsmall]
  have hascii : ∀ c ∈ (pascal (joined '_' ws)).head?, c.toNat < 0x80 := by
    rw [pascal_joined (.inl rfl) hsmall]
    intro c hc
    have hrange := isCapital_iff.1 (isCapital_of_head? hws c hc)
    omega
  refine ⟨hpascal, camel_congr hpascal, ⟨?_, ?_⟩, ⟨?_, ?_⟩, camel_congr (pascal_pascal _),
    pascal_camel hascii⟩
  · rw [snake_eq_joined, lowered_pascal (.inl rfl) hws]
  · rw [kebab_eq_joined, lowered_pascal (.inl rfl) hws]
  · rw [snake_eq_joined, lowered_camel (.inl rfl) hws]
  · rw [kebab_eq_joined, lowered_camel (.inl rfl) hws]

/-- Digits may end a word, and a letter and a digit are a word. -/
theorem styles_convert_x2_user : (∀ w ∈ ["x2".toList, "user", "v10b"], IsLongWord w) ∧
    pascal "x2_user_v10b" = "X2UserV10b" ∧ pascal "x2-user-v10b" = "X2UserV10b" ∧
    snake "X2UserV10b" = "x2_user_v10b" ∧ kebab "X2UserV10b" = "x2-user-v10b" ∧
    camel "X2UserV10b" = camel "x2_user_v10b" ∧ snake (camel "x2_user_v10b") = "x2_user_v10b" := by
  have hwords : ∀ w ∈ ["x2".toList, "user", "v10b"], IsLongWord w := by
    have hall : ∀ w ∈ ["x2".toList, "user", "v10b"], w.head?.all isSmall = true ∧
        2 ≤ w.length ∧ w.all isSmallOrDigit = true := by
      decide
    intro w hw
    obtain ⟨hhead, hlength, hplain⟩ := hall w hw
    refine ⟨fun c hc => ?_, hlength, List.all_eq_true.1 hplain⟩
    rwa [Option.mem_def.1 hc] at hhead
  have hname : pascal "x2_user_v10b" = "X2UserV10b" := by decide +kernel
  have hunderscores : joined '_' ["x2".toList, "user", "v10b"] = "x2_user_v10b" := by decide
  have hhyphens : joined '-' ["x2".toList, "user", "v10b"] = "x2-user-v10b" := by decide
  obtain ⟨hpascal, -, ⟨hsnake, hkebab⟩, ⟨hback, -⟩, hcamel, -⟩ := styles_convert hwords
  rw [hunderscores] at hpascal hsnake hkebab hback hcamel
  rw [hhyphens] at hpascal hkebab
  rw [hname] at hpascal hsnake hkebab hcamel
  exact ⟨hwords, hname, hpascal, hsnake, hkebab, hcamel, hback⟩

/-- Words of one letter are lost. -/
example : snake (pascal "a_b") = "ab" := by decide +kernel

end Formwork.Naming
