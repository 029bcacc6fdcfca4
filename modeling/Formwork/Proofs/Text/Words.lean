import Formwork.Proofs.Text.Pair
import Formwork.Proofs.Text.Trim

/-!
# Words and the marks between them

`Text.words` gives the maximal runs of characters outside a class, and `collapse` replaces each run
inside the class by one mark.  The two say the same: apart from a mark at either end, a collapsed text
is its words with one mark between any two (`exists_collapse_eq`).

Everything about words follows from one equation: a character of the class ends a word wherever it
stands, so that the words in front of it and those behind it are the words of the text
(`words_append_cons`).  That words are maximal is the other half: a text without such a character is a
word by itself (`words_of_forall`).  The induction that goes with the two is `words_induction`.

`joined` puts words together with a mark between them.  As long as no word is empty or holds a character
of the class, nothing is lost (`words_joined`); no mark stands at an end (`trim_joined`), and no two of
them are neighbours (`not_hasPair_joined`).
-/

namespace Formwork.Text

variable {p : Char → Bool} {mark : Char}

/-! ## Words -/

lemma modifyHead_nil_append (ps : List Text) : ps.modifyHead ([] ++ ·) = ps :=
  congrFun List.modifyHead_id ps

lemma words_go_eq (p : Char → Bool) (word s : Text) :
    words.go p word s =
      ((s.splitOnP p).modifyHead (word.reverse ++ ·)).filter (!·.isEmpty) := by
  induction s generalizing word with
  | nil => cases word <;> simp [words.go, List.splitOnP_nil]
  | cons c r ih =>
    rw [words.go, List.splitOnP_cons_eq_if_modifyHead]
    by_cases hc : p c = true
    · have hrest : words.go p [] r = (r.splitOnP p).filter (!·.isEmpty) := by
        rw [ih [], List.reverse_nil, modifyHead_nil_append]
      rw [if_pos hc, if_pos hc, hrest]
      cases word <;> simp
    · rw [if_neg hc, if_neg hc, ih (c :: word), List.modifyHead_modifyHead]
      simp [Function.comp_def]

/-- Words are the pieces between characters of the class, without the empty ones. -/
lemma words_eq_filter_splitOnP (p : Char → Bool) (s : Text) :
    words p s = (s.splitOnP p).filter (!·.isEmpty) := by
  rw [words, words_go_eq, List.reverse_nil, modifyHead_nil_append]

@[simp] lemma words_nil (p : Char → Bool) : words p [] = [] := rfl

/-- A character of the class ends a word wherever it stands. -/
lemma words_append_cons {c : Char} (hc : p c = true) (s t : Text) :
    words p (s ++ c :: t) = words p s ++ words p t := by
  simp only [words_eq_filter_splitOnP, List.splitOnP_append_cons s t hc, List.filter_append]

lemma words_cons_of_pos {c : Char} (hc : p c = true) (t : Text) :
    words p (c :: t) = words p t := by
  simpa using words_append_cons hc [] t

lemma words_eq_filter_of_forall {w : Text} (hw : ∀ c ∈ w, p c = false) :
    words p w = [w].filter (!·.isEmpty) := by
  rw [words_eq_filter_splitOnP, List.splitOnP_eq_singleton hw]

/-- A text without characters of the class is a word. -/
lemma words_of_forall {w : Text} (hne : w ≠ []) (hw : ∀ c ∈ w, p c = false) :
    words p w = [w] := by
  rw [words_eq_filter_of_forall hw]
  simp [hne]

lemma words_append_left_of_forall {l : Text} (hl : ∀ c ∈ l, p c = true) (s : Text) :
    words p (l ++ s) = words p s := by
  induction l with
  | nil => rfl
  | cons c l ih =>
    obtain ⟨hc, hrest⟩ := List.forall_mem_cons.1 hl
    rw [List.cons_append, words_cons_of_pos hc, ih hrest]

lemma words_eq_nil_of_forall {s : Text} (hs : ∀ c ∈ s, p c = true) : words p s = [] := by
  simpa using words_append_left_of_forall hs []

/-- Characters of the class around a text do not change its words. -/
lemma words_around {l r : Text} (hl : ∀ c ∈ l, p c = true) (s : Text) (hr : ∀ c ∈ r, p c = true) :
    words p (l ++ s ++ r) = words p s := by
  rw [List.append_assoc, words_append_left_of_forall hl]
  cases r with
  | nil => rw [List.append_nil]
  | cons c r =>
    obtain ⟨hc, hrest⟩ := List.forall_mem_cons.1 hr
    rw [words_append_cons hc, words_eq_nil_of_forall hrest, List.append_nil]

/-- A text has no character of the class, or it is one without them, such a character, and a text. -/
@[elab_as_elim]
lemma words_induction {motive : Text → Prop} (p : Char → Bool)
    (plain : ∀ w, (∀ c ∈ w, p c = false) → motive w)
    (cut : ∀ w c t, (∀ d ∈ w, p d = false) → p c = true → motive t → motive (w ++ c :: t))
    (s : Text) : motive s := by
  -- Characters are gathered in a word until one of the class ends it.
  have hgather : ∀ s word : Text, (∀ c ∈ word, p c = false) → motive (word ++ s) := by
    intro s
    induction s with
    | nil =>
      intro word hword
      rw [List.append_nil]
      exact plain word hword
    | cons c s ih =>
      intro word hword
      cases hc : p c with
      | true => exact cut word c s hword hc (ih [] (by simp))
      | false =>
        have hmore : ∀ d ∈ word ++ [c], p d = false := by
          simpa [or_imp, forall_and, hc] using hword
        simpa using ih (word ++ [c]) hmore
  exact hgather s [] (by simp)

/-- No piece has a character that the text was cut at. -/
lemma forall_mem_splitOnP {s w : Text} (h : w ∈ s.splitOnP p) : ∀ c ∈ w, p c = false := by
  induction s using words_induction p with
  | plain v hv =>
    rw [List.splitOnP_eq_singleton hv, List.mem_singleton] at h
    rwa [h]
  | cut v c t hv hc ih =>
    rw [List.splitOnP_append_cons v t hc, List.splitOnP_eq_singleton hv] at h
    rcases List.mem_cons.1 h with rfl | h
    · exact hv
    · exact ih h

/-- Words are not empty and have no character of the class. -/
lemma forall_mem_words {s w : Text} (h : w ∈ words p s) : w ≠ [] ∧ ∀ c ∈ w, p c = false := by
  rw [words_eq_filter_splitOnP, List.mem_filter] at h
  exact ⟨by simpa using h.2, forall_mem_splitOnP h.1⟩

/-- The words of a text are its characters outside the class, none lost and in order. -/
lemma flatten_words (p : Char → Bool) (s : Text) :
    (words p s).flatten = s.filter fun c => !p c := by
  have hplain : ∀ w, (∀ c ∈ w, p c = false) → (words p w).flatten = w.filter fun c => !p c := by
    intro w hw
    have hself : w.filter (fun c => !p c) = w := List.filter_eq_self.2 fun c hc => by simp [hw c hc]
    rw [hself, words_eq_filter_of_forall hw]
    cases w <;> simp
  induction s using words_induction p with
  | plain w hw => exact hplain w hw
  | cut w c t hw hc ih =>
    rw [words_append_cons hc, List.flatten_append, ih, hplain w hw, List.filter_append,
      List.filter_cons_of_neg (by simp [hc])]

/-! ## Runs -/

/-- The maximal runs of characters of a class in a text, in order: in front of a run `w` is a gap `g`
outside the class, and what follows it, `r`, does not begin in the class. -/
inductive IsRuns (p : Char → Bool) : Text → List Text → Prop
  | none {g : Text} (outside : ∀ c ∈ g, p c = false) : IsRuns p g []
  | run {g w r : Text} {ws : List Text} (outside : ∀ c ∈ g, p c = false) (nonempty : w ≠ [])
    (inside : ∀ c ∈ w, p c = true) (ends : ∀ c ∈ r.head?, p c = false) (more : IsRuns p r ws) :
    IsRuns p (g ++ (w ++ r)) (w :: ws)

/-- The gap in front of the first run can be longer. -/
lemma IsRuns.cons_outside {s : Text} {ws : List Text} (h : IsRuns p s ws) {c : Char}
    (hc : p c = false) : IsRuns p (c :: s) ws := by
  cases h with
  | none outside => exact .none (List.forall_mem_cons.2 ⟨hc, outside⟩)
  | run outside nonempty inside ends more =>
    exact .run (List.forall_mem_cons.2 ⟨hc, outside⟩) nonempty inside ends more

/-- The runs inside a class are the words outside its complement. -/
lemma isRuns_words (p : Char → Bool) (s : Text) : IsRuns p s (words (fun c => !p c) s) := by
  induction s using words_induction fun c => !p c with
  | plain w hw =>
    rcases eq_or_ne w [] with rfl | hne
    · exact .none nofun
    · rw [words_of_forall hne hw]
      simpa using IsRuns.run (g := []) (r := []) nofun hne (by simpa using hw) nofun (.none nofun)
  | cut w c t hw hc ih =>
    have hrest : IsRuns p (c :: t) (words (fun c => !p c) t) := ih.cons_outside (by simpa using hc)
    rw [words_append_cons hc]
    rcases eq_or_ne w [] with rfl | hne
    · exact hrest
    · rw [words_of_forall hne hw]
      exact IsRuns.run (g := []) nofun hne (by simpa using hw) (by simpa using hc) hrest

lemma IsRuns.eq_words {s : Text} {ws : List Text} (h : IsRuns p s ws) :
    ws = words (fun c => !p c) s := by
  induction h with
  | none outside =>
    rw [words_eq_nil_of_forall]
    simpa using outside
  | @run g w r ws outside nonempty inside ends more ih =>
    have hw : words (fun c => !p c) w = [w] := words_of_forall nonempty (by simpa using inside)
    rw [words_append_left_of_forall (by simpa using outside), ih]
    cases r with
    | nil => rw [List.append_nil, hw, words_nil]
    | cons c r =>
      have hc : (!p c) = true := by simpa using ends c rfl
      rw [words_append_cons hc, hw, words_cons_of_pos hc, List.singleton_append]

/-! ## Joining -/

/-- The words one after the other, with the mark between any two. -/
def joined (mark : Char) (ws : List Text) : Text := List.intercalate [mark] ws

@[simp] lemma joined_nil (mark : Char) : joined mark [] = [] := rfl

@[simp] lemma joined_singleton (mark : Char) (w : Text) : joined mark [w] = w :=
  List.intercalate_singleton

lemma joined_cons {ws : List Text} (hws : ws ≠ []) (w : Text) :
    joined mark (w :: ws) = w ++ mark :: joined mark ws := by
  unfold joined
  rw [List.intercalate_cons_of_ne_nil hws]
  simp

lemma map_joined (f : Char → Char) (ws : List Text) :
    (joined mark ws).map f = joined (f mark) (ws.map (List.map f)) := by
  induction ws with
  | nil => rfl
  | cons w ws ih =>
    rcases eq_or_ne ws [] with rfl | hws
    · simp
    · rw [joined_cons hws, List.map_append, List.map_cons, ih, List.map_cons,
        joined_cons (by simpa using hws)]

lemma mem_joined {c : Char} {ws : List Text} (h : c ∈ joined mark ws) :
    c = mark ∨ ∃ w ∈ ws, c ∈ w := by
  induction ws with
  | nil => simp at h
  | cons w ws ih =>
    rcases eq_or_ne ws [] with rfl | hws
    · exact .inr ⟨w, by simp, by simpa using h⟩
    · rw [joined_cons hws, List.mem_append, List.mem_cons] at h
      rcases h with h | rfl | h
      · exact .inr ⟨w, by simp, h⟩
      · exact .inl rfl
      · exact (ih h).imp_right fun ⟨v, hv, hc⟩ => ⟨v, by simp [hv], hc⟩

/-- Joined words are the first one, and each other one behind a mark. -/
lemma joined_cons_eq_append (w : Text) (ws : List Text) :
    joined mark (w :: ws) = w ++ (ws.map (mark :: ·)).flatten := by
  induction ws generalizing w with
  | nil => simp
  | cons v ws ih => rw [joined_cons (List.cons_ne_nil v ws), ih, List.map_cons, List.flatten_cons,
      List.cons_append]

/-- What is not a mark is in the joined text as it is in the words. -/
lemma filter_joined {q : Char → Bool} (hmark : q mark = false) (ws : List Text) :
    (joined mark ws).filter q = ws.flatten.filter q := by
  induction ws with
  | nil => rfl
  | cons w ws ih =>
    rcases eq_or_ne ws [] with rfl | hws
    · simp
    · rw [joined_cons hws, List.filter_append, List.filter_cons_of_neg (by simp [hmark]), ih,
        List.flatten_cons, List.filter_append]

/-- The words are found again in the joined text. -/
lemma words_joined (hmark : p mark = true) {ws : List Text}
    (hws : ∀ w ∈ ws, w ≠ [] ∧ ∀ c ∈ w, p c = false) : words p (joined mark ws) = ws := by
  induction ws with
  | nil => rfl
  | cons w ws ih =>
    obtain ⟨⟨hne, hw⟩, hrest⟩ := List.forall_mem_cons.1 hws
    rcases eq_or_ne ws [] with rfl | hcons
    · rw [joined_singleton, words_of_forall hne hw]
    · rw [joined_cons hcons, words_append_cons hmark, words_of_forall hne hw, ih hrest]
      rfl

/-- A joined text begins as its first word does. -/
lemma head?_joined {w : Text} (hw : w ≠ []) (ws : List Text) :
    (joined mark (w :: ws)).head? = w.head? := by
  rcases eq_or_ne ws [] with rfl | hws
  · simp
  · rw [joined_cons hws, List.head?_append_of_ne_nil _ hw]

lemma joined_ne_nil {ws : List Text} (hne : ws ≠ []) (hws : ∀ w ∈ ws, w ≠ []) :
    joined mark ws ≠ [] := by
  cases ws with
  | nil => exact absurd rfl hne
  | cons w ws =>
    have hw : w ≠ [] := hws w (by simp)
    rw [ne_eq, ← List.head?_eq_none_iff, head?_joined hw, List.head?_eq_none_iff]
    exact hw

/-- A joined text ends as one of its words does. -/
lemma exists_getLast?_joined {ws : List Text} (hws : ∀ w ∈ ws, w ≠ []) {c : Char}
    (h : (joined mark ws).getLast? = some c) : ∃ w ∈ ws, c ∈ w := by
  induction ws with
  | nil => simp at h
  | cons w ws ih =>
    obtain ⟨hw, hrest⟩ := List.forall_mem_cons.1 hws
    rcases eq_or_ne ws [] with rfl | hcons
    · exact ⟨w, by simp, List.mem_of_getLast? (by simpa using h)⟩
    · have hne : joined mark ws ≠ [] := joined_ne_nil hcons hrest
      rw [joined_cons hcons, List.getLast?_append_of_ne_nil _ (by simp),
        List.getLast?_cons_of_ne_nil hne] at h
      obtain ⟨v, hv, hc⟩ := ih hrest h
      exact ⟨v, by simp [hv], hc⟩

/-- No mark stands at an end of a joined text. -/
lemma joined_ends {ws : List Text} (hws : ∀ w ∈ ws, w ≠ [] ∧ mark ∉ w) :
    (joined mark ws).head? ≠ some mark ∧ (joined mark ws).getLast? ≠ some mark := by
  constructor
  · intro h
    cases ws with
    | nil => cases h
    | cons w ws =>
      obtain ⟨hne, hmark⟩ := hws w (by simp)
      rw [head?_joined hne] at h
      exact hmark (List.mem_of_head? h)
  · intro h
    obtain ⟨w, hw, hmem⟩ := exists_getLast?_joined (fun w hw => (hws w hw).1) h
    exact (hws w hw).2 hmem

/-- No two marks are neighbours in a joined text. -/
lemma not_hasPair_joined {ws : List Text} (hws : ∀ w ∈ ws, w ≠ [] ∧ mark ∉ w) :
    ¬ HasPair mark (joined mark ws) := by
  have hword : ∀ w ∈ ws, ¬ HasPair mark w := fun w hw hpair => (hws w hw).2 hpair.mem
  induction ws with
  | nil => exact not_hasPair_nil
  | cons w ws ih =>
    obtain ⟨⟨-, hmark⟩, hrest⟩ := List.forall_mem_cons.1 hws
    obtain ⟨hw, hwords⟩ := List.forall_mem_cons.1 hword
    rcases eq_or_ne ws [] with rfl | hcons
    · rwa [joined_singleton]
    · rw [joined_cons hcons]
      refine not_hasPair_append hw (fun h => hmark (List.mem_of_getLast? h)) ?_
      rw [hasPair_cons_iff]
      rintro (⟨-, h⟩ | h)
      · exact (joined_ends hrest).1 h
      · exact ih hrest hwords h

lemma trim_joined {ws : List Text} (hws : ∀ w ∈ ws, w ≠ [] ∧ mark ∉ w) :
    trim (· == mark) (joined mark ws) = joined mark ws := by
  obtain ⟨hhead, hlast⟩ := joined_ends hws
  refine trim_eq_self_of_ends (fun c hc => ?_) (fun c hc => ?_) <;>
    · rw [beq_eq_false_iff_ne]
      rintro rfl
      contradiction

/-! ## Collapsing runs -/

lemma collapse_cons_of_neg {c : Char} (hc : p c = false) (t : Text) :
    collapse p mark (c :: t) = c :: collapse p mark t := by
  cases t <;> simp [collapse, hc]

/-- What does not belong to the class is left as it is. -/
lemma collapse_append_of_forall {w : Text} (hw : ∀ c ∈ w, p c = false) (t : Text) :
    collapse p mark (w ++ t) = w ++ collapse p mark t := by
  induction w with
  | nil => rfl
  | cons c w ih =>
    obtain ⟨hc, hrest⟩ := List.forall_mem_cons.1 hw
    rw [List.cons_append, collapse_cons_of_neg hc, ih hrest, List.cons_append]

/-- A collapsed text is its words with a mark between any two, and with marks around them. -/
lemma exists_collapse_eq (p : Char → Bool) (mark : Char) (s : Text) :
    ∃ r, (∀ c ∈ r, c = mark) ∧
      collapse p mark s =
        (if s.head?.any p then [mark] else []) ++ joined mark (words p s) ++ r := by
  induction s using words_induction p with
  | plain w hw =>
    have happend : collapse p mark (w ++ []) = w ++ collapse p mark [] :=
      collapse_append_of_forall hw []
    have hcollapse : collapse p mark w = w := by simpa using happend
    refine ⟨[], by simp, ?_⟩
    rcases eq_or_ne w [] with rfl | hne
    · rfl
    · have hhead : w.head?.any p = false := by
        cases w with
        | nil => rfl
        | cons c w => exact hw c (by simp)
      rw [hcollapse, words_of_forall hne hw, hhead]
      simp
  | cut w c t hw hc ih =>
    obtain ⟨r, hr, ht⟩ := ih
    -- Whether `t` begins in the class decides if the mark is already there.
    have hrun : collapse p mark (c :: t) = mark :: (joined mark (words p t) ++ r) := by
      cases t with
      | nil =>
        obtain rfl : r = [] := by simpa using ht
        simp [collapse, hc]
      | cons d t =>
        rw [collapse, if_pos hc]
        cases hd : p d <;> simp [hd, ht]
    rw [collapse_append_of_forall hw, hrun, words_append_cons hc]
    rcases eq_or_ne w [] with rfl | hne
    · exact ⟨r, hr, by simp [hc]⟩
    · have hhead : (w ++ c :: t).head?.any p = false := by
        cases w with
        | nil => exact absurd rfl hne
        | cons d w => exact hw d (by simp)
      rw [words_of_forall hne hw, hhead]
      rcases eq_or_ne (words p t) [] with hwords | hwords
      · exact ⟨mark :: r, by simpa using hr, by simp [hwords]⟩
      · exact ⟨r, hr, by simp [joined_cons hwords]⟩

end Formwork.Text
