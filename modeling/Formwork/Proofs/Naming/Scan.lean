import Formwork.Proofs.Naming.Lower

/-!
# The words of a name in one scan

The separated styles find the words that capitals begin in two passes.  The first goes on behind the word
that it has found, so it leaves out the next word if that begins right there, and the second pass makes up
for this.  `scan` finds the same words in one pass with a local rule: a word ends where a capital follows
that has a small letter or digit in front of it or a small letter behind it, and it ends at every
separator.

The passes put marks into the text, and where they put them is the whole question.  `marked` puts a mark
behind every character of which a test of it and of what follows says so; the second pass is of this form
(`breakAfterSmall_eq_marked`), and so are the two passes together (`breakAfterSmall_breakBeforeWords`).
The rule that the passes follow differs from that of the scan in one case, a newline in front of a
capital, which the first pass does not take.  A newline ends a word anyway, so the words are the same
(`words_marked`).

The main statement is `separated_eq_scan`.
-/

namespace Formwork.Naming

open Text

/-! ## The scan -/

/-- Whether a word ends between a character and what follows it: that begins with a capital, which has a
small letter or a digit in front of it or a small letter behind it. -/
def isBoundary (x : Char) : Text → Bool
  | [] => false
  | c :: r => isCapital c && (isSmallOrDigit x || r.head?.any isSmall)

/-- The pieces into which boundaries and separators cut a text.  Separators are dropped, so a piece may be
empty. -/
def pieces : Text → List Text
  | [] => [[]]
  | x :: r =>
    if isSeparator x then [] :: pieces r
    else if isBoundary x r then [x] :: pieces r
    else (pieces r).modifyHead (x :: ·)

/-- The words of a text: its pieces that are not empty. -/
def scan (s : Text) : List Text := (pieces s).filter (!·.isEmpty)

section Equations

variable {x : Char} {r : Text}

lemma pieces_of_separator (hx : isSeparator x = true) : pieces (x :: r) = [] :: pieces r :=
  if_pos hx

lemma pieces_of_boundary (hx : isSeparator x = false) (h : isBoundary x r = true) :
    pieces (x :: r) = [x] :: pieces r := by
  rw [pieces, if_neg (by simp [hx]), if_pos h]

lemma pieces_of_not_boundary (hx : isSeparator x = false) (h : isBoundary x r = false) :
    pieces (x :: r) = (pieces r).modifyHead (x :: ·) := by
  rw [pieces, if_neg (by simp [hx]), if_neg (by simp [h])]

end Equations

/-! ## Marks at given places -/

/-- The text with an underscore behind every character of which the test says so, given what follows. -/
def marked (joint : Char → Text → Bool) : Text → Text
  | [] => []
  | x :: r => if joint x r then x :: '_' :: marked joint r else x :: marked joint r

variable {joint : Char → Text → Bool} {x : Char}

lemma marked_of_joint {r : Text} (h : joint x r = true) :
    marked joint (x :: r) = x :: '_' :: marked joint r :=
  if_pos h

lemma marked_of_not_joint {r : Text} (h : joint x r = false) :
    marked joint (x :: r) = x :: marked joint r :=
  if_neg (by simp [h])

/-- Whether the second pass puts a mark behind a character. -/
def followsSmall (x : Char) (r : Text) : Bool := isSmallOrDigit x && r.head?.any isCapital

/-- Whether one of the two passes puts a mark behind a character. -/
def isBroken (x : Char) : Text → Bool
  | [] => false
  | c :: r => isCapital c && (isSmallOrDigit x || x != '\n' && r.head?.any isSmall)

lemma breakAfterSmall_eq_marked (s : Text) : breakAfterSmall s = marked followsSmall s := by
  induction s with
  | nil => rfl
  | cons x r ih =>
    cases r with
    | nil => simp [breakAfterSmall, marked, followsSmall]
    | cons c r =>
      rw [breakAfterSmall, ih, marked]
      rfl

lemma followsSmall_of_isSmall (hx : isSmall x = true) (t : Text) :
    followsSmall x t = t.head?.any isCapital := by
  simp [followsSmall, isSmallOrDigit, hx]

lemma isBroken_of_isSmall (hx : isSmall x = true) (t : Text) :
    isBroken x t = t.head?.any isCapital := by
  cases t <;> simp [isBroken, isSmallOrDigit, hx]

lemma isCapital_eq_false_of_isSmall {c : Char} (h : isSmall c = true) : isCapital c = false :=
  isCapital_eq_false_of_isSmallOrDigit (by simp [isSmallOrDigit, h])

/-- A run of small letters gets a mark only at its end, where a capital follows. -/
lemma marked_smallRun
    (hjoint : ∀ x t, isSmall x = true → joint x t = t.head?.any isCapital) {run : Text}
    (hrun : ∀ c ∈ x :: run, isSmall c = true) (t : Text) :
    marked joint (x :: (run ++ t)) =
      x :: (run ++ if t.head?.any isCapital then '_' :: marked joint t else marked joint t) := by
  induction run generalizing x with
  | nil =>
    rw [List.nil_append, marked, hjoint x t (hrun x List.mem_cons_self)]
    split <;> rfl
  | cons c run ih =>
    obtain ⟨hx, hrest⟩ := List.forall_mem_cons.1 hrun
    have hc := isCapital_eq_false_of_isSmall (hrest c List.mem_cons_self)
    rw [List.cons_append, marked, hjoint x _ hx, if_neg (by simp [hc]), ih hrest]
    rfl

lemma head?_breakBeforeWords (s : Text) : (breakBeforeWords s).head? = s.head? := by
  fun_cases breakBeforeWords s <;> simp

/-- **What the passes do.**  A mark comes between a character and a capital if the character is a small
letter or a digit, or if it is no newline and the capital has a small letter behind it. -/
lemma breakAfterSmall_breakBeforeWords (s : Text) :
    breakAfterSmall (breakBeforeWords s) = marked isBroken s := by
  rw [breakAfterSmall_eq_marked]
  fun_induction breakBeforeWords s with
  | case1 x c l r hword ih =>
    -- The word goes on up to the end of the run, and there the second pass sees what the first leaves out.
    simp only [Bool.and_eq_true, bne_iff_ne, ne_eq] at hword
    obtain ⟨⟨hx, hc⟩, hl⟩ := hword
    have hrun : ∀ d ∈ l :: r.takeWhile isSmall, isSmall d = true :=
      List.forall_mem_cons.2 ⟨hl, fun d hd => List.mem_takeWhile_imp hd⟩
    have hsmall := isCapital_eq_false_of_isSmall hl
    have hbehind : marked isBroken (l :: r) = marked followsSmall
        (l :: (r.takeWhile isSmall ++ breakBeforeWords (r.dropWhile isSmall))) := by
      rw [marked_smallRun (fun _ t h => followsSmall_of_isSmall h t) hrun, ih, head?_breakBeforeWords,
        ← marked_smallRun (fun _ t h => isBroken_of_isSmall h t) hrun, List.takeWhile_append_dropWhile]
    have hsecond : ∀ T : Text, marked followsSmall (x :: '_' :: c :: l :: T) =
        x :: '_' :: c :: marked followsSmall (l :: T) := fun T => by
      have hmark : isSmallOrDigit '_' = false ∧ isCapital '_' = false := by decide
      rw [marked_of_not_joint (by simp [followsSmall, hmark]),
        marked_of_not_joint (by simp [followsSmall, hmark]),
        marked_of_not_joint (by simp [followsSmall, hsmall])]
    have hboth : marked isBroken (x :: c :: l :: r) = x :: '_' :: c :: marked isBroken (l :: r) := by
      rw [marked_of_joint (by simp [isBroken, hc, hx, hl]),
        marked_of_not_joint (by simp [isBroken, hsmall])]
    rw [hsecond, hboth, hbehind]
  | case2 x c l r hword ih =>
    simp only [Bool.and_eq_true, bne_iff_ne, ne_eq, not_and, Bool.not_eq_true] at hword
    have hhead : (breakBeforeWords (c :: l :: r)).head? = some c := head?_breakBeforeWords _
    have hjoint : followsSmall x (breakBeforeWords (c :: l :: r)) = isBroken x (c :: l :: r) := by
      rw [followsSmall, hhead]
      cases hc : isCapital c <;> by_cases hx : x = '\n' <;> simp_all [isBroken]
    rw [marked, hjoint, ih]
    rfl
  | case3 s hshort =>
    rcases s with _ | ⟨x, _ | ⟨c, _ | ⟨l, r⟩⟩⟩
    · rfl
    · simp [marked, followsSmall, isBroken]
    · simp [marked, followsSmall, isBroken, Bool.and_comm]
    · exact absurd rfl (hshort x c l r)

/-! ## Marks and words -/

/-- A separator ends the word under way, with a mark behind it or without one. -/
lemma words_append_marked_separator (hx : isSeparator x = true) (word r : Text) :
    words isSeparator (word ++ marked joint (x :: r)) =
      words isSeparator word ++ words isSeparator (marked joint r) := by
  have hmark : isSeparator '_' = true := by decide
  cases hj : joint x r with
  | true => rw [marked_of_joint hj, words_append_cons hx, words_cons_of_pos hmark]
  | false => rw [marked_of_not_joint hj, words_append_cons hx]

/-- Marks at the boundaries cut a text into its pieces, the first of which belongs to the word under way.
Behind separators marks may be anywhere. -/
lemma words_append_marked (hjoint : ∀ x r, isSeparator x = false → joint x r = isBoundary x r)
    {word : Text} (hword : ∀ c ∈ word, isSeparator c = false) (s : Text) :
    words isSeparator (word ++ marked joint s) =
      ((pieces s).modifyHead (word ++ ·)).filter (!·.isEmpty) := by
  have hmark : isSeparator '_' = true := by decide
  induction s generalizing word with
  | nil => simpa [marked, pieces] using words_eq_filter_of_forall hword
  | cons x r ih =>
    have hrest : words isSeparator (marked joint r) = (pieces r).filter (!·.isEmpty) := by
      have hnil : words isSeparator ([] ++ marked joint r) =
          ((pieces r).modifyHead ([] ++ ·)).filter (!·.isEmpty) := ih (by simp)
      rwa [modifyHead_nil_append] at hnil
    cases hx : isSeparator x with
    | true =>
      rw [pieces_of_separator hx, words_append_marked_separator hx, words_eq_filter_of_forall hword, hrest,
        ← List.filter_append, List.modifyHead_cons, List.append_nil]
      rfl
    | false =>
      have hmore : ∀ c ∈ word ++ [x], isSeparator c = false := by
        simpa [or_imp, forall_and, hx] using hword
      cases hb : isBoundary x r with
      | true =>
        rw [pieces_of_boundary hx hb, marked_of_joint (by rw [hjoint x r hx, hb]), List.append_cons,
          words_append_cons hmark, words_eq_filter_of_forall hmore, hrest, ← List.filter_append]
        rfl
      | false =>
        rw [pieces_of_not_boundary hx hb, marked_of_not_joint (by rw [hjoint x r hx, hb]),
          List.append_cons, ih hmore]
        simp [Function.comp_def]

lemma words_marked (hjoint : ∀ x r, isSeparator x = false → joint x r = isBoundary x r) (s : Text) :
    words isSeparator (marked joint s) = scan s := by
  have hall : words isSeparator ([] ++ marked joint s) =
      ((pieces s).modifyHead ([] ++ ·)).filter (!·.isEmpty) := words_append_marked hjoint (by simp) s
  rwa [modifyHead_nil_append] at hall

/-- The passes find the words of the scan. -/
lemma words_breaks (s : Text) :
    words isSeparator (breakAfterSmall (breakBeforeWords s)) = scan s := by
  rw [breakAfterSmall_breakBeforeWords]
  refine words_marked (fun x r hx => ?_) s
  have hnewline : (x != '\n') = true := by
    rw [bne_iff_ne]
    rintro rfl
    cases hx
  cases r <;> simp [isBroken, isBoundary, hnewline]

/-- Words are not empty and have no separators. -/
lemma forall_mem_scan {s w : Text} (h : w ∈ scan s) : w ≠ [] ∧ ∀ c ∈ w, isSeparator c = false := by
  rw [← words_breaks] at h
  exact forall_mem_words h

/-! ## The separated styles -/

/-- A word in small letters, in whatever script. -/
structure IsSmallWord (w : Text) : Prop where
  nonempty : w ≠ []
  noSeparator : ∀ c ∈ w, isSeparator c = false
  small : ∀ c ∈ w, smallOf c = [c]

lemma IsSmallWord.not_mem {w : Text} {c : Char} (hw : IsSmallWord w) (hc : isSeparator c = true) :
    c ∉ w := by
  intro hmem
  rw [hw.noSeparator c hmem] at hc
  cases hc

/-- The words of a name in small letters. -/
def lowered (v : Text) : List Text := (scan (strip v)).map toLower

lemma isSmallWord_of_mem_lowered {v w : Text} (h : w ∈ lowered v) : IsSmallWord w := by
  obtain ⟨w, hw, rfl⟩ := List.mem_map.1 h
  obtain ⟨hne, hsep⟩ := forall_mem_scan hw
  exact ⟨toLower_ne_nil hne, fun c hc => isSeparator_of_mem_toLower hsep hc,
    fun c hc => smallOf_of_mem_toLower hc⟩

lemma snake_eq_joined (v : Text) : snake v = joined '_' (lowered v) := by
  obtain ⟨r, hr, hcollapse⟩ := exists_collapse_eq isSeparator '_'
    (breakAfterSmall (breakBeforeWords (strip v)))
  rw [words_breaks] at hcollapse
  have hmark : ∀ w ∈ lowered v, w ≠ [] ∧ '_' ∉ w := fun w hw =>
    have hword := isSmallWord_of_mem_lowered hw
    ⟨hword.nonempty, hword.not_mem (by decide)⟩
  have hfront : ∀ c ∈ (if (breakAfterSmall (breakBeforeWords (strip v))).head?.any isSeparator
      then ['_'] else []), c = '_' := by
    split <;> simp
  unfold snake
  rw [hcollapse, isBarrier_underscore.toLower_around hfront hr, isBarrier_underscore.toLower_joined,
    trim_append (fun c hc => beq_iff_eq.2 (hfront c hc)) _ fun c hc => beq_iff_eq.2 (hr c hc)]
  exact trim_joined hmark

lemma kebab_eq_joined (v : Text) : kebab v = joined '-' (lowered v) := by
  have hword : ∀ w ∈ lowered v, (w.map fun c => if c = '_' then '-' else c) = w := by
    intro w hw
    have hno : '_' ∉ w := (isSmallWord_of_mem_lowered hw).not_mem (by decide)
    have hsame : ∀ c ∈ w, (if c = '_' then '-' else c) = c := by
      intro c hc
      rw [if_neg]
      rintro rfl
      exact hno hc
    rw [List.map_congr_left hsame, List.map_id']
  unfold kebab
  rw [snake_eq_joined, map_joined, List.map_congr_left hword, List.map_id']
  rfl

/-- **The passes find what one scan finds.**  A name in a separated style is made of the words of the scan,
written in small letters with a mark between any two. -/
theorem separated_eq_scan (v : Text) :
    snake v = toLower (joined '_' (scan (strip v))) ∧
    kebab v = toLower (joined '-' (scan (strip v))) := by
  constructor
  · rw [snake_eq_joined, isBarrier_underscore.toLower_joined, lowered]
  · rw [kebab_eq_joined, isBarrier_hyphen.toLower_joined, lowered]

/-- The last capital of a run begins a word if a small letter follows it. -/
example : scan "HTTPServer2Go my_-word" = ["HTTP", "Server2", "Go", "my", "word"] ∧
    snake "HTTPServer2Go my_-word" = "http_server2_go_my_word" := by
  decide +kernel

end Formwork.Naming
