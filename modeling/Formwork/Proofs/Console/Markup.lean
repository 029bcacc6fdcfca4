import Formwork.Console.Markup
import Mathlib.Data.List.TakeWhile
import Formwork.Proofs.Text.Pair

/-!
# How markup is read

A console is not part of the library.  All that is assumed of one is how it takes a text in markup apart
(`Reader`): into characters that are to be shown and tags that are to be obeyed (`read`).  What counts as
a tag is the same as for escaping.  Backslashes in front of a tag stand for half as many, and an odd one
makes the tag text; in front of another opening bracket, one backslash is taken for an escape of the
bracket; everywhere else backslashes are what they are.  The text between two tags comes in pieces, with
a seam where backslashes or a tag that is text begin or end, and what a console makes of a piece is left
open; it may replace the codes of pictures in it.

The main statement, `exists_read_escape`, says how an escaped text is read, whatever comes behind it: no
tag is read in it, and the characters are those of the text up to the backslashes at its end, which count
together with what follows.  The text is shown as it stands if it has no backslash in front of an opening
bracket that begins no tag (`Faithful`); such a backslash is lost.

A text is taken in three kinds of steps, each with the backslashes in front (`steps_induction`): a tag, a
character that begins none, and the end.  The one thing to be checked at a step is that a bracket that
begins no tag does not begin one in the escaped text either, nor together with what follows
(`beginsTag_of_escapeTags`).
-/

namespace Formwork.Markup

/-! ## Tags -/

/-- Whether a character is one of the two brackets. -/
def isBracket (c : Char) : Bool := c == '[' || c == ']'

/-- A tag: a bracket, a character that a tag may begin with, and all up to the next bracket, which closes
it. -/
def IsTag (t : Text) : Prop :=
  ∃ c inner, t = '[' :: c :: (inner ++ [']']) ∧ beginsTag c = true ∧ ∀ d ∈ inner, isBracket d = false

/-- The text begins with a tag. -/
def BeginsTag (s : Text) : Prop := ∃ t rest, s = t ++ rest ∧ IsTag t

lemma isBracket_of_beginsTag {c : Char} (h : beginsTag c = true) : isBracket c = false := by
  rw [isBracket, Bool.or_eq_false_iff, beq_eq_false_iff_ne, beq_eq_false_iff_ne]
  constructor <;> rintro rfl <;> exact absurd h (by decide)

lemma tag?_append {t : Text} (h : IsTag t) (rest : Text) : tag? (t ++ rest) = some (t, rest) := by
  obtain ⟨c, inner, rfl, hc, hinner⟩ := h
  have hword : (inner ++ ']' :: rest).takeWhile (fun c => c != '[' && c != ']') = inner := by
    rw [List.takeWhile_append_of_pos, List.takeWhile_cons_of_neg (by simp), List.append_nil]
    intro d hd
    have hbracket := hinner d hd
    rw [isBracket, Bool.or_eq_false_iff] at hbracket
    simp [bne, hbracket.1, hbracket.2]
  have htext : '[' :: c :: (inner ++ [']']) ++ rest = '[' :: c :: (inner ++ ']' :: rest) := by simp
  rw [htext, tag?]
  simp only [hc, if_true, hword, List.drop_left]
  simp

lemma isTag_of_tag? {s t rest : Text} (h : tag? s = some (t, rest)) : s = t ++ rest ∧ IsTag t := by
  unfold tag? at h
  split at h
  · rename_i c r
    split at h
    · rename_i hc
      dsimp only at h
      have hprefix : r.takeWhile (fun c => c != '[' && c != ']') <+: r := List.takeWhile_prefix _
      have hinner : ∀ d ∈ r.takeWhile (fun c => c != '[' && c != ']'), isBracket d = false := by
        intro d hd
        simpa [isBracket] using List.mem_takeWhile_imp hd
      generalize r.takeWhile (fun c => c != '[' && c != ']') = inner at h hprefix hinner
      obtain ⟨behind, rfl⟩ := hprefix
      rw [List.drop_left] at h
      split at h
      · cases h
        exact ⟨by simp, c, inner, rfl, hc, hinner⟩
      · cases h
    · cases h
  · cases h

lemma IsTag.ne_nil {t : Text} (h : IsTag t) : t ≠ [] := by
  obtain ⟨c, inner, rfl, -⟩ := h
  exact List.cons_ne_nil _ _

lemma length_lt_of_tag? {s t rest : Text} (h : tag? s = some (t, rest)) : rest.length < s.length := by
  obtain ⟨rfl, ht⟩ := isTag_of_tag? h
  have hlength : 0 < t.length := List.length_pos_iff.2 ht.ne_nil
  rw [List.length_append]
  omega

lemma tag?_isSome_iff {s : Text} : (tag? s).isSome ↔ BeginsTag s := by
  constructor
  · intro h
    obtain ⟨⟨t, rest⟩, h⟩ := Option.isSome_iff_exists.1 h
    exact ⟨t, rest, isTag_of_tag? h⟩
  · rintro ⟨t, rest, rfl, h⟩
    rw [tag?_append h]
    rfl

lemma tag?_eq_none_iff {s : Text} : tag? s = none ↔ ¬ BeginsTag s := by
  rw [← tag?_isSome_iff, Bool.not_eq_true, Option.isSome_eq_false_iff, Option.isNone_iff_eq_none]

/-- A bracket begins a tag when a tag may begin with the character behind it and the next bracket is a
closing one. -/
lemma beginsTag_bracket_iff {r : Text} :
    BeginsTag ('[' :: r) ↔ (∃ c ∈ r.head?, beginsTag c = true) ∧ r.find? isBracket = some ']' := by
  constructor
  · rintro ⟨_, rest, hr, c, inner, rfl, hc, hinner⟩
    obtain rfl : r = c :: (inner ++ ']' :: rest) := by simpa using hr
    refine ⟨⟨c, rfl, hc⟩, ?_⟩
    rw [List.find?_cons_of_neg (by simp [isBracket_of_beginsTag hc]), List.find?_append,
      List.find?_eq_none.2 (by simpa using hinner)]
    rfl
  · rintro ⟨⟨c, hhead, hc⟩, hfind⟩
    obtain ⟨-, as, bs, rfl, has⟩ := List.find?_eq_some_iff_append.1 hfind
    cases as with
    | nil =>
      cases hhead
      exact absurd hc (by decide)
    | cons d inner =>
      cases hhead
      refine ⟨'[' :: c :: (inner ++ [']']), bs, by simp, c, inner, rfl, hc, fun e he => ?_⟩
      simpa using has e (List.mem_cons_of_mem _ he)

lemma not_beginsTag_of_ne {c : Char} (hc : c ≠ '[') (r : Text) : ¬ BeginsTag (c :: r) := by
  rintro ⟨_, rest, hr, d, inner, rfl, -⟩
  exact hc (List.cons.inj hr).1

/-! ## Steps through a text -/

lemma exists_eq_replicate_append (s : Text) :
    ∃ k r, s = List.replicate k '\\' ++ r ∧ r.head? ≠ some '\\' := by
  induction s with
  | nil => exact ⟨0, [], rfl, by simp⟩
  | cons c r ih =>
    by_cases hc : c = '\\'
    · obtain ⟨k, r', rfl, hr⟩ := ih
      exact ⟨k + 1, r', by rw [hc, List.replicate_succ, List.cons_append], hr⟩
    · exact ⟨0, c :: r, rfl, by simpa using hc⟩

/-- A text is taken in steps: some backslashes with a tag or another character behind them, and the
backslashes at the end. -/
lemma steps_induction {P : Text → Prop} (slashes : ∀ k, P (List.replicate k '\\'))
    (plain : ∀ k c r, c ≠ '\\' → ¬ BeginsTag (c :: r) → P r → P (List.replicate k '\\' ++ c :: r))
    (tag : ∀ k t r, IsTag t → P r → P (List.replicate k '\\' ++ (t ++ r))) (s : Text) : P s := by
  induction hn : s.length using Nat.strong_induction_on generalizing s with
  | h n ih =>
    obtain ⟨k, r, rfl, hr⟩ := exists_eq_replicate_append s
    rw [List.length_append] at hn
    match r with
    | [] =>
      rw [List.append_nil]
      exact slashes k
    | c :: r =>
      by_cases htag : BeginsTag (c :: r)
      · obtain ⟨t, rest, hcr, ht⟩ := htag
        have hlength := congrArg List.length hcr
        rw [List.length_append] at hlength
        rw [hcr]
        have htext : 0 < t.length := List.length_pos_iff.2 ht.ne_nil
        exact tag k t rest ht (ih rest.length (by omega) rest rfl)
      · rw [List.length_cons] at hn
        exact plain k c r (by simpa using hr) htag (ih r.length (by omega) r rfl)

/-! ## Reading -/

/-- What a console takes a piece of markup for. -/
inductive Mark where
  /-- A character that is to be shown. -/
  | shown (c : Char)
  /-- A tag that is obeyed. -/
  | tag (t : Text)
  /-- Here one piece of text ends and another one begins. -/
  | seam

/-- A tag behind some backslashes: half as many are text, and an odd one makes the tag text too. -/
def marksOfTag (slashes : Nat) (t : Text) : List Mark :=
  .seam :: (List.replicate (slashes / 2) (.shown '\\') ++
    .seam :: if slashes % 2 = 0 then [.tag t] else t.map .shown ++ [.seam])

/-- How a console reads markup behind some backslashes. -/
def read (slashes : Nat) : Text → List Mark
  | [] => List.replicate slashes (.shown '\\')
  | c :: r =>
    if c = '\\' then read (slashes + 1) r
    else
      match h : tag? (c :: r) with
      | some (t, rest) => marksOfTag slashes t ++ read 0 rest
      | none =>
        List.replicate (if c = '[' then slashes - 1 else slashes) (.shown '\\') ++
          .shown c :: read 0 r
termination_by s => s.length
decreasing_by
  · exact Nat.lt_succ_self _
  · exact length_lt_of_tag? h
  · exact Nat.lt_succ_self _

/-- A console, as far as it shows markup: what it shows depends on how the markup is read. -/
structure Reader (β : Type) where
  shows : Text → β
  ofMarks : List Mark → β
  law (s : Text) : shows s = ofMarks (read 0 s)

/-- The tags that are obeyed. -/
def tags (marks : List Mark) : List Text :=
  marks.filterMap fun
    | .tag t => some t
    | _ => none

/-- The text that is shown. -/
def visible (marks : List Mark) : Text :=
  marks.filterMap fun
    | .shown c => some c
    | _ => none

lemma read_nil (k : Nat) : read k [] = List.replicate k (.shown '\\') := by
  rw [read]

lemma read_slashes (j k : Nat) (s : Text) :
    read j (List.replicate k '\\' ++ s) = read (j + k) s := by
  induction k generalizing j with
  | zero => rfl
  | succ k ih =>
    rw [List.replicate_succ, List.cons_append, read, if_pos rfl, ih]
    congr 1
    omega

lemma read_plain (k : Nat) {c : Char} {r : Text} (hc : c ≠ '\\') (h : ¬ BeginsTag (c :: r)) :
    read k (c :: r) = List.replicate (if c = '[' then k - 1 else k) (.shown '\\') ++
      .shown c :: read 0 r := by
  rw [read, if_neg hc]
  split
  · rename_i htag
    exact absurd (tag?_isSome_iff.1 (by rw [htag]; rfl)) h
  · rfl

lemma read_tag (k : Nat) {t : Text} (ht : IsTag t) (rest : Text) :
    read k (t ++ rest) = marksOfTag k t ++ read 0 rest := by
  have htag := tag?_append ht rest
  obtain ⟨c, inner, rfl, -⟩ := ht
  rw [List.cons_append] at htag ⊢
  rw [read, if_neg (by decide)]
  split
  · rename_i h
    rw [htag] at h
    cases h
    rfl
  · rename_i h
    rw [htag] at h
    cases h

/-- A text without brackets and backslashes is shown. -/
lemma read_append_of_plain {u : Text} (h : ∀ c ∈ u, c ≠ '\\' ∧ c ≠ '[') (rest : Text) :
    read 0 (u ++ rest) = u.map .shown ++ read 0 rest := by
  induction u with
  | nil => rfl
  | cons c u ih =>
    obtain ⟨⟨hslash, hbracket⟩, hu⟩ := List.forall_mem_cons.1 h
    rw [List.cons_append, read_plain 0 hslash (not_beginsTag_of_ne hbracket _), ih hu, if_neg hbracket]
    rfl

@[simp] lemma tags_nil : tags [] = [] := rfl

@[simp] lemma tags_tag (t : Text) (marks : List Mark) : tags (.tag t :: marks) = t :: tags marks :=
  rfl

@[simp] lemma tags_shown (c : Char) (marks : List Mark) : tags (.shown c :: marks) = tags marks :=
  rfl

@[simp] lemma tags_seam (marks : List Mark) : tags (.seam :: marks) = tags marks := rfl

@[simp] lemma tags_append (xs ys : List Mark) : tags (xs ++ ys) = tags xs ++ tags ys :=
  List.filterMap_append

@[simp] lemma tags_map_shown (s : Text) : tags (s.map .shown) = [] := by
  simp [tags]

@[simp] lemma tags_replicate (k : Nat) (c : Char) : tags (List.replicate k (.shown c)) = [] := by
  rw [← List.map_replicate, tags_map_shown]

@[simp] lemma visible_nil : visible [] = [] := rfl

@[simp] lemma visible_tag (t : Text) (marks : List Mark) :
    visible (.tag t :: marks) = visible marks :=
  rfl

@[simp] lemma visible_shown (c : Char) (marks : List Mark) :
    visible (.shown c :: marks) = c :: visible marks :=
  rfl

@[simp] lemma visible_seam (marks : List Mark) : visible (.seam :: marks) = visible marks := rfl

@[simp] lemma visible_append (xs ys : List Mark) :
    visible (xs ++ ys) = visible xs ++ visible ys :=
  List.filterMap_append

@[simp] lemma visible_map_shown (s : Text) : visible (s.map .shown) = s := by
  simp [visible]

@[simp] lemma visible_replicate (k : Nat) (c : Char) :
    visible (List.replicate k (.shown c)) = List.replicate k c := by
  rw [← List.map_replicate, visible_map_shown]

@[simp] lemma tags_marksOfTag (k : Nat) (t : Text) :
    tags (marksOfTag k t) = if k % 2 = 0 then [t] else [] := by
  unfold marksOfTag
  split <;> simp

@[simp] lemma visible_marksOfTag (k : Nat) (t : Text) :
    visible (marksOfTag k t) = List.replicate (k / 2) '\\' ++ if k % 2 = 0 then [] else t := by
  unfold marksOfTag
  split <;> simp

/-- What shows characters as they are, and tells apart which tags it obeys. -/
def Reader.plain : Reader (Text × List Text) where
  shows s := (visible (read 0 s), tags (read 0 s))
  ofMarks marks := (visible marks, tags marks)
  law _ := rfl

/-! ## Escaping -/

lemma escapeTags_slashes (j k : Nat) (s : Text) :
    escapeTags j (List.replicate k '\\' ++ s) = escapeTags (j + k) s := by
  induction k generalizing j with
  | zero => rfl
  | succ k ih =>
    rw [List.replicate_succ, List.cons_append, escapeTags, if_pos rfl, ih]
    congr 1
    omega

lemma escapeTags_replicate (k : Nat) :
    escapeTags 0 (List.replicate k '\\') = List.replicate k '\\' := by
  have h := escapeTags_slashes 0 k []
  rwa [List.append_nil, Nat.zero_add, escapeTags] at h

lemma escapeTags_plain (k : Nat) {c : Char} {r : Text} (hc : c ≠ '\\') (h : ¬ BeginsTag (c :: r)) :
    escapeTags k (c :: r) = List.replicate k '\\' ++ c :: escapeTags 0 r := by
  rw [escapeTags, if_neg hc, tag?_eq_none_iff.2 h]
  rfl

/-- Up to a character that is no backslash, and without an opening bracket, a text is copied. -/
lemma escapeTags_of_no_bracket (k : Nat) {u : Text} (hu : '[' ∉ u) (rest : Text) :
    escapeTags k (u ++ ']' :: rest) = List.replicate k '\\' ++ (u ++ ']' :: escapeTags 0 rest) := by
  induction u generalizing k with
  | nil => exact escapeTags_plain k (by decide) (not_beginsTag_of_ne (by decide) rest)
  | cons c u ih =>
    obtain ⟨hc, hu⟩ := not_or.1 (List.mem_cons.not.1 hu)
    rw [List.cons_append]
    by_cases hslash : c = '\\'
    · rw [escapeTags, if_pos hslash, ih (k + 1) hu, hslash, List.replicate_succ']
      simp
    · rw [escapeTags_plain k hslash (not_beginsTag_of_ne (Ne.symm hc) _), ih 0 hu]
      rfl

lemma escapeTags_tag (k : Nat) {t : Text} (ht : IsTag t) (rest : Text) :
    escapeTags k (t ++ rest) = List.replicate (2 * k + 1) '\\' ++ (t ++ escapeTags 0 rest) := by
  have htag := tag?_append ht rest
  obtain ⟨c, inner, rfl, hc, hinner⟩ := ht
  have hplain : '[' ∉ c :: inner := by
    rw [List.mem_cons, not_or]
    refine ⟨?_, fun hmem => absurd (hinner _ hmem) (by decide)⟩
    rintro rfl
    exact absurd hc (by decide)
  have htext : '[' :: c :: (inner ++ [']']) ++ rest = '[' :: (c :: inner ++ ']' :: rest) := by simp
  rw [htext] at htag ⊢
  rw [escapeTags, if_neg (by decide), htag, escapeTags_of_no_bracket 0 hplain]
  simp

/-! ## Backslashes at the end -/

/-- The number of backslashes at the end. -/
def trail (s : Text) : Nat := (s.reverse.takeWhile (· == '\\')).length

@[simp] lemma trail_replicate (k : Nat) : trail (List.replicate k '\\') = k := by
  simp [trail]

/-- Only what comes behind another character counts. -/
lemma trail_append_cons {c : Char} (hc : c ≠ '\\') (s r : Text) : trail (s ++ c :: r) = trail r := by
  unfold trail
  rw [List.reverse_append, List.reverse_cons, List.append_assoc, List.takeWhile_append]
  split
  · rename_i hall
    simpa [List.takeWhile_cons, hc] using hall.symm
  · rfl

lemma trail_append_tag {t : Text} (ht : IsTag t) (s r : Text) : trail (s ++ (t ++ r)) = trail r := by
  obtain ⟨c, inner, rfl, -⟩ := ht
  have htext : s ++ ('[' :: c :: (inner ++ [']']) ++ r) = (s ++ '[' :: c :: inner) ++ ']' :: r := by
    simp
  rw [htext, trail_append_cons (by decide)]

lemma trail_escapeTags (s : Text) : trail (escapeTags 0 s) = trail s := by
  induction s using steps_induction with
  | slashes k => rw [escapeTags_replicate]
  | plain k c r hc h ih =>
    rw [escapeTags_slashes, escapeTags_plain _ hc h, trail_append_cons hc, trail_append_cons hc, ih]
  | tag k t r ht ih =>
    rw [escapeTags_slashes, escapeTags_tag _ ht, trail_append_tag ht, trail_append_tag ht, ih]

/-- The backslashes at the end of an escaped text. -/
def closedTrail (s : Text) : Nat := if trail s = 1 then 2 else trail s

lemma takeWhile_eq_nil {r : Text} (h : r.head? ≠ some '\\') : r.takeWhile (· == '\\') = [] := by
  cases r with
  | nil => rfl
  | cons c r => exact List.takeWhile_cons_of_neg (by simpa using h)

lemma trail_of_not_mem {s : Text} (h : '\\' ∉ s) : trail s = 0 := by
  have hlast : s.reverse.head? ≠ some '\\' := by
    rw [List.head?_reverse]
    exact fun hlast => h (List.mem_of_getLast? hlast)
  rw [trail, takeWhile_eq_nil hlast]
  rfl

/-- A single backslash at the end is doubled. -/
lemma closeEnd_eq (s : Text) : closeEnd s = s ++ if trail s = 1 then ['\\'] else [] := by
  unfold closeEnd trail
  split
  · rename_i r hr
    simp [hr]
  · rename_i r hsingle hr
    have hnext : r.head? ≠ some '\\' := by
      rintro hhead
      obtain ⟨r', rfl⟩ := List.head?_eq_some_iff.1 hhead
      exact hsingle r' rfl
    simp [hr, takeWhile_eq_nil hnext]
  · rename_i hnone
    have hnext : s.reverse.head? ≠ some '\\' := by
      rintro hhead
      obtain ⟨r', hr⟩ := List.head?_eq_some_iff.1 hhead
      exact hnone r' hr
    simp [takeWhile_eq_nil hnext]

lemma escape_eq (s : Text) :
    escape s = escapeTags 0 s ++ if trail s = 1 then ['\\'] else [] := by
  rw [escape, closeEnd_eq, trail_escapeTags]

lemma escapeTags_of_plain {s : Text} (h : ∀ c ∈ s, c ≠ '\\' ∧ c ≠ '[') : escapeTags 0 s = s := by
  induction s with
  | nil => rfl
  | cons c r ih =>
    obtain ⟨⟨hslash, hbracket⟩, hr⟩ := List.forall_mem_cons.1 h
    rw [escapeTags_plain 0 hslash (not_beginsTag_of_ne hbracket r), ih hr]
    rfl

/-- A text without opening brackets and backslashes needs no escape. -/
lemma escape_of_plain {s : Text} (h : ∀ c ∈ s, c ≠ '\\' ∧ c ≠ '[') : escape s = s := by
  have hnone : trail s = 0 := trail_of_not_mem fun hslash => (h _ hslash).1 rfl
  rw [escape_eq, escapeTags_of_plain h, hnone]
  exact List.append_nil s

/-! ## Reading what is escaped -/

/-- What makes no tag of a bracket that stands somewhere in front of it: a tag may not begin with its
first character, and its first bracket is no closing one. -/
structure Safe (post : Text) : Prop where
  head : ∀ c ∈ post.head?, beginsTag c = false
  bracket : post.find? isBracket ≠ some ']'

/-- Escaping leaves the first bracket as it is. -/
lemma find?_escapeTags (s : Text) : (escapeTags 0 s).find? isBracket = s.find? isBracket := by
  have hslashes : ∀ k, (List.replicate k '\\').find? isBracket = none := by
    intro k
    rw [List.find?_eq_none]
    intro c hc
    rw [List.eq_of_mem_replicate hc]
    decide
  induction s using steps_induction with
  | slashes k => rw [escapeTags_replicate]
  | plain k c r hc h ih =>
    rw [escapeTags_slashes, escapeTags_plain _ hc h, List.find?_append, List.find?_append, hslashes,
      hslashes, List.find?_cons, List.find?_cons, ih]
  | tag k t r ht ih =>
    rw [escapeTags_slashes, escapeTags_tag _ ht, List.find?_append, List.find?_append,
      List.find?_append, List.find?_append, hslashes, hslashes, ih]

/-- What is escaped begins as the text does, or with a backslash. -/
lemma head?_escapeTags (s : Text) :
    (escapeTags 0 s).head? = s.head? ∨ (escapeTags 0 s).head? = some '\\' := by
  induction s using steps_induction with
  | slashes k => exact .inl (congrArg _ (escapeTags_replicate k))
  | plain k c r hc h ih =>
    rw [escapeTags_slashes, escapeTags_plain _ hc h]
    cases k <;> simp [List.replicate_succ]
  | tag k t r ht ih =>
    rw [escapeTags_slashes, escapeTags_tag _ ht, List.replicate_succ]
    exact .inr rfl

/-- A bracket that begins no tag begins none in the escaped text either. -/
lemma beginsTag_of_escapeTags {c : Char} {r post : Text} (hpost : Safe post)
    (h : BeginsTag (c :: (escapeTags 0 r ++ post))) : BeginsTag (c :: r) := by
  by_cases hc : c = '['
  · subst hc
    rw [beginsTag_bracket_iff] at h ⊢
    obtain ⟨⟨d, hd, hbegins⟩, hfind⟩ := h
    rw [List.find?_append, find?_escapeTags] at hfind
    constructor
    · cases r with
      | nil =>
        rw [hpost.head d hd] at hbegins
        cases hbegins
      | cons e r =>
        rw [List.head?_append] at hd
        rcases head?_escapeTags (e :: r) with hhead | hhead
        · rw [hhead] at hd
          exact ⟨d, hd, hbegins⟩
        · rw [hhead] at hd
          cases hd
          exact absurd hbegins (by decide)
    · cases hr : r.find? isBracket with
      | none =>
        rw [hr] at hfind
        exact absurd hfind hpost.bracket
      | some b =>
        rw [hr] at hfind
        exact hfind
  · exact absurd h (not_beginsTag_of_ne hc _)

/-- Each backslash in front of an opening bracket is one in front of a tag. -/
def Faithful (s : Text) : Prop := ∀ x y, s = x ++ '\\' :: '[' :: y → BeginsTag ('[' :: y)

lemma Faithful.of_append {s r : Text} (h : Faithful (s ++ r)) : Faithful r := by
  rintro x y rfl
  exact h (s ++ x) y (List.append_assoc ..).symm

/-- What is escaped is read as a text without tags, and its end together with what comes behind. -/
lemma read_escapeTags (s : Text) :
    ∃ marks, tags marks = [] ∧ (∀ post, Safe post →
        read 0 (escapeTags 0 s ++ post) = marks ++ read (trail s) post) ∧
      (Faithful s → s = visible marks ++ List.replicate (trail s) '\\') := by
  induction s using steps_induction with
  | slashes k =>
    refine ⟨[], rfl, fun post _ => ?_, fun _ => by simp⟩
    rw [escapeTags_replicate, read_slashes, trail_replicate, Nat.zero_add]
    rfl
  | plain k c r hc h ih =>
    obtain ⟨marks, htags, hread, hsame⟩ := ih
    refine ⟨List.replicate (if c = '[' then k - 1 else k) (.shown '\\') ++ .shown c :: marks,
      by simp [htags], fun post hpost => ?_, fun hfaithful => ?_⟩
    · rw [escapeTags_slashes, escapeTags_plain _ hc h, trail_append_cons hc, List.append_assoc,
        read_slashes, List.cons_append,
        read_plain _ hc fun htag => h (beginsTag_of_escapeTags hpost htag), hread post hpost]
      simp
    · have hr : Faithful r := by
        rw [← List.singleton_append, ← List.append_assoc] at hfaithful
        exact hfaithful.of_append
      have hkept : (if c = '[' then k - 1 else k) = k := by
        split
        · rename_i hbracket
          subst hbracket
          cases k with
          | zero => rfl
          | succ k =>
            refine absurd (hfaithful (List.replicate k '\\') r ?_) h
            rw [List.replicate_succ', List.append_assoc]
            rfl
        · rfl
      rw [hkept, trail_append_cons hc, visible_append, visible_replicate, visible_shown,
        List.append_assoc, List.cons_append, ← hsame hr]
  | tag k t r ht ih =>
    obtain ⟨marks, htags, hread, hsame⟩ := ih
    have hhalf : (0 + (2 * (0 + k) + 1)) / 2 = k := by omega
    have hodd : (0 + (2 * (0 + k) + 1)) % 2 ≠ 0 := by omega
    refine ⟨marksOfTag (0 + (2 * (0 + k) + 1)) t ++ marks, ?_, fun post hpost => ?_,
      fun hfaithful => ?_⟩
    · rw [tags_append, tags_marksOfTag, if_neg hodd, htags]
      rfl
    · rw [escapeTags_slashes, escapeTags_tag _ ht, trail_append_tag ht, List.append_assoc,
        read_slashes, List.append_assoc, read_tag _ ht, hread post hpost, List.append_assoc]
    · have hr : Faithful r := by
        rw [← List.append_assoc] at hfaithful
        exact hfaithful.of_append
      rw [trail_append_tag ht, visible_append, visible_marksOfTag, hhalf, if_neg hodd,
        List.append_assoc, List.append_assoc, ← hsame hr]

lemma faithful_of_not_mem {s : Text} (h : '\\' ∉ s) : Faithful s := by
  rintro x y rfl
  exact absurd (List.mem_append_right x List.mem_cons_self) h

lemma Safe.slash {post : Text} (h : Safe post) : Safe ('\\' :: post) where
  head := by
    rintro _ ⟨⟩
    decide
  bracket := h.bracket

/-- **How an escaped text is read.**  Whatever comes behind it, if only it makes no tag of what stands
before, an escaped text is read without any tag; the backslashes at its end count with what comes behind,
and a single one counts for two.  The characters are those of the text itself, if each backslash in front
of an opening bracket is one in front of a tag. -/
theorem exists_read_escape (s : Text) :
    ∃ marks, tags marks = [] ∧
      (∀ post, Safe post → read 0 (escape s ++ post) = marks ++ read (closedTrail s) post) ∧
      (Faithful s → s = visible marks ++ List.replicate (trail s) '\\') := by
  obtain ⟨marks, htags, hread, hsame⟩ := read_escapeTags s
  refine ⟨marks, htags, fun post hpost => ?_, hsame⟩
  rw [escape_eq]
  unfold closedTrail
  split
  · rename_i hone
    rw [List.append_assoc, List.singleton_append, hread _ hpost.slash, hone, read, if_pos rfl]
  · rw [List.append_nil, hread post hpost]

end Formwork.Markup
