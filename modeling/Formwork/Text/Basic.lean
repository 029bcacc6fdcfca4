/-!
# Texts

A text is a list of characters.  Every offset, column and slice in this library counts
characters, so the list is the right view: an offset is the length of what stands before it, and
a function that reads a text is a recursion on the list.

The operations here are the few that several modules share.

* Cutting: `cutAt?` at the first character that satisfies a test, `lines` at newlines.
* Trimming: `trim` drops characters that satisfy a test from both ends.
* Runs: `collapse` replaces each maximal run of characters of a class by one character.

Each comes with the small lemmas that say what it does to the text as a whole.
-/

namespace Formwork

/-- A text: its characters in order. -/
abbrev Text := List Char

/-- A string literal may stand where a text is expected. -/
instance : Coe String Text := ⟨String.toList⟩

namespace Text

/-! ## Cutting -/

/-- What stands before and after the first `sep`, or nothing when there is none. -/
def cutAt? (sep : Char) : Text → Option (Text × Text)
  | [] => none
  | c :: r => if c = sep then some ([], r) else (cutAt? sep r).map fun (a, b) => (c :: a, b)

@[simp] theorem cutAt?_nil (sep : Char) : cutAt? sep [] = none := rfl

theorem cutAt?_cons (sep c : Char) (r : Text) :
    cutAt? sep (c :: r) =
      if c = sep then some ([], r) else (cutAt? sep r).map fun (a, b) => (c :: a, b) := rfl

/-- A cut is exact: the pieces and the separator make up the text, and the first piece is free
of the separator. -/
theorem cutAt?_eq_some_iff {sep : Char} {s a b : Text} :
    cutAt? sep s = some (a, b) ↔ s = a ++ sep :: b ∧ sep ∉ a := by
  induction s generalizing a with
  | nil => simp
  | cons c r ih =>
    rw [cutAt?_cons]
    by_cases hc : c = sep
    · subst hc
      rw [if_pos rfl]
      constructor
      · intro h
        cases h
        exact ⟨rfl, List.not_mem_nil⟩
      · rintro ⟨h, hn⟩
        cases a with
        | nil => cases h; rfl
        | cons x a => cases h; exact absurd List.mem_cons_self hn
    · rw [if_neg hc, Option.map_eq_some_iff]
      constructor
      · rintro ⟨⟨a', b'⟩, h, he⟩
        cases he
        obtain ⟨rfl, hn⟩ := ih.1 h
        refine ⟨rfl, fun hm => ?_⟩
        cases hm with
        | head => exact hc rfl
        | tail _ hm => exact hn hm
      · rintro ⟨h, hn⟩
        cases a with
        | nil => cases h; exact absurd rfl hc
        | cons x a =>
          cases h
          exact ⟨(a, b), ih.2 ⟨rfl, fun hm => hn (List.mem_cons_of_mem _ hm)⟩, rfl⟩

/-- There is no cut exactly when the separator does not occur. -/
theorem cutAt?_eq_none_iff {sep : Char} {s : Text} : cutAt? sep s = none ↔ sep ∉ s := by
  induction s with
  | nil => simp
  | cons c r ih =>
    rw [cutAt?_cons, List.mem_cons]
    by_cases hc : c = sep
    · simp [hc]
    · rw [if_neg hc, Option.map_eq_none_iff, ih]
      exact ⟨fun h => fun hm => hm.elim (fun e => hc e.symm) h, fun h hm => h (.inr hm)⟩

/-- The lines of a text: it is cut at every newline, so a text without one is a single line. -/
def lines : Text → List Text
  | [] => [[]]
  | c :: r =>
    if c = '\n' then [] :: lines r
    else
      match lines r with
      | [] => [[c]]
      | l :: ls => (c :: l) :: ls

/-- Lines put back together with newlines between them. -/
def unlines (ls : List Text) : Text := List.intercalate ['\n'] ls

theorem lines_ne_nil (s : Text) : lines s ≠ [] := by
  cases s with
  | nil => simp [lines]
  | cons c r =>
    rw [lines]
    split
    · simp
    · split <;> simp

/-- The part of a text after its last newline: the line that the text leaves unfinished. -/
def lastLine (s : Text) : Text := (lines s).getLast (lines_ne_nil s)

@[simp] theorem lines_nil : lines [] = [[]] := rfl

@[simp] theorem lines_newline (r : Text) : lines ('\n' :: r) = [] :: lines r := rfl

/-! ## Trimming -/

/-- The text without the characters at its two ends that satisfy the test. -/
def trim (p : Char → Bool) (s : Text) : Text :=
  ((s.dropWhile p).reverse.dropWhile p).reverse

@[simp] theorem trim_nil (p : Char → Bool) : trim p [] = [] := rfl

/-! ## Runs -/

/-- Each maximal run of characters of the class becomes one `mark`. -/
def collapse (p : Char → Bool) (mark : Char) : Text → Text
  | [] => []
  | c :: r =>
    if p c then
      match r with
      | d :: _ => if p d then collapse p mark r else mark :: collapse p mark r
      | [] => [mark]
    else c :: collapse p mark r

@[simp] theorem collapse_nil (p : Char → Bool) (mark : Char) : collapse p mark [] = [] := rfl

/-- The maximal runs of characters outside the class, in order. -/
def words (p : Char → Bool) (s : Text) : List Text :=
  go [] s
where
  /-- Gathers the word under way, in reverse, until a character of the class ends it. -/
  go (word : Text) : Text → List Text
    | [] => if word.isEmpty then [] else [word.reverse]
    | c :: r =>
      if p c then (if word.isEmpty then go [] r else word.reverse :: go [] r)
      else go (c :: word) r

end Text

end Formwork
