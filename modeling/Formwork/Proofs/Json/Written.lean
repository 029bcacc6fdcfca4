import Formwork.Json.Reader
import Formwork.Json.Basic
import Mathlib.Data.List.Induction

/-!
# Reading back written JSON

A text that is written as a JSON string is scanned as a string with that text, whatever characters it
has (`tokens_writeText`).  It is enough to see this for one character: what stands for it takes the
scanner from one text under way to the text with that character (`tokens_escapedChar`), and the written
text is these pieces one behind the other.  Only the characters that are written by number take some
arithmetic.

An object is scanned member by member (`tokens_writeObject`), since the written value of a member ends
where a comma or a newline follows.  There are no control characters in it but the newlines between
members.
-/

namespace Formwork.Json

/-! ## Characters -/

lemma tokens_cons (s : Scan) (c : Char) (rest : Text) :
    s.tokens (c :: rest) = (s.step c).2 ++ (s.step c).1.tokens rest := rfl

lemma hexValue?_hexDigit {n : Nat} (h : n < 16) : hexValue? (Text.hexDigit n) = some n := by
  revert n
  decide

/-- Four digits are gathered to the number of a character. -/
lemma tokens_hexDigits {n : Nat} (h : n < 0xd800) (v rest : Text) :
    (Scan.inNumber v none []).tokens (Text.hexDigits 4 n ++ rest) =
      (Scan.inString (Char.ofNat n :: v)).tokens rest := by
  have hdigit : ∀ m, hexValue? (Text.hexDigit (m % 16)) = some (m % 16) :=
    fun m => hexValue?_hexDigit (Nat.mod_lt m (by decide))
  have hnumber : hexNumber [Text.hexDigit (n % 16), Text.hexDigit (n / 16 % 16),
      Text.hexDigit (n / 16 / 16 % 16), Text.hexDigit (n / 16 / 16 / 16 % 16)] = n := by
    simp only [hexNumber, hdigit, Option.getD_some]
    omega
  have hchar : Scan.ofNumber v none n = .inString (Char.ofNat n :: v) := by
    have hpair : (0xD800 ≤ n && n < 0xDC00) = false := by simp; omega
    have half : (0xDC00 ≤ n && n < 0xE000) = false := by simp; omega
    simp [Scan.ofNumber, hpair, half]
  simp [Text.hexDigits, tokens_cons, Scan.step, hdigit, hnumber, hchar, Scan.orHalf]

/-- What stands for a character in a string is scanned as that character. -/
lemma tokens_escapedChar (c : Char) (v rest : Text) :
    (Scan.inString v).tokens (escapedChar c ++ rest) = (Scan.inString (c :: v)).tokens rest := by
  unfold escapedChar
  split
  · subst_vars
    rfl
  split
  · subst_vars
    rfl
  split
  · subst_vars
    rfl
  split
  · subst_vars
    rfl
  split
  · subst_vars
    rfl
  split
  · subst_vars
    rfl
  split
  · subst_vars
    rfl
  split
  · rename_i hcontrol
    have hnumber := tokens_hexDigits (n := c.toNat) (by omega) v rest
    rw [Char.ofNat_toNat] at hnumber
    rw [← hnumber]
    rfl
  · rename_i hquote hbackslash _ _ _ _ _ hcontrol
    simp [tokens_cons, Scan.step, hquote, hbackslash, hcontrol]

/-! ## Texts -/

lemma tokens_flatMap_escapedChar (s v rest : Text) :
    (Scan.inString v).tokens (s.flatMap escapedChar ++ rest) =
      (Scan.inString (s.reverse ++ v)).tokens rest := by
  induction s generalizing v with
  | nil => rfl
  | cons c s ih =>
    rw [List.flatMap_cons, List.append_assoc, tokens_escapedChar, ih, List.reverse_cons,
      List.append_assoc]
    rfl

/-- A text that is written as a string is scanned as that string. -/
lemma tokens_writeText (s rest : Text) :
    Scan.between.tokens (writeText s ++ rest) = .string s :: Scan.between.tokens rest := by
  have hopen : Scan.between.tokens (writeText s ++ rest) =
      (Scan.inString []).tokens (s.flatMap escapedChar ++ '"' :: rest) := by
    simp [writeText, tokens_cons, Scan.step, Scan.begin, isSpace]
  rw [hopen, tokens_flatMap_escapedChar]
  simp [tokens_cons, Scan.step]

/-! ## Objects -/

/-- The written value is scanned as the token, where nothing follows that could go on a word. -/
def Spells (v : Text) (t : Token) : Prop :=
  ∀ c rest, isWordChar c = false →
    Scan.between.tokens (v ++ c :: rest) = t :: Scan.between.tokens (c :: rest)

lemma spells_writeText (s : Text) : Spells (writeText s) (.string s) :=
  fun c rest _ => tokens_writeText s (c :: rest)

/-- A truth value is one word. -/
lemma spells_writeBool (b : Bool) : Spells (writeBool b) (.word (writeBool b)) := by
  intro c rest hc
  have hend : ∀ w : Text, (Scan.inWord w).tokens (c :: rest) =
      .word w.reverse :: Scan.between.tokens (c :: rest) := by
    intro w
    simp [tokens_cons, Scan.step, hc]
  cases b
  · exact hend ['e', 's', 'l', 'a', 'f']
  · exact hend ['e', 'u', 'r', 't']

/-- A member is scanned as its name, a colon and its value. -/
lemma tokens_member {v : Text} {t : Token} (h : Spells v t) {c : Char} (hc : isWordChar c = false)
    (name rest : Text) :
    Scan.between.tokens ("  " ++ writeText name ++ ": " ++ v ++ c :: rest) =
      .string name :: .colon :: t :: Scan.between.tokens (c :: rest) := by
  have hvalue : Scan.between.tokens (": ".toList ++ (v ++ c :: rest)) =
      .colon :: t :: Scan.between.tokens (c :: rest) := by
    rw [← h c rest hc]
    simp [tokens_cons, Scan.step, Scan.begin, isSpace, isWordChar, Token.ofChar?]
  simp only [List.append_assoc]
  rw [← hvalue, ← tokens_writeText]
  simp [tokens_cons, Scan.step, Scan.begin, isSpace]

/-- Members are scanned one by one, with the commas between them. -/
lemma tokens_members {members : List (Text × Text × Token)}
    (h : ∀ m ∈ members, Spells m.2.1 m.2.2) (rest : Text) :
    Scan.between.tokens (List.intercalate [',', '\n']
        (members.map fun m => "  " ++ writeText m.1 ++ ": " ++ m.2.1) ++ '\n' :: rest) =
      List.intercalate [.comma] (members.map fun m => [.string m.1, .colon, m.2.2]) ++
        Scan.between.tokens ('\n' :: rest) := by
  induction members with
  | nil => rfl
  | cons m members ih =>
    obtain ⟨hm, hmembers⟩ := List.forall_mem_cons.1 h
    cases members with
    | nil =>
      simp only [List.map_cons, List.map_nil, List.intercalate_singleton]
      rw [tokens_member hm (by decide)]
      rfl
    | cons m' members =>
      have hcomma : ∀ s : Text, Scan.between.tokens (',' :: '\n' :: s) =
          .comma :: Scan.between.tokens s := fun s => by
        simp [tokens_cons, Scan.step, Scan.begin, isSpace, isWordChar, Token.ofChar?]
      have hrest := ih hmembers
      simp only [List.map_cons, List.intercalate_cons_cons] at hrest ⊢
      rw [List.append_assoc, List.append_assoc]
      show Scan.between.tokens (_ ++ ',' :: '\n' :: (_ ++ _)) = _
      rw [tokens_member hm (by decide), hcomma, List.nil_append, hrest]
      simp

/-- An object is scanned as its members between braces. -/
lemma tokens_writeObject {members : List (Text × Text × Token)}
    (h : ∀ m ∈ members, Spells m.2.1 m.2.2) :
    Token.scan (writeObject (members.map fun m => (m.1, m.2.1))) =
      .openObject :: List.intercalate [.comma] (members.map fun m => [.string m.1, .colon, m.2.2]) ++
        [.closeObject] := by
  have hopen : ∀ s : Text, Scan.between.tokens ('\x7b' :: '\n' :: s) =
      .openObject :: Scan.between.tokens s := fun s => by
    simp [tokens_cons, Scan.step, Scan.begin, isSpace, isWordChar, Token.ofChar?]
  have hclose : Scan.between.tokens ['\n', '\x7d'] = [.closeObject] := rfl
  have hmembers := tokens_members h ['\x7d']
  rw [hclose] at hmembers
  unfold Token.scan writeObject
  rw [List.map_map, List.append_assoc]
  show Scan.between.tokens ('\x7b' :: '\n' :: ([] ++ (_ ++ ['\n', '\x7d']))) = _
  rw [hopen, List.nil_append]
  exact congrArg _ hmembers

/-! ## Control characters -/

/-- What stands for a character in a string holds no control characters. -/
lemma all_escapedChar (c : Char) : (escapedChar c).all (fun d => 0x20 ≤ d.toNat) = true := by
  unfold escapedChar
  split
  · rfl
  split
  · rfl
  split
  · rfl
  split
  · rfl
  split
  · rfl
  split
  · rfl
  split
  · rfl
  split
  · have hdigit : ∀ m, 0x20 ≤ (Text.hexDigit (m % 16)).toNat := by
      have hall : ∀ n < 16, 0x20 ≤ (Text.hexDigit n).toNat := by decide
      exact fun m => hall _ (Nat.mod_lt m (by decide))
    simp [Text.hexDigits, hdigit]
  · rename_i hcontrol
    simpa using hcontrol

lemma le_toNat_of_mem_writeText {s : Text} {c : Char} (h : c ∈ writeText s) : 0x20 ≤ c.toNat := by
  unfold writeText at h
  rcases List.mem_append.1 h with h | h
  · rcases List.mem_cons.1 h with rfl | h
    · decide
    · obtain ⟨d, -, hd⟩ := List.mem_flatMap.1 h
      simpa using List.all_eq_true.1 (all_escapedChar d) c hd
  · rw [List.mem_singleton.1 h]
    decide

lemma not_mem_intercalate {c : Char} {separator : Text} (hseparator : c ∉ separator) {lines : List Text}
    (h : ∀ l ∈ lines, c ∉ l) : c ∉ List.intercalate separator lines := by
  induction lines with
  | nil => exact List.not_mem_nil
  | cons l lines ih =>
    obtain ⟨hl, hlines⟩ := List.forall_mem_cons.1 h
    cases lines with
    | nil => simpa using hl
    | cons l' lines =>
      rw [List.intercalate_cons_cons]
      simp only [List.mem_append, not_or]
      exact ⟨⟨hl, hseparator⟩, ih hlines⟩

/-- There is no carriage return in an object, if there is none in the values of its members. -/
lemma carriageReturn_not_mem_writeObject {members : List (Text × Text)}
    (h : ∀ m ∈ members, '\r' ∉ m.2) : '\r' ∉ writeObject members := by
  have hname : ∀ s : Text, '\r' ∉ writeText s := fun s hs =>
    absurd (le_toNat_of_mem_writeText hs) (by decide)
  have hlines : ∀ l ∈ members.map fun m => "  ".toList ++ writeText m.1 ++ ": " ++ m.2, '\r' ∉ l := by
    intro l hl
    obtain ⟨m, hm, rfl⟩ := List.mem_map.1 hl
    simp [hname, h m hm]
  have hbetween : '\r' ∉ List.intercalate [',', '\n']
      (members.map fun m => "  ".toList ++ writeText m.1 ++ ": " ++ m.2) :=
    not_mem_intercalate (by decide) hlines
  unfold writeObject
  simp only [List.mem_append, not_or]
  exact ⟨⟨by decide, hbetween⟩, by decide⟩

end Formwork.Json
