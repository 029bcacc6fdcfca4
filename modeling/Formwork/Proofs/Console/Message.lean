import Formwork.Console.Basic
import Formwork.Proofs.Console.Markup

/-!
# How messages are read

A message is markup around a text, and the text is to be escaped (`Message.escaped`).  All messages are
but for hints, which have a name as it stands (`markup_eq_escaped`).

An escaped message has its own tags and no others, whatever its text is (`tags_escaped`), and if the
text is faithful to escaping it is shown as it stands (`visible_escaped`).  There is one defect: when the
text of a success ends in three or more backslashes, of an odd number, the last of them takes the closing
tag for text, since escaping looks after a single backslash at the end only (`Message.Swallows`).
-/

namespace Formwork.Console

open Markup

/-! ## Styles -/

/-- The tag that begins a style. -/
def openingTag (style : Text) : Text := '[' :: (style ++ [']'])

/-- The tag that ends a style. -/
def closingTag (style : Text) : Text := '[' :: '/' :: (style ++ [']'])

/-- A tag may begin with the first character, and there are no brackets. -/
def IsStyle (style : Text) : Prop :=
  style.head?.any beginsTag = true ∧ ∀ c ∈ style, isBracket c = false

lemma isTag_openingTag {style : Text} (h : IsStyle style) : IsTag (openingTag style) := by
  cases style with
  | nil => exact absurd h.1 (by decide)
  | cons c r => exact ⟨c, r, rfl, h.1, fun d hd => h.2 d (List.mem_cons_of_mem c hd)⟩

lemma isTag_closingTag {style : Text} (h : IsStyle style) : IsTag (closingTag style) :=
  ⟨'/', style, rfl, by decide, h.2⟩

lemma styled_eq (style text : Text) :
    styled style text = openingTag style ++ (text ++ closingTag style) := by
  simp [styled, openingTag, closingTag]

lemma read_styled {style text : Text} (hstyle : IsStyle style)
    (htext : ∀ c ∈ text, c ≠ '\\' ∧ c ≠ '[') (rest : Text) :
    read 0 (styled style text ++ rest) =
      marksOfTag 0 (openingTag style) ++
        (text.map .shown ++ (marksOfTag 0 (closingTag style) ++ read 0 rest)) := by
  rw [styled_eq, List.append_assoc, List.append_assoc, read_tag 0 (isTag_openingTag hstyle),
    read_append_of_plain htext, read_tag 0 (isTag_closingTag hstyle)]

lemma read_closingTag (k : Nat) {style : Text} (h : IsStyle style) :
    read k (closingTag style) = marksOfTag k (closingTag style) := by
  have hread := read_tag k (isTag_closingTag h) []
  rw [List.append_nil, read_nil, List.replicate_zero, List.append_nil] at hread
  exact hread

lemma safe_closingTag (style : Text) : Safe (closingTag style) where
  head := by
    rintro _ ⟨⟩
    decide
  bracket := by
    intro h
    cases h

namespace Message

/-! ## Messages -/

/-- The text of a message that is not its own. -/
def text : Message → Text
  | success text => text
  | error text => text
  | warning text => text
  | hint name => name

/-- The style of a message. -/
def style : Message → Text
  | success _ => "bold green"
  | error _ => "bold red"
  | warning _ => "bold yellow"
  | hint _ => "bold"

/-- A message in markup, with its text escaped. -/
def escaped : Message → Text
  | success text => styled "bold green" (escape text)
  | error text => styled "bold red" "Error:" ++ ' ' :: escape text
  | warning text => styled "bold yellow" "Warning:" ++ ' ' :: escape text
  | hint name => "  pass " ++ styled "bold" ("--set " ++ escape name ++ "=...")

/-- The tags of a message that are its own. -/
def ownTags (m : Message) : List Text := [openingTag m.style, closingTag m.style]

/-- The text of the message takes the closing tag for text: that of a success ends in three or more
backslashes, of an odd number. -/
def Swallows : Message → Prop
  | success text => 3 ≤ trail text ∧ trail text % 2 = 1
  | _ => False

/-- The text of the message is shown as it stands: each backslash in front of an opening bracket is one
in front of a tag, and there is no single backslash at the end, or no more than one where a closing tag
follows immediately. -/
def IsFaithful (m : Message) : Prop :=
  Faithful m.text ∧
    match m with
    | success text => trail text ≤ 1
    | _ => trail m.text ≠ 1

/-- Only backslashes are not shown as they stand. -/
lemma isFaithful_of_not_mem {m : Message} (h : '\\' ∉ m.text) : m.IsFaithful := by
  have htrail : trail m.text = 0 := trail_of_not_mem h
  refine ⟨faithful_of_not_mem h, ?_⟩
  cases m with
  | success => exact htrail.le.trans (Nat.zero_le 1)
  | error | warning | hint => exact htrail.trans_ne Nat.zero_ne_one

lemma not_swallows_of_not_mem {m : Message} (h : '\\' ∉ m.text) : ¬ m.Swallows := by
  have htrail : trail m.text = 0 := trail_of_not_mem h
  cases m with
  | success text =>
    change trail text = 0 at htrail
    rintro ⟨hlong, -⟩
    omega
  | error | warning | hint => exact id

/-- All messages are escaped, but for a hint whose name would not stay the same. -/
lemma markup_eq_escaped (m : Message) (h : ∀ name, m = .hint name → escape name = name) :
    m.markup = m.escaped := by
  unfold markup escaped
  cases m with
  | success | error | warning => rfl
  | hint name =>
    dsimp only
    rw [h name rfl]

/-! ## How messages are read -/

lemma isStyle_style (m : Message) : IsStyle m.style := by
  cases m with
  | success => exact (⟨by decide, by simp [isBracket]⟩ : IsStyle "bold green")
  | error => exact (⟨by decide, by simp [isBracket]⟩ : IsStyle "bold red")
  | warning => exact (⟨by decide, by simp [isBracket]⟩ : IsStyle "bold yellow")
  | hint => exact (⟨by decide, by simp [isBracket]⟩ : IsStyle "bold")

/-- What a console makes of a message in front of its text. -/
def front (m : Message) : List Mark :=
  match m with
  | success _ => marksOfTag 0 (openingTag m.style)
  | error _ => marksOfTag 0 (openingTag m.style) ++ (("Error:" : Text).map .shown ++
      (marksOfTag 0 (closingTag m.style) ++ [.shown ' ']))
  | warning _ => marksOfTag 0 (openingTag m.style) ++ (("Warning:" : Text).map .shown ++
      (marksOfTag 0 (closingTag m.style) ++ [.shown ' ']))
  | hint _ => ("  pass " : Text).map .shown ++
      (marksOfTag 0 (openingTag m.style) ++ ("--set " : Text).map .shown)

/-- What stands in a message behind its text. -/
def back (m : Message) : Text :=
  match m with
  | success _ => closingTag m.style
  | error _ => []
  | warning _ => []
  | hint _ => "=..." ++ closingTag m.style

lemma safe_back (m : Message) : Safe m.back := by
  cases m with
  | success => exact safe_closingTag _
  | error | warning => exact ⟨nofun, nofun⟩
  | hint =>
    have hsafe : Safe ("=..." ++ closingTag "bold") :=
      ⟨by simp [beginsTag], by simp [isBracket, closingTag]⟩
    exact hsafe

lemma exists_read_escaped (m : Message) :
    ∃ marks, tags marks = [] ∧
      read 0 m.escaped = m.front ++ (marks ++ read (closedTrail m.text) m.back) ∧
      (Faithful m.text → m.text = visible marks ++ List.replicate (trail m.text) '\\') := by
  obtain ⟨marks, htags, hread, hsame⟩ := exists_read_escape m.text
  refine ⟨marks, htags, ?_, hsame⟩
  rw [← hread m.back (safe_back m)]
  unfold escaped front back style Message.text
  cases m with
  | success text =>
    have hstyle : IsStyle "bold green" := isStyle_style (success text)
    dsimp only
    rw [styled_eq, read_tag 0 (isTag_openingTag hstyle)]
  | error text =>
    have hstyle : IsStyle "bold red" := isStyle_style (error text)
    have hlabel : ∀ c ∈ ("Error:" : Text), c ≠ '\\' ∧ c ≠ '[' := by simp
    dsimp only
    rw [read_styled hstyle hlabel, read_plain 0 (by decide) (not_beginsTag_of_ne (by decide) _)]
    simp
  | warning text =>
    have hstyle : IsStyle "bold yellow" := isStyle_style (warning text)
    have hlabel : ∀ c ∈ ("Warning:" : Text), c ≠ '\\' ∧ c ≠ '[' := by simp
    dsimp only
    rw [read_styled hstyle hlabel, read_plain 0 (by decide) (not_beginsTag_of_ne (by decide) _)]
    simp
  | hint name =>
    have hstyle : IsStyle "bold" := isStyle_style (hint name)
    have hpass : ∀ c ∈ ("  pass " : Text), c ≠ '\\' ∧ c ≠ '[' := by simp
    have hset : ∀ c ∈ ("--set " : Text), c ≠ '\\' ∧ c ≠ '[' := by simp
    dsimp only
    rw [read_append_of_plain hpass, styled_eq, read_tag 0 (isTag_openingTag hstyle),
      List.append_assoc, List.append_assoc, read_append_of_plain hset]
    simp

lemma read_back_success (k : Nat) (text : Text) :
    read k (success text).back = marksOfTag k (closingTag (success text).style) :=
  read_closingTag k (isStyle_style (success text))

/-- The end of a hint is read as it stands, whatever is in front. -/
lemma read_back_hint (k : Nat) (name : Text) :
    read k (hint name).back = List.replicate k (.shown '\\') ++
      (("=..." : Text).map .shown ++ marksOfTag 0 (closingTag (hint name).style)) := by
  have hsplit : ("=..." : Text) = '=' :: ("..." : Text) := by cbv
  have hdots : ∀ c ∈ ("..." : Text), c ≠ '\\' ∧ c ≠ '[' := by simp
  unfold back
  dsimp only
  rw [hsplit, List.cons_append, read_plain k (by decide) (not_beginsTag_of_ne (by decide) _),
    read_append_of_plain hdots, read_closingTag 0 (isStyle_style (hint name))]
  rfl

lemma swallows_success_iff {text : Text} :
    (success text).Swallows ↔ closedTrail text % 2 = 1 := by
  change 3 ≤ trail text ∧ trail text % 2 = 1 ↔ _
  unfold closedTrail
  split <;> omega

/-- An escaped message has its own tags and no others, and all of them unless its text takes the closing
one. -/
lemma tags_escaped (m : Message) :
    (¬ m.Swallows → tags (read 0 m.escaped) = m.ownTags) ∧
      (m.Swallows → tags (read 0 m.escaped) = m.ownTags.take 1) := by
  obtain ⟨marks, htags, hread, -⟩ := m.exists_read_escaped
  rw [hread]
  unfold front ownTags
  cases m with
  | success text =>
    rw [swallows_success_iff, read_back_success]
    change (_ → tags (_ ++ (_ ++ marksOfTag (closedTrail text) _)) = _) ∧
      (_ → tags (_ ++ (_ ++ marksOfTag (closedTrail text) _)) = _)
    constructor
    · intro heven
      simp [htags, Nat.mod_two_ne_one.1 heven]
    · intro hodd
      simp [htags, hodd]
  | error | warning =>
    refine ⟨fun _ => ?_, False.elim⟩
    unfold back
    simp [htags, read_nil]
  | hint name =>
    refine ⟨fun _ => ?_, False.elim⟩
    simp [htags, read_back_hint]

/-- A faithful message, escaped, has the characters that it would have without markup. -/
lemma visible_escaped {m : Message} (h : m.IsFaithful) : visible (read 0 m.escaped) = m.plain := by
  obtain ⟨marks, -, hread, hsame⟩ := m.exists_read_escaped
  obtain ⟨hfaithful, hend⟩ := h
  have htext := hsame hfaithful
  rw [hread]
  unfold front plain
  cases m with
  | success text =>
    have htext : text = visible marks ++ List.replicate (trail text) '\\' := htext
    have hclosed : closedTrail text = 2 * trail text := by
      unfold closedTrail
      change trail text ≤ 1 at hend
      split <;> omega
    rw [read_back_success]
    change visible (_ ++ (_ ++ marksOfTag (closedTrail text) _)) = _
    rw [hclosed]
    simp [← htext]
  | error text | warning text =>
    have htext : text = visible marks ++ List.replicate (trail text) '\\' := htext
    have hclosed : closedTrail text = trail text := if_neg hend
    change visible (_ ++ (_ ++ read (closedTrail text) [])) = _
    rw [hclosed, read_nil]
    simp [← htext]
  | hint name =>
    have htext : name = visible marks ++ List.replicate (trail name) '\\' := htext
    have hclosed : closedTrail name = trail name := if_neg hend
    rw [read_back_hint]
    change visible (_ ++ (_ ++ (List.replicate (closedTrail name) _ ++ _))) = _
    have hshown : ∀ rest, visible marks ++ (List.replicate (trail name) '\\' ++ rest) = name ++ rest := by
      intro rest
      rw [← List.append_assoc, ← htext]
    rw [hclosed]
    simp [hshown]

/-! ## Names that have tags -/

/-- An escaped text has no tags. -/
lemma tags_read_escape (s : Text) : Markup.tags (read 0 (escape s)) = [] := by
  obtain ⟨marks, htags, hread, -⟩ := exists_read_escape s
  have h := hread [] ⟨nofun, nofun⟩
  rw [List.append_nil, read_nil] at h
  simp [h, htags]

lemma tags_read_of_isTag {t : Text} (h : IsTag t) : Markup.tags (read 0 t) = [t] := by
  have hread := read_tag 0 h []
  rw [List.append_nil, read_nil] at hread
  simp [hread]

/-- The hint for a name that has tags is none of the escaped messages. -/
lemma markup_hint_ne_escaped {name : Text} (h : Markup.tags (read 0 name) ≠ []) (m : Message) :
    (hint name).markup ≠ m.escaped := by
  have hspace : ("  pass " : Text) = ' ' :: (" pass " : Text) := by cbv
  intro he
  unfold markup escaped at he
  cases m with
  | success | error | warning =>
    dsimp only at he
    rw [styled_eq, styled_eq, hspace] at he
    exact absurd (List.cons.inj he).1 (by decide)
  | hint other =>
    dsimp only at he
    rw [styled_eq, styled_eq] at he
    have hname : name = escape other := by simpa using he
    exact h (hname ▸ tags_read_escape other)

/-- In the hint for a name that is a tag, a console obeys the tag. -/
lemma tags_hint {name : Text} (h : IsTag name) :
    Markup.tags (read 0 (hint name).markup) = [openingTag "bold", name, closingTag "bold"] := by
  have hstyle : IsStyle "bold" := isStyle_style (hint name)
  have hpass : ∀ c ∈ ("  pass " : Text), c ≠ '\\' ∧ c ≠ '[' := by simp
  have hset : ∀ c ∈ ("--set " : Text), c ≠ '\\' ∧ c ≠ '[' := by simp
  have hback : read 0 (("=..." : Text) ++ closingTag "bold") =
      ("=..." : Text).map .shown ++ marksOfTag 0 (closingTag "bold") := read_back_hint 0 name
  unfold markup
  dsimp only
  rw [read_append_of_plain hpass, styled_eq, read_tag 0 (isTag_openingTag hstyle),
    List.append_assoc, List.append_assoc, read_append_of_plain hset, read_tag 0 h, hback]
  simp

end Message

end Formwork.Console
