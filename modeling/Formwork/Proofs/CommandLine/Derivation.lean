import Formwork.Proofs.CommandLine.Layers

/-!
# Rules described on the command line

An argument describes a rule when it reads K=S:C, with the first equals sign of the whole text and the
first colon behind it.  The parts may stand between blanks; none of them is blank, and the last one is
the word of a style (`Describes`).  Every other argument has a flaw, and which flaw it is depends on how
far the argument can be taken apart (`ArgumentFlaw`): the name can be missing, the source or the word
can be missing, or the word can be the wrong one.

The two are everything there is (`describes_or_flaw`), and the reader answers each in its own way
(`Describes.readDerivation_eq`, `ArgumentFlaw.readDerivation_eq`).  So the main statement,
`readDerivation_grammar`, has both directions without another look at the reader.
-/

namespace Formwork

open Text (allBlank isBlank strip)

variable {a name source word : Text} {style : Style} {rule : Rule} {e : ArgumentError}

lemma Style.ofName?_eq_some_iff : Style.ofName? word = some style ↔ style.name = word := by
  constructor
  · intro h
    have hfound : (style.name == word) = true :=
      List.find?_some (p := fun s : Style => s.name == word) h
    exact beq_iff_eq.1 hfound
  · rintro rfl
    exact style.ofName?_name

lemma Style.ofName?_eq_none_iff : Style.ofName? word = none ↔ ∀ style : Style, style.name ≠ word := by
  constructor
  · rintro h style rfl
    rw [style.ofName?_name] at h
    cases h
  · intro h
    cases hstyle : Style.ofName? word with
    | none => rfl
    | some style => exact absurd (ofName?_eq_some_iff.1 hstyle) (h style)

/-- A rule that applies a style gives the styled value of its source. -/
lemma Rule.apply_ofStyle {values : Table Text} {description value : Text}
    (h : values.get? source = some value) :
    (Rule.ofStyle name source style description).apply values = .ok (style.apply value) := by
  have hinputs : Rule.inputValues values [source] = .ok [value] := by
    simp only [Rule.inputValues, h]
    rfl
  show (Rule.inputValues values [source] >>= _) = _
  rw [hinputs]
  rfl

namespace CommandLine

/-! ## The grammar -/

/-- The argument is cut at the first equals sign, and what stands behind it at the first colon. -/
structure IsCut (a key before behind : Text) : Prop where
  eq : a = key ++ '=' :: (before ++ ':' :: behind)
  key_plain : '=' ∉ key
  before_plain : ':' ∉ before

/-- The argument reads K=S:C, with these names and this style in the places of K, S and C.  None of the
three is blank; for a style that goes without saying. -/
def Describes (a name source : Text) (style : Style) : Prop :=
  ∃ key before behind, IsCut a key before behind ∧ strip key = name ∧ strip before = source ∧
    strip behind = style.name ∧ allBlank key = false ∧ allBlank before = false ∧
    allBlank behind = false

/-- What is wrong with an argument that describes no rule. -/
inductive ArgumentFlaw (a : Text) : ArgumentError → Prop
  /-- In front of the first equals sign, if there is one, all is blank. -/
  | name (blank : ∀ key value, a = key ++ '=' :: value → '=' ∉ key → allBlank key = true) :
      ArgumentFlaw a (.notAssignment a)
  /-- There is a name, but in what it is set to there is no colon, or one side of the first is blank. -/
  | target {key value : Text} (eq : a = key ++ '=' :: value) (key_plain : '=' ∉ key)
      (key_blank : allBlank key = false)
      (blank : ∀ before behind, IsCut a key before behind →
        allBlank before = true ∨ allBlank behind = true) :
      ArgumentFlaw a (.notDerivation a)
  /-- All three parts are there, and the last one is no style. -/
  | style {key before behind : Text} (cut : IsCut a key before behind)
      (key_blank : allBlank key = false) (before_blank : allBlank before = false)
      (behind_blank : allBlank behind = false) (unknown : ∀ style : Style, style.name ≠ strip behind) :
      ArgumentFlaw a (.unknownStyle ⟨strip behind⟩)

/-! ## The reader -/

lemma isEmpty_strip (s : Text) : (strip s).isEmpty = allBlank s := by
  rw [Bool.eq_iff_iff, List.isEmpty_iff, Text.strip_eq_nil_iff]

/-- An argument with a name is read on behind its first equals sign. -/
lemma readDerivation_of_gives {key value : Text} (heq : a = key ++ '=' :: value)
    (hkey : '=' ∉ key) (hblank : allBlank key = false) :
    readDerivation a =
      match Text.cutAt? ':' value with
      | none => .error (.notDerivation a)
      | some (before, behind) =>
        if allBlank before || allBlank behind then .error (.notDerivation a)
        else (Rule.derive (strip key) (strip before) (strip behind)).mapError .unknownStyle := by
  have hne : strip key ≠ [] := by
    rw [ne_eq, Text.strip_eq_nil_iff, hblank]
    exact Bool.false_ne_true
  have hread : readAssignment a = .ok (strip key, value) :=
    readAssignment_eq_ok_iff.2 ⟨⟨key, heq, hkey, rfl⟩, hne⟩
  show (readAssignment a >>= _) = _
  rw [hread]
  simp only [← isEmpty_strip]
  rfl

lemma Describes.readDerivation_eq (h : Describes a name source style) :
    readDerivation a = .ok (.ofStyle name source style (style.name ++ " case of " ++ source)) := by
  obtain ⟨key, before, behind, ⟨heq, hkey, hbefore⟩, rfl, rfl, hstyle, hk, hs, hw⟩ := h
  have hcut : Text.cutAt? ':' (before ++ ':' :: behind) = some (before, behind) :=
    Text.cutAt?_eq_some_iff.2 ⟨rfl, hbefore⟩
  rw [readDerivation_of_gives heq hkey hk, hcut]
  simp only [hs, hw, Bool.or_self, Bool.false_eq_true, if_false, hstyle]
  rw [Rule.derive, style.ofName?_name]
  rfl

lemma ArgumentFlaw.readDerivation_eq (h : ArgumentFlaw a e) : readDerivation a = .error e := by
  cases h with
  | name blank =>
    have hread : readAssignment a = .error (.notAssignment a) := by
      unfold readAssignment
      cases hcut : Text.cutAt? '=' a with
      | none => rfl
      | some cut =>
        obtain ⟨heq, hkey⟩ := Text.cutAt?_eq_some_iff.1 hcut
        simp only [isEmpty_strip, blank _ _ heq hkey, if_true]
    show (readAssignment a >>= _) = _
    rw [hread]
    rfl
  | target eq key_plain key_blank blank =>
    rw [readDerivation_of_gives eq key_plain key_blank]
    cases hcut : Text.cutAt? ':' _ with
    | none => rfl
    | some cut =>
      obtain ⟨rfl, hbefore⟩ := Text.cutAt?_eq_some_iff.1 hcut
      have hblank : (allBlank cut.1 || allBlank cut.2) = true :=
        Bool.or_eq_true_iff.2 (blank _ _ ⟨eq, key_plain, hbefore⟩)
      simp only [hblank, if_true]
  | @style key before behind cut key_blank before_blank behind_blank unknown =>
    have hcut : Text.cutAt? ':' (before ++ ':' :: behind) = some (before, behind) :=
      Text.cutAt?_eq_some_iff.2 ⟨rfl, cut.before_plain⟩
    rw [readDerivation_of_gives cut.eq cut.key_plain key_blank, hcut]
    simp only [before_blank, behind_blank, Bool.or_self, Bool.false_eq_true, if_false]
    rw [Rule.derive, Style.ofName?_eq_none_iff.2 unknown]
    rfl

/-- An argument describes a rule, or something is wrong with it. -/
theorem describes_or_flaw (a : Text) :
    (∃ name source style, Describes a name source style) ∨ ∃ e, ArgumentFlaw a e := by
  by_cases hname : ∀ key value, a = key ++ '=' :: value → '=' ∉ key → allBlank key = true
  · exact .inr ⟨_, .name hname⟩
  push Not at hname
  obtain ⟨key, value, heq, hkey, hk⟩ := hname
  rw [ne_eq, Bool.not_eq_true] at hk
  by_cases htarget : ∀ before behind, IsCut a key before behind →
      allBlank before = true ∨ allBlank behind = true
  · exact .inr ⟨_, .target heq hkey hk htarget⟩
  push Not at htarget
  obtain ⟨before, behind, hcut, hs, hw⟩ := htarget
  rw [ne_eq, Bool.not_eq_true] at hs hw
  cases hstyle : Style.ofName? (strip behind) with
  | none => exact .inr ⟨_, .style hcut hk hs hw (Style.ofName?_eq_none_iff.1 hstyle)⟩
  | some style =>
    have hword := (Style.ofName?_eq_some_iff.1 hstyle).symm
    exact .inl ⟨_, _, style, key, before, behind, hcut, rfl, rfl, hword, hk, hs, hw⟩

/-! ## Padding -/

/-- The text is the part with blanks around it. -/
def Padded (part s : Text) : Prop := ∃ l r, s = l ++ part ++ r ∧ allBlank l = true ∧ allBlank r = true

namespace Padded

variable {part s : Text}

/-- Stripping recovers a part that has no blanks at its ends. -/
lemma strip_eq (h : Padded part s) (hpart : strip part = part) : strip s = part := by
  obtain ⟨l, r, rfl, hl, hr⟩ := h
  exact (Text.trim_append (Text.allBlank_iff.1 hl) part (Text.allBlank_iff.1 hr)).trans hpart

lemma allBlank_eq_false (h : Padded part s) (hpart : strip part = part) (hne : part ≠ []) :
    allBlank s = false := by
  rw [← Bool.not_eq_true, ← Text.strip_eq_nil_iff, h.strip_eq hpart]
  exact hne

/-- Padding brings no character that is not blank. -/
lemma not_mem {c : Char} (h : Padded part s) (hc : isBlank c = false) (hpart : c ∉ part) :
    c ∉ s := by
  obtain ⟨l, r, rfl, hl, hr⟩ := h
  have hpadding : ∀ t : Text, allBlank t = true → c ∉ t := by
    intro t ht hmem
    rw [Text.allBlank_iff.1 ht c hmem] at hc
    cases hc
  simp only [List.mem_append, not_or]
  exact ⟨⟨hpadding l hl, hpart⟩, hpadding r hr⟩

end Padded

/-- The words of styles are neither blank nor padded. -/
lemma strip_name (style : Style) : strip style.name = style.name ∧ style.name ≠ [] := by
  cases style <;> decide

/-- The three parts describe the rule they spell, whatever blanks are put around them. -/
lemma describes_of_padded {key before behind : Text} (hname : strip name = name) (hne : name ≠ [])
    (hplain : '=' ∉ name) (hsource : strip source = source) (hne' : source ≠ [])
    (hplain' : ':' ∉ source) (hkey : Padded name key) (hbefore : Padded source before)
    (hbehind : Padded style.name behind) :
    Describes (key ++ '=' :: (before ++ ':' :: behind)) name source style := by
  obtain ⟨hword, hwordne⟩ := strip_name style
  have hcut : IsCut (key ++ '=' :: (before ++ ':' :: behind)) key before behind :=
    ⟨rfl, hkey.not_mem (by decide) hplain, hbefore.not_mem (by decide) hplain'⟩
  exact ⟨key, before, behind, hcut, hkey.strip_eq hname, hbefore.strip_eq hsource,
    hbehind.strip_eq hword, hkey.allBlank_eq_false hname hne, hbefore.allBlank_eq_false hsource hne',
    hbehind.allBlank_eq_false hword hwordne⟩

/-! ## The main statement -/

lemma readDerivation_eq_ok_iff :
    readDerivation a = .ok rule ↔ ∃ name source style, Describes a name source style ∧
      rule = .ofStyle name source style (style.name ++ " case of " ++ source) := by
  constructor
  · intro h
    obtain ⟨name, source, style, hdescribes⟩ | ⟨e, hflaw⟩ := describes_or_flaw a
    · rw [hdescribes.readDerivation_eq] at h
      cases h
      exact ⟨name, source, style, hdescribes, rfl⟩
    · rw [hflaw.readDerivation_eq] at h
      cases h
  · rintro ⟨name, source, style, hdescribes, rfl⟩
    exact hdescribes.readDerivation_eq

lemma readDerivation_eq_error_iff : readDerivation a = .error e ↔ ArgumentFlaw a e := by
  constructor
  · intro h
    obtain ⟨name, source, style, hdescribes⟩ | ⟨e', hflaw⟩ := describes_or_flaw a
    · rw [hdescribes.readDerivation_eq] at h
      cases h
    · rw [hflaw.readDerivation_eq] at h
      cases h
      exact hflaw
  · exact ArgumentFlaw.readDerivation_eq

/-- **Arguments describe rules by exactly their grammar.**  An argument is read as a rule when it
describes one, and then the rule has the name and the single source that are described and gives what
the style makes of the value of the source.  Otherwise the argument is refused for its flaw.  The parts
of a rule that are put together with any padding are read back as they are. -/
theorem readDerivation_grammar (text : Text) :
    (∀ rule, readDerivation text = .ok rule ↔ ∃ name source style, Describes text name source style ∧
      rule = .ofStyle name source style (style.name ++ " case of " ++ source)) ∧
    (∀ name source style, Describes text name source style → ∃ rule, readDerivation text = .ok rule ∧
      rule.name = name ∧ rule.inputs = [source] ∧ ∀ (values : Table Text) value,
        values.get? source = some value → rule.apply values = .ok (style.apply value)) ∧
    (∀ e, readDerivation text = .error e ↔ ArgumentFlaw text e) ∧
    ((¬ ∃ name source style, Describes text name source style) → ∃ e, readDerivation text = .error e) ∧
    ∀ name source style key before behind, strip name = name → name ≠ [] → '=' ∉ name →
      strip source = source → source ≠ [] → ':' ∉ source → Padded name key → Padded source before →
      Padded (Style.name style) behind → text = key ++ '=' :: (before ++ ':' :: behind) →
      readDerivation text = .ok (.ofStyle name source style (style.name ++ " case of " ++ source)) := by
  refine ⟨fun rule => readDerivation_eq_ok_iff, ?applied, fun e => readDerivation_eq_error_iff, ?refused,
    ?padded⟩
  case applied =>
    intro name source style h
    exact ⟨_, h.readDerivation_eq, rfl, rfl, fun values value => Rule.apply_ofStyle⟩
  case refused =>
    intro h
    obtain ⟨e, hflaw⟩ := (describes_or_flaw text).resolve_left h
    exact ⟨e, hflaw.readDerivation_eq⟩
  case padded =>
    rintro name source style key before behind hname hne hplain hsource hne' hplain' hk hb hw rfl
    exact (describes_of_padded hname hne hplain hsource hne' hplain' hk hb hw).readDerivation_eq

/-- A source may hold an equals sign, and blanks of any kind are padding; a word that goes on behind
another colon is no style. -/
theorem readDerivation_css :
    readDerivation "\xa0css = a=b\t:\u2003kebab\n" =
      .ok (.ofStyle "css" "a=b" .kebab "kebab case of a=b") ∧
    (∃ rule, readDerivation "\xa0css = a=b\t:\u2003kebab\n" = .ok rule ∧ rule.name = "css" ∧
      rule.inputs = ["a=b".toList] ∧
      rule.apply (.ofList [("a=b".toList, "UserCard".toList)]) = .ok "user-card") ∧
    readDerivation "css=a:kebab:b" = .error (.unknownStyle ⟨"kebab:b"⟩) ∧
    ∃ e, readDerivation "css=a" = .error e := by
  have hkey : Padded "css" "\xa0css " := ⟨"\xa0", " ", by decide, by decide, by decide⟩
  have hbefore : Padded "a=b" " a=b\t" := ⟨" ", "\t", by decide, by decide, by decide⟩
  have hbehind : Padded (Style.name .kebab) "\u2003kebab\n" :=
    ⟨"\u2003", "\n", by decide, by decide, by decide⟩
  obtain ⟨-, happlied, -, -, hpadded⟩ := readDerivation_grammar "\xa0css = a=b\t:\u2003kebab\n"
  have hdescribes : Describes "\xa0css = a=b\t:\u2003kebab\n" "css" "a=b" .kebab :=
    describes_of_padded (by decide) (by decide) (by decide) (by decide) (by decide) (by decide) hkey
      hbefore hbehind
  obtain ⟨rule, hread, hname, hinputs, happly⟩ := happlied _ _ _ hdescribes
  have hstyled : Style.apply .kebab "UserCard" = "user-card" := by decide +kernel
  refine ⟨hpadded "css" "a=b" .kebab _ _ _ (by decide) (by decide) (by decide) (by decide) (by decide)
    (by decide) hkey hbefore hbehind rfl, ⟨rule, hread, hname, hinputs, ?_⟩, ?_, ?_⟩
  · rw [happly _ "UserCard" (by decide), hstyled]
  · have hcut : IsCut "css=a:kebab:b" "css" "a" "kebab:b" := ⟨by decide, by decide, by decide⟩
    have hunknown : ∀ style : Style, style.name ≠ strip "kebab:b" := by
      intro style
      cases style <;> decide
    exact ((readDerivation_grammar _).2.2.1 _).2
      (.style hcut (by decide) (by decide) (by decide) hunknown)
  · apply (readDerivation_grammar "css=a").2.2.2.1
    rintro ⟨name, source, style, key, before, behind, hcut, -⟩
    have hcolon : ':' ∈ "css=a".toList := by
      rw [hcut.eq]
      simp
    exact absurd hcolon (by decide)

end CommandLine

end Formwork
