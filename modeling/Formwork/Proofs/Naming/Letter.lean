import Formwork.Naming
import Formwork.Proofs.Text.Words
import Mathlib.Data.Nat.Bitwise

/-!
# Letters that a case map gives

A name in one style is written again in the same or in another style, so a case map meets its own
images.  Two facts carry what is said of names for all scripts: an image of a case map is its own image,
and a case map gives no separator that was not there (`IsCaseMap.self_of_mem`,
`IsCaseMap.isSeparator_of_mem`).  Both are about tables of some fourteen hundred letters, and both say
that no image is among certain characters: those that the map changes, and the separators.

Such sets are given by the numbers of their characters.  To compare them, a set becomes the binary
number with ones at the places that belong to it (`bits`), so that two of them are apart when the
conjunction of the numbers is zero.  This is one operation on long numbers in place of a million on
short ones.

Within ASCII the maps are those of the alphabet: capitals and small letters go in pairs (`IsLetterPair`),
and nothing else changes.
-/

namespace Formwork

namespace Text

open Letter

/-! ## Sets of numbers -/

namespace Letter

/-- The binary number with ones at the given places. -/
def bits (ns : List Nat) : Nat := ns.foldr (fun n b => 1 <<< n ||| b) 0

lemma testBit_bits {ns : List Nat} {n : Nat} : (bits ns).testBit n = true ↔ n ∈ ns := by
  induction ns with
  | nil => simp [bits]
  | cons m ns ih =>
    have hcons : bits (m :: ns) = 1 <<< m ||| bits ns := rfl
    rw [hcons, Nat.testBit_or, Bool.or_eq_true, ih, Nat.one_shiftLeft, Nat.testBit_two_pow,
      decide_eq_true_eq, List.mem_cons, eq_comm]

/-- Two sets have no number in common when their binary numbers have no place in common. -/
lemma not_mem_of_bits {ms ns : List Nat} (h : bits ms &&& bits ns = 0) {n : Nat} (hn : n ∈ ms) :
    n ∉ ns := by
  intro hmem
  have hbit : (bits ms &&& bits ns).testBit n = true := by
    rw [Nat.testBit_and, testBit_bits.2 hn, testBit_bits.2 hmem]
    rfl
  rw [h, Nat.zero_testBit] at hbit
  exact Bool.false_ne_true hbit

/-! ## The numbers in a run -/

/-- The numbers of the characters that the run holds. -/
def Run.members (r : Run) : List Nat :=
  (List.range ((r.last - r.first) / r.step + 1)).map (r.first + r.step * ·)

/-- The numbers of the characters that the run moves these to. -/
def Run.images (r : Run) : List Nat := r.members.map fun (n : Nat) => (n + r.shift).toNat

lemma Run.mem_members_of_holds {r : Run} {n : Nat} (h : r.holds n = true) : n ∈ r.members := by
  simp only [Run.holds, Bool.and_eq_true, decide_eq_true_eq, beq_iff_eq] at h
  obtain ⟨⟨hfirst, hlast⟩, hstep⟩ := h
  refine List.mem_map.2 ⟨(n - r.first) / r.step, List.mem_range.2 ?_, ?_⟩
  · exact Nat.lt_succ_of_le (Nat.div_le_div_right (Nat.sub_le_sub_right hlast _))
  · rw [Nat.mul_div_cancel' (Nat.dvd_of_mod_eq_zero hstep)]
    omega

/-- A number that is no character stands for the character zero. -/
lemma toNat_ofNat_eq (n : Nat) : (Char.ofNat n).toNat = n ∨ (Char.ofNat n).toNat = 0 := by
  by_cases hn : n.isValidChar
  · have hchar : Char.ofNat n = Char.ofNatAux n hn := dif_pos hn
    rw [hchar]
    exact .inl rfl
  · have hchar : Char.ofNat n = '\x00' := dif_neg hn
    rw [hchar]
    exact .inr rfl

lemma lookup?_eq_none {runs : List Run} {c : Char} (h : c.toNat ∉ runs.flatMap Run.members) :
    lookup? runs c = none := by
  cases hd : lookup? runs c with
  | none => rfl
  | some d =>
    obtain ⟨r, hr, himage⟩ := exists_run_of_lookup? hd
    unfold Run.image? at himage
    split at himage
    · rename_i hholds
      exact absurd (List.mem_flatMap.2 ⟨r, hr, Run.mem_members_of_holds hholds⟩) h
    · cases himage

lemma toNat_mem_of_lookup? {runs : List Run} {c d : Char} (h : lookup? runs c = some d) :
    d.toNat ∈ 0 :: runs.flatMap Run.images := by
  obtain ⟨r, hr, himage⟩ := exists_run_of_lookup? h
  unfold Run.image? at himage
  split at himage
  · rename_i hholds
    cases himage
    rcases toNat_ofNat_eq (c.toNat + r.shift).toNat with hn | hn
    · have hmem : (c.toNat + r.shift).toNat ∈ r.images :=
        List.mem_map.2 ⟨c.toNat, Run.mem_members_of_holds hholds, rfl⟩
      rw [hn]
      exact List.mem_cons_of_mem _ (List.mem_flatMap.2 ⟨r, hr, hmem⟩)
    · rw [hn]
      exact List.mem_cons_self
  · cases himage

/-- The numbers of the separators. -/
def separatorNumbers : List Nat :=
  0x2d :: 0x5f :: blankRanges.flatMap fun r => (Run.mk r.1 r.2 1 0).members

lemma toNat_mem_separatorNumbers {c : Char} (h : isSeparator c = true) :
    c.toNat ∈ separatorNumbers := by
  simp only [isSeparator, Bool.or_eq_true, beq_iff_eq] at h
  rcases h with (rfl | rfl) | h
  · exact List.mem_cons_self
  · exact List.mem_cons_of_mem _ List.mem_cons_self
  · obtain ⟨r, hr, hrange⟩ := List.any_eq_true.1 h
    have hmem : c.toNat ∈ (Run.mk r.1 r.2 1 0).members :=
      Run.mem_members_of_holds (by simpa [Run.holds, Nat.mod_one] using hrange)
    exact List.mem_cons_of_mem _ (List.mem_cons_of_mem _ (List.mem_flatMap.2 ⟨r, hr, hmem⟩))

/-! ## Case maps -/

/-- A map of characters to texts that leaves alone all but some characters, and sends these to
characters of its own that are apart from them and from the separators.  The two sets are given by
numbers. -/
structure IsCaseMap (f : Char → Text) (changed images : List Nat) : Prop where
  same : ∀ c : Char, c.toNat ∉ changed → f c = [c]
  image : ∀ c : Char, f c = [c] ∨ f c ≠ [] ∧ ∀ d ∈ f c, d.toNat ∈ images
  apart : bits images &&& bits (changed ++ separatorNumbers) = 0

namespace IsCaseMap

variable {f : Char → Text} {changed images : List Nat} {c d : Char}

lemma ne_nil (hf : IsCaseMap f changed images) (c : Char) : f c ≠ [] := by
  rcases hf.image c with hc | ⟨hc, -⟩
  · rw [hc]
    exact List.cons_ne_nil c []
  · exact hc

/-- An image is its own image. -/
lemma self_of_mem (hf : IsCaseMap f changed images) (h : d ∈ f c) : f d = [d] := by
  rcases hf.image c with hc | ⟨-, hc⟩
  · rw [hc, List.mem_singleton] at h
    rw [h, hc]
  · refine hf.same d fun hmem => ?_
    exact not_mem_of_bits hf.apart (hc d h) (List.mem_append_left _ hmem)

/-- Separators do not come from other characters. -/
lemma isSeparator_of_mem (hf : IsCaseMap f changed images) (h : d ∈ f c)
    (hc : isSeparator c = false) : isSeparator d = false := by
  rcases hf.image c with hself | ⟨-, himage⟩
  · rw [hself, List.mem_singleton] at h
    rw [h, hc]
  · rw [← Bool.not_eq_true]
    intro hd
    exact not_mem_of_bits hf.apart (himage d h)
      (List.mem_append_right _ (toNat_mem_separatorNumbers hd))

end IsCaseMap

/-- The characters that have a small form other than themselves. -/
def smallChanged : List Nat :=
  dottedI.toNat :: capitalSigma.toNat :: smallRuns.flatMap Run.members

/-- The small forms of these, the one for the end of a word among them. -/
def smallImages : List Nat :=
  [0x69, 0x307, 0x3c3, 0x3c2] ++ 0 :: smallRuns.flatMap Run.images

/-- The characters that have a capital form other than themselves. -/
def capitalChanged : List Nat := wideCapitals.map (·.1) ++ capitalRuns.flatMap Run.members

/-- The capital forms of these. -/
def capitalImages : List Nat := wideCapitals.flatMap (·.2) ++ 0 :: capitalRuns.flatMap Run.images

end Letter

lemma isCaseMap_smallOf : IsCaseMap smallOf smallChanged smallImages where
  same c hc := by
    simp only [smallChanged, List.mem_cons, not_or] at hc
    obtain ⟨hdotted, hsigma, hruns⟩ := hc
    unfold smallOf
    rw [if_neg fun h => hdotted (congrArg _ h), if_neg fun h => hsigma (congrArg _ h),
      lookup?_eq_none hruns, Option.getD_none]
  image c := by
    have hown : ∀ n ∈ [0x69, 0x307, 0x3c3, 0x3c2], n ∈ smallImages := fun n hn => by
      rw [smallImages, List.mem_append]
      exact .inl hn
    unfold smallOf
    split
    · have hdotted : ∀ d ∈ ['i', '\u0307'], d.toNat ∈ [0x69, 0x307, 0x3c3, 0x3c2] := by simp
      exact .inr ⟨by simp, fun d hd => hown d.toNat (hdotted d hd)⟩
    split
    · have hsigma : ∀ d ∈ ['σ'], d.toNat ∈ [0x69, 0x307, 0x3c3, 0x3c2] := by simp
      exact .inr ⟨by simp, fun d hd => hown d.toNat (hsigma d hd)⟩
    cases hd : lookup? smallRuns c with
    | none => exact .inl rfl
    | some d =>
      have hmem : d.toNat ∈ smallImages := List.mem_append_right _ (toNat_mem_of_lookup? hd)
      exact .inr ⟨by simp, by simpa using hmem⟩
  apart := by decide +kernel

lemma isCaseMap_capitalOf : IsCaseMap capitalOf capitalChanged capitalImages where
  same c hc := by
    simp only [capitalChanged, List.mem_append, not_or] at hc
    obtain ⟨hwide, hruns⟩ := hc
    have hfind : wideCapitals.find? (·.1 == c.toNat) = none := by
      rw [List.find?_eq_none]
      intro w hw heq
      exact hwide (List.mem_map.2 ⟨w, hw, eq_of_beq heq⟩)
    unfold capitalOf
    rw [hfind, lookup?_eq_none hruns]
    rfl
  image c := by
    unfold capitalOf
    cases hfind : wideCapitals.find? (·.1 == c.toNat) with
    | some w =>
      have hw := List.mem_of_find?_eq_some hfind
      refine .inr ⟨?_, fun d hd => ?_⟩
      · have hne : ∀ w ∈ wideCapitals, w.2 ≠ [] := by decide +kernel
        simpa using hne w hw
      · obtain ⟨n, hn, rfl⟩ := List.mem_map.1 hd
        have hmem : n ∈ wideCapitals.flatMap (·.2) := List.mem_flatMap.2 ⟨w, hw, hn⟩
        rcases toNat_ofNat_eq n with h | h
        · rw [h]
          exact List.mem_append_left _ hmem
        · rw [h]
          exact List.mem_append_right _ List.mem_cons_self
    | none =>
      cases hd : lookup? capitalRuns c with
      | none => exact .inl rfl
      | some d =>
        have hmem : d.toNat ∈ capitalImages := List.mem_append_right _ (toNat_mem_of_lookup? hd)
        exact .inr ⟨by simp, by simpa using hmem⟩
  apart := by decide +kernel

end Text

/-! ## Letters of ASCII -/

open Text Text.Letter

variable {c d : Char}

lemma isSeparator_eq_false_iff :
    isSeparator c = false ↔ isBlank c = false ∧ c ≠ '-' ∧ c ≠ '_' := by
  simp [isSeparator, and_comm, and_assoc]

lemma isBlank_eq_false (h : isSeparator c = false) : isBlank c = false :=
  (isSeparator_eq_false_iff.1 h).1

lemma isCapital_iff : isCapital c = true ↔ 0x41 ≤ c.toNat ∧ c.toNat ≤ 0x5a := by
  simp only [isCapital, Bool.and_eq_true, decide_eq_true_eq, Char.le_def, UInt32.le_iff_toNat_le]
  rfl

lemma isSmall_iff : isSmall c = true ↔ 0x61 ≤ c.toNat ∧ c.toNat ≤ 0x7a := by
  simp only [isSmall, Bool.and_eq_true, decide_eq_true_eq, Char.le_def, UInt32.le_iff_toNat_le]
  rfl

lemma isSmallOrDigit_iff :
    isSmallOrDigit c = true ↔ isSmall c = true ∨ 0x30 ≤ c.toNat ∧ c.toNat ≤ 0x39 := by
  simp only [isSmallOrDigit, Bool.or_eq_true, Bool.and_eq_true, decide_eq_true_eq, Char.le_def,
    UInt32.le_iff_toNat_le]
  rfl

/-- A capital and the small letter that goes with it. -/
structure IsLetterPair (capital small : Char) : Prop where
  isCapital : isCapital capital = true
  isSmall : isSmall small = true
  smallOf : smallOf capital = [small]
  capitalOf : capitalOf small = [capital]

lemma isLetterPair : ∀ n < 26, IsLetterPair (Char.ofNat (0x41 + n)) (Char.ofNat (0x61 + n)) := by
  have hall : ∀ n < 26, isCapital (Char.ofNat (0x41 + n)) = true ∧
      isSmall (Char.ofNat (0x61 + n)) = true ∧
      smallOf (Char.ofNat (0x41 + n)) = [Char.ofNat (0x61 + n)] ∧
      capitalOf (Char.ofNat (0x61 + n)) = [Char.ofNat (0x41 + n)] := by
    decide +kernel
  intro n hn
  obtain ⟨hcapital, hsmall, hdown, hup⟩ := hall n hn
  exact ⟨hcapital, hsmall, hdown, hup⟩

lemma exists_small_of_isCapital (h : isCapital c = true) : ∃ d, IsLetterPair c d := by
  obtain ⟨hlow, hhigh⟩ := isCapital_iff.1 h
  have hpair := isLetterPair (c.toNat - 0x41) (by omega)
  rw [show 0x41 + (c.toNat - 0x41) = c.toNat by omega, Char.ofNat_toNat] at hpair
  exact ⟨_, hpair⟩

lemma exists_capital_of_isSmall (h : isSmall c = true) : ∃ d, IsLetterPair d c := by
  obtain ⟨hlow, hhigh⟩ := isSmall_iff.1 h
  have hpair := isLetterPair (c.toNat - 0x61) (by omega)
  rw [show 0x61 + (c.toNat - 0x61) = c.toNat by omega, Char.ofNat_toNat] at hpair
  exact ⟨_, hpair⟩

lemma isCapital_eq_false_of_isSmallOrDigit (h : isSmallOrDigit c = true) : isCapital c = false := by
  rw [← Bool.not_eq_true, isCapital_iff]
  rw [isSmallOrDigit_iff, isSmall_iff] at h
  omega

/-- What is its own small form is no capital. -/
lemma isCapital_eq_false_of_smallOf (h : smallOf c = [c]) : isCapital c = false := by
  rw [← Bool.not_eq_true]
  intro hcapital
  obtain ⟨d, hpair⟩ := exists_small_of_isCapital hcapital
  have hsmall := hpair.isSmall
  rw [← List.singleton_inj.1 (h.symm.trans hpair.smallOf)] at hsmall
  rw [isCapital_iff] at hcapital
  rw [isSmall_iff] at hsmall
  omega

/-- Within ASCII, only capitals have a small form other than themselves. -/
lemma smallOf_of_ascii (hc : c.toNat < 0x80) (hcapital : isCapital c = false) : smallOf c = [c] := by
  have hchanged : ∀ n ∈ smallChanged, 0x80 ≤ n ∨ 0x41 ≤ n ∧ n ≤ 0x5a := by decide +kernel
  refine isCaseMap_smallOf.same c fun hmem => ?_
  rcases hchanged _ hmem with h | h
  · omega
  · rw [isCapital_iff.2 h] at hcapital
    cases hcapital

lemma smallOf_of_isSmallOrDigit (h : isSmallOrDigit c = true) : smallOf c = [c] := by
  refine smallOf_of_ascii ?_ (isCapital_eq_false_of_isSmallOrDigit h)
  rw [isSmallOrDigit_iff, isSmall_iff] at h
  omega

/-- Letters and digits of ASCII are no separators. -/
lemma isSeparator_eq_false (h : isCapital c = true ∨ isSmallOrDigit c = true) :
    isSeparator c = false := by
  have hnumbers : ∀ n ∈ separatorNumbers, n < 0x30 ∨ n = 0x5f ∨ 0x7a < n := by decide +kernel
  rw [← Bool.not_eq_true]
  intro hc
  have hrange := hnumbers _ (toNat_mem_separatorNumbers hc)
  rw [isCapital_iff, isSmallOrDigit_iff, isSmall_iff] at h
  omega

end Formwork
