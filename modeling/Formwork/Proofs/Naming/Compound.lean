import Formwork.Proofs.Naming.Lower

/-!
# Names that are written as one word

The joined styles look at separators only, and they leave none behind.  So such a name is one word, and
to write it in a joined style again can change its first letter at most.  That letter is an image of the
map to capitals, which is its own image, hence nothing changes (`capitalised_pascal`).

The way back from a small first letter is another matter.  The first letter of a word may become several
capitals, of which only one is written small again, and a capital may have a small form that is several
characters or has another capital.  Within ASCII neither happens, and this is the condition of the second
half of `compound_stable`.
-/

namespace Formwork.Naming

open Text

variable {v : Text} {c : Char}

/-! ## One word -/

lemma strip_of_noSeparator {s : Text} (hs : ∀ c ∈ s, isSeparator c = false) : strip s = s :=
  trim_eq_self fun c hc => isBlank_eq_false (hs c hc)

/-- A text without separators only gets a capital at the beginning. -/
lemma pascal_of_noSeparator {s : Text} (hs : ∀ c ∈ s, isSeparator c = false) :
    pascal s = capitalised s := by
  unfold pascal
  rw [strip_of_noSeparator hs]
  rcases eq_or_ne s [] with rfl | hne
  · rfl
  · rw [words_of_forall hne hs, List.flatMap_singleton]

/-- The joined styles leave no separators. -/
lemma isSeparator_of_mem_pascal (h : c ∈ pascal v) : isSeparator c = false := by
  obtain ⟨w, hw, hc⟩ := List.mem_flatMap.1 h
  have hsep := (forall_mem_words hw).2
  cases w with
  | nil => cases hc
  | cons a r =>
    rcases List.mem_append.1 hc with hc | hc
    · exact isCaseMap_capitalOf.isSeparator_of_mem hc (hsep a List.mem_cons_self)
    · exact hsep c (List.mem_cons_of_mem _ hc)

lemma isSeparator_of_mem_camel (h : c ∈ camel v) : isSeparator c = false := by
  have hname : ∀ e ∈ pascal v, isSeparator e = false := fun e => isSeparator_of_mem_pascal
  unfold camel at h
  cases hv : pascal v with
  | nil =>
    rw [hv] at h
    cases h
  | cons a r =>
    rw [hv] at h hname
    obtain ⟨ha, hr⟩ := List.forall_mem_cons.1 hname
    rcases List.mem_append.1 h with h | h
    · exact isCaseMap_smallOf.isSeparator_of_mem h ha
    · exact hr c h

/-! ## The first letter -/

/-- The first letter of a name is its own capital. -/
lemma capitalOf_of_head?_pascal (h : (pascal v).head? = some c) : capitalOf c = [c] := by
  unfold pascal at h
  cases hwords : words isSeparator (strip v) with
  | nil =>
    rw [hwords] at h
    cases h
  | cons w ws =>
    have hw : w ≠ [] := (forall_mem_words (hwords ▸ List.mem_cons_self)).1
    rw [hwords, List.flatMap_cons] at h
    cases w with
    | nil => exact absurd rfl hw
    | cons a r =>
      rw [capitalised, List.append_assoc,
        List.head?_append_of_ne_nil _ (isCaseMap_capitalOf.ne_nil a)] at h
      exact isCaseMap_capitalOf.self_of_mem (List.mem_of_head? h)

lemma capitalised_pascal (v : Text) : capitalised (pascal v) = pascal v := by
  cases hname : pascal v with
  | nil => rfl
  | cons c r =>
    have hc : (pascal v).head? = some c := by rw [hname, List.head?_cons]
    rw [capitalised, capitalOf_of_head?_pascal hc]
    rfl

lemma pascal_pascal (v : Text) : pascal (pascal v) = pascal v := by
  rw [pascal_of_noSeparator fun c => isSeparator_of_mem_pascal, capitalised_pascal]

/-- The two joined styles differ in the first letter only. -/
lemma camel_congr {w : Text} (h : pascal v = pascal w) : camel v = camel w := by
  rw [camel, camel, h]

/-- Within ASCII, what is its own capital has one small form, from which it comes back. -/
lemma exists_smallOf_of_ascii (hc : c.toNat < 0x80) (hcapital : capitalOf c = [c]) :
    ∃ d, smallOf c = [d] ∧ capitalOf d = [c] := by
  cases h : isCapital c with
  | true =>
    obtain ⟨d, hpair⟩ := exists_small_of_isCapital h
    exact ⟨d, hpair.smallOf, hpair.capitalOf⟩
  | false => exact ⟨c, smallOf_of_ascii hc h, hcapital⟩

/-- A small first letter of ASCII becomes the capital that it was. -/
lemma pascal_camel (h : ∀ c ∈ (pascal v).head?, c.toNat < 0x80) : pascal (camel v) = pascal v := by
  cases hname : pascal v with
  | nil =>
    rw [camel, hname]
    rfl
  | cons c r =>
    have hc : (pascal v).head? = some c := by rw [hname, List.head?_cons]
    obtain ⟨d, hsmall, hback⟩ := exists_smallOf_of_ascii (h c hc) (capitalOf_of_head?_pascal hc)
    have hcamel : camel v = d :: r := by
      rw [camel, hname]
      exact congrArg (· ++ r) hsmall
    rw [pascal_of_noSeparator fun e => isSeparator_of_mem_camel, hcamel, capitalised, hback]
    rfl

/-- **Joined names are stable.**  A name with a capital initial has no separators and is written in that
style as it is, and with a small initial as the text itself.  If it is empty or its first letter is one of
ASCII, the name with a small initial keeps its form as well, and it gives back the one with the capital. -/
theorem compound_stable (v : Text) :
    (∀ c ∈ pascal v, isBlank c = false ∧ c ≠ '-' ∧ c ≠ '_') ∧
    pascal (pascal v) = pascal v ∧ camel (pascal v) = camel v ∧
    ((∀ c ∈ (pascal v).head?, c.toNat < 0x80) →
      camel (camel v) = camel v ∧ pascal (camel v) = pascal v) :=
  ⟨fun _ hc => isSeparator_eq_false_iff.1 (isSeparator_of_mem_pascal hc), pascal_pascal v,
    camel_congr (pascal_pascal v), fun h => ⟨camel_congr (pascal_camel h), pascal_camel h⟩⟩

/-- The sharp s becomes two capitals, of which the first is written small. -/
theorem compound_stable_sharp_s :
    pascal "ßa -b" = "SSaB" ∧ (∀ c ∈ (pascal "ßa -b").head?, c.toNat < 0x80) ∧
    camel (camel "ßa -b") = "sSaB" ∧ pascal (camel "ßa -b") = "SSaB" := by
  have hpascal : pascal "ßa -b" = "SSaB" := by decide +kernel
  have hcamel : camel "ßa -b" = "sSaB" := by decide +kernel
  have hascii : ∀ c ∈ (pascal "ßa -b").head?, c.toNat < 0x80 := by
    rw [hpascal]
    intro c hc
    obtain rfl : 'S' = c := by simpa using hc
    decide
  obtain ⟨hsmall, hback⟩ := (compound_stable "ßa -b").2.2.2 hascii
  exact ⟨hpascal, hascii, hsmall.trans hcamel, hback.trans hpascal⟩

/-- Beyond ASCII the small initial may have another capital: the dot is now a mark of its own. -/
example : pascal (camel "İx") ≠ pascal "İx" := by decide +kernel

end Formwork.Naming
