import Formwork.Encoding.Coding
import Formwork.Proofs.Encoding.Utf8

/-!
# Line ends

The line ends of a text that is read are made uniform.  This loses carriage returns and nothing else
(`uniformLines_eq_self_iff`), and so the text of a file in UTF-8 has the bytes of the file exactly when
there is no carriage return among them (`Encoding.encodeUtf8_uniformLines_eq_iff`).  The other way
round, a text without carriage returns is read as it was written
(`Encoding.decodeLines_encodeUtf8`).
-/

namespace Formwork

variable {s : Text}

lemma uniformLines_cons_of_ne {c : Char} (h : c ≠ '\r') (s : Text) :
    uniformLines (c :: s) = c :: uniformLines s := by
  rw [uniformLines.eq_def]
  dsimp only
  rw [if_neg h]

/-- A carriage return becomes a newline, or the newline behind it stands for both. -/
lemma uniformLines_cons_return (s : Text) :
    (∃ r, s = '\n' :: r ∧ uniformLines ('\r' :: s) = uniformLines s) ∨
      uniformLines ('\r' :: s) = '\n' :: uniformLines s := by
  rw [uniformLines.eq_def]
  dsimp only
  rw [if_pos rfl]
  split
  · exact .inl ⟨_, rfl, rfl⟩
  · exact .inr rfl

lemma carriageReturn_not_mem_uniformLines (s : Text) : '\r' ∉ uniformLines s := by
  induction s with
  | nil => exact List.not_mem_nil
  | cons c s ih =>
    by_cases hc : c = '\r'
    · subst hc
      rcases uniformLines_cons_return s with ⟨_, -, he⟩ | he <;> rw [he]
      · exact ih
      · simp [ih]
    · have hc' : '\r' ≠ c := fun h => hc h.symm
      rw [uniformLines_cons_of_ne hc]
      simp [hc', ih]

lemma uniformLines_of_not_mem (h : '\r' ∉ s) : uniformLines s = s := by
  induction s with
  | nil => rfl
  | cons c s ih =>
    rw [List.mem_cons, not_or] at h
    rw [uniformLines_cons_of_ne (fun hc => h.1 hc.symm), ih h.2]

/-- Line ends are uniform when there are no carriage returns. -/
theorem uniformLines_eq_self_iff : uniformLines s = s ↔ '\r' ∉ s :=
  ⟨fun h => h ▸ carriageReturn_not_mem_uniformLines s, uniformLines_of_not_mem⟩

/-- The first character is kept, unless it ends a line. -/
lemma head?_uniformLines (s : Text) :
    (uniformLines s).head? = s.head?.map fun c => if c = '\r' then '\n' else c := by
  cases s with
  | nil => rfl
  | cons c s =>
    by_cases hc : c = '\r'
    · subst hc
      rcases uniformLines_cons_return s with ⟨r, rfl, he⟩ | he <;> rw [he]
      · rw [uniformLines_cons_of_ne (by decide)]
        rfl
      · rfl
    · rw [uniformLines_cons_of_ne hc]
      simp [hc]

namespace Encoding

/-- The text of a file has the bytes of the file exactly when there is no carriage return among
them. -/
lemma encodeUtf8_uniformLines_eq_iff {bytes : Bytes} (h : decodeUtf8 bytes = .ok s) :
    encodeUtf8 (uniformLines s) = bytes ↔ 0x0d ∉ bytes := by
  have hreturn : ∀ t : Text, 0x0d ∈ encodeUtf8 t ↔ '\r' ∈ t := by
    intro t
    rw [mem_encodeUtf8_iff (by decide)]
    constructor
    · rintro ⟨c, hc, he⟩
      rwa [show c = '\r' from Char.ext (UInt32.toNat.inj he)] at hc
    · exact fun hc => ⟨'\r', hc, rfl⟩
  rw [← encodeUtf8_of_decodeUtf8 h, hreturn]
  constructor
  · intro he hin
    rw [← hreturn, ← he, hreturn] at hin
    exact carriageReturn_not_mem_uniformLines s hin
  · intro hnone
    rw [uniformLines_of_not_mem hnone]

/-- A text without carriage returns is read as it was written. -/
theorem decodeLines_encodeUtf8 (h : '\r' ∉ s) : utf8.decodeLines (encodeUtf8 s) = .ok s := by
  show (decodeUtf8 (encodeUtf8 s)).map uniformLines = .ok s
  rw [decodeUtf8_encodeUtf8]
  show Except.ok (uniformLines s) = .ok s
  rw [uniformLines_of_not_mem h]

end Encoding

end Formwork
