import Formwork.Encoding.Unicode
import Formwork.Proofs.Stages

/-!
# Reading and writing UTF-8

A text that is read in UTF-8 has the bytes that it was read from: there is no second way to spell a
character.  The main statement is `encodeUtf8_of_decodeUtf8`; the other way round, a text is read from the
bytes that it has (`decodeUtf8_encodeUtf8`).

The decoder gathers bits byte by byte, while the encoder takes a character apart at once.  They are
brought together one character at a time (`exists_encodeChar_of_decodeUtf8From`): the first byte says
how many are to come, and what they are gathered to is, by arithmetic, the number of a character that
is taken apart into the same bytes (`encodeChar_two` and those beside it).  The arithmetic needs the
bounds on the second byte.  Without them a character could be spelled in more bytes than it takes, and
the number could be that of no character.
-/

namespace Formwork.Encoding

/-! ## The bytes of a character -/

section Numbers

variable {a b c e : Nat}

lemma toNat_val_ofNat {n : Nat} (h : n.isValidChar) : (Char.ofNat n).val.toNat = n := by
  rw [Char.ofNat, dif_pos h]
  rfl

lemma encodeChar_one (ha : a < 0x80) :
    String.utf8EncodeChar (Char.ofNat a) = [UInt8.ofNat a] := by
  have hvalid : a.isValidChar := .inl (by omega)
  rw [String.utf8EncodeChar, toNat_val_ofNat hvalid, if_pos (by omega)]

lemma encodeChar_two (ha : 0xc2 ≤ a) (ha' : a < 0xe0) (hb : 0x80 ≤ b) (hb' : b ≤ 0xbf) :
    String.utf8EncodeChar (Char.ofNat ((a - 0xc0) * 64 + (b - 0x80))) =
      [UInt8.ofNat a, UInt8.ofNat b] := by
  generalize hn : (a - 0xc0) * 64 + (b - 0x80) = n
  have hvalid : n.isValidChar := .inl (by omega)
  have h1 : n / 64 % 32 + 192 = a := by omega
  have h2 : n % 64 + 128 = b := by omega
  rw [String.utf8EncodeChar, toNat_val_ofNat hvalid, if_neg (by omega), if_pos (by omega), h1, h2]

lemma encodeChar_three (ha : 0xe0 ≤ a) (ha' : a < 0xf0) (hb : 0x80 ≤ b) (hb' : b ≤ 0xbf)
    (hlow : a = 0xe0 → 0xa0 ≤ b) (hhigh : a = 0xed → b ≤ 0x9f) (hc : 0x80 ≤ c) (hc' : c ≤ 0xbf) :
    String.utf8EncodeChar (Char.ofNat (((a - 0xe0) * 64 + (b - 0x80)) * 64 + (c - 0x80))) =
      [UInt8.ofNat a, UInt8.ofNat b, UInt8.ofNat c] := by
  generalize hn : ((a - 0xe0) * 64 + (b - 0x80)) * 64 + (c - 0x80) = n
  have hvalid : n.isValidChar := by
    -- The halves of UTF-16 pairs lie between these.
    rcases Nat.lt_or_ge a 0xee with hbelow | habove
    · exact .inl (by omega)
    · exact .inr ⟨by omega, by omega⟩
  have h1 : n / 4096 % 16 + 224 = a := by omega
  have h2 : n / 64 % 64 + 128 = b := by omega
  have h3 : n % 64 + 128 = c := by omega
  rw [String.utf8EncodeChar, toNat_val_ofNat hvalid, if_neg (by omega), if_neg (by omega),
    if_pos (by omega), h1, h2, h3]

lemma encodeChar_four (ha : 0xf0 ≤ a) (ha' : a < 0xf5) (hb : 0x80 ≤ b) (hb' : b ≤ 0xbf)
    (hlow : a = 0xf0 → 0x90 ≤ b) (hhigh : a = 0xf4 → b ≤ 0x8f) (hc : 0x80 ≤ c) (hc' : c ≤ 0xbf)
    (he : 0x80 ≤ e) (he' : e ≤ 0xbf) :
    String.utf8EncodeChar (Char.ofNat
        ((((a - 0xf0) * 64 + (b - 0x80)) * 64 + (c - 0x80)) * 64 + (e - 0x80))) =
      [UInt8.ofNat a, UInt8.ofNat b, UInt8.ofNat c, UInt8.ofNat e] := by
  generalize hn : (((a - 0xf0) * 64 + (b - 0x80)) * 64 + (c - 0x80)) * 64 + (e - 0x80) = n
  have hvalid : n.isValidChar := .inr ⟨by omega, by omega⟩
  have h1 : n / 262144 % 8 + 240 = a := by omega
  have h2 : n / 4096 % 64 + 128 = b := by omega
  have h3 : n / 64 % 64 + 128 = c := by omega
  have h4 : n % 64 + 128 = e := by omega
  rw [String.utf8EncodeChar, toNat_val_ofNat hvalid, if_neg (by omega), if_neg (by omega),
    if_neg (by omega), h1, h2, h3, h4]

end Numbers

/-! ## Sequences of bytes -/

variable {bytes rest : Bytes} {s : Text} {offset : Nat} {p : Pending} {x : UInt8}

/-- The byte lies between the bounds of the sequence under way. -/
def Pending.Admits (p : Pending) (b : UInt8) : Prop :=
  p.low.toNat ≤ b.toNat ∧ b.toNat ≤ p.high.toNat

/-- The byte can stand in a sequence behind the second place. -/
def IsTail (b : UInt8) : Prop := 0x80 ≤ b.toNat ∧ b.toNat ≤ 0xbf

/-- The sequence with one more byte, if there are others to come. -/
def Pending.after (p : Pending) (b : UInt8) : Pending :=
  ⟨p.start, p.lead, p.extend b, p.remaining - 1, 0x80, 0xbf⟩

lemma isTail_of_admits_after {b c : UInt8} (h : (p.after b).Admits c) : IsTail c := h

/-- A sequence under way goes on with a byte between its bounds. -/
lemma exists_of_decodeUtf8From_some (h : decodeUtf8From (some p) offset bytes = .ok s) :
    ∃ b rest, bytes = b :: rest ∧ p.Admits b ∧
      ((p.remaining ≤ 1 ∧ ∃ following, s = Char.ofNat (p.extend b) :: following ∧
        decodeUtf8From none (offset + 1) rest = .ok following) ∨
      (1 < p.remaining ∧ decodeUtf8From (some (p.after b)) (offset + 1) rest = .ok s)) := by
  cases bytes with
  | nil => cases h
  | cons b rest =>
    rw [decodeUtf8From] at h
    split at h
    · rename_i hbounds
      have hadmits : p.Admits b := by
        simpa [Pending.Admits, UInt8.le_iff_toNat_le] using hbounds
      refine ⟨b, rest, rfl, hadmits, ?_⟩
      split at h
      · rename_i hlast
        obtain ⟨following, hrest, rfl⟩ := Except.map_eq_ok_iff.1 h
        exact .inl ⟨hlast, following, rfl, hrest⟩
      · rename_i hmore
        exact .inr ⟨Nat.lt_of_not_le hmore, h⟩
    · cases h

lemma exists_of_remaining_one (hp : p.remaining = 1)
    (h : decodeUtf8From (some p) offset bytes = .ok s) :
    ∃ b rest following offset', bytes = b :: rest ∧ p.Admits b ∧
      s = Char.ofNat (p.bits * 64 + (b.toNat - 0x80)) :: following ∧
      decodeUtf8From none offset' rest = .ok following := by
  obtain ⟨b, rest, rfl, hb, ⟨-, following, rfl, hrest⟩ | ⟨hmore, -⟩⟩ :=
    exists_of_decodeUtf8From_some h
  · exact ⟨b, rest, following, _, rfl, hb, rfl, hrest⟩
  · omega

lemma exists_of_remaining_two (hp : p.remaining = 2)
    (h : decodeUtf8From (some p) offset bytes = .ok s) :
    ∃ b c rest following offset', bytes = b :: c :: rest ∧ p.Admits b ∧ IsTail c ∧
      s = Char.ofNat ((p.bits * 64 + (b.toNat - 0x80)) * 64 + (c.toNat - 0x80)) :: following ∧
      decodeUtf8From none offset' rest = .ok following := by
  obtain ⟨b, rest, rfl, hb, ⟨hlast, -⟩ | ⟨-, h⟩⟩ := exists_of_decodeUtf8From_some h
  · omega
  have hremaining : (p.after b).remaining = 1 := by simp [Pending.after, hp]
  obtain ⟨c, rest, following, offset', rfl, hc, rfl, hrest⟩ := exists_of_remaining_one hremaining h
  exact ⟨b, c, rest, following, offset', rfl, hb, isTail_of_admits_after hc, rfl, hrest⟩

lemma exists_of_remaining_three (hp : p.remaining = 3)
    (h : decodeUtf8From (some p) offset bytes = .ok s) :
    ∃ b c e rest following offset', bytes = b :: c :: e :: rest ∧ p.Admits b ∧ IsTail c ∧
      IsTail e ∧ s = Char.ofNat (((p.bits * 64 + (b.toNat - 0x80)) * 64 + (c.toNat - 0x80)) * 64 +
        (e.toNat - 0x80)) :: following ∧
      decodeUtf8From none offset' rest = .ok following := by
  obtain ⟨b, rest, rfl, hb, ⟨hlast, -⟩ | ⟨-, h⟩⟩ := exists_of_decodeUtf8From_some h
  · omega
  have hremaining : (p.after b).remaining = 2 := by simp [Pending.after, hp]
  obtain ⟨c, e, rest, following, offset', rfl, hc, he, rfl, hrest⟩ :=
    exists_of_remaining_two hremaining h
  exact ⟨b, c, e, rest, following, offset', rfl, hb, isTail_of_admits_after hc, he, rfl, hrest⟩

/-- A byte that begins a sequence says how many bytes are to come, and between which bounds the next
one must lie. -/
lemma ofLead?_cases (h : Pending.ofLead? offset x = some p) :
    (0xc2 ≤ x.toNat ∧ x.toNat < 0xe0 ∧ p.remaining = 1 ∧ p.bits = x.toNat - 0xc0 ∧
      p.low = 0x80 ∧ p.high = 0xbf) ∨
    (0xe0 ≤ x.toNat ∧ x.toNat < 0xf0 ∧ p.remaining = 2 ∧ p.bits = x.toNat - 0xe0 ∧
      p.low = (if x.toNat = 0xe0 then 0xa0 else 0x80) ∧
      p.high = if x.toNat = 0xed then 0x9f else 0xbf) ∨
    (0xf0 ≤ x.toNat ∧ x.toNat < 0xf5 ∧ p.remaining = 3 ∧ p.bits = x.toNat - 0xf0 ∧
      p.low = (if x.toNat = 0xf0 then 0x90 else 0x80) ∧
      p.high = if x.toNat = 0xf4 then 0x8f else 0xbf) := by
  unfold Pending.ofLead? at h
  simp only [UInt8.lt_iff_toNat_lt, UInt8.reduceToNat, ← UInt8.toNat_inj] at h
  split at h
  · cases h
  split at h
  · cases h
    refine .inl ?_
    simp
    omega
  split at h
  · cases h
    refine .inr (.inl ?_)
    simp
    omega
  split at h
  · cases h
    refine .inr (.inr ?_)
    simp
    omega
  · cases h

/-- A text that is read begins with the character whose bytes stand first. -/
lemma exists_encodeChar_of_decodeUtf8From
    (h : decodeUtf8From none offset (x :: rest) = .ok s) :
    ∃ char following offset' rest', s = char :: following ∧
      x :: rest = String.utf8EncodeChar char ++ rest' ∧
      decodeUtf8From none offset' rest' = .ok following := by
  rw [decodeUtf8From] at h
  split at h
  · rename_i hascii
    have hx : x.toNat < 0x80 := by simpa [UInt8.lt_iff_toNat_lt] using hascii
    obtain ⟨following, hrest, rfl⟩ := Except.map_eq_ok_iff.1 h
    refine ⟨_, following, _, rest, rfl, ?_, hrest⟩
    rw [encodeChar_one hx, UInt8.ofNat_toNat]
    rfl
  cases hlead : Pending.ofLead? offset x with
  | none =>
    rw [hlead] at h
    cases h
  | some p =>
    rw [hlead] at h
    rcases ofLead?_cases hlead with ⟨hx, hx', hremaining, hbits, hlow, hhigh⟩ |
      ⟨hx, hx', hremaining, hbits, hlow, hhigh⟩ | ⟨hx, hx', hremaining, hbits, hlow, hhigh⟩
    · obtain ⟨b, rest, following, offset', rfl, hb, rfl, hrest⟩ :=
        exists_of_remaining_one hremaining h
      simp only [Pending.Admits, hlow, hhigh, UInt8.reduceToNat] at hb
      have hbytes := encodeChar_two hx hx' hb.1 hb.2
      simp only [UInt8.ofNat_toNat] at hbytes
      exact ⟨_, following, offset', rest, rfl, by rw [hbits, hbytes]; rfl, hrest⟩
    · obtain ⟨b, c, rest, following, offset', rfl, hb, hc, rfl, hrest⟩ :=
        exists_of_remaining_two hremaining h
      obtain ⟨hb, hb', hfirst, hlast⟩ : 0x80 ≤ b.toNat ∧ b.toNat ≤ 0xbf ∧
          (x.toNat = 0xe0 → 0xa0 ≤ b.toNat) ∧ (x.toNat = 0xed → b.toNat ≤ 0x9f) := by
        simp only [Pending.Admits, hlow, hhigh] at hb
        split at hb <;> split at hb <;> simp at hb <;> omega
      have hbytes := encodeChar_three hx hx' hb hb' hfirst hlast hc.1 hc.2
      simp only [UInt8.ofNat_toNat] at hbytes
      exact ⟨_, following, offset', rest, rfl, by rw [hbits, hbytes]; rfl, hrest⟩
    · obtain ⟨b, c, e, rest, following, offset', rfl, hb, hc, he, rfl, hrest⟩ :=
        exists_of_remaining_three hremaining h
      obtain ⟨hb, hb', hfirst, hlast⟩ : 0x80 ≤ b.toNat ∧ b.toNat ≤ 0xbf ∧
          (x.toNat = 0xf0 → 0x90 ≤ b.toNat) ∧ (x.toNat = 0xf4 → b.toNat ≤ 0x8f) := by
        simp only [Pending.Admits, hlow, hhigh] at hb
        split at hb <;> split at hb <;> simp at hb <;> omega
      have hbytes := encodeChar_four hx hx' hb hb' hfirst hlast hc.1 hc.2 he.1 he.2
      simp only [UInt8.ofNat_toNat] at hbytes
      exact ⟨_, following, offset', rest, rfl, by rw [hbits, hbytes]; rfl, hrest⟩

/-! ## Texts -/

lemma encodeUtf8_cons (c : Char) (s : Text) :
    encodeUtf8 (c :: s) = String.utf8EncodeChar c ++ encodeUtf8 s := rfl

lemma encodeUtf8_of_decodeUtf8From (h : decodeUtf8From none offset bytes = .ok s) :
    encodeUtf8 s = bytes := by
  induction s generalizing offset bytes with
  | nil =>
    cases bytes with
    | nil => rfl
    | cons x rest =>
      obtain ⟨_, _, _, _, hs, -⟩ := exists_encodeChar_of_decodeUtf8From h
      cases hs
  | cons char following ih =>
    cases bytes with
    | nil => cases h
    | cons x rest =>
      obtain ⟨_, _, offset', rest', hs, hbytes, hrest⟩ := exists_encodeChar_of_decodeUtf8From h
      cases hs
      rw [encodeUtf8_cons, ih hrest, hbytes]

/-- A text that is read has the bytes that it was read from. -/
theorem encodeUtf8_of_decodeUtf8 (h : decodeUtf8 bytes = .ok s) : encodeUtf8 s = bytes :=
  encodeUtf8_of_decodeUtf8From h

/-- A byte of the ASCII range stands for the character of its number, and is part of no other. -/
lemma mem_encodeChar_iff (hx : x.toNat < 0x80) {c : Char} :
    x ∈ String.utf8EncodeChar c ↔ c.val.toNat = x.toNat := by
  rw [String.utf8EncodeChar]
  generalize c.val.toNat = n
  split
  · simp [← UInt8.toNat_inj]
    omega
  split
  · simp [← UInt8.toNat_inj]
    omega
  split
  · simp [← UInt8.toNat_inj]
    omega
  · simp [← UInt8.toNat_inj]
    omega

lemma mem_encodeUtf8_iff (hx : x.toNat < 0x80) :
    x ∈ encodeUtf8 s ↔ ∃ c ∈ s, c.val.toNat = x.toNat := by
  unfold encodeUtf8
  rw [List.mem_flatMap]
  simp only [mem_encodeChar_iff hx]

/-! ## Reading what has been written

The same way back: the bytes of a character are gathered to its number, which the bounds on the second
byte let pass because the number is that of a character and takes as many bytes.
-/

section Written

variable {b c e : UInt8}

/-- The last byte of a sequence completes a character. -/
lemma decodeUtf8From_last (hp : p.remaining = 1) (hb : p.Admits b) :
    decodeUtf8From (some p) offset (b :: rest) =
      (decodeUtf8From none (offset + 1) rest).map (Char.ofNat (p.extend b) :: ·) := by
  have hbounds : (p.low ≤ b && b ≤ p.high) = true := by
    simpa [Pending.Admits, UInt8.le_iff_toNat_le] using hb
  rw [decodeUtf8From, if_pos hbounds, if_pos (Nat.le_of_eq hp)]

/-- Any other byte of a sequence is gathered. -/
lemma decodeUtf8From_more (hp : 1 < p.remaining) (hb : p.Admits b) :
    decodeUtf8From (some p) offset (b :: rest) =
      decodeUtf8From (some (p.after b)) (offset + 1) rest := by
  have hbounds : (p.low ≤ b && b ≤ p.high) = true := by
    simpa [Pending.Admits, UInt8.le_iff_toNat_le] using hb
  rw [decodeUtf8From, if_pos hbounds, if_neg (Nat.not_le_of_lt hp)]
  rfl

lemma decodeUtf8From_lead (hx : 0x80 ≤ x.toNat) (hp : Pending.ofLead? offset x = some p) :
    decodeUtf8From none offset (x :: rest) = decodeUtf8From (some p) (offset + 1) rest := by
  have hascii : ¬ x < 0x80 := by
    simpa [UInt8.lt_iff_toNat_lt] using hx
  rw [decodeUtf8From, if_neg hascii, hp]

/-- A sequence of two bytes is read as one character. -/
lemma decodeUtf8From_two (hx : 0xc2 ≤ x.toNat) (hx' : x.toNat < 0xe0) (hb : IsTail b) :
    decodeUtf8From none offset (x :: b :: rest) = (decodeUtf8From none (offset + 1 + 1) rest).map
      (Char.ofNat ((x.toNat - 0xc0) * 64 + (b.toNat - 0x80)) :: ·) := by
  have hlead : Pending.ofLead? offset x = some ⟨offset, x, x.toNat - 0xc0, 1, 0x80, 0xbf⟩ := by
    unfold Pending.ofLead?
    simp only [UInt8.lt_iff_toNat_lt, UInt8.reduceToNat]
    rw [if_neg (by omega), if_pos hx']
  rw [decodeUtf8From_lead (by omega) hlead, decodeUtf8From_last rfl ?_]
  · rfl
  · exact hb

/-- A sequence of three bytes is read as one character.  The second byte must leave out what takes fewer
bytes, and the halves of UTF-16 pairs. -/
lemma decodeUtf8From_three (hx : 0xe0 ≤ x.toNat) (hx' : x.toNat < 0xf0) (hb : IsTail b)
    (hlow : x.toNat = 0xe0 → 0xa0 ≤ b.toNat) (hhigh : x.toNat = 0xed → b.toNat ≤ 0x9f)
    (hc : IsTail c) :
    decodeUtf8From none offset (x :: b :: c :: rest) =
      (decodeUtf8From none (offset + 1 + 1 + 1) rest).map
        (Char.ofNat (((x.toNat - 0xe0) * 64 + (b.toNat - 0x80)) * 64 + (c.toNat - 0x80)) :: ·) := by
  have hlead : Pending.ofLead? offset x = some ⟨offset, x, x.toNat - 0xe0, 2,
      if x.toNat = 0xe0 then 0xa0 else 0x80, if x.toNat = 0xed then 0x9f else 0xbf⟩ := by
    unfold Pending.ofLead?
    simp only [UInt8.lt_iff_toNat_lt, UInt8.reduceToNat, ← UInt8.toNat_inj]
    rw [if_neg (by omega), if_neg (by omega), if_pos hx']
  rw [decodeUtf8From_lead (by omega) hlead, decodeUtf8From_more ?_ ?_, decodeUtf8From_last rfl ?_]
  · rfl
  · exact hc
  · exact Nat.one_lt_two
  · unfold Pending.Admits
    unfold IsTail at hb
    split <;> split <;> simp <;> omega

/-- A sequence of four bytes is read as one character.  The second byte must leave out what takes fewer
bytes, and numbers that are too large. -/
lemma decodeUtf8From_four (hx : 0xf0 ≤ x.toNat) (hx' : x.toNat < 0xf5) (hb : IsTail b)
    (hlow : x.toNat = 0xf0 → 0x90 ≤ b.toNat) (hhigh : x.toNat = 0xf4 → b.toNat ≤ 0x8f)
    (hc : IsTail c) (he : IsTail e) :
    decodeUtf8From none offset (x :: b :: c :: e :: rest) =
      (decodeUtf8From none (offset + 1 + 1 + 1 + 1) rest).map
        (Char.ofNat ((((x.toNat - 0xf0) * 64 + (b.toNat - 0x80)) * 64 + (c.toNat - 0x80)) * 64 +
          (e.toNat - 0x80)) :: ·) := by
  have hlead : Pending.ofLead? offset x = some ⟨offset, x, x.toNat - 0xf0, 3,
      if x.toNat = 0xf0 then 0x90 else 0x80, if x.toNat = 0xf4 then 0x8f else 0xbf⟩ := by
    unfold Pending.ofLead?
    simp only [UInt8.lt_iff_toNat_lt, UInt8.reduceToNat, ← UInt8.toNat_inj]
    rw [if_neg (by omega), if_neg (by omega), if_neg (by omega), if_pos hx']
  rw [decodeUtf8From_lead (by omega) hlead, decodeUtf8From_more ?_ ?_, decodeUtf8From_more ?_ ?_,
    decodeUtf8From_last rfl ?_]
  · rfl
  · exact he
  · exact Nat.one_lt_two
  · exact hc
  · show 1 < 3
    omega
  · unfold Pending.Admits
    unfold IsTail at hb
    split <;> split <;> simp <;> omega

lemma toNat_ofNat_tail (n : Nat) : (UInt8.ofNat (n % 64 + 128)).toNat = n % 64 + 128 :=
  UInt8.toNat_ofNat_of_lt' (show n % 64 + 128 < 256 by omega)

lemma isTail_ofNat (n : Nat) : IsTail (UInt8.ofNat (n % 64 + 128)) := by
  rw [IsTail, toNat_ofNat_tail]
  omega

/-- A number of two bytes is gathered from them. -/
lemma decodeUtf8From_number_two {n : Nat} (h : 0x80 ≤ n) (h' : n < 0x800) :
    decodeUtf8From none offset
        (UInt8.ofNat (n / 64 % 32 + 192) :: UInt8.ofNat (n % 64 + 128) :: rest) =
      (decodeUtf8From none (offset + 1 + 1) rest).map (Char.ofNat n :: ·) := by
  have hx : (UInt8.ofNat (n / 64 % 32 + 192)).toNat = n / 64 + 192 := by
    rw [UInt8.toNat_ofNat_of_lt' (show _ < 256 by omega)]
    omega
  have hbits : (n / 64 + 192 - 0xc0) * 64 + (n % 64 + 128 - 0x80) = n := by omega
  rw [decodeUtf8From_two (by omega) (by omega) (isTail_ofNat n), hx, toNat_ofNat_tail, hbits]

/-- A number of three bytes that is no half of a pair is gathered from them. -/
lemma decodeUtf8From_number_three {n : Nat} (h : 0x800 ≤ n) (h' : n < 0x10000)
    (hvalid : n.isValidChar) :
    decodeUtf8From none offset (UInt8.ofNat (n / 4096 % 16 + 224) ::
        UInt8.ofNat (n / 64 % 64 + 128) :: UInt8.ofNat (n % 64 + 128) :: rest) =
      (decodeUtf8From none (offset + 1 + 1 + 1) rest).map (Char.ofNat n :: ·) := by
  have hx : (UInt8.ofNat (n / 4096 % 16 + 224)).toNat = n / 4096 + 224 := by
    rw [UInt8.toNat_ofNat_of_lt' (show _ < 256 by omega)]
    omega
  have hb := toNat_ofNat_tail (n / 64)
  have hbits : ((n / 4096 + 224 - 0xe0) * 64 + (n / 64 % 64 + 128 - 0x80)) * 64 +
      (n % 64 + 128 - 0x80) = n := by omega
  have hhigh : n / 4096 + 224 = 0xed → n / 64 % 64 + 128 ≤ 0x9f := by
    rcases hvalid with hvalid | hvalid <;> omega
  rw [decodeUtf8From_three (by omega) (by omega) (isTail_ofNat (n / 64)) (by omega) (by omega)
    (isTail_ofNat n), hx, hb, toNat_ofNat_tail, hbits]

/-- A number of four bytes that is not too large is gathered from them. -/
lemma decodeUtf8From_number_four {n : Nat} (h : 0x10000 ≤ n) (h' : n < 0x110000) :
    decodeUtf8From none offset (UInt8.ofNat (n / 262144 % 8 + 240) ::
        UInt8.ofNat (n / 4096 % 64 + 128) :: UInt8.ofNat (n / 64 % 64 + 128) ::
          UInt8.ofNat (n % 64 + 128) :: rest) =
      (decodeUtf8From none (offset + 1 + 1 + 1 + 1) rest).map (Char.ofNat n :: ·) := by
  have hx : (UInt8.ofNat (n / 262144 % 8 + 240)).toNat = n / 262144 + 240 := by
    rw [UInt8.toNat_ofNat_of_lt' (show _ < 256 by omega)]
    omega
  have hb := toNat_ofNat_tail (n / 4096)
  have hc := toNat_ofNat_tail (n / 64)
  have hbits : (((n / 262144 + 240 - 0xf0) * 64 + (n / 4096 % 64 + 128 - 0x80)) * 64 +
      (n / 64 % 64 + 128 - 0x80)) * 64 + (n % 64 + 128 - 0x80) = n := by omega
  rw [decodeUtf8From_four (by omega) (by omega) (isTail_ofNat (n / 4096)) (by omega) (by omega)
    (isTail_ofNat (n / 64)) (isTail_ofNat n), hx, hb, hc, toNat_ofNat_tail, hbits]

/-- The bytes of a character are read as the character, and then comes the rest. -/
lemma exists_decodeUtf8From_encodeChar (char : Char) (offset : Nat) (rest : Bytes) :
    ∃ offset', decodeUtf8From none offset (String.utf8EncodeChar char ++ rest) =
      (decodeUtf8From none offset' rest).map (char :: ·) := by
  have hvalid : char.val.toNat.isValidChar := char.valid
  have hchar : Char.ofNat char.val.toNat = char := Char.ofNat_toNat char
  rw [String.utf8EncodeChar]
  generalize char.val.toNat = n at hvalid hchar
  rw [← hchar]
  split
  · have hx : (UInt8.ofNat n).toNat = n := UInt8.toNat_ofNat_of_lt' (show n < 256 by omega)
    have hascii : UInt8.ofNat n < 0x80 := by
      rw [UInt8.lt_iff_toNat_lt, hx]
      exact Nat.lt_succ_of_le ‹_›
    refine ⟨offset + 1, ?_⟩
    show decodeUtf8From none offset (UInt8.ofNat n :: rest) = _
    rw [decodeUtf8From, if_pos hascii, hx]
  split
  · exact ⟨_, decodeUtf8From_number_two (by omega) (by omega)⟩
  split
  · exact ⟨_, decodeUtf8From_number_three (by omega) (by omega) hvalid⟩
  · have hlimit : n < 0x110000 := by
      rcases hvalid with hvalid | hvalid <;> omega
    exact ⟨_, decodeUtf8From_number_four (by omega) hlimit⟩

lemma decodeUtf8From_encodeUtf8 (s : Text) (offset : Nat) :
    decodeUtf8From none offset (encodeUtf8 s) = .ok s := by
  induction s generalizing offset with
  | nil => rfl
  | cons char s ih =>
    obtain ⟨offset', hread⟩ := exists_decodeUtf8From_encodeChar char offset (encodeUtf8 s)
    rw [encodeUtf8_cons, hread, ih]
    rfl

/-- A text is read from the bytes it has. -/
theorem decodeUtf8_encodeUtf8 (s : Text) : decodeUtf8 (encodeUtf8 s) = .ok s :=
  decodeUtf8From_encodeUtf8 s 0

end Written

end Formwork.Encoding
