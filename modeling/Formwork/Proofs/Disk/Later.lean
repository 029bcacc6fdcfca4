import Formwork.Proofs.Disk.Change

/-!
# Looking at a disk

A path is looked at to learn whether anything stands where it leads.  The answer is no when the path
leads nowhere, whatever the reason; only a name that is too long and a refusal of the system keep it
from being given (`Disk.find?_eq_error`).

A disk is `Rooted` when everything on it lies in directories, links included.  It stays so whatever is
made or written (`Disk.Later.rooted`).
-/

namespace Formwork.Disk

variable {d e : Disk} {l m : Location} {p : Path} {root n : Text} {names : List Text}

/-! ## Why a path leads nowhere -/

/-- The causes that keep a name from being looked up. -/
def Cause.OfWay (cause : Cause) : Prop :=
  cause = .absent ∨ cause = .notDirectory ∨ cause = .nameTooLong ∨ cause = .tooManyLinks ∨
    ∃ reason, cause = .refused reason

lemma ofWay_of_enter {s : Setting} {look : Location → Option Entry} {cause : Cause}
    (h : s.enter look l n = .error cause) : cause.OfWay := by
  unfold Setting.enter at h
  split at h
  · cases h
    exact .inl rfl
  · cases h
    exact .inr (.inl rfl)
  · split at h
    · rename_i reason _
      cases h
      exact .inr (.inr (.inr (.inr ⟨reason, rfl⟩)))
    · split at h
      · cases h
        exact .inr (.inr (.inl rfl))
      · cases h

lemma ofWay_of_walk {s : Setting} {look : Location → Option Entry} {links : Nat} {cause : Cause}
    (h : s.walk look links l names = .error cause) : cause.OfWay := by
  induction links, l, names using Setting.walk_induction (s := s) with
  | nil links l =>
    rw [Setting.walk_nil] at h
    cases h
  | cons links l n names ih ihLink =>
    rw [Setting.walk_cons] at h
    rcases Except.bind_eq_error_iff.1 h with henter | ⟨m, hm, h⟩
    · exact ofWay_of_enter henter
    · obtain ⟨-, -, -, rfl⟩ := Setting.enter_eq_ok_iff.1 hm
      cases hp : s.linkAt l n with
      | none =>
        rw [hp] at h
        exact ih h
      | some p =>
        rw [hp] at h
        cases links with
        | zero =>
          cases h
          exact .inr (.inr (.inr (.inl rfl)))
        | succ links => exact ihLink p links hp rfl h

/-- A path leads nowhere for a flaw of its own, or since a name cannot be looked up. -/
lemma flaw?_or_ofWay_of_locate {cause : Cause} (h : d.locate p = .error cause) :
    Setting.flaw? p = some cause ∨ Setting.flaw? p = none ∧ cause.OfWay := by
  unfold Disk.locate Setting.locate at h
  rw [Except.map_eq_error_iff] at h
  unfold Setting.lead at h
  cases hflaw : Setting.flaw? p with
  | some other =>
    rw [hflaw] at h
    cases h
    exact .inl rfl
  | none =>
    rw [hflaw] at h
    exact .inr ⟨rfl, ofWay_of_walk h⟩

lemma flaw?_eq_some {cause : Cause} (h : Setting.flaw? p = some cause) :
    cause = .nullCharacter ∧ (∃ n ∈ p.names, '\x00' ∈ n) ∨ cause = .nameTooLong := by
  unfold Setting.flaw? at h
  split at h
  · rename_i hnull
    cases h
    exact .inl ⟨rfl, by simpa using hnull⟩
  · split at h
    · cases h
      exact .inr rfl
    · cases h

/-! ## Looking -/

/-- What keeps a path from being looked at is a name that is too long, or a refusal of the system. -/
lemma find?_eq_error {error : Error} (h : d.find? p = .error error) :
    error.path = p ∧ (error.cause = .nameTooLong ∨ ∃ reason, error.cause = .refused reason) := by
  unfold find? at h
  split at h
  · cases h
  · rename_i cause hfind
    split at h
    · cases h
    · rename_i hmeans
      cases h
      refine ⟨rfl, ?_⟩
      unfold find at hfind
      rcases Except.bind_eq_error_iff.1 hfind with hlocate | ⟨l, -, hfind⟩
      · rcases flaw?_or_ofWay_of_locate hlocate with hflaw | ⟨-, hway⟩
        · rcases flaw?_eq_some hflaw with ⟨rfl, -⟩ | rfl
          · exact absurd rfl hmeans
          · exact .inl rfl
        · rcases hway with rfl | rfl | rfl | rfl | ⟨reason, rfl⟩
          · exact absurd rfl hmeans
          · exact absurd rfl hmeans
          · exact .inl rfl
          · exact absurd rfl hmeans
          · exact .inr ⟨reason, rfl⟩
      · cases hl : d.standing l <;> rw [hl] at hfind <;> cases hfind
        exact absurd rfl hmeans

lemma holds_eq_error {error : Error} (h : d.holds p = .error error) :
    error.path = p ∧ (error.cause = .nameTooLong ∨ ∃ reason, error.cause = .refused reason) :=
  find?_eq_error (Except.map_eq_error_iff.1 h)

/-- Something stands where the path leads, a file or a directory. -/
def Stands (d : Disk) (p : Path) : Prop := ∃ l entry, d.locate p = .ok l ∧ d.standing l = some entry

lemma stands_iff : d.Stands p ↔ ∃ entry, d.find p = .ok entry := by
  simp only [find_eq_ok_iff]
  exact exists_comm

instance (d : Disk) (p : Path) : Decidable (d.Stands p) :=
  decidable_of_iff ((d.find p).isOk = true) <| by
    rw [stands_iff]
    cases d.find p <;> simp [Except.isOk, Except.toBool]

lemma holds_eq_ok_true_iff : d.holds p = .ok true ↔ d.Stands p := by
  unfold Stands holds
  rw [Except.map_eq_ok_iff, exists_comm]
  simp only [← find?_eq_ok_some_iff]
  constructor
  · rintro ⟨found, hfound, h⟩
    obtain ⟨entry, rfl⟩ := Option.isSome_iff_exists.1 h
    exact ⟨entry, hfound⟩
  · rintro ⟨entry, h⟩
    exact ⟨_, h, rfl⟩

/-- The answer to whether anything stands there is right. -/
lemma stands_of_holds {there : Bool} (h : d.holds p = .ok there) : there = true ↔ d.Stands p := by
  rw [← holds_eq_ok_true_iff, h, Except.ok.injEq]

lemma holds_of_locate (h : d.locate p = .ok l) : d.holds p = .ok (d.standing l).isSome := by
  cases hl : d.standing l with
  | none =>
    have hfind : d.find p = .error .absent := by
      simp only [find, h, bind, Except.bind, hl]
      rfl
    unfold holds find?
    rw [hfind]
    rfl
  | some entry => exact holds_eq_ok_true_iff.2 ⟨l, entry, h, hl⟩

lemma holds_of_absent (h : d.locate p = .error .absent) : d.holds p = .ok false := by
  unfold holds find? find
  rw [h]
  rfl

/-! ## Rooted disks -/

/-- Everything on the disk lies in directories. -/
structure Rooted (d : Disk) : Prop where
  entries : ∀ l, d.standing l ≠ none → d.Way l
  links : ∀ l, d.setting.links l ≠ none → d.Way l

/-- A disk stays rooted. -/
lemma Later.rooted (h : d.Later e) (hrooted : d.Rooted) : e.Rooted where
  entries := by
    intro l hl
    by_cases hd : d.standing l = none
    · exact h.ways l hd hl
    · exact h.way (hrooted.entries l hd)
  links := by
    intro l hl
    rw [h.setting] at hl
    exact h.way (hrooted.links l hl)

lemma rooted_of_entries (h : ∀ entry ∈ d.entries, d.Way entry.1)
    (hlinks : ∀ l, d.setting.links l = none) : d.Rooted where
  entries := by
    intro l hl
    by_cases hgiven : d.setting.isGiven l = true
    · exact way_of_isGiven hgiven
    · unfold standing at hl
      rw [if_neg hgiven, Ne, Option.map_eq_none_iff] at hl
      obtain ⟨entry, hentry⟩ := Option.ne_none_iff_exists'.1 hl
      have hsame := List.find?_some hentry
      rw [← eq_of_beq hsame]
      exact h entry (List.mem_of_find?_eq_some hentry)
  links := fun l hl => absurd (hlinks l) hl

end Formwork.Disk
