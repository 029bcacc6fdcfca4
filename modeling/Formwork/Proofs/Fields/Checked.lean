import Formwork.Fields.Readers
import Formwork.Proofs.Stages

/-!
# Checks that pass

A check of several parts passes when the checks of all parts do (`Checked.both_eq_ok_iff`,
`Checked.each_map_eq_ok`), and a field passes when its value does, or when it is absent and there is a
default (`Fields.optional_eq_ok_iff`).  The readers of single values give back a value that was written
as data by itself.
-/

namespace Formwork

namespace Checked

variable {α β : Type}

lemma both_eq_ok_iff {x : Checked α} {y : Checked β} {v : α × β} :
    both x y = .ok v ↔ x = .ok v.1 ∧ y = .ok v.2 := by
  obtain ⟨a, b⟩ := v
  cases x <;> cases y <;> simp [both]

lemma under_eq_ok_iff {s : Step} {x : Checked α} {a : α} : under s x = .ok a ↔ x = .ok a :=
  Except.mapError_eq_ok_iff

lemma eachFrom_map_eq_ok {check : β → Checked α} {write : α → β} {xs : List α}
    (h : ∀ x ∈ xs, check (write x) = .ok x) (n : Nat) :
    eachFrom check n (xs.map write) = .ok xs := by
  induction xs generalizing n with
  | nil => rfl
  | cons x xs ih =>
    obtain ⟨hx, hxs⟩ := List.forall_mem_cons.1 h
    rw [List.map_cons, eachFrom, hx, ih hxs]
    rfl

/-- A list of things that are read back one by one is read back. -/
lemma each_map_eq_ok {check : β → Checked α} {write : α → β} {xs : List α}
    (h : ∀ x ∈ xs, check (write x) = .ok x) : each check (xs.map write) = .ok xs :=
  eachFrom_map_eq_ok h 0

end Checked

namespace Fields

variable {α : Type} {name : Text} {value default : α} {read : Json → Checked α}
  {members : List (Text × Json)}

lemma optional_eq_ok_iff :
    optional name default read members = .ok value ↔
      (∃ j, Json.member? name members = some j ∧ read j = .ok value) ∨
        Json.member? name members = none ∧ value = default := by
  unfold optional
  rw [Checked.under_eq_ok_iff]
  cases Json.member? name members with
  | none => simp [eq_comm]
  | some j => simp

/-- A field that may be absent has its default or what has been read. -/
lemma eq_default_or_read (h : optional name default read members = .ok value) :
    value = default ∨ ∃ j, read j = .ok value := by
  rcases optional_eq_ok_iff.1 h with ⟨j, -, hj⟩ | ⟨-, rfl⟩
  · exact .inr ⟨j, hj⟩
  · exact .inl rfl

/-! ## Single values -/

lemma identifier_text {s : Text} (h : isIdentifier s = true) : identifier (.text s) = .ok s := by
  show (if isIdentifier s then Except.ok s else Checked.fail .wrongPattern) = .ok s
  rw [if_pos h]

lemma atLeast_integer {least n : Nat} (h : least ≤ n) : atLeast least (.integer n) = .ok n := by
  show (if (least : Int) ≤ n then Except.ok (n : Int).toNat else Checked.fail .tooSmall) = .ok n
  rw [if_pos (Int.ofNat_le.2 h), Int.toNat_natCast]

end Fields

end Formwork
