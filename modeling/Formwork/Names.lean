import Formwork.Text.Basic

/-!
# Lists of names

Names are listed in two orders in this library: in the order of their first mention, without
repetition, which is `distinct`; and in dictionary order by character number, which is `sorted`.
-/

namespace Formwork.Names

/-- The members of a list without repetition, in the order of their first mention. -/
def distinct : List Text → List Text
  | [] => []
  | a :: r => a :: (distinct r).filter (· != a)

@[simp] theorem distinct_nil : distinct [] = [] := rfl

@[simp] theorem mem_distinct {x : Text} {l : List Text} : x ∈ distinct l ↔ x ∈ l := by
  induction l with
  | nil => simp
  | cons a r ih =>
    rw [distinct, List.mem_cons, List.mem_cons, List.mem_filter, ih]
    by_cases h : x = a <;> simp [h]

theorem nodup_distinct (l : List Text) : (distinct l).Nodup := by
  induction l with
  | nil => exact List.nodup_nil
  | cons a r ih =>
    rw [distinct, List.nodup_cons]
    exact ⟨by simp [List.mem_filter], ih.sublist List.filter_sublist⟩

theorem distinct_of_nodup {l : List Text} (h : l.Nodup) : distinct l = l := by
  induction l with
  | nil => rfl
  | cons a r ih =>
    rw [List.nodup_cons] at h
    have hr : r.filter (· != a) = r := by
      rw [List.filter_eq_self]
      intro x hx
      exact bne_iff_ne.2 fun hxa => h.1 (hxa ▸ hx)
    rw [distinct, ih h.2, hr]

/-- What is mentioned in the second list only comes behind what is mentioned in the first. -/
theorem distinct_append (l m : List Text) :
    distinct (l ++ m) = distinct l ++ (distinct m).filter fun x => !l.contains x := by
  induction l with
  | nil => exact (List.filter_eq_self.2 fun _ _ => rfl).symm
  | cons a r ih =>
    have hboth : ∀ x, (x != a && !r.contains x) = !(a :: r).contains x := by
      intro x
      rw [List.contains_cons, Bool.not_or]
      rfl
    rw [List.cons_append, distinct, ih, distinct, List.filter_append, List.filter_filter,
      List.cons_append, List.filter_congr fun x _ => hboth x]

theorem distinct_filter (p : Text → Bool) (l : List Text) :
    distinct (l.filter p) = (distinct l).filter p := by
  induction l with
  | nil => rfl
  | cons a r ih =>
    rw [distinct, List.filter_cons, List.filter_cons]
    by_cases hp : p a = true
    · have hswap : ∀ x, (x != a && p x) = (p x && x != a) := fun x => Bool.and_comm _ _
      rw [if_pos hp, if_pos hp, distinct, ih, List.filter_filter, List.filter_filter,
        List.filter_congr fun x _ => hswap x]
    · have hleft : ∀ x, p x = (p x && x != a) := by
        intro x
        by_cases hx : x = a
        · simp [hx, hp]
        · simp [hx]
      rw [if_neg hp, if_neg hp, ih, List.filter_filter, ← List.filter_congr fun x _ => hleft x]

/-- Dictionary order by character number. -/
def le : Text → Text → Bool
  | [], _ => true
  | _ :: _, [] => false
  | a :: r, b :: s => a.toNat < b.toNat || (a.toNat == b.toNat && le r s)

def sorted (l : List Text) : List Text := l.mergeSort le

/-- The names with a comma and a space between them. -/
def commaList (l : List Text) : Text := List.intercalate [',', ' '] l

end Formwork.Names
