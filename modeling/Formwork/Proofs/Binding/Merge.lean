import Formwork.Binding.Basic
import Mathlib.Data.List.Nodup

/-!
# Warnings of several bindings together

A warning determines its kind and its name, so a list of warnings holds neither more nor less than
the two lists of names it is made from (`unusedWarning_mem_iff`, `shadowedWarning_mem_iff`), and
it repeats a warning only if they repeat a name.

Merging starts from the names that the first bindings list as unused and drops those that other
bindings do not list.  This prefers the first bindings in the order of the names alone: which names
are left is a matter of all bindings alike (`mem_inAll_iff`).  Hence bindings in another order give
the same warnings in another order (`mergedWarnings_perm`), which for lists without repetition is
seen from their members.
-/

namespace Formwork.Bindings

variable {b : Bindings} {bs bs' : List Bindings} {name name' : Text}

/-! ## Warnings and names -/

lemma unusedWarning_injective : Function.Injective unusedWarning := by
  intro name name' h
  unfold unusedWarning at h
  rwa [List.append_left_inj, List.append_right_inj] at h

lemma shadowedWarning_injective : Function.Injective shadowedWarning := by
  intro name name' h
  unfold shadowedWarning at h
  rwa [List.append_left_inj, List.append_right_inj] at h

/-- The two kinds of warning differ in their first letter. -/
lemma unusedWarning_ne_shadowedWarning : unusedWarning name ≠ shadowedWarning name' := by
  intro h
  have hhead : some 'U' = some 'B' := congrArg List.head? h
  exact absurd (Option.some.inj hhead) (by decide)

lemma unusedWarning_mem_iff : unusedWarning name ∈ b.warnings ↔ name ∈ b.unused := by
  unfold warnings
  rw [List.mem_append, List.mem_map_of_injective unusedWarning_injective, or_iff_left]
  intro h
  obtain ⟨name', -, heq⟩ := List.mem_map.1 h
  exact unusedWarning_ne_shadowedWarning heq.symm

lemma shadowedWarning_mem_iff : shadowedWarning name ∈ b.warnings ↔ name ∈ b.shadowed := by
  unfold warnings
  rw [List.mem_append, List.mem_map_of_injective shadowedWarning_injective, or_iff_right]
  intro h
  obtain ⟨name', -, heq⟩ := List.mem_map.1 h
  exact unusedWarning_ne_shadowedWarning heq

/-- No name is listed twice as unused, nor as shadowed. -/
structure NoRepeats (b : Bindings) : Prop where
  unused : b.unused.Nodup
  shadowed : b.shadowed.Nodup

lemma NoRepeats.nodup_warnings (h : b.NoRepeats) : b.warnings.Nodup := by
  refine List.nodup_append.2 ⟨h.unused.map unusedWarning_injective,
    h.shadowed.map shadowedWarning_injective, ?_⟩
  intro message hmessage message' hmessage' heq
  obtain ⟨name, -, rfl⟩ := List.mem_map.1 hmessage
  obtain ⟨name', -, rfl⟩ := List.mem_map.1 hmessage'
  exact unusedWarning_ne_shadowedWarning heq

/-- Warnings are known up to order by what the two lists of names hold. -/
lemma warnings_perm {b' : Bindings} (hunused : b.unused.Perm b'.unused)
    (hshadowed : b.shadowed.Perm b'.shadowed) : b.warnings.Perm b'.warnings :=
  (hunused.map _).append (hshadowed.map _)

/-! ## Names that several lists have in common -/

lemma mem_inAll_iff {ls : List (List Text)} (hne : ls ≠ []) :
    name ∈ inAll ls ↔ ∀ l ∈ ls, name ∈ l := by
  cases ls with
  | nil => exact absurd rfl hne
  | cons l ls => simp [inAll]

lemma inAll_singleton (l : List Text) : inAll [l] = l := List.filter_eq_self.2 fun _ _ => rfl

lemma nodup_inAll {ls : List (List Text)} (h : ∀ l ∈ ls, l.Nodup) : (inAll ls).Nodup := by
  cases ls with
  | nil => exact List.nodup_nil
  | cons l ls => exact (h l List.mem_cons_self).filter _

lemma inAll_perm {ls ls' : List (List Text)} (hperm : ls.Perm ls') (h : ∀ l ∈ ls, l.Nodup) :
    (inAll ls).Perm (inAll ls') := by
  have h' : ∀ l ∈ ls', l.Nodup := fun l hl => h l (hperm.mem_iff.2 hl)
  rw [List.perm_ext_iff_of_nodup (nodup_inAll h) (nodup_inAll h')]
  intro name
  by_cases hne : ls = []
  · subst hne
    rw [List.nil_perm.1 hperm]
  · have hne' : ls' ≠ [] := fun hnil => hne (List.perm_nil.1 (hnil ▸ hperm))
    rw [mem_inAll_iff hne, mem_inAll_iff hne']
    exact forall_congr' fun l => by rw [hperm.mem_iff]

/-! ## Merging -/

lemma mem_merged_unused_iff (hne : bs ≠ []) :
    name ∈ (merged bs).unused ↔ ∀ b ∈ bs, name ∈ b.unused := by
  unfold merged
  rw [mem_inAll_iff (fun hnil => hne (List.map_eq_nil_iff.1 hnil)), List.forall_mem_map]

lemma mem_merged_shadowed_iff :
    name ∈ (merged bs).shadowed ↔ ∃ b ∈ bs, name ∈ b.shadowed := by
  unfold merged
  rw [Names.mem_distinct, List.mem_flatMap]

lemma noRepeats_merged (h : ∀ b ∈ bs, b.NoRepeats) : (merged bs).NoRepeats where
  unused := nodup_inAll (List.forall_mem_map.2 fun b hb => (h b hb).unused)
  shadowed := Names.nodup_distinct _

/-- Merging a single one has nothing to drop and nothing to add. -/
lemma merged_singleton_warnings (h : b.NoRepeats) : (merged [b]).warnings = b.warnings := by
  have hshadowed : (merged [b]).shadowed = b.shadowed := by
    unfold merged
    rw [List.flatMap_singleton, Names.distinct_of_nodup h.shadowed]
  have hunused : (merged [b]).unused = b.unused := inAll_singleton b.unused
  unfold warnings
  rw [hunused, hshadowed]

/-- A single one is no exception from the rule for several. -/
lemma mergedWarnings_eq (h : ∀ b ∈ bs, b.NoRepeats) :
    mergedWarnings bs = (merged bs).warnings := by
  unfold mergedWarnings
  split
  · exact (merged_singleton_warnings (h _ List.mem_cons_self)).symm
  · rfl

lemma mergedWarnings_perm (hperm : bs.Perm bs') (h : ∀ b ∈ bs, b.NoRepeats) :
    (mergedWarnings bs).Perm (mergedWarnings bs') := by
  have h' : ∀ b ∈ bs', b.NoRepeats := fun b hb => h b (hperm.mem_iff.2 hb)
  rw [mergedWarnings_eq h, mergedWarnings_eq h']
  refine warnings_perm ?_ ?_
  · exact inAll_perm (hperm.map _) (List.forall_mem_map.2 fun b hb => (h b hb).unused)
  · rw [List.perm_ext_iff_of_nodup (noRepeats_merged h).shadowed (noRepeats_merged h').shadowed]
    intro name
    rw [mem_merged_shadowed_iff, mem_merged_shadowed_iff]
    exact exists_congr fun b => by rw [hperm.mem_iff]

end Formwork.Bindings
