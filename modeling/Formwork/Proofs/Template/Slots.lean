import Formwork.Template.Basic
import Mathlib

/-!
# Names and slots

The names of a template come in the order in which its placeholders first ask for them
(`pairwise_names`), and its slots are as many as its names and count each placeholder once
(`sum_count_slots`).  Both are said of the segments themselves: `occurrences` counts the placeholders
for a name, and `firstPlace` is where the first of them stands.

The order goes by induction on the segments.  A name that is mentioned in front comes first, and every
other name stands one place further on than without that segment.
-/

namespace Formwork.Template

variable {t : Template} {n : Text}

/-- How many placeholders ask for a name. -/
def occurrences (t : Template) (n : Text) : Nat := t.segments.countP fun g => g.name? == some n

/-- Where the first placeholder for a name stands among the segments. -/
def firstPlace (t : Template) (n : Text) : Nat := t.segments.findIdx fun g => g.name? == some n

lemma mem_names_iff : n ∈ t.names ↔ ∃ p, Segment.placeholder n p ∈ t.segments := by
  rw [mem_names, mentions, List.mem_filterMap]
  constructor
  · rintro ⟨g, hg, hname⟩
    cases g with
    | literal text => cases hname
    | placeholder name position =>
      cases hname
      exact ⟨position, hg⟩
  · rintro ⟨p, hp⟩
    exact ⟨_, hp, rfl⟩

lemma count_mentions (t : Template) (n : Text) : t.mentions.count n = t.occurrences n := by
  unfold mentions occurrences
  rw [List.count, List.countP_filterMap]
  apply List.countP_congr
  intro g _
  cases g.name? <;> simp

lemma occurrences_pos (h : n ∈ t.names) : 0 < t.occurrences n := by
  rw [← count_mentions]
  exact List.count_pos_iff.2 (mem_names.1 h)

/-- The distinct names of segments come in the order of the segments that first have them. -/
lemma pairwise_distinct (segments : List Segment) :
    (Names.distinct (segments.filterMap Segment.name?)).Pairwise fun m n =>
      (segments.findIdx fun g => g.name? == some m) < segments.findIdx fun g => g.name? == some n := by
  induction segments with
  | nil => exact List.Pairwise.nil
  | cons g segments ih =>
    cases g with
    | literal text =>
      have hlater : ∀ m, ((Segment.literal text :: segments).findIdx fun g => g.name? == some m) =
          (segments.findIdx fun g => g.name? == some m) + 1 := fun m => by
        rw [List.findIdx_cons]
        rfl
      rw [List.filterMap_cons_none rfl]
      refine ih.imp fun {m n} hmn => ?_
      rw [hlater, hlater]
      exact Nat.succ_lt_succ hmn
    | placeholder name position =>
      have hfirst : ((Segment.placeholder name position :: segments).findIdx
          fun g => g.name? == some name) = 0 := by simp [List.findIdx_cons]
      have hlater : ∀ m, m ≠ name →
          ((Segment.placeholder name position :: segments).findIdx fun g => g.name? == some m) =
            (segments.findIdx fun g => g.name? == some m) + 1 := by
        intro m hm
        have hother : (some name == some m) = false := by simp [Ne.symm hm]
        rw [List.findIdx_cons, Segment.name?_placeholder, hother]
        rfl
      have hne : ∀ m ∈ (Names.distinct (segments.filterMap Segment.name?)).filter (· != name),
          m ≠ name := fun m hm => bne_iff_ne.1 (List.mem_filter.1 hm).2
      rw [List.filterMap_cons_some (Segment.name?_placeholder name position), Names.distinct,
        List.pairwise_cons]
      constructor
      · intro m hm
        rw [hfirst, hlater m (hne m hm)]
        exact Nat.succ_pos _
      · refine (ih.filter _).imp_of_mem fun {m n} hm hn hmn => ?_
        rw [hlater m (hne m hm), hlater n (hne n hn)]
        exact Nat.succ_lt_succ hmn

/-- Names come in the order of their first placeholders. -/
lemma pairwise_names (t : Template) :
    t.names.Pairwise fun m n => t.firstPlace m < t.firstPlace n :=
  pairwise_distinct t.segments

lemma sum_count_distinct (l : List Text) : ((Names.distinct l).map l.count).sum = l.length := by
  have hperm : (Names.distinct l).Perm l.dedup := by
    rw [List.perm_ext_iff_of_nodup (Names.nodup_distinct l) l.nodup_dedup]
    intro n
    rw [Names.mem_distinct, List.mem_dedup]
  rw [(hperm.map l.count).sum_eq, ← List.sum_map_count_dedup_eq_length l]
  -- Texts are compared as lists here, and by deciding their equality there.
  exact congrArg (fun i : BEq Text => (l.dedup.map fun n => @List.count Text i n l).sum)
    (lawful_beq_subsingleton _ _)

/-- Every placeholder is counted in one slot. -/
lemma sum_count_slots (t : Template) (derived : List Text) :
    ((t.slots derived).map Slot.count).sum = t.segments.countP fun g => g.name?.isSome := by
  have hcounts : (t.slots derived).map Slot.count = t.names.map t.mentions.count := by
    rw [slots_eq, List.map_map]
    rfl
  rw [hcounts, names, sum_count_distinct, mentions, List.length_filterMap_eq_countP]

lemma eq_of_mem_slots {derived : List Text} {s : Slot} (h : s ∈ t.slots derived) :
    s.name ∈ t.names ∧ s = ⟨s.name, t.occurrences s.name, derived.contains s.name⟩ := by
  rw [slots_eq] at h
  obtain ⟨n, hn, rfl⟩ := List.mem_map.1 h
  exact ⟨hn, by rw [← count_mentions]⟩

end Formwork.Template
