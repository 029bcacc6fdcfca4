import Formwork.Names
import Formwork.Table
import Formwork.Text.Position

/-!
# Templates

A template is a text in which some places are left open.  It is kept as the list of its
*segments*: literal text, and placeholders, each with the name of the value that goes there and
the position where the placeholder begins.

A template may come from a text, by `Template.parse`, or be put together from segments; the
definitions here hold for both.  Its placeholders can be listed in two ways: `names` gives every
name once, in the order of first mention, and `slots` says of each name how often it occurs and
whether its value is derived.  The two are found independently of each other, and `slots_eq` says how
they belong together.
-/

namespace Formwork

inductive Segment where
  /-- Text that is copied as it is. -/
  | literal (text : Text)
  /-- A place where the value of `name` goes; its first brace stands at `position`. -/
  | placeholder (name : Text) (position : Position)
  deriving Repr, DecidableEq

structure Slot where
  name : Text
  count : Nat
  derived : Bool
  deriving Repr, DecidableEq

/-- A template: the text it was read from and its segments. -/
structure Template where
  source : Text
  segments : List Segment
  deriving Repr, DecidableEq

/-! ## Identifiers -/

/-- Whether a character may begin a name: an ASCII letter or the underscore. -/
def isNameStart (c : Char) : Bool :=
  ('a' ≤ c && c ≤ 'z') || ('A' ≤ c && c ≤ 'Z') || c == '_'

/-- Whether a character may stand in a name: an ASCII letter, an ASCII digit or the underscore. -/
def isNameChar (c : Char) : Bool := isNameStart c || ('0' ≤ c && c ≤ '9')

/-- Whether a text is the name of a placeholder. -/
def isIdentifier : Text → Bool
  | [] => false
  | c :: r => isNameStart c && r.all isNameChar

@[simp] theorem isIdentifier_nil : isIdentifier [] = false := rfl

/-! ## What a template mentions -/

namespace Segment

/-- The name that a placeholder asks for. -/
def name? : Segment → Option Text
  | literal _ => none
  | placeholder name _ => some name

/-- The text of a literal; a placeholder has none of its own. -/
def text : Segment → Text
  | literal text => text
  | placeholder _ _ => []

@[simp] theorem name?_literal (t : Text) : (literal t).name? = none := rfl

@[simp] theorem name?_placeholder (n : Text) (p : Position) :
    (placeholder n p).name? = some n := rfl

end Segment

namespace Template

/-- The names of the placeholders, one for each placeholder, in order. -/
def mentions (t : Template) : List Text := t.segments.filterMap Segment.name?

/-- The distinct names of the placeholders, in the order of first mention. -/
def names (t : Template) : List Text := Names.distinct t.mentions

/-- The literal text of the template, run together. -/
def literalText (t : Template) : Text := t.segments.flatMap Segment.text

/-- How often each name is mentioned. -/
def tally (mentions : List Text) : Table Nat :=
  mentions.foldl (fun t n => t.set n ((t.get? n).getD 0 + 1)) .empty

/-- The distinct placeholders with their number of mentions; those among `derived` are marked. -/
def slots (t : Template) (derived : List Text) : List Slot :=
  (tally t.mentions).entries.map fun (n, k) => ⟨n, k, derived.contains n⟩

/-- Slots under their names. -/
def slotTable (slots : List Slot) : Table Slot := .ofList (slots.map fun s => (s.name, s))

theorem mem_names {t : Template} {n : Text} : n ∈ t.names ↔ n ∈ t.mentions := Names.mem_distinct

theorem nodup_names (t : Template) : t.names.Nodup := Names.nodup_distinct _

/-! ## What is counted -/

/-- Counting enters the names that are new, in the order of first mention. -/
theorem keys_foldl_count (mentions : List Text) (t : Table Nat) :
    (mentions.foldl (fun t n => t.set n ((t.get? n).getD 0 + 1)) t).keys =
      t.keys ++ (Names.distinct mentions).filter fun n => !t.keys.contains n := by
  induction mentions generalizing t with
  | nil => simp
  | cons n mentions ih =>
    rw [List.foldl_cons, ih, Names.distinct, Table.keys_set, List.filter_cons, List.filter_filter]
    have hnew : ∀ (keys : List Text) (m : Text),
        (!(keys ++ [n]).contains m) = (!keys.contains m && m != n) := by
      intro keys m
      by_cases hm : m = n <;> simp [hm]
    by_cases hn : n ∈ t.keys
    · have hsame : ∀ m : Text, (!t.keys.contains m && m != n) = !t.keys.contains m := by
        intro m
        by_cases hm : m = n <;> simp [hm, hn]
      simp only [hsame]
      simp [hn]
    · simp only [if_neg hn, hnew]
      simp [hn]

/-- Counting adds the number of mentions to what was counted before. -/
theorem get?_foldl_count (mentions : List Text) (t : Table Nat) (n : Text) :
    (mentions.foldl (fun t n => t.set n ((t.get? n).getD 0 + 1)) t).get? n =
      if n ∈ mentions then some ((t.get? n).getD 0 + mentions.count n) else t.get? n := by
  induction mentions generalizing t with
  | nil => simp
  | cons m mentions ih =>
    rw [List.foldl_cons, ih, Table.get?_set]
    by_cases hm : n = m
    · subst hm
      by_cases hn : n ∈ mentions
      · simp [hn]
        omega
      · simp [hn, List.count_eq_zero_of_not_mem hn]
    · have hm' : ¬ m = n := fun h => hm h.symm
      simp [hm, hm']

@[simp] theorem keys_tally (mentions : List Text) :
    (tally mentions).keys = Names.distinct mentions := by
  unfold tally
  rw [keys_foldl_count]
  simp

theorem get?_tally {mentions : List Text} {n : Text} (h : n ∈ mentions) :
    (tally mentions).get? n = some (mentions.count n) := by
  unfold tally
  rw [get?_foldl_count, if_pos h]
  simp

/-- Each name has one slot, which says how often it is mentioned. -/
theorem slots_eq (t : Template) (derived : List Text) :
    t.slots derived = t.names.map fun n => ⟨n, t.mentions.count n, derived.contains n⟩ := by
  have hcounts : ∀ n ∈ (tally t.mentions).keys,
      (tally t.mentions).get? n = some (t.mentions.count n) := by
    intro n hn
    rw [keys_tally] at hn
    exact get?_tally (mem_names.1 hn)
  unfold slots
  rw [Table.entries_eq_map_keys hcounts, keys_tally, List.map_map]
  rfl

theorem map_name_slots (t : Template) (derived : List Text) :
    (t.slots derived).map Slot.name = t.names := by
  rw [slots_eq, List.map_map]
  exact List.map_id' _

/-- In whatever order the slots of a template come, each name finds its own. -/
theorem get?_slotTable {t : Template} {derived : List Text} {slots : List Slot} {n : Text}
    (h : slots.Perm (t.slots derived)) (hn : n ∈ t.names) :
    (slotTable slots).get? n = some ⟨n, t.mentions.count n, derived.contains n⟩ := by
  have hkeys : (slots.map fun s => (s.name, s)).map Prod.fst = slots.map Slot.name := by
    rw [List.map_map]
    rfl
  have hnodup : ((slots.map fun s => (s.name, s)).map Prod.fst).Nodup := by
    rw [hkeys, (h.map Slot.name).nodup_iff, map_name_slots]
    exact t.nodup_names
  have hmem : (⟨n, t.mentions.count n, derived.contains n⟩ : Slot) ∈ slots := by
    rw [h.mem_iff, slots_eq]
    exact List.mem_map_of_mem hn
  rw [Table.get?_eq_some_iff, slotTable, Table.entries_ofList hnodup]
  exact List.mem_map_of_mem hmem

end Template

end Formwork
