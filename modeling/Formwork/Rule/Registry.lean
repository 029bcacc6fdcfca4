import Formwork.Rule.Basic

/-!
# Registries of rules

A registry holds at most one rule for each derived name, in the order in which the rules were
given.  It is a table in which every rule stands under its own name.

Rules are given in one of two forms, a `RuleSet`: as a list, which must not derive a name twice,
or as a table, in which every rule must stand under its own name.
-/

namespace Formwork

/-- Rules under the names they derive. -/
structure Registry where
  table : Table Rule
  named : ∀ e ∈ table.entries, e.2.name = e.1

/-- Rules as they are given: one after the other, or under names. -/
inductive RuleSet where
  | list (rules : List Rule)
  | byName (rules : Table Rule)

/-- Why a rule set makes no registry. -/
inductive Conflict where
  /-- A list derives this name twice. -/
  | duplicate (name : Text)
  /-- A table has a rule under a name that is not its own. -/
  | misplaced (key rule : Text)
  deriving Repr, DecidableEq

def Conflict.message : Conflict → Text
  | duplicate name => "Duplicate derivation rule for '" ++ name ++ "'"
  | misplaced key rule => "Registry key '" ++ key ++ "' does not match rule '" ++ rule ++ "'"

namespace Registry

theorem named_setEntry {rule : Rule} {l : List (Text × Rule)} (h : ∀ e ∈ l, e.2.name = e.1) :
    ∀ e ∈ Table.setEntry rule.name rule l, e.2.name = e.1 := by
  induction l with
  | nil =>
    intro e he
    cases he with
    | head => rfl
    | tail _ he => cases he
  | cons x r ih =>
    intro e he
    unfold Table.setEntry at he
    split at he
    · cases he with
      | head => rfl
      | tail _ he => exact h e (List.mem_cons_of_mem _ he)
    · cases he with
      | head => exact h _ List.mem_cons_self
      | tail _ he => exact ih (fun e he => h e (List.mem_cons_of_mem _ he)) e he

def empty : Registry := ⟨.empty, fun _ h => absurd h List.not_mem_nil⟩

/-- Enters a rule under its name; a rule that stood there gives up its place. -/
def set (g : Registry) (rule : Rule) : Registry :=
  ⟨g.table.set rule.name rule, named_setEntry g.named⟩

def names (g : Registry) : List Text := g.table.keys

def rules (g : Registry) : List Rule := g.table.entries.map Prod.snd

def find? (g : Registry) (name : Text) : Option Rule := g.table.get? name

def contains (g : Registry) (name : Text) : Bool := (g.find? name).isSome

/-- The inputs of the rule that derives a name; a name without a rule has none. -/
def inputs (g : Registry) (name : Text) : List Text := ((g.find? name).map Rule.inputs).getD []

/-- The rules of the first registry, with those of the second in the place of their namesakes. -/
def merge (base top : Registry) : Registry := top.rules.foldl set base

/-- A derived name is one of the registry's names. -/
theorem mem_names_of_find? {g : Registry} {name : Text} {rule : Rule}
    (h : g.find? name = some rule) : name ∈ g.names := by
  unfold find? Table.get? at h
  rw [Option.map_eq_some_iff] at h
  obtain ⟨e, he, _⟩ := h
  have hn : e.1 = name := by simpa using List.find?_some he
  exact hn ▸ List.mem_map_of_mem (List.mem_of_find?_eq_some he)

theorem contains_iff {g : Registry} {name : Text} : g.contains name = true ↔ name ∈ g.names :=
  Table.isSome_get?_iff

theorem exists_find?_of_mem {g : Registry} {name : Text} (h : name ∈ g.names) :
    ∃ rule, g.find? name = some rule :=
  Option.isSome_iff_exists.1 (contains_iff.2 h)

theorem find?_eq_none_iff {g : Registry} {name : Text} : g.find? name = none ↔ name ∉ g.names :=
  Table.get?_eq_none_iff

/-- A name is derived by the rule of the registry that has that name. -/
theorem find?_eq_some_iff {g : Registry} {name : Text} {rule : Rule} :
    g.find? name = some rule ↔ rule ∈ g.rules ∧ rule.name = name := by
  unfold find? rules
  rw [Table.get?_eq_some_iff, List.mem_map]
  constructor
  · intro h
    exact ⟨⟨_, h, rfl⟩, g.named _ h⟩
  · rintro ⟨⟨e, he, rfl⟩, rfl⟩
    have hname := g.named e he
    rw [hname]
    exact he

theorem inputs_of_find? {g : Registry} {name : Text} {rule : Rule}
    (h : g.find? name = some rule) : g.inputs name = rule.inputs := by
  unfold inputs
  rw [h]
  rfl

/-- Only derived names have inputs. -/
theorem mem_names_of_mem_inputs {g : Registry} {name input : Text} (h : input ∈ g.inputs name) :
    name ∈ g.names := by
  unfold inputs at h
  cases hf : g.find? name with
  | none =>
    rw [hf] at h
    exact absurd h List.not_mem_nil
  | some rule => exact mem_names_of_find? hf

end Registry

namespace RuleSet

def none : RuleSet := .list []

/-- Adds the next rule of a list, which must derive a new name. -/
def addNew (g : Registry) (rule : Rule) : Except Conflict Registry :=
  if g.contains rule.name then .error (.duplicate rule.name) else .ok (g.set rule)

/-- Adds the next rule of a table, which must stand under its own name. -/
def addNamed (g : Registry) (entry : Text × Rule) : Except Conflict Registry :=
  if entry.1 = entry.2.name then .ok (g.set entry.2)
  else .error (.misplaced entry.1 entry.2.name)

/-- The registry of a rule set, or its first conflict. -/
def registry : RuleSet → Except Conflict Registry
  | list rules => rules.foldlM addNew .empty
  | byName rules => rules.entries.foldlM addNamed .empty

@[simp] theorem registry_none : none.registry = .ok .empty := rfl

end RuleSet

end Formwork
