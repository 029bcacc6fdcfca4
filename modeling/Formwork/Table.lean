import Formwork.Text.Basic

/-!
# Tables

A table holds one entry for each of its names and keeps the names in the order in which they
were first entered.  Entering a name again replaces its entry where it stands.  That every name
stands once is part of the type, so a table is determined by what it answers and in which order
it lists its names.

The operations are described by two views: `keys`, the names in order, and `get?`, the entry of a
name.  Two tables are equal when they have the same entries in the same order (`eq_of_entries`).
-/

namespace Formwork

/-- Entries under distinct names, in the order in which the names were first entered. -/
structure Table (α : Type) where
  entries : List (Text × α)
  nodup : (entries.map Prod.fst).Nodup

namespace Table

variable {α : Type}

/-! ## The list underneath -/

/-- Replaces the entry of a name where it stands, or adds it at the end. -/
def setEntry (name : Text) (value : α) : List (Text × α) → List (Text × α)
  | [] => [(name, value)]
  | e :: r => if e.1 = name then (name, value) :: r else e :: setEntry name value r

theorem map_fst_setEntry (name : Text) (value : α) (l : List (Text × α)) :
    (setEntry name value l).map Prod.fst =
      if name ∈ l.map Prod.fst then l.map Prod.fst else l.map Prod.fst ++ [name] := by
  induction l with
  | nil => rfl
  | cons e r ih =>
    unfold setEntry
    by_cases h : e.1 = name
    · simp [h]
    · rw [if_neg h, List.map_cons, ih, List.map_cons]
      by_cases hm : name ∈ r.map Prod.fst
      · rw [if_pos hm, if_pos (List.mem_cons_of_mem _ hm)]
      · rw [if_neg hm, if_neg, List.cons_append]
        intro hc
        cases hc with
        | head => exact h rfl
        | tail _ hc => exact hm hc

theorem nodup_setEntry {name : Text} {value : α} {l : List (Text × α)}
    (h : (l.map Prod.fst).Nodup) : ((setEntry name value l).map Prod.fst).Nodup := by
  rw [map_fst_setEntry]
  split
  · exact h
  · rename_i hm
    rw [List.nodup_append]
    refine ⟨h, List.nodup_cons.2 ⟨List.not_mem_nil, List.nodup_nil⟩, ?_⟩
    intro a ha b hb e
    rw [List.mem_singleton] at hb
    exact hm (hb ▸ e ▸ ha)

/-! ## Operations -/

def empty : Table α := ⟨[], List.nodup_nil⟩

def keys (t : Table α) : List Text := t.entries.map Prod.fst

def get? (t : Table α) (name : Text) : Option α :=
  (t.entries.find? fun e => e.1 == name).map Prod.snd

def contains (t : Table α) (name : Text) : Bool := t.keys.contains name

def set (t : Table α) (name : Text) (value : α) : Table α :=
  ⟨setEntry name value t.entries, nodup_setEntry t.nodup⟩

/-- Enters pairs one after the other. -/
def setAll (t : Table α) (pairs : List (Text × α)) : Table α :=
  pairs.foldl (fun t e => t.set e.1 e.2) t

/-- A repeated name keeps its first place and takes its last value. -/
def ofList (pairs : List (Text × α)) : Table α := empty.setAll pairs

/-- The entries whose name satisfies the test. -/
def filterKeys (t : Table α) (p : Text → Bool) : Table α :=
  ⟨t.entries.filter fun e => p e.1, t.nodup.sublist (List.filter_sublist.map _)⟩

def map {β : Type} (f : α → β) (t : Table α) : Table β :=
  ⟨t.entries.map fun e => (e.1, f e.2), by
    rw [List.map_map]
    exact t.nodup⟩

/-- The entries of the first table, with those of the second over them. -/
def merge (base top : Table α) : Table α := base.setAll top.entries

/-! ## The two views -/

@[simp] theorem keys_empty : (empty : Table α).keys = [] := rfl

@[simp] theorem get?_empty (name : Text) : (empty : Table α).get? name = none := rfl

theorem nodup_keys (t : Table α) : t.keys.Nodup := t.nodup

theorem keys_set (t : Table α) (name : Text) (value : α) :
    (t.set name value).keys = if name ∈ t.keys then t.keys else t.keys ++ [name] :=
  map_fst_setEntry name value t.entries

theorem mem_keys_set_iff {t : Table α} {name key : Text} {value : α} :
    key ∈ (t.set name value).keys ↔ key ∈ t.keys ∨ key = name := by
  rw [keys_set]
  split
  · rename_i hname
    constructor
    · exact .inl
    · rintro (hkey | rfl)
      · exact hkey
      · exact hname
  · rw [List.mem_append, List.mem_singleton]

theorem get?_set (t : Table α) (name key : Text) (value : α) :
    (t.set name value).get? key = if key = name then some value else t.get? key := by
  unfold set get?
  dsimp only
  induction t.entries with
  | nil =>
    unfold setEntry
    by_cases h : key = name
    · simp [h]
    · have h' : ¬ name = key := fun e => h e.symm
      simp [h, h']
  | cons e r ih =>
    unfold setEntry
    by_cases he : e.1 = name
    · rw [if_pos he]
      by_cases h : key = name
      · simp [h]
      · have h' : ¬ name = key := fun e => h e.symm
        simp [h, h', he]
    · rw [if_neg he]
      by_cases hk : e.1 = key
      · have h' : ¬ key = name := fun e' => he (hk.trans e')
        simp [hk, h']
      · rw [List.find?_cons_of_neg (by simpa using hk), ih,
          List.find?_cons_of_neg (by simpa using hk)]

@[simp] theorem get?_set_self (t : Table α) (name : Text) (value : α) :
    (t.set name value).get? name = some value := by
  rw [get?_set, if_pos rfl]

theorem get?_set_of_ne (t : Table α) {name key : Text} (value : α) (h : key ≠ name) :
    (t.set name value).get? key = t.get? key := by
  rw [get?_set, if_neg h]

@[simp] theorem map_id (t : Table α) : (t.map fun v => v) = t := by
  simp [map]

@[simp] theorem keys_map {β : Type} (f : α → β) (t : Table α) : (t.map f).keys = t.keys := by
  simp [map, keys]

theorem get?_map {β : Type} (f : α → β) (t : Table α) (name : Text) :
    (t.map f).get? name = (t.get? name).map f := by
  unfold get? map
  rw [List.find?_map, Option.map_map, Option.map_map]
  rfl

theorem contains_iff {t : Table α} {name : Text} : t.contains name = true ↔ name ∈ t.keys := by
  simp [contains]

theorem contains_eq_false_iff {t : Table α} {name : Text} :
    t.contains name = false ↔ name ∉ t.keys := by
  rw [Bool.eq_false_iff, ne_eq, contains_iff]

/-- An entry is what the table answers for its name, since no other entry has that name. -/
theorem get?_eq_some_iff {t : Table α} {name : Text} {value : α} :
    t.get? name = some value ↔ (name, value) ∈ t.entries := by
  obtain ⟨l, hl⟩ := t
  unfold get?
  dsimp only
  induction l with
  | nil => simp
  | cons e r ih =>
    rw [List.map_cons, List.nodup_cons] at hl
    obtain ⟨k, v⟩ := e
    by_cases hk : k = name
    · subst hk
      rw [List.find?_cons_of_pos (by simp), Option.map_some, Option.some_inj, List.mem_cons]
      constructor
      · rintro rfl
        exact .inl rfl
      · rintro (h | h)
        · cases h
          rfl
        · exact absurd (List.mem_map_of_mem h) hl.1
    · rw [List.find?_cons_of_neg (by simpa using hk), ih hl.2, List.mem_cons]
      constructor
      · exact .inr
      · rintro (h | h)
        · cases h
          exact absurd rfl hk
        · exact h

theorem isSome_get?_iff {t : Table α} {name : Text} :
    (t.get? name).isSome = true ↔ name ∈ t.keys := by
  rw [Option.isSome_iff_exists]
  constructor
  · rintro ⟨v, h⟩
    exact List.mem_map_of_mem (get?_eq_some_iff.1 h)
  · intro h
    obtain ⟨⟨k, v⟩, he, rfl⟩ := List.mem_map.1 h
    exact ⟨v, get?_eq_some_iff.2 he⟩

theorem get?_eq_none_iff {t : Table α} {name : Text} : t.get? name = none ↔ name ∉ t.keys := by
  rw [← isSome_get?_iff, Bool.not_eq_true, Option.isSome_eq_false_iff, Option.isNone_iff_eq_none]

theorem keys_filterKeys (t : Table α) (p : Text → Bool) :
    (t.filterKeys p).keys = t.keys.filter p := by
  unfold filterKeys keys
  rw [List.filter_map]
  rfl

theorem get?_filterKeys (t : Table α) (p : Text → Bool) (name : Text) :
    (t.filterKeys p).get? name = if p name then t.get? name else none := by
  unfold filterKeys get?
  rw [List.find?_filter]
  by_cases hp : p name = true
  · rw [if_pos hp]
    congr 2
    funext e
    by_cases he : e.1 = name
    · simp [he, hp]
    · simp [he]
  · rw [if_neg hp, Option.map_eq_none_iff, List.find?_eq_none]
    rintro e - he
    simp only [decide_eq_true_eq, beq_iff_eq] at he
    exact hp (he.2 ▸ he.1)

/-- A new name is entered at the end. -/
theorem entries_set_of_not_mem {t : Table α} {name : Text} (h : name ∉ t.keys) (value : α) :
    (t.set name value).entries = t.entries ++ [(name, value)] := by
  unfold keys at h
  change setEntry name value t.entries = t.entries ++ [(name, value)]
  generalize t.entries = l at h ⊢
  induction l with
  | nil => rfl
  | cons e r ih =>
    rw [List.map_cons, List.mem_cons, not_or] at h
    rw [setEntry, if_neg fun he => h.1 he.symm, ih h.2]
    rfl

theorem keys_set_of_not_mem {t : Table α} {name : Text} (h : name ∉ t.keys) (value : α) :
    (t.set name value).keys = t.keys ++ [name] := by
  rw [keys_set, if_neg h]

/-- Pairs under distinct new names are entered behind each other. -/
theorem entries_setAll {t : Table α} {pairs : List (Text × α)}
    (h : (t.keys ++ pairs.map Prod.fst).Nodup) : (t.setAll pairs).entries = t.entries ++ pairs := by
  induction pairs generalizing t with
  | nil => exact (List.append_nil _).symm
  | cons e pairs ih =>
    have hnew : e.1 ∉ t.keys := fun hm =>
      (List.nodup_append.1 h).2.2 e.1 hm e.1 List.mem_cons_self rfl
    have hrest : ((t.set e.1 e.2).keys ++ pairs.map Prod.fst).Nodup := by
      rw [keys_set_of_not_mem hnew, List.append_assoc]
      exact h
    change ((t.set e.1 e.2).setAll pairs).entries = t.entries ++ e :: pairs
    rw [ih hrest, entries_set_of_not_mem hnew, List.append_assoc]
    rfl

theorem entries_ofList {pairs : List (Text × α)} (h : (pairs.map Prod.fst).Nodup) :
    (ofList pairs).entries = pairs :=
  entries_setAll h

/-- A table is known from its names and from what it answers for them. -/
theorem entries_eq_map_keys {t : Table α} {f : Text → α}
    (h : ∀ name ∈ t.keys, t.get? name = some (f name)) :
    t.entries = t.keys.map fun name => (name, f name) := by
  have hself : ∀ e ∈ t.entries, e = (e.1, f e.1) := by
    intro e he
    have hanswer := h e.1 (List.mem_map_of_mem he)
    rw [get?_eq_some_iff.2 he, Option.some_inj] at hanswer
    rw [← hanswer]
  calc
    t.entries = t.entries.map fun e => e := (List.map_id' _).symm
    _ = t.entries.map fun e => (e.1, f e.1) := List.map_congr_left hself
    _ = t.keys.map fun name => (name, f name) := by rw [keys, List.map_map]; rfl

/-! ## Entering several -/

theorem setAll_cons (t : Table α) (e : Text × α) (pairs : List (Text × α)) :
    t.setAll (e :: pairs) = (t.set e.1 e.2).setAll pairs := rfl

theorem get?_setAll_of_not_mem {pairs : List (Text × α)} {name : Text}
    (h : name ∉ pairs.map Prod.fst) (t : Table α) : (t.setAll pairs).get? name = t.get? name := by
  induction pairs generalizing t with
  | nil => rfl
  | cons e pairs ih =>
    rw [List.map_cons, List.mem_cons, not_or] at h
    rw [setAll_cons, ih h.2, get?_set_of_ne t e.2 h.1]

/-- What is entered under distinct names stands over what was there. -/
theorem get?_setAll_of_nodup {pairs : List (Text × α)} (h : (pairs.map Prod.fst).Nodup)
    {name : Text} {value : α} (hmem : (name, value) ∈ pairs) (t : Table α) :
    (t.setAll pairs).get? name = some value := by
  induction pairs generalizing t with
  | nil => exact absurd hmem List.not_mem_nil
  | cons e pairs ih =>
    rw [List.map_cons, List.nodup_cons] at h
    rw [setAll_cons]
    rcases List.mem_cons.1 hmem with rfl | hmem
    · rw [get?_setAll_of_not_mem h.1, get?_set_self]
    · exact ih h.2 hmem _

theorem get?_merge (base top : Table α) (name : Text) :
    (base.merge top).get? name = (top.get? name).or (base.get? name) := by
  unfold merge
  cases h : top.get? name with
  | none => rw [get?_setAll_of_not_mem (get?_eq_none_iff.1 h), Option.none_or]
  | some value => rw [get?_setAll_of_nodup top.nodup (get?_eq_some_iff.1 h), Option.some_or]

/-! ## Entering and leaving out -/

theorem eq_of_entries {s t : Table α} (h : s.entries = t.entries) : s = t := by
  cases s
  cases t
  cases h
  rfl

theorem filterKeys_congr {t : Table α} {p q : Text → Bool} (h : ∀ name ∈ t.keys, p name = q name) :
    t.filterKeys p = t.filterKeys q :=
  eq_of_entries (List.filter_congr fun _ he => h _ (List.mem_map_of_mem he))

theorem filterKeys_filterKeys (t : Table α) (p q : Text → Bool) :
    (t.filterKeys q).filterKeys p = t.filterKeys fun name => p name && q name :=
  eq_of_entries (List.filter_filter ..)

/-- What is entered under a name that is left out leaves no trace. -/
theorem filterKeys_set_of_neg {p : Text → Bool} {name : Text} (h : p name = false) (t : Table α)
    (value : α) : (t.set name value).filterKeys p = t.filterKeys p := by
  apply eq_of_entries
  change (setEntry name value t.entries).filter (fun e => p e.1) = t.entries.filter fun e => p e.1
  induction t.entries with
  | nil => simp [setEntry, h]
  | cons e r ih =>
    by_cases he : e.1 = name
    · simp [setEntry, he, h]
    · simp [setEntry, he, List.filter_cons, ih]

theorem filterKeys_set_of_pos {p : Text → Bool} {name : Text} (h : p name = true) (t : Table α)
    (value : α) : (t.set name value).filterKeys p = (t.filterKeys p).set name value := by
  apply eq_of_entries
  change (setEntry name value t.entries).filter (fun e => p e.1)
    = setEntry name value (t.entries.filter fun e => p e.1)
  induction t.entries with
  | nil => simp [setEntry, h]
  | cons e r ih =>
    by_cases he : e.1 = name
    · simp [setEntry, he, h]
    · by_cases hp : p e.1 = true
      · simp [setEntry, he, hp, ih]
      · simp [setEntry, he, hp, ih]

end Table

end Formwork
