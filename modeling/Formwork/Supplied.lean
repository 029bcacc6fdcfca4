import Formwork.Json.Basic

/-!
# Supplied values

The values for a template are supplied as texts, or as data of any kind.  `Supplied` is the class
of the two: rules see every value as data, and a text that a rule derives is a value again.  So the
values are completed in one way, whatever they are.

Only texts can be bound in the end.  `Table.texts` reads a table of supplied values as texts, or
says under which names other data stand; a table of texts is read as itself.
-/

namespace Formwork

/-- A type of supplied values. -/
class Supplied (α : Type) where
  /-- A text as a value. -/
  ofText : Text → α
  /-- A value as data. -/
  toJson : α → Json
  toJson_ofText (s : Text) : toJson (ofText s) = .text s

attribute [simp] Supplied.toJson_ofText

/-- Texts are supplied as they are. -/
instance : Supplied Text := ⟨id, .text, fun _ => rfl⟩

/-- Data of any kind are supplied as they are. -/
instance : Supplied Json := ⟨.text, id, fun _ => rfl⟩

namespace Supplied

@[simp] theorem ofText_text (s : Text) : (ofText s : Text) = s := rfl

@[simp] theorem toJson_text (s : Text) : toJson s = .text s := rfl

variable {α : Type} [Supplied α]

def text? (v : α) : Option Text :=
  match toJson v with
  | .text s => some s
  | _ => none

@[simp] theorem text?_text (s : Text) : text? s = some s := rfl

end Supplied

namespace Table

variable {α : Type} [Supplied α]

/-- The names under which something else than a text stands. -/
def foreignNames (t : Table α) : List Text :=
  (t.entries.filter fun e => (Supplied.text? e.2).isNone).map Prod.fst

/-- The values as texts, or the names of those that are none. -/
def texts (t : Table α) : Except (List Text) (Table Text) :=
  if t.foreignNames.isEmpty then .ok (t.map fun v => (Supplied.text? v).getD [])
  else .error t.foreignNames

@[simp] theorem foreignNames_text (t : Table Text) : t.foreignNames = [] := by
  simp [foreignNames]

@[simp] theorem map_ofText (t : Table Text) : (t.map Supplied.ofText : Table Text) = t := map_id t

/-- Texts need no reading. -/
@[simp] theorem texts_text (t : Table Text) : t.texts = .ok t := by
  simp [texts]

end Table

end Formwork
