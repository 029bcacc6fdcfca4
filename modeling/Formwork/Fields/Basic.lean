import Formwork.Json.Basic

/-!
# Checked records

Records such as templates, options and rules can be given as data, field by field.  Reading them
checks every field and reports all that is wrong at once, in the order of the fields, each issue
with the place where it lies.  `Checked` is the result of such a reading: a value, or the issues.

Checks of several fields are combined with `Checked.both`, which keeps the issues of both sides.
-/

namespace Formwork

/-- A step on the way to a part of the data: a field or member by name, an item by number. -/
inductive Step where
  | field (name : Text)
  | index (n : Nat)
  deriving Repr, DecidableEq

/-- What can be wrong with a part of the data. -/
inductive Problem where
  | missing
  | notText
  | wrongPattern
  | notInteger
  | unreadableInteger
  | fractionalInteger
  | infiniteInteger
  | hugeInteger
  | notBool
  | unreadableBool
  | tooSmall
  | tooShort
  | notTuple
  | notSet
  | notTable
  | notRecord
  | notTagged
  | tagMissing
  | tagUnknown
  | wrongConstant
  | fixed
  | notJson
  /-- A rule of the record itself rejects the value, for this reason. -/
  | rejected (reason : Text)
  deriving Repr, DecidableEq

def Problem.code : Problem → Text
  | missing => "missing"
  | notText => "string_type"
  | wrongPattern => "string_pattern_mismatch"
  | notInteger => "int_type"
  | unreadableInteger => "int_parsing"
  | fractionalInteger => "int_from_float"
  | infiniteInteger => "finite_number"
  | hugeInteger => "int_parsing_size"
  | notBool => "bool_type"
  | unreadableBool => "bool_parsing"
  | tooSmall => "greater_than_equal"
  | tooShort => "too_short"
  | notTuple => "tuple_type"
  | notSet => "frozen_set_type"
  | notTable => "dict_type"
  | notRecord => "model_type"
  | notTagged => "model_attributes_type"
  | tagMissing => "union_tag_not_found"
  | tagUnknown => "union_tag_invalid"
  | wrongConstant => "literal_error"
  | fixed => "frozen_instance"
  | notJson => "json_invalid"
  | rejected _ => "value_error"

/-- What a report says beside the code, when the record itself rejects a value. -/
def Problem.explanation? : Problem → Option Text
  | rejected reason => some ("Value error, " ++ reason)
  | _ => none

/-- A problem and where it lies. -/
structure Issue where
  problem : Problem
  place : List Step
  deriving Repr, DecidableEq

/-- A value, or all that is wrong with the data. -/
abbrev Checked (α : Type) := Except (List Issue) α

namespace Checked

/-- A single problem with the data as a whole. -/
def fail {α : Type} (p : Problem) : Checked α := .error [⟨p, []⟩]

/-- Issues with a part of the data, as issues with the whole. -/
def under {α : Type} (s : Step) (x : Checked α) : Checked α :=
  x.mapError fun issues => issues.map fun i => ⟨i.problem, s :: i.place⟩

/-- Two checks; the issues of both are kept. -/
def both {α β : Type} (x : Checked α) (y : Checked β) : Checked (α × β) :=
  match x, y with
  | .ok a, .ok b => .ok (a, b)
  | .ok _, .error f => .error f
  | .error e, .ok _ => .error e
  | .error e, .error f => .error (e ++ f)

/-- Checks of a list of things, numbered from `n` on; the issues of all are kept. -/
def eachFrom {α β : Type} (check : α → Checked β) (n : Nat) : List α → Checked (List β)
  | [] => .ok []
  | x :: xs =>
    (both (under (.index n) (check x)) (eachFrom check (n + 1) xs)).map fun (y, ys) => y :: ys

def each {α β : Type} (check : α → Checked β) (xs : List α) : Checked (List β) :=
  eachFrom check 0 xs

end Checked

end Formwork
