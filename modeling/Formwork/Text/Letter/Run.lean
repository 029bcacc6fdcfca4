/-!
# Runs of letters that change case together

The case maps of Unicode are tables of some fourteen hundred entries, but their entries come in
runs: the letters of an alphabet move by one distance, and in the alphabets where capitals and
small letters alternate every second character does.  A `Run` records such a family by its two
ends, its step and its distance, so that a case map is a list of a few hundred runs and a
property of the map can be checked run by run.

## Main definitions

* `Run`: the characters `first`, `first + step`, …, `last`, all moved by `shift`.
* `Run.image?`: where one run sends a character, if it holds it.
* `lookup?`: where the first run that holds a character sends it.
* `inRanges`: membership in a list of closed ranges, the form in which plain classes are kept.
-/

namespace Formwork.Text.Letter

/-- The characters `first`, `first + step`, …, `last`, each of which moves by `shift`. -/
structure Run where
  first : Nat
  last : Nat
  step : Nat
  shift : Int
  deriving Repr, DecidableEq

def Run.holds (r : Run) (n : Nat) : Bool :=
  r.first ≤ n && n ≤ r.last && (n - r.first) % r.step == 0

/-- The character that the run moves `c` to, when it holds `c`. -/
def Run.image? (r : Run) (c : Char) : Option Char :=
  if r.holds c.toNat then some (Char.ofNat (c.toNat + r.shift).toNat) else none

/-- The image of `c` under the first run of the list that holds it. -/
def lookup? (runs : List Run) (c : Char) : Option Char :=
  runs.findSome? (·.image? c)

/-- Whether the character lies in one of the closed ranges. -/
def inRanges (ranges : List (Nat × Nat)) (c : Char) : Bool :=
  ranges.any fun r => r.1 ≤ c.toNat && c.toNat ≤ r.2

@[simp] theorem lookup?_nil (c : Char) : lookup? [] c = none := rfl

@[simp] theorem inRanges_nil (c : Char) : inRanges [] c = false := rfl

/-- A list of runs moves a character only when one of its runs holds it. -/
theorem exists_run_of_lookup? {runs : List Run} {c d : Char} (h : lookup? runs c = some d) :
    ∃ r ∈ runs, r.image? c = some d :=
  List.exists_of_findSome?_eq_some h

end Formwork.Text.Letter
