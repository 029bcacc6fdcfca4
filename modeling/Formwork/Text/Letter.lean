import Formwork.Text.Basic
import Formwork.Text.Letter.Small
import Formwork.Text.Letter.Capital
import Formwork.Text.Letter.Cased

/-!
# Small letters and capitals of a text

`Text.toLower` and `Text.toUpper` write a text in small letters and in capitals.  Both work
character by character, with two departures from a plain map.

* A character may become several: the capital of the sharp s is two letters, and the small form
  of the dotted capital I carries its dot as a mark of its own.
* The small form of the capital sigma depends on where it stands: at the end of a word it is the
  final sigma.  The end of a word is a place with a cased character before it and none after it,
  where transparent characters are looked through on both sides.
-/

namespace Formwork.Text

open Letter

/-- The capital sigma, the one letter whose small form depends on its neighbours. -/
def capitalSigma : Char := 'Σ'

/-- The dotted capital I, the one letter whose small form is two characters. -/
def dottedI : Char := 'İ'

/-- The small form of a character taken by itself. -/
def smallOf (c : Char) : Text :=
  if c = dottedI then ['i', '\u0307'] else if c = capitalSigma then ['σ']
  else [(lookup? smallRuns c).getD c]

def capitalOf (c : Char) : Text :=
  match wideCapitals.find? (·.1 == c.toNat) with
  | some (_, cs) => cs.map Char.ofNat
  | none => [(lookup? capitalRuns c).getD c]

/-- Whether the first character that is not looked through is a cased one. -/
def meetsCased (s : Text) : Bool :=
  match s.dropWhile isTransparent with
  | [] => false
  | c :: _ => isCased c

/-- The text in small letters, where `before` is what stands in front of it, nearest first. -/
def lowerAfter (before : Text) : Text → Text
  | [] => []
  | c :: r =>
    (if c = capitalSigma && meetsCased before && !meetsCased r then ['ς'] else smallOf c)
      ++ lowerAfter (c :: before) r

def toLower (s : Text) : Text := lowerAfter [] s

def toUpper (s : Text) : Text := s.flatMap capitalOf

@[simp] theorem toLower_nil : toLower [] = [] := rfl

@[simp] theorem toUpper_nil : toUpper [] = [] := rfl

end Formwork.Text
