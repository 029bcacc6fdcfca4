import Formwork.Text.Basic

/-!
# Markup

Messages for the console carry markup: a tag in square brackets begins or ends a style.  Text that
is not meant as markup is escaped.  Each tag in it gets a backslash in front, and the backslashes
that stand there already are doubled.  A single backslash at the end is doubled too, since it
would escape what follows.

What counts as a tag is an opening bracket, then a small letter, `#`, `/` or `@`, and then all up
to the first closing bracket, with no other opening bracket in between.
-/

namespace Formwork.Markup

/-- The characters that a tag may begin with. -/
def beginsTag (c : Char) : Bool :=
  ('a' ≤ c && c ≤ 'z') || c == '#' || c == '/' || c == '@'

/-- The tag at the front of a text, and the rest. -/
def tag? (s : Text) : Option (Text × Text) :=
  match s with
  | '[' :: c :: r =>
    if beginsTag c then
      let inner := r.takeWhile fun c => c != '[' && c != ']'
      match r.drop inner.length with
      | ']' :: rest => some ('[' :: c :: inner ++ [']'], rest)
      | _ => none
    else none
  | _ => none

/-- The text with its tags escaped; `slashes` is the number of backslashes just in front of it,
which are still to be written. -/
def escapeTags (slashes : Nat) : Text → Text
  | [] => List.replicate slashes '\\'
  | c :: r =>
    if c = '\\' then escapeTags (slashes + 1) r
    else
      let here := if (tag? (c :: r)).isSome then 2 * slashes + 1 else slashes
      List.replicate here '\\' ++ c :: escapeTags 0 r

/-- Doubles a single backslash at the end. -/
def closeEnd (s : Text) : Text :=
  match s.reverse with
  | '\\' :: '\\' :: _ => s
  | '\\' :: _ => s ++ ['\\']
  | _ => s

/-- A text that is shown as it stands. -/
def escape (s : Text) : Text := closeEnd (escapeTags 0 s)

end Formwork.Markup
