import Formwork.Names
import Formwork.Text.Blank
import Formwork.Text.Letter

/-!
# Naming styles

The same words can be written as one name in several styles: `user-card`, `user_card`,
`UserCard`, `userCard`.  A `Style` turns any text into a name of its kind.

The separated styles find the words by their capitals first, in two passes, and by their
separators afterwards.

* `breakBeforeWords` puts an underscore in front of a capital that small letters follow.
* `breakAfterSmall` puts one between a small letter or a digit and a capital.
* Runs of hyphens, underscores and blanks then become one underscore each, the text is written in
  small letters, and underscores at the ends are dropped.

The joined styles look at separators only, and leave every word as it is except for its first
letter.  Capitals, small letters and digits mean the ASCII ones where words are sought; writing
in small letters and in capitals is for all scripts.
-/

namespace Formwork

/-! ## Classes of characters -/

def isCapital (c : Char) : Bool := 'A' ≤ c && c ≤ 'Z'

def isSmall (c : Char) : Bool := 'a' ≤ c && c ≤ 'z'

def isSmallOrDigit (c : Char) : Bool := isSmall c || ('0' ≤ c && c ≤ '9')

/-- A hyphen, an underscore or a blank: what separates words. -/
def isSeparator (c : Char) : Bool := c == '-' || c == '_' || Text.isBlank c

namespace Naming

/-! ## Breaking at capitals -/

theorem length_dropWhile_le (p : Char → Bool) (s : Text) :
    (s.dropWhile p).length ≤ s.length := by
  induction s with
  | nil => exact Nat.le_refl _
  | cons c r ih =>
    rw [List.dropWhile_cons]
    split
    · exact Nat.le_succ_of_le ih
    · exact Nat.le_refl _

/-- Puts an underscore between a character and a following word with a capital initial.  The
pass goes on after the word, and the character in front may be anything but a newline. -/
def breakBeforeWords : Text → Text
  | x :: c :: l :: r =>
    if x != '\n' && isCapital c && isSmall l then
      x :: '_' :: c :: l :: (r.takeWhile isSmall ++ breakBeforeWords (r.dropWhile isSmall))
    else x :: breakBeforeWords (c :: l :: r)
  | s => s
termination_by s => s.length
decreasing_by
  · have := length_dropWhile_le isSmall r
    simp only [List.length_cons]
    omega
  · simp only [List.length_cons]
    omega

/-- Puts an underscore between a small letter or digit and a following capital. -/
def breakAfterSmall : Text → Text
  | [] => []
  | x :: r =>
    match r with
    | [] => [x]
    | c :: _ =>
      if isSmallOrDigit x && isCapital c then x :: '_' :: breakAfterSmall r
      else x :: breakAfterSmall r

/-! ## The styles -/

/-- The words of a text in small letters, joined with underscores. -/
def snake (s : Text) : Text :=
  Text.trim (· == '_')
    (Text.toLower (Text.collapse isSeparator '_'
      (breakAfterSmall (breakBeforeWords (Text.strip s)))))

/-- The words of a text in small letters, joined with hyphens. -/
def kebab (s : Text) : Text := (snake s).map fun c => if c = '_' then '-' else c

def capitalised : Text → Text
  | [] => []
  | c :: r => Text.capitalOf c ++ r

/-- The separated words of a text, each with a capital initial, written together. -/
def pascal (s : Text) : Text :=
  (Text.words isSeparator (Text.strip s)).flatMap capitalised

/-- Like `pascal`, with a small first letter. -/
def camel (s : Text) : Text :=
  match pascal s with
  | [] => []
  | c :: r => Text.smallOf c ++ r

/-- The runs of ASCII letters and digits in small letters, joined with hyphens. -/
def slug (s : Text) : Text :=
  Text.trim (· == '-')
    (Text.collapse (fun c => !isSmallOrDigit c) '-' (Text.strip (Text.toLower s)))

end Naming

/-- A way to write a text as a name. -/
inductive Style where
  | camel
  | kebab
  | lower
  | pascal
  | slug
  | snake
  | upper
  deriving Repr, DecidableEq

namespace Style

/-- Every style, in dictionary order of the names. -/
def all : List Style := [camel, kebab, lower, pascal, slug, snake, upper]

def name : Style → Text
  | camel => "camel"
  | kebab => "kebab"
  | lower => "lower"
  | pascal => "pascal"
  | slug => "slug"
  | snake => "snake"
  | upper => "upper"

def ofName? (word : Text) : Option Style := all.find? fun s => s.name == word

def apply : Style → Text → Text
  | camel => Naming.camel
  | kebab => Naming.kebab
  | lower => Text.toLower
  | pascal => Naming.pascal
  | slug => Naming.slug
  | snake => Naming.snake
  | upper => Text.toUpper

theorem ofName?_name (s : Style) : ofName? s.name = some s := by
  cases s <;> decide

end Style

end Formwork
