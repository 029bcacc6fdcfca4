import Formwork.Yaml.Cursor

/-!
# The tokens of a YAML text

Beside what is written, such as scalars and brackets, the tokens say what the layout means: where
a block mapping or a block sequence begins and ends, and which scalar is a key.

A text that cannot be read to its end has tokens too: those up to the place where reading fails,
and a last one that tells why.  So a fault of the document that lies in front of that place is
found first.
-/

namespace Formwork.Yaml

/-- Why a text is not read. -/
inductive LexError where
  /-- It is not YAML. -/
  | malformed
  /-- A character number beyond the last character. -/
  | noSuchCharacter
  /-- A character number beyond all bounds. -/
  | hugeCharacter
  /-- The number of half of a character. -/
  | halfCharacter
  /-- A version number of so many digits that it is not read. -/
  | longNumber (digits : Nat)
  deriving Repr, DecidableEq

inductive Directive where
  /-- The version of YAML that the document uses. -/
  | version (major : Nat)
  /-- What a tag handle stands for. -/
  | tag (handle stem : Text)
  | other
  deriving Repr, DecidableEq

inductive Token where
  | directive (d : Directive)
  | documentStart
  | documentEnd
  | blockSequenceStart
  | blockMappingStart
  | blockEnd
  | flowSequenceStart
  | flowSequenceEnd
  | flowMappingStart
  | flowMappingEnd
  | blockEntry
  | flowEntry
  | key
  | value
  | alias (name : Text)
  | anchor (name : Text)
  /-- A tag; one in angle brackets has no handle. -/
  | tag (handle : Option Text) (suffix : Text)
  /-- A scalar; `plain` means without quotes or block indicator. -/
  | scalar (text : Text) (plain : Bool)
  /-- From here on the text is not read. -/
  | failure (cause : LexError)
  deriving Repr, DecidableEq

/-- The result of reading a part of the text. -/
abbrev Lexed := Except LexError

end Formwork.Yaml
