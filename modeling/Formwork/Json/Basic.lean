import Formwork.Number.Double
import Formwork.Table
import Formwork.Text.Quoted

/-!
# JSON values

Values as a JSON text writes them.  A number written with a point or an exponent is a double and
any other number an integer of any size; the two spellings of infinity and of what is no number
are doubles as well.  An object keeps its members in the order of their first mention, each name
once.

Strings are written with as few escapes as JSON allows: the quote, the backslash and the control
characters, those with a letter of their own by it and the others by number.  An object is written
with one member a line, indented by two spaces.
-/

namespace Formwork

inductive Json where
  | null
  | bool (value : Bool)
  | integer (value : Int)
  | real (value : Double)
  | text (value : Text)
  | array (items : List Json)
  | object (members : List (Text × Json))
  deriving Repr

namespace Json

def kind : Json → Text
  | null => "NoneType"
  | bool _ => "bool"
  | integer _ => "int"
  | real _ => "float"
  | text _ => "str"
  | array _ => "list"
  | object _ => "dict"

def member? (name : Text) (members : List (Text × Json)) : Option Json :=
  (members.find? fun m => m.1 == name).map Prod.snd

/-! ## Writing -/

/-- A character as it stands in a JSON string. -/
def escapedChar (c : Char) : Text :=
  if c = '"' then ['\\', '"']
  else if c = '\\' then ['\\', '\\']
  else if c = '\n' then ['\\', 'n']
  else if c = '\r' then ['\\', 'r']
  else if c = '\t' then ['\\', 't']
  else if c = '\x08' then ['\\', 'b']
  else if c = '\x0c' then ['\\', 'f']
  else if c.toNat < 0x20 then '\\' :: 'u' :: Text.hexDigits 4 c.toNat
  else [c]

def writeText (s : Text) : Text := '"' :: s.flatMap escapedChar ++ ['"']

def writeBool (b : Bool) : Text := if b then "true" else "false"

/-- An object whose values are written already, one member a line. -/
def writeObject (members : List (Text × Text)) : Text :=
  "\x7b\n"
    ++ List.intercalate [',', '\n'] (members.map fun (n, v) => "  " ++ writeText n ++ ": " ++ v)
    ++ "\n\x7d"

end Json

end Formwork
