import Formwork.Encoding.Basic
import Formwork.Fields.Readers
import Formwork.Json.Basic
import Formwork.Text.Letter

/-!
# Options

The options of a run are whether values of several lines are indented to their place, the name of
the encoding of template and output files, and whether an output may replace a file.  Only the
first matters to the engine itself.

The options can be given field by field, kept in a file as JSON, and taken from environment
variables.  However they are given, the name of the encoding must be a known one; it is kept as
it is spelled.  Which names are known is a parameter of the readers, `readFieldsBy` and `loadBy`;
this library knows those of `Encoding.ofName`.  A file is read with limits on its numbers and its
nesting.
-/

namespace Formwork

def Config.defaultEncoding : Text := "utf-8"

/-- The options of a run. -/
structure Config where
  indentMultiline : Bool := false
  encoding : Text := Config.defaultEncoding
  overwrite : Bool := false
  deriving Repr, DecidableEq

namespace Config

open Checked

section Lookup

-- What a name stands for does not matter here, only whether it stands for anything.
variable {Codec : Type} (lookup : Text → Except Encoding.NameError Codec)

/-- The name of an encoding that can be looked up. -/
def readEncodingBy (j : Json) : Checked Text := do
  let name ← Fields.text j
  match lookup name with
  | .ok _ => return name
  | .error (.unknown _) => .fail (.rejected ("Unknown encoding: " ++ name))
  | .error e => .fail (.rejected e.message)

/-- Reads options; those that are absent have their defaults, and a switch may be an integer of
the given range. -/
def readFieldsBy (range : Fields.IntegerRange) (ms : List (Text × Json)) : Checked Config :=
  (both (Fields.optional "indent_multiline" false (Fields.bool range) ms)
    (both (Fields.optional "encoding" Config.defaultEncoding (readEncodingBy lookup) ms)
      (Fields.optional "overwrite" false (Fields.bool range) ms))).map
    fun (indentMultiline, encoding, overwrite) => ⟨indentMultiline, encoding, overwrite⟩

end Lookup

def readFields (ms : List (Text × Json)) : Checked Config := readFieldsBy Encoding.ofName .wide ms

def toMembers (c : Config) : List (Text × Json) :=
  [("indent_multiline", .bool c.indentMultiline), ("encoding", .text c.encoding),
    ("overwrite", .bool c.overwrite)]

/-! ## Files -/

def save (c : Config) : Text :=
  Json.writeObject [("indent_multiline", Json.writeBool c.indentMultiline),
    ("encoding", Json.writeText c.encoding), ("overwrite", Json.writeBool c.overwrite)]

/-- How deep the arrays and objects of a file may stand in each other. -/
def maxNesting : Nat := 200

/-- The greatest depth of tokens that stand at the given depth already; empty arrays and objects
do not count. -/
def nesting (depth : Nat) : List Json.Token → Nat
  | [] => depth
  | .openArray :: .closeArray :: ts => nesting depth ts
  | .openObject :: .closeObject :: ts => nesting depth ts
  | .openArray :: ts => nesting (depth + 1) ts
  | .openObject :: ts => nesting (depth + 1) ts
  | .closeArray :: ts => max depth (nesting (depth - 1) ts)
  | .closeObject :: ts => max depth (nesting (depth - 1) ts)
  | _ :: ts => nesting depth ts

/-- Whether a token is no number, or one whose sign and integer part are not too long. -/
def isShortNumber : Json.Token → Bool
  | .word w => Fields.leadingSize w ≤ Json.maxDigits
  | _ => true

/-- Reads the text of a file that keeps options.  It must not be nested too deep nor hold too long
numbers, also in members that mean nothing. -/
def loadBy {Codec : Type} (lookup : Text → Except Encoding.NameError Codec) (s : Text) :
    Checked Config :=
  let tokens := Json.Token.scan s
  if nesting 0 tokens ≤ maxNesting && tokens.all isShortNumber then
    match Json.ofTokens tokens with
    | .ok j => Fields.record (readFieldsBy lookup .eighteenDigits) j
    | .error _ => .fail .notJson
  else .fail .notJson

def load (s : Text) : Checked Config := loadBy Encoding.ofName s

/-! ## The environment -/

abbrev Environment := Table Text

/-- The value of a variable that is set; an empty one counts as not set. -/
def setting? (env : Environment) (name : Text) : Option Text :=
  match env.get? name with
  | some [] => none
  | other => other

def switchesOn (value : Text) : Bool :=
  let words : List Text := ["1", "true", "yes", "on"]
  words.contains (Text.toLower (Text.strip value))

/-- The members of the record of options that the environment gives. -/
def environmentMembers (env : Environment) : List (Text × Json) :=
  let flag (field source : Text) : List (Text × Json) :=
    match setting? env source with
    | some value => [(field, .bool (switchesOn value))]
    | none => []
  let encoding : List (Text × Json) :=
    match setting? env "STENCIL_ENCODING" with
    | some value => [("encoding", .text (Text.strip value))]
    | none => []
  flag "indent_multiline" "STENCIL_INDENT_MULTILINE" ++ encoding
    ++ flag "overwrite" "STENCIL_OVERWRITE"

/-- The options that the environment gives. -/
def ofEnvironmentBy {Codec : Type} (lookup : Text → Except Encoding.NameError Codec)
    (env : Environment) : Checked Config :=
  readFieldsBy lookup .wide (environmentMembers env)

/-- The options that the environment gives, with a known encoding. -/
def ofEnvironment (env : Environment) : Checked Config := ofEnvironmentBy Encoding.ofName env

end Config

end Formwork
