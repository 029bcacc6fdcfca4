import Formwork.Rule.Basic
import Formwork.Text.Blank

/-!
# Assignments on the command line

A value is given as `KEY=VALUE` and a rule as `NAME=SOURCE:CASE`.  Only the first equals sign
separates, and after it only the first colon; everything after that belongs to the last part.
The name, the source and the case are stripped of blanks and must not be blank; a value is taken
as it stands, and may be empty.
-/

namespace Formwork

/-- Why an argument is not what its option asks for. -/
inductive ArgumentError where
  | notAssignment (argument : Text)
  | notDerivation (argument : Text)
  | unknownStyle (cause : UnknownStyle)
  deriving Repr, DecidableEq

def ArgumentError.message : ArgumentError → Text
  | notAssignment argument => "Expected KEY=VALUE, got: " ++ Text.quoted argument
  | notDerivation argument => "Expected NAME=SOURCE:CASE, got: " ++ Text.quoted argument
  | unknownStyle cause => cause.message

/-- Reads `KEY=VALUE`. -/
def readAssignment (argument : Text) : Except ArgumentError (Text × Text) :=
  match Text.cutAt? '=' argument with
  | none => .error (.notAssignment argument)
  | some (key, value) =>
    let key := Text.strip key
    if key.isEmpty then .error (.notAssignment argument) else .ok (key, value)

/-- Reads `NAME=SOURCE:CASE` as the rule it describes. -/
def readDerivation (argument : Text) : Except ArgumentError Rule := do
  let (name, target) ← readAssignment argument
  match Text.cutAt? ':' target with
  | none => throw (.notDerivation argument)
  | some (source, word) =>
    let source := Text.strip source
    let word := Text.strip word
    if source.isEmpty || word.isEmpty then throw (.notDerivation argument)
    else (Rule.derive name source word).mapError .unknownStyle

end Formwork
