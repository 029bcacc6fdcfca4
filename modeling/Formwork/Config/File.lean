import Formwork.Config.Fields
import Formwork.Disk
import Formwork.Encoding.Coding

/-!
# Files of options

A file keeps options as JSON in UTF-8.  Saving provides the directories that lead to the file and
replaces what the file held; loading makes line ends uniform, as with every text that is read.

The report about options that are not accepted lists each issue under its field, with the code of
the problem and the value that was given.  A long value is shown by its two ends.
-/

namespace Formwork.Config

/-! ## Saving and loading -/

/-- Why a file gives no options. -/
inductive FileFault where
  | disk (cause : Disk.Error)
  | undecodable (cause : CodingError)
  | notAccepted (issues : List Issue)
  deriving Repr, DecidableEq

def saveTo (d : Disk) (p : Path) (c : Config) : Disk × Except Disk.Error Path :=
  match d.provideAll p.root p.parent.names with
  | (d, some e) => (d, .error e)
  | (d, none) =>
    match d.write p (Encoding.encodeUtf8 c.save) with
    | .error e => (d, .error e)
    | .ok d => (d, .ok p)

/-- Reads the options that a file keeps. -/
def loadFromBy {Codec : Type} (lookup : Text → Except Encoding.NameError Codec) (d : Disk)
    (p : Path) : Except FileFault Config := do
  let bytes ← (d.read p).mapError .disk
  let s ← (Encoding.utf8.decodeLines bytes).mapError .undecodable
  (loadBy lookup s).mapError .notAccepted

def loadFrom (d : Disk) (p : Path) : Except FileFault Config := loadFromBy Encoding.ofName d p

/-! ## Reports -/

/-- The longest beginning of a text that takes at most the given number of bytes. -/
def takeBytes (size : Nat) : Text → Text
  | [] => []
  | c :: r => if c.utf8Size ≤ size then c :: takeBytes (size - c.utf8Size) r else []

/-- A value as the report shows it: in full if it takes at most fifty bytes, otherwise its first
25 and its last 24 bytes, as far as they hold whole characters. -/
def shortened (s : Text) : Text :=
  if Disk.utf8Size s ≤ 50 then s
  else takeBytes 25 s ++ ['.', '.', '.'] ++ (takeBytes 24 s.reverse).reverse

def stepText : Step → Text
  | .field name => name
  | .index n => Nat.toDigits 10 n

def issueReport (given : Text) (i : Issue) : Text :=
  List.intercalate ['.'] (i.place.map stepText) ++ "\n  ".toList
    ++ i.problem.explanation?.getD [] ++ " [type=".toList ++ i.problem.code
    ++ ", input_value=".toList ++ shortened (Text.quoted given) ++ ", input_type=str]".toList

def report (given : Text) (issues : List Issue) : Text :=
  Nat.toDigits 10 issues.length ++ " validation error".toList
    ++ (if issues.length == 1 then [] else ['s']) ++ " for EngineConfig".toList
    ++ issues.flatMap fun i => '\n' :: issueReport given i

end Formwork.Config
