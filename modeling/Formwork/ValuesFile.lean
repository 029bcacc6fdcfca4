import Formwork.Disk
import Formwork.Encoding.Codec
import Formwork.Number.Shortest
import Formwork.Yaml.Value

/-!
# Files of values

A file of values holds a mapping, as JSON or as YAML; the end of its name tells which.  It is read
as UTF-8.  Names and values become texts: nothing becomes the empty text, truth values are spelled
in small letters, and a double is written with the fewest digits that read back.  A collection is
no value.

A name that is not a text is written as it would stand in a message, so two keys of the file may
come to the same name; then the first place and the last value count.

How the document in a text is read is up to `Readers`, which may fail in ways of their own.  The
readers of this library are `Readers.library`.
-/

namespace Formwork.ValuesFile

/-! ## Readers -/

/-- Why a reader gives no document. -/
inductive ReadFailure where
  /-- The text is not of the format; there may be words about it. -/
  | malformed (detail : Text)
  | raised (error : Foreign)
  deriving Repr, DecidableEq

/-- What the documents of files are read with. -/
structure Readers where
  json : Text → Except ReadFailure Yaml.Document
  yaml : Text → Except ReadFailure Yaml.Document

/-- A JSON value as a value of a document. -/
def ofJson : Json → Yaml.Value
  | .null => .atom .null
  | .bool b => .atom (.bool b)
  | .integer n => .atom (.integer n)
  | .real x => .atom (.real x)
  | .text s => .atom (.text s)
  | .array _ => .list
  | .object _ => .mapping

def readJson (s : Text) : Except ReadFailure Yaml.Document :=
  match Json.read s with
  | .ok (.object ms) => .ok (.mapping (ms.map fun (n, j) => (.text n, ofJson j)))
  | .ok j => .ok (.other (ofJson j))
  | .error .malformed => .error (.malformed [])
  | .error (.tooManyDigits n) => .error (.raised (.ofValue (Json.tooManyDigitsMessage n)))
  | .error .halfCharacter => .error (.raised (.ofValue "surrogates not allowed"))

def readYaml (s : Text) : Except ReadFailure Yaml.Document :=
  match Yaml.Document.read s with
  | .ok d => .ok d
  | .error (.unreadable .malformed) => .error (.malformed [])
  | .error cause =>
    if cause.className = "ValueError" then .error (.raised (.ofValue cause.message))
    else .error (.raised ⟨.other, cause.className, cause.message⟩)

/-- The readers of this library. -/
def Readers.library : Readers := ⟨readJson, readYaml⟩

/-! ## Errors -/

/-- Why a file gives no values. -/
inductive Fault where
  | disk (cause : Disk.Error)
  | undecodable (cause : CodingError)
  | unknownSuffix (suffix : Text)
  | notJson (path : Path) (detail : Text)
  | notYaml (path : Path) (detail : Text)
  | raised (error : Foreign)
  | notMapping (path : Path)
  | notScalar (name kind : Text)
  /-- An integer is too long to be written. -/
  | hugeInteger
  deriving Repr, DecidableEq

def Fault.message : Fault → Text
  | disk cause => cause.message
  | undecodable cause => cause.message
  | unknownSuffix suffix => "Expected a .json, .yaml or .yml file, got: " ++ suffix
  | notJson path detail => "Invalid JSON in " ++ path.text ++ ": " ++ detail
  | notYaml path detail => "Invalid YAML in " ++ path.text ++ ": " ++ detail
  | raised error => error.message
  | notMapping path => "Values file must contain a mapping: " ++ path.text
  | notScalar name kind => "Value for '" ++ name ++ "' must be a scalar, got " ++ kind
  | hugeInteger =>
    "Exceeds the limit (" ++ Nat.toDigits 10 Json.maxDigits
      ++ " digits) for integer string conversion; use sys.set_int_max_str_digits() to increase the limit"

/-! ## Texts of single values -/

/-- How doubles are written: positionally if the point stands at most sixteen places after the
first digit and at most three zeros precede the digits. -/
def realLayout : Double.Layout := ⟨-3, 16, 2, "inf", "nan"⟩

/-- An integer in decimal; its length is limited. -/
def integerText (n : Int) : Except Fault Text :=
  let digits := Nat.toDigits 10 n.natAbs
  if Json.maxDigits < digits.length then .error .hugeInteger
  else .ok (if n < 0 then '-' :: digits else digits)

def flagText (b : Bool) : Text := if b then "true" else "false"

def byteText (quote : Char) (b : UInt8) : Text :=
  let c := Char.ofNat b.toNat
  if c = quote || c = '\\' then ['\\', c]
  else if c = '\n' then ['\\', 'n']
  else if c = '\r' then ['\\', 'r']
  else if c = '\t' then ['\\', 't']
  else if ' ' ≤ c && c ≤ '~' then [c]
  else '\\' :: 'x' :: Text.hexDigits 2 b.toNat

def bytesText (bs : Bytes) : Text :=
  let quote := Text.quoteFor (bs.map fun b => Char.ofNat b.toNat)
  'b' :: quote :: bs.flatMap (byteText quote) ++ [quote]

def nameOf : Yaml.Atom → Except Fault Text
  | .null => .ok "None"
  | .bool b => .ok (if b then "True" else "False")
  | .integer n => integerText n
  | .real x => .ok (x.text realLayout)
  | .text s => .ok s
  | .bytes bs => .ok (bytesText bs)
  | .date d => .ok d.text
  | .moment m => .ok m.text

/-- The text of a value, or its kind if it is no scalar. -/
def valueOf (name : Text) : Yaml.Value → Except Fault Text
  | .atom .null => .ok []
  | .atom (.bool b) => .ok (flagText b)
  | .atom (.integer n) => integerText n
  | .atom (.real x) => .ok (x.text realLayout)
  | .atom (.text s) => .ok s
  | .atom (.bytes _) => .error (.notScalar name "bytes")
  | .atom (.date _) => .error (.notScalar name "date")
  | .atom (.moment _) => .error (.notScalar name "datetime")
  | .list => .error (.notScalar name "list")
  | .mapping => .error (.notScalar name "dict")
  | .set => .error (.notScalar name "set")

/-! ## Documents -/

/-- The values of entries in order. -/
def tableOf (entries : List (Yaml.Atom × Yaml.Value)) : Except Fault (Table Text) := do
  let pairs ← entries.mapM fun (k, v) => do
    let name ← nameOf k
    return (name, ← valueOf name v)
  return .ofList pairs

/-- The values of a document: nothing at all has no values. -/
def ofDocument (path : Path) : Yaml.Document → Except Fault (Table Text)
  | .mapping entries => tableOf entries
  | .other (.atom .null) => .ok .empty
  | .other _ => .error (.notMapping path)

/-- The document in a text that stands in a file of this path. -/
def documentOf (readers : Readers) (path : Path) (s : Text) : Except Fault Yaml.Document :=
  let suffix := Text.toLower path.suffix
  if suffix == ".json".toList then
    (readers.json s).mapError fun
      | .malformed detail => .notJson path detail
      | .raised error => .raised error
  else if suffix == ".yaml".toList || suffix == ".yml".toList then
    (readers.yaml s).mapError fun
      | .malformed detail => .notYaml path detail
      | .raised error => .raised error
  else .error (.unknownSuffix path.suffix)

def load (readers : Readers) (d : Disk) (path : Path) : Except Fault (Table Text) := do
  let bytes ← (d.read path).mapError .disk
  let s ← (Encoding.utf8.decodeLines bytes).mapError .undecodable
  ofDocument path (← documentOf readers path s)

end Formwork.ValuesFile
