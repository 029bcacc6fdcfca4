import Formwork.Encoding.Coding

/-!
# Codecs

The files of a run are read and written by codecs, and which codecs there are is up to the system
that the run takes place on.  Runs are given a table of them, in which the codecs of this library
are a few among many.

Little is known of a codec from elsewhere.  It may fail in ways of its own: what it raises then is
`Foreign`, an error of which only its class and its text can be told.  And a codec that keeps a
state may hold back the end of a text that is written to a file, so that the file has not got all
bytes of the text.
-/

namespace Formwork

/-! ## Errors from elsewhere -/

/-- The classes of errors that are told apart. -/
inductive Foreign.Class where
  /-- Something is missing. -/
  | absent
  /-- Something is there already. -/
  | present
  /-- A value is not acceptable. -/
  | value
  | other
  deriving Repr, DecidableEq

/-- An error that comes from outside the library. -/
structure Foreign where
  kind : Foreign.Class
  /-- What its class is called. -/
  name : Text
  message : Text
  deriving Repr, DecidableEq

def Foreign.ofValue (message : Text) : Foreign := ⟨.value, "ValueError", message⟩

/-- Whether the error is of a class that is reported. -/
def Foreign.isExpected (e : Foreign) : Bool := e.kind != .other

/-- Coding errors are about values. -/
def CodingError.foreign (e : CodingError) : Foreign where
  kind := .value
  name := match e with
    | undecodable .. => "UnicodeDecodeError"
    | unencodable .. => "UnicodeEncodeError"
    | noByteOrderMark => "UnicodeError"
  message := e.message

/-! ## Tables of codecs -/

/-- What bytes are read and written with. -/
structure Codec where
  /-- Whether it stands between bytes and texts; some codecs turn bytes into bytes. -/
  isText : Bool := true
  decode : Bytes → Except Foreign Text
  encode : Text → Except Foreign Bytes
  /-- What a file has received when the text has been written to it. -/
  written : Text → Except Foreign Bytes

namespace Codec

/-- The codecs of a system, by name. -/
abbrev Table := Text → Except Encoding.NameError Codec

/-- The codec that a name selects for texts. -/
def Table.text (codecs : Table) (name : Text) : Except Encoding.NameError Codec :=
  match codecs name with
  | .ok c => if c.isText then .ok c else .error (.notText name)
  | .error e => .error e

/-- The text of a file, with uniform line ends. -/
def decodeLines (c : Codec) (bytes : Bytes) : Except Foreign Text :=
  (c.decode bytes).map uniformLines

end Codec

namespace Encoding

/-- The codec of an encoding; it holds nothing back. -/
def codec (e : Encoding) : Codec where
  decode := fun bytes => (e.decode bytes).mapError CodingError.foreign
  encode := fun s => (e.encode s).mapError CodingError.foreign
  written := fun s => (e.encode s).mapError CodingError.foreign

/-- The codecs of this library. -/
def codecs : Codec.Table := fun name => (ofName name).map codec

end Encoding

end Formwork
