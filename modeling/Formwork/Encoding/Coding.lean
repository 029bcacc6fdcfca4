import Formwork.Encoding.SingleByte
import Formwork.Encoding.Unicode

/-!
# Decoding and encoding

`Encoding.decode` and `Encoding.encode` go between the bytes of a file and its text.  A text that
is read from a file has its line ends made uniform: `decodeLines` turns a carriage return, alone
or before a newline, into one newline.  Writing leaves line ends as they are.
-/

namespace Formwork

namespace Encoding

def decode : Encoding → Bytes → Except CodingError Text
  | ascii => decodeBytes (lowChar? 128) "ascii" "ordinal not in range(128)" 0
  | latin1 => decodeBytes (lowChar? 256) "latin-1" "ordinal not in range(256)" 0
  | cp1252 => decodeBytes cp1252Char? "charmap" "character maps to <undefined>" 0
  | utf8 => decodeUtf8
  | utf8Sig => decodeUtf8Sig
  | utf16 => decodeUtf16
  | utf16le => decodeUtf16In .little
  | utf16be => decodeUtf16In .big

def encode : Encoding → Text → Except CodingError Bytes
  | ascii, s => encodeChars (lowByte? 128) "ascii" "ordinal not in range(128)" 0 s
  | latin1, s => encodeChars (lowByte? 256) "latin-1" "ordinal not in range(256)" 0 s
  | cp1252, s => encodeChars cp1252Byte? "charmap" "character maps to <undefined>" 0 s
  | utf8, s => .ok (encodeUtf8 s)
  | utf8Sig, s => .ok (utf8Mark ++ encodeUtf8 s)
  | utf16, s => .ok (ByteOrder.mark .little ++ encodeUtf16In .little s)
  | utf16le, s => .ok (encodeUtf16In .little s)
  | utf16be, s => .ok (encodeUtf16In .big s)

end Encoding

/-- A text in which every line ends with a single newline. -/
def uniformLines : Text → Text
  | [] => []
  | c :: r =>
    if c = '\r' then
      match r with
      | '\n' :: _ => uniformLines r
      | _ => '\n' :: uniformLines r
    else c :: uniformLines r

def Encoding.decodeLines (e : Encoding) (bytes : Bytes) : Except CodingError Text :=
  (e.decode bytes).map uniformLines

end Formwork
