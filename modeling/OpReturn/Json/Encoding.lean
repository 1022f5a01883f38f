import OpReturn.Text.Wide

/-!
# The bytes of JSON texts

A JSON text comes as bytes in UTF-8, UTF-16 or UTF-32. A byte order mark in front tells which; a
text without one begins with an ASCII character, so the places of the zero bytes at its front tell
(`Encoding.detect`). Halves of surrogate pairs are taken in each of the encodings.
-/

namespace OpReturn.Json

/-- How a text is written as bytes. -/
inductive Encoding where
  | utf8
  | wide (e : Wide.Encoding)
deriving DecidableEq, Repr

/-- Why bytes are no text. -/
inductive EncodingError where
  | utf8 (e : Utf8.DecodeError)
  | wide (e : Wide.DecodeError)
deriving DecidableEq, Repr

/-- What went wrong, in words. -/
def EncodingError.message : EncodingError → String
  | .utf8 e => e.message
  | .wide e => e.message

namespace Encoding

/-- The byte order marks and the encodings that they tell. One that another begins with comes after
it. -/
def marks : List (Bytes × Encoding) := [
  ([0x00, 0x00, 0xFE, 0xFF], .wide (.utf32 true)),
  ([0xFF, 0xFE, 0x00, 0x00], .wide (.utf32 false)),
  ([0xFE, 0xFF], .wide (.utf16 true)),
  ([0xFF, 0xFE], .wide (.utf16 false)),
  ([0xEF, 0xBB, 0xBF], .utf8)]

/-- The encoding of a text that begins with an ASCII character. Texts of one or three bytes are
UTF-8. -/
def ofZeros : Bytes → Encoding
  | a :: b :: c :: d :: _ =>
    if a = 0 then .wide (if b = 0 then .utf32 true else .utf16 true)
    else if b = 0 then .wide (if c = 0 && d = 0 then .utf32 false else .utf16 false)
    else .utf8
  | [a, b] =>
    if a = 0 then .wide (.utf16 true) else if b = 0 then .wide (.utf16 false) else .utf8
  | _ => .utf8

/-- The byte order mark at the front of a text, which can be empty, and the encoding. -/
def detect (s : Bytes) : Bytes × Encoding :=
  (marks.find? fun mark => mark.1.isPrefixOf s).getD ([], ofZeros s)

/-- The code points of the bytes of a text. A byte order mark is no part of the text, but only that
of UTF-8 does not count in the places of errors. -/
def decode (s : Bytes) : Except EncodingError (List CodePoint) :=
  let (mark, encoding) := detect s
  let text := s.drop mark.length
  match encoding with
  | .utf8 => (Utf8.decodeCodes text).mapError .utf8
  | .wide e => (e.decode mark.length text).mapError .wide

end Encoding
end OpReturn.Json
