import OpReturn.Text.Ascii
import OpReturn.Text.Hex
import OpReturn.Text.Utf8

/-!
# Percent escapes

In an address, a byte can be written as a percent sign with two hexadecimal digits. What cannot
stand for itself is written so, byte by byte of its UTF-8 form.

* `Percent.encode`: a text with escapes.
* `Percent.decode`: the text that escapes stand for.
-/

namespace OpReturn.Percent

/-- A byte as an escape. -/
def escape (b : UInt8) : List Char :=
  '%' :: (Ascii.hexPadded 2 b.toNat).toList.map Char.toUpper

/-- A character, as escapes unless it may stand for itself. -/
def encodeChar (isPlain : Char → Bool) (c : Char) : List Char :=
  if isPlain c then [c] else (String.utf8EncodeChar c).flatMap escape

/-- A text with escapes for all characters but those that may stand for themselves. -/
def encode (isPlain : Char → Bool) (text : String) : String :=
  String.ofList (text.toList.flatMap (encodeChar isPlain))

/-- The bytes that a text with escapes stands for. A percent sign without two digits after it
stands for itself. -/
def bytesOf : List Char → Bytes
  | '%' :: a :: b :: s =>
    match Hex.digit? a, Hex.digit? b with
    | some high, some low => UInt8.ofNat (16 * high + low) :: bytesOf s
    | _, _ => 0x25 :: bytesOf (a :: b :: s)
  | c :: s => String.utf8EncodeChar c ++ bytesOf s
  | [] => []

/-- The text that a text with escapes stands for. -/
def decode (text : String) : String := Utf8.decode (bytesOf text.toList)

end OpReturn.Percent
