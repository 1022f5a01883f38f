import OpReturn.Text.Blank
import OpReturn.Text.Decimal

/-!
# Integers as people write them

A decimal integer may be written in the digits of any writing system, with a sign in front, white
space around it and single underscores between its digits.

* `Numeral.read?`: the integer that a text stands for.
-/

namespace OpReturn.Numeral

/-- The zeros of the decimal digits of Unicode 14. The other nine follow each of them. -/
def zeros : List Nat := [
  0x30, 0x660, 0x6F0, 0x7C0, 0x966, 0x9E6, 0xA66, 0xAE6, 0xB66, 0xBE6, 0xC66, 0xCE6, 0xD66, 0xDE6,
  0xE50, 0xED0, 0xF20, 0x1040, 0x1090, 0x17E0, 0x1810, 0x1946, 0x19D0, 0x1A80, 0x1A90, 0x1B50,
  0x1BB0, 0x1C40, 0x1C50, 0xA620, 0xA8D0, 0xA900, 0xA9D0, 0xA9F0, 0xAA50, 0xABF0, 0xFF10, 0x104A0,
  0x10D30, 0x11066, 0x110F0, 0x11136, 0x111D0, 0x112F0, 0x11450, 0x114D0, 0x11650, 0x116C0, 0x11730,
  0x118E0, 0x11950, 0x11C50, 0x11D50, 0x11DA0, 0x16A60, 0x16AC0, 0x16B50, 0x1D7CE, 0x1D7D8, 0x1D7E2,
  0x1D7EC, 0x1D7F6, 0x1E140, 0x1E2F0, 0x1E950, 0x1FBF0]

/-- The value of a decimal digit. -/
def digit? (c : Char) : Option Nat :=
  (zeros.find? fun first => first ≤ c.toNat && c.toNat < first + 10).map (c.toNat - ·)

/-- The values of the digits of a text that has single underscores between them; `joined` tells
that an underscore may not come next. -/
def digits? (joined : Bool) : List Char → Option (List Nat)
  | [] => if joined then none else some []
  | c :: s =>
    if c = '_' then if joined then none else digits? true s
    else do return (← digit? c) :: (← digits? false s)

/-- The number that digits stand for; `none` for more of them than a numeral may have. -/
def natural? (s : List Char) : Option Nat := do
  let digits ← digits? true s
  if Decimal.maxDigits < digits.length then none
  else return digits.foldl (fun n d => 10 * n + d) 0

/-- The integer that a text stands for. -/
def read? (text : String) : Option Int :=
  match (Blank.trim text).toList with
  | '-' :: s => (natural? s).map fun n => -(n : Int)
  | '+' :: s => (natural? s).map Int.ofNat
  | s => (natural? s).map Int.ofNat

end OpReturn.Numeral
