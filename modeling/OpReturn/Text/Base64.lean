import OpReturn.Bytes

/-!
# Base64

Three bytes are written as four digits of the standard alphabet, and the last group is filled up
with `=`. Reading is strict about what stands where, but the bits that the last digit has to
spare are not looked at, so a byte string can have several base64 texts.
-/

namespace OpReturn.Base64

/-! ## Writing -/

/-- The digit for a value below sixty-four. -/
def digit (n : Nat) : UInt8 :=
  UInt8.ofNat (if n < 26 then 0x41 + n else if n < 52 then 71 + n else if n < 62 then n - 4
    else if n = 62 then 0x2B else 0x2F)

/-- The base64 text of a byte string, as ASCII bytes. -/
def encode : Bytes → Bytes
  | [] => []
  | [a] => [digit (a.toNat / 4), digit (a.toNat % 4 * 16), 0x3D, 0x3D]
  | [a, b] =>
    [digit (a.toNat / 4), digit (a.toNat % 4 * 16 + b.toNat / 16), digit (b.toNat % 16 * 4), 0x3D]
  | a :: b :: c :: s =>
    digit (a.toNat / 4) :: digit (a.toNat % 4 * 16 + b.toNat / 16)
      :: digit (b.toNat % 16 * 4 + c.toNat / 64) :: digit (c.toNat % 64) :: encode s

/-! ## Reading -/

/-- Why a text is not base64. -/
inductive DecodeError where
  | leadingPadding
  | foreignByte
  | interruptedPadding
  | dataAfterPadding
  | incompletePadding
  /-- The last group holds a single digit, the given number of digits in all. -/
  | loneDigit (digits : Nat)
deriving DecidableEq, Repr

/-- What went wrong, in words. -/
def DecodeError.message : DecodeError → String
  | .leadingPadding => "Leading padding not allowed"
  | .foreignByte => "Only base64 data is allowed"
  | .interruptedPadding => "Discontinuous padding not allowed"
  | .dataAfterPadding => "Excess data after padding"
  | .incompletePadding => "Incorrect padding"
  | .loneDigit digits => "Invalid base64-encoded string: number of data characters ("
      ++ toString digits ++ ") cannot be 1 more than a multiple of 4"

/-- The value of a digit. -/
def digit? (b : UInt8) : Option Nat :=
  if 0x41 ≤ b ∧ b ≤ 0x5A then some (b.toNat - 0x41)
  else if 0x61 ≤ b ∧ b ≤ 0x7A then some (b.toNat - 71)
  else if 0x30 ≤ b ∧ b ≤ 0x39 then some (b.toNat + 4)
  else if b = 0x2B then some 62
  else if b = 0x2F then some 63
  else none

/-- A reading under way: `place` digits of the current group are read, their bits that make no
whole byte yet are `spare`, `pads` padding signs close the group so far, `padded` tells whether
any padding was met at all, and `out` holds the bytes so far, last first. -/
structure Reading where
  place : Nat := 0
  spare : Nat := 0
  pads : Nat := 0
  padded : Bool := false
  out : Bytes := []

/-- The bytes of a reading that has met the end of the text. -/
def Reading.finish (r : Reading) : Except DecodeError Bytes :=
  match r.place with
  | 0 => .ok r.out.reverse
  | 1 => .error (.loneDigit (r.out.length / 3 * 4 + 1))
  | _ => .error .incompletePadding

/-- Takes one digit. -/
def Reading.push (r : Reading) (v : Nat) : Reading :=
  match r.place with
  | 0 => { r with place := 1, spare := v }
  | 1 => { r with place := 2, spare := v % 16,
                  out := UInt8.ofNat (r.spare * 4 + v / 16) :: r.out }
  | 2 => { r with place := 3, spare := v % 4,
                  out := UInt8.ofNat (r.spare * 16 + v / 4) :: r.out }
  | _ => { r with place := 0, spare := 0,
                  out := UInt8.ofNat (r.spare * 64 + v) :: r.out }

/-- Reads the rest of a text. Padding that completes a group ends it; padding elsewhere is
passed over, but no digit may follow it. -/
def Reading.run (r : Reading) : Bytes → Except DecodeError Bytes
  | [] => r.finish
  | b :: s =>
    if b = 0x3D then
      if 2 ≤ r.place ∧ 4 ≤ r.place + r.pads + 1 then
        if s.isEmpty then .ok r.out.reverse else .error .dataAfterPadding
      else Reading.run
        { r with padded := true, pads := if 2 ≤ r.place then r.pads + 1 else r.pads } s
    else match digit? b with
      | none => .error .foreignByte
      | some v => if r.padded then .error .interruptedPadding else Reading.run (r.push v) s

/-- The bytes of a base64 text given as ASCII bytes. -/
def decode (text : Bytes) : Except DecodeError Bytes :=
  match text with
  | 0x3D :: _ => .error .leadingPadding
  | _ => Reading.run {} text

end OpReturn.Base64
