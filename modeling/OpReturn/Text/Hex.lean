import OpReturn.Bytes

/-!
# Hexadecimal text

Bytes are written as two lower-case digits each. Reading takes digits of either case and lets
ASCII blanks stand between bytes, but not inside one; it fails at the first character that is
not a digit where one is needed.
-/

namespace OpReturn.Hex

/-! ## Writing -/

/-- The lower-case digit for a value below sixteen. -/
def digit (n : Nat) : Char := Char.ofNat (if n < 10 then 48 + n else 87 + n)

/-- The two digits of a byte, high half first. -/
def pair (b : UInt8) : List Char := [digit (b.toNat / 16), digit (b.toNat % 16)]

/-- Two digits a byte. -/
def encode (s : Bytes) : String := String.ofList (s.flatMap pair)

/-! ## Reading -/

/-- The index of the first character that is not a digit where one is needed. It is the length
of the text when the last byte lacks its second digit. -/
structure DecodeError where
  position : Nat
deriving DecidableEq, Repr

/-- What went wrong, in words. -/
def DecodeError.message (e : DecodeError) : String :=
  "non-hexadecimal number found in fromhex() arg at position " ++ toString e.position

/-- The value of a digit of either case. -/
def digit? (c : Char) : Option Nat :=
  if '0' ≤ c ∧ c ≤ '9' then some (c.toNat - 48)
  else if 'a' ≤ c ∧ c ≤ 'f' then some (c.toNat - 87)
  else if 'A' ≤ c ∧ c ≤ 'F' then some (c.toNat - 55)
  else none

/-- The blanks that may stand between bytes: space, tab, and the line and page breaks of ASCII. -/
def isGap (c : Char) : Bool := c = ' ' || ('\t' ≤ c && c ≤ '\r')

/-- Reads from position `i` on, with the bytes before it in `acc`, last first. -/
def decodeFrom (i : Nat) (acc : Bytes) : List Char → Except DecodeError Bytes
  | [] => .ok acc.reverse
  | c :: cs =>
    if isGap c then decodeFrom (i + 1) acc cs
    else match digit? c, cs with
      | none, _ => .error ⟨i⟩
      | some _, [] => .error ⟨i + 1⟩
      | some h, d :: cs =>
        match digit? d with
        | none => .error ⟨i + 1⟩
        | some l => decodeFrom (i + 2) (UInt8.ofNat (16 * h + l) :: acc) cs

/-- The bytes of a hexadecimal text. A character outside ASCII is reported before any other
fault, wherever it stands. -/
def decode (text : String) : Except DecodeError Bytes :=
  match text.toList.findIdx? (fun c => 127 < c.toNat) with
  | some i => .error ⟨i⟩
  | none => decodeFrom 0 [] text.toList

end OpReturn.Hex
