import OpReturn.Text.Hex

/-!
# Single-byte text

ASCII in both directions, with the place of the first thing that does not fit, and Latin-1, in
which every byte is a character.
-/

namespace OpReturn

namespace Ascii

/-- A byte above 0x7f and where it stands. -/
structure DecodeError where
  byte : UInt8
  position : Nat
deriving DecidableEq, Repr

/-- What went wrong, in words. -/
def DecodeError.message (e : DecodeError) : String :=
  "'ascii' codec can't decode byte 0x" ++ Hex.encode [e.byte] ++ " in position "
    ++ toString e.position ++ ": ordinal not in range(128)"

/-- The text of the bytes, or the first byte outside ASCII. -/
def decode (s : Bytes) : Except DecodeError String :=
  match s.findIdx? (0x80 ≤ ·) with
  | some i => .error ⟨s.getD i 0, i⟩
  | none => .ok (String.ofList (s.map fun b => Char.ofNat b.toNat))

/-- The first run of characters outside ASCII and where it starts. -/
structure EncodeError where
  run : List Char
  position : Nat
deriving DecidableEq, Repr

/-- A number in hexadecimal, with zeros in front up to `width` digits. -/
def hexPadded (width n : Nat) : String :=
  let digits := Nat.toDigits 16 n
  String.ofList (List.replicate (width - digits.length) '0' ++ digits)

/-- A character as a numeric escape of the shortest form that holds it. -/
def escape (c : Char) : String :=
  if c.toNat < 0x100 then "\\x" ++ hexPadded 2 c.toNat
  else if c.toNat < 0x10000 then "\\u" ++ hexPadded 4 c.toNat
  else "\\U" ++ hexPadded 8 c.toNat

/-- What went wrong, in words. -/
def EncodeError.message (e : EncodeError) : String :=
  let place := match e.run with
    | [c] => "character '" ++ escape c ++ "' in position " ++ toString e.position
    | run => "characters in position " ++ toString e.position ++ "-"
        ++ toString (e.position + run.length - 1)
  "'ascii' codec can't encode " ++ place ++ ": ordinal not in range(128)"

/-- The bytes of the text, or its first run of characters outside ASCII. -/
def encode (text : String) : Except EncodeError Bytes :=
  let chars := text.toList
  let clean := chars.takeWhile (·.toNat < 0x80)
  match chars.drop clean.length with
  | [] => .ok (clean.map fun c => UInt8.ofNat c.toNat)
  | rest => .error ⟨rest.takeWhile (0x80 ≤ ·.toNat), clean.length⟩

end Ascii

/-- The text in which each byte is the character of its number. -/
def Latin1.decode (s : Bytes) : List Char := s.map fun b => Char.ofNat b.toNat

end OpReturn
