import OpReturn.Text.Hex

/-!
# UTF-8

Text is written as UTF-8 (`encode`) and read back in three ways. `decode` replaces each maximal
part of a broken sequence by the replacement character; `decodeStrict` refuses the bytes at the
first such part; `decodeCodes` does so too, but reads three bytes that stand for half of a surrogate
pair as that half. All are views of one reading, `pieces`, which splits the bytes into characters
and broken parts.

The reading is a machine that takes one byte at a time. A lead byte fixes how many continuation
bytes follow and the bounds on the first of them, which rules out overlong forms, surrogates and
numbers past the last code point.
-/

namespace OpReturn

/-- A code point: a character, or half of a surrogate pair, which is no character. -/
inductive CodePoint where
  | char (c : Char)
  | half (n : Nat)
deriving DecidableEq, Repr

namespace CodePoint

/-- The code point with the given number. -/
def ofNat (n : Nat) : CodePoint :=
  if 0xD800 ≤ n ∧ n ≤ 0xDFFF then .half n else .char (Char.ofNat n)

/-- The number of a code point. -/
def toNat : CodePoint → Nat
  | .char c => c.toNat
  | .half n => n

end CodePoint

namespace Utf8

/-- The UTF-8 bytes of a text. -/
def encode (text : String) : Bytes := text.toList.flatMap String.utf8EncodeChar

/-! ## Lead bytes -/

/-- What a lead byte asks for: how many continuation bytes, the bounds on the first of them, and
the bits that the lead contributes itself. -/
structure Lead where
  tail : Nat
  low : UInt8
  high : UInt8
  bits : Nat

/-- The demands of a byte that starts a longer sequence; `none` for a byte that starts none. -/
def lead? (b : UInt8) : Option Lead :=
  if b < 0xC2 then none
  else if b < 0xE0 then some ⟨1, 0x80, 0xBF, b.toNat - 0xC0⟩
  else if b = 0xE0 then some ⟨2, 0xA0, 0xBF, b.toNat - 0xE0⟩
  else if b = 0xED then some ⟨2, 0x80, 0x9F, b.toNat - 0xE0⟩
  else if b < 0xF0 then some ⟨2, 0x80, 0xBF, b.toNat - 0xE0⟩
  else if b = 0xF0 then some ⟨3, 0x90, 0xBF, b.toNat - 0xF0⟩
  else if b < 0xF4 then some ⟨3, 0x80, 0xBF, b.toNat - 0xF0⟩
  else if b = 0xF4 then some ⟨3, 0x80, 0x8F, b.toNat - 0xF0⟩
  else none

/-! ## The reading -/

/-- Why a part of the bytes is no character. -/
inductive Fault where
  /-- The byte starts no sequence. -/
  | badStart
  /-- A sequence was broken off by a byte that cannot continue it. -/
  | badContinuation
  /-- The bytes ended inside a sequence. -/
  | cutShort
deriving DecidableEq, Repr

/-- A character, or the bytes of a broken part. -/
inductive Piece where
  | char (c : Char)
  | broken (fault : Fault) (bytes : Bytes)

/-- Where the machine stands between bytes: at a boundary, or inside a sequence whose bytes so
far are `seen`, last first, with `more + 1` continuation bytes to come, the next one between
`low` and `high`. -/
inductive State where
  | boundary
  | inside (seen : Bytes) (more : Nat) (low high : UInt8) (value : Nat)

/-- A reading under way: the state and the pieces so far, last first. -/
structure Reading where
  state : State
  pieces : List Piece

/-- Takes a byte at a boundary. -/
def start (b : UInt8) (done : List Piece) : Reading :=
  if b < 0x80 then ⟨.boundary, .char (Char.ofNat b.toNat) :: done⟩
  else match lead? b with
    | some ⟨more + 1, low, high, bits⟩ => ⟨.inside [b] more low high bits, done⟩
    | _ => ⟨.boundary, .broken .badStart [b] :: done⟩

/-- Takes one byte. -/
def Reading.step (r : Reading) (b : UInt8) : Reading :=
  match r.state with
  | .boundary => start b r.pieces
  | .inside seen more low high value =>
    if low ≤ b ∧ b ≤ high then
      let value := 64 * value + (b.toNat - 0x80)
      match more with
      | 0 => ⟨.boundary, .char (Char.ofNat value) :: r.pieces⟩
      | more + 1 => ⟨.inside (b :: seen) more 0x80 0xBF value, r.pieces⟩
    else start b (.broken .badContinuation seen.reverse :: r.pieces)

/-- The pieces of a reading that has met the end of the bytes. -/
def Reading.finish (r : Reading) : List Piece :=
  match r.state with
  | .boundary => r.pieces.reverse
  | .inside seen _ _ _ _ => (.broken .cutShort seen.reverse :: r.pieces).reverse

/-- The characters and broken parts that the bytes consist of, in order. -/
def pieces (s : Bytes) : List Piece := (s.foldl Reading.step ⟨.boundary, []⟩).finish

/-! ## Reading with replacement -/

/-- The character of a piece; U+FFFD for a broken part. -/
def Piece.shown : Piece → Char
  | .char c => c
  | .broken _ _ => '\uFFFD'

/-- The text of the bytes, with U+FFFD for each broken part. -/
def decode (s : Bytes) : String := String.ofList ((pieces s).map Piece.shown)

/-! ## Strict reading -/

/-- The first broken part, with the number of bytes before it. -/
structure DecodeError where
  fault : Fault
  position : Nat
  bytes : Bytes
deriving DecidableEq, Repr

/-- The reason of a fault, in words. -/
def Fault.reason : Fault → String
  | .badStart => "invalid start byte"
  | .badContinuation => "invalid continuation byte"
  | .cutShort => "unexpected end of data"

/-- The place of some bytes, in words. A byte on its own is shown. -/
def placeText (position : Nat) : Bytes → String
  | [b] => "byte 0x" ++ Hex.encode [b] ++ " in position " ++ toString position
  | bytes => "bytes in position " ++ toString position ++ "-"
      ++ toString (position + bytes.length - 1)

/-- What went wrong, in words. -/
def DecodeError.message (e : DecodeError) : String :=
  "'utf-8' codec can't decode " ++ placeText e.position e.bytes ++ ": " ++ e.fault.reason

/-- The characters of pieces that start at byte `position`, after those in `acc`, last first. -/
def charsOf (position : Nat) (acc : List Char) : List Piece → Except DecodeError (List Char)
  | [] => .ok acc.reverse
  | .char c :: ps => charsOf (position + c.utf8Size) (c :: acc) ps
  | .broken fault bytes :: _ => .error ⟨fault, position, bytes⟩

/-- The text of the bytes, or the first part of them that is no character. -/
def decodeStrict (s : Bytes) : Except DecodeError String :=
  (charsOf 0 [] (pieces s)).map String.ofList

/-! ## Reading with halves of surrogate pairs -/

/-- The code points of pieces that start at byte `position`, after those in `acc`, last first. Half
of a surrogate pair is broken after its first byte, and each of the other two starts nothing. -/
def codesOf (position : Nat) (acc : List CodePoint) :
    List Piece → Except DecodeError (List CodePoint)
  | [] => .ok acc.reverse
  | .char c :: ps => codesOf (position + c.utf8Size) (.char c :: acc) ps
  | .broken fault [0xED] :: .broken _ [b] :: .broken _ [c] :: ps =>
    if 0xA0 ≤ b ∧ b ≤ 0xBF ∧ 0x80 ≤ c ∧ c ≤ 0xBF then
      codesOf (position + 3) (.half (0xD000 + 64 * (b.toNat - 0x80) + (c.toNat - 0x80)) :: acc) ps
    else .error ⟨fault, position, [0xED]⟩
  | .broken fault bytes :: _ => .error ⟨fault, position, bytes⟩

/-- The code points of the bytes, or the first part of them that is none. -/
def decodeCodes (s : Bytes) : Except DecodeError (List CodePoint) := codesOf 0 [] (pieces s)

end Utf8
end OpReturn
