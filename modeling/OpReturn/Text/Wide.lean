import OpReturn.Text.Utf8

/-!
# UTF-16 and UTF-32

Text in units of two or of four bytes, in either order of bytes, without a byte order mark. Half of
a surrogate pair on its own stands for itself.

* `Encoding.decode`: the code points of some bytes, or the first part of them that is none.
-/

namespace OpReturn.Wide

/-- The size of the units of an encoding, and whether their most significant byte comes first. -/
inductive Encoding where
  | utf16 (bigEndian : Bool)
  | utf32 (bigEndian : Bool)
deriving DecidableEq, Repr

/-- The name of an encoding. -/
def Encoding.text : Encoding → String
  | .utf16 true => "utf-16-be"
  | .utf16 false => "utf-16-le"
  | .utf32 true => "utf-32-be"
  | .utf32 false => "utf-32-le"

/-! ## Errors -/

/-- Why a part of the bytes is no code point. -/
inductive Fault where
  /-- The bytes end inside a unit. -/
  | cutShort
  /-- The unit is above the last code point. -/
  | outOfRange
deriving DecidableEq, Repr

/-- The reason of a fault, in words. -/
def Fault.reason : Fault → String
  | .cutShort => "truncated data"
  | .outOfRange => "code point not in range(0x110000)"

/-- The first part that is no code point, with the number of bytes before it. -/
structure DecodeError where
  encoding : Encoding
  fault : Fault
  position : Nat
  bytes : Bytes
deriving DecidableEq, Repr

/-- What went wrong, in words. -/
def DecodeError.message (e : DecodeError) : String :=
  "'" ++ e.encoding.text ++ "' codec can't decode " ++ Utf8.placeText e.position e.bytes ++ ": "
    ++ e.fault.reason

/-! ## Units -/

/-- The number that the bytes of a unit stand for. -/
def unitValue (bigEndian : Bool) (s : Bytes) : Nat := if bigEndian then s.toNatBE else s.toNatLE

/-- The units of two bytes after those in `acc`, last first, and the bytes that make no whole
unit. -/
def pairsFrom (acc : List Bytes) : Bytes → List Bytes × Bytes
  | a :: b :: s => pairsFrom ([a, b] :: acc) s
  | rest => (acc.reverse, rest)

/-- The units of four bytes after those in `acc`, last first, and the bytes that make no whole
unit. -/
def quadsFrom (acc : List Bytes) : Bytes → List Bytes × Bytes
  | a :: b :: c :: d :: s => quadsFrom ([a, b, c, d] :: acc) s
  | rest => (acc.reverse, rest)

/-! ## Code points -/

/-- The code points of units of two bytes after those in `acc`, last first. Two halves of a
surrogate pair make one character. -/
def codesOfPairs (acc : List CodePoint) : List Nat → List CodePoint
  | [] => acc.reverse
  | [n] => (.ofNat n :: acc).reverse
  | high :: low :: units =>
    if 0xD800 ≤ high ∧ high ≤ 0xDBFF ∧ 0xDC00 ≤ low ∧ low ≤ 0xDFFF then
      codesOfPairs (.ofNat (0x10000 + (high - 0xD800) * 0x400 + (low - 0xDC00)) :: acc) units
    else codesOfPairs (.ofNat high :: acc) (low :: units)

/-- The code points of units of four bytes, of which the first stands at byte `position`, after
those in `acc`, last first. -/
def codesOfQuads (bigEndian : Bool) (position : Nat) (acc : List CodePoint) :
    List Bytes → Except DecodeError (List CodePoint)
  | [] => .ok acc.reverse
  | unit :: units =>
    let n := unitValue bigEndian unit
    if n < 0x110000 then codesOfQuads bigEndian (position + 4) (.ofNat n :: acc) units
    else .error ⟨.utf32 bigEndian, .outOfRange, position, unit⟩

/-- The code points of some bytes, of which the first stands at byte `position`. -/
def Encoding.decode (e : Encoding) (position : Nat) (s : Bytes) :
    Except DecodeError (List CodePoint) := do
  let (codes, rest) ← match e with
    | .utf16 bigEndian =>
      let (units, rest) := pairsFrom [] s
      pure (codesOfPairs [] (units.map (unitValue bigEndian)), rest)
    | .utf32 bigEndian =>
      let (units, rest) := quadsFrom [] s
      (codesOfQuads bigEndian position [] units).map fun codes => (codes, rest)
  if rest.isEmpty then return codes
  else throw ⟨e, .cutShort, position + (s.length - rest.length), rest⟩

end OpReturn.Wide
