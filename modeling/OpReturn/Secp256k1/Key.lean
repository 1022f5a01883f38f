import OpReturn.Bytes
import OpReturn.Secp256k1.Curve

/-!
# Keys

A secret key is a scalar other than zero; its public key is that multiple of the generator. Public
keys are written in 33 bytes (the first coordinate and the parity of the second) or in 65. Readers
also take the hybrid form of 65 bytes, which repeats the parity in its first byte.
-/

namespace OpReturn.Secp256k1

/-! ## Secret keys -/

/-- A scalar other than zero. -/
structure SecretKey where
  scalar : Scalar
  ne_zero : scalar ≠ 0

/-- The scalar with the given number, if the number is below the order of the group. -/
def scalar? (k : Nat) : Option Scalar := if h : k < n then some ⟨k, h⟩ else none

/-- The key whose number is written in 32 bytes; `none` for zero and from the order of the group
on. -/
def SecretKey.ofBytes? (s : Bytes) : Option SecretKey :=
  if s.length ≠ 32 then none
  else match scalar? s.toNatBE with
    | none => none
    | some k => if h : k ≠ 0 then some ⟨k, h⟩ else none

/-- The 32 bytes of a key. -/
def SecretKey.bytes (key : SecretKey) : Bytes := Bytes.ofNatBE 32 key.scalar.val

/-! ## Public keys -/

/-- The public key of a secret one; `none` cannot occur for a key of the group. -/
def SecretKey.publicKey? (key : SecretKey) : Option Affine := (generator.mul key.scalar).affine?

/-- Is a coordinate odd? -/
def Coord.odd (a : Coord) : Bool := a.val % 2 = 1

/-- The 32 bytes of a coordinate. -/
def Coord.bytes (a : Coord) : Bytes := Bytes.ofNatBE 32 a.val

/-- The coordinate written in some bytes, if it is below the order of the field. -/
def coord? (s : Bytes) : Option Coord :=
  if h : s.toNatBE < p then some ⟨s.toNatBE, h⟩ else none

/-- A public key in 33 bytes or in 65. -/
def Affine.bytes (a : Affine) (compressed : Bool) : Bytes :=
  if compressed then (if a.y.odd then 3 else 2) :: a.x.bytes
  else 4 :: (a.x.bytes ++ a.y.bytes)

/-- The public key written in some bytes, in the compressed, the plain or the hybrid form. -/
def Affine.ofBytes? (s : Bytes) : Option Affine :=
  match s with
  | [] => none
  | form :: rest =>
    if s.length = 33 ∧ (form = 2 ∨ form = 3) then do
      let x ← coord? rest
      Affine.ofX? x (form = 3)
    else if s.length = 65 ∧ (form = 4 ∨ form = 6 ∨ form = 7) then do
      let x ← coord? (rest.take 32)
      let y ← coord? (rest.drop 32)
      if (⟨x, y⟩ : Affine).onCurve ∧ (form = 4 ∨ y.odd = (form = 7)) then some ⟨x, y⟩ else none
    else none

end OpReturn.Secp256k1
