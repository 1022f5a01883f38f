/-!
# The curve secp256k1

The points of `y² = x³ + 7` over the field of `p` elements, a group of prime order `n`. Points are
held in projective coordinates. Because the order of the group is odd, one pair of formulas adds
any two points: equal, opposite or at infinity.

* `Point.add`: the group operation.
* `Point.mul`: multiples of a point, by doubling and adding.
* `Point.affine?`, `Point.ofX?`: to and from affine coordinates.
-/

namespace OpReturn.Secp256k1

/-! ## The two fields -/

/-- The order of the coordinate field, `2 ^ 256 - 2 ^ 32 - 977`. -/
abbrev p : Nat := 0xFFFFFFFFFFFFFFFFFFFFFFFFFFFFFFFFFFFFFFFFFFFFFFFFFFFFFFFEFFFFFC2F

/-- The order of the group. -/
abbrev n : Nat := 0xFFFFFFFFFFFFFFFFFFFFFFFFFFFFFFFEBAAEDCE6AF48A03BBFD25E8CD0364141

instance : @NeZero Nat Zero.ofOfNat0 p := ⟨by decide⟩
instance : @NeZero Nat Zero.ofOfNat0 n := ⟨by decide⟩

/-- A coordinate. -/
abbrev Coord := Fin p

/-- A multiplier of points. -/
abbrev Scalar := Fin n

/-- The power `a ^ e` for an exponent below `2 ^ bits`, in terms of the neutral element. -/
def power {m : Nat} (one a : Fin m) : (bits : Nat) → (e : Nat) → Fin m
  | 0, _ => one
  | bits + 1, e =>
    let r := power one a bits (e / 2)
    if e % 2 = 1 then r * r * a else r * r

/-- The inverse of a non-zero coordinate, by the little theorem of Fermat; zero for zero. -/
def Coord.inv (a : Coord) : Coord := power 1 a 256 (p - 2)

/-- The inverse of a non-zero scalar; zero for zero. -/
def Scalar.inv (a : Scalar) : Scalar := power 1 a 256 (n - 2)

/-- A square root, if there is one. As `p` leaves 3 modulo 4, it can only be this power. -/
def Coord.sqrt? (a : Coord) : Option Coord :=
  let r := power 1 a 256 ((p + 1) / 4)
  if r * r = a then some r else none

/-! ## Points -/

/-- A point in projective coordinates: `(x / z, y / z)`, or the point at infinity for `z = 0`. -/
structure Point where
  x : Coord
  y : Coord
  z : Coord

/-- An affine point. -/
structure Affine where
  x : Coord
  y : Coord
deriving DecidableEq, Repr

/-- The neutral element. -/
def Point.infinity : Point := ⟨0, 1, 0⟩

/-- The point with the given affine coordinates. -/
def Affine.point (a : Affine) : Point := ⟨a.x, a.y, 1⟩

/-- Does an affine point lie on the curve? -/
def Affine.onCurve (a : Affine) : Bool := a.y * a.y = a.x * a.x * a.x + 7

/-- The generator. -/
def generator : Point :=
  ⟨0x79BE667EF9DCBBAC55A06295CE870B07029BFCDB2DCE28D959F2815B16F81798,
   0x483ADA7726A3C4655DA4FBFC0E1108A8FD17B448A68554199C47D08FFB10D4B8, 1⟩

/-- The sum of two points. -/
def Point.add (P Q : Point) : Point :=
  let xy := P.x * Q.y + Q.x * P.y
  let yz := P.y * Q.z + Q.y * P.z
  let xz := P.x * Q.z + Q.x * P.z
  let xx := P.x * Q.x
  let yy := P.y * Q.y
  let zz := 21 * (P.z * Q.z)
  ⟨xy * (yy - zz) - 21 * (yz * xz),
   (yy + zz) * (yy - zz) + 63 * (xx * xz),
   yz * (yy + zz) + 3 * (xx * xy)⟩

/-- The `k`-fold sum of a point, for `k` below `2 ^ bits`. -/
def Point.multiple (P : Point) : (bits : Nat) → (k : Nat) → Point
  | 0, _ => .infinity
  | bits + 1, k =>
    let Q := P.multiple bits (k / 2)
    let D := Q.add Q
    if k % 2 = 1 then D.add P else D

/-- A scalar times a point. -/
def Point.mul (k : Scalar) (P : Point) : Point := P.multiple 256 k.val

/-- The affine coordinates of a point other than the one at infinity. -/
def Point.affine? (P : Point) : Option Affine :=
  if P.z = 0 then none
  else
    let w := P.z.inv
    some ⟨P.x * w, P.y * w⟩

/-- The curve point with the given first coordinate whose second one is odd or even as asked. -/
def Affine.ofX? (x : Coord) (odd : Bool) : Option Affine :=
  (Coord.sqrt? (x * x * x + 7)).map fun y =>
    if (y.val % 2 = 1) = odd then ⟨x, y⟩ else ⟨x, -y⟩

end OpReturn.Secp256k1
