/-!
# Double-precision numbers

The numbers of the binary64 format, exactly: a finite one is a whole number of units of a power of
two. A decimal fraction is rounded to the nearest of them, and to the one with an even significand
when it lies halfway (`Binary64.ofDecimal`).

The text of a number has the fewest digits that read back as the number, and of those the digits
nearest to it (`Binary64.shortest`). It is positional from `0.0001` up to below `10 ^ 16` and
scientific beyond.
-/

namespace OpReturn

/-- A double-precision number. A finite one is `significand * 2 ^ exponent`, with a significand
below `2 ^ 53`, at least `2 ^ 52` unless the exponent is -1074, the lowest there is. -/
inductive Binary64 where
  | finite (negative : Bool) (significand : Nat) (exponent : Int)
  | infinite (negative : Bool)
  | nan
deriving DecidableEq, Repr

namespace Binary64

/-- The lowest significand of full width, `2 ^ 52`. -/
def fullWidth : Nat := 0x10000000000000

/-- Ten to a power. -/
def tenTo (power : Nat) : Nat := Nat.pow 10 power

/-! ## Rounding -/

/-- `num / den` to the nearest integer, halves to the even one. -/
def roundDiv (num den : Nat) : Nat :=
  let q := num / den
  let r := num % den
  if 2 * r < den ∨ (2 * r = den ∧ q % 2 = 0) then q else q + 1

/-- The fraction `num / den` times `2 ^ -e`, as a fraction. -/
def unscale (num den : Nat) (e : Int) : Nat × Nat :=
  if 0 ≤ e then (num, den <<< e.toNat) else (num <<< (-e).toNat, den)

/-- The number nearest to `num / den`, for positive `num` and `den`. -/
def ofFraction (negative : Bool) (num den : Nat) : Binary64 :=
  let guess : Int := (Nat.log2 num : Int) - Nat.log2 den
  let (a, b) := unscale num den guess
  let top := if a < b then guess - 1 else guess
  let e := max (top - 52) (-1074)
  let (a, b) := unscale num den e
  let m := roundDiv a b
  let (m, e) := if m = 2 * fullWidth then (fullWidth, e + 1) else (m, e)
  if 971 < e then .infinite negative else .finite negative m e

/-- The number nearest to `digits * 10 ^ scale`. -/
def ofDecimal (negative : Bool) (digits : Nat) (scale : Int) : Binary64 :=
  if digits = 0 then .finite negative 0 (-1074)
  else
    let magnitude : Int := ((Nat.toDigits 10 digits).length : Int) + scale
    if 400 < magnitude then .infinite negative
    else if magnitude < -400 then .finite negative 0 (-1074)
    else if 0 ≤ scale then ofFraction negative (digits * tenTo scale.toNat) 1
    else ofFraction negative digits (tenTo (-scale).toNat)

/-! ## Order and truth -/

/-- Is the number zero, of either sign? -/
def isZero : Binary64 → Bool
  | .finite _ m _ => m = 0
  | _ => false

/-- Is the number at most zero? -/
def isNonPositive : Binary64 → Bool
  | .finite negative m _ => negative || m = 0
  | .infinite negative => negative
  | .nan => false

/-- Is the number less than a natural number? -/
def lessThan (x : Binary64) (n : Nat) : Bool :=
  match x with
  | .finite negative m e =>
    if negative then 0 < m || 0 < n else m <<< e.toNat < n <<< (-e).toNat
  | .infinite negative => negative
  | .nan => false

/-! ## Text -/

/-- Is `c * 10 ^ g` within the numbers `lo` to `hi` times `2 ^ e`, the ends included if `closed`? -/
def within (closed : Bool) (lo hi : Nat) (e : Int) (c : Nat) (g : Int) : Bool :=
  let num := (c * tenTo g.toNat) <<< (-e).toNat
  let den := tenTo (-g).toNat <<< e.toNat
  if closed then lo * den ≤ num && num ≤ hi * den else lo * den < num && num < hi * den

/-- The digits `c` and the grid `g` of the shortest decimal `c * 10 ^ g` in the rounding interval
of `v * 2 ^ e`, which reaches from `lo` to `hi`, on the grids from `g` downwards. On one grid only
the two neighbours of the number can lie in the interval, and the nearer one wins. -/
def shortestFrom (closed : Bool) (lo v hi : Nat) (e : Int) : (grids : Nat) → (g : Int) → Nat × Int
  | 0, g => (v, g)
  | grids + 1, g =>
    let num := (v * tenTo (-g).toNat) <<< e.toNat
    let den := tenTo g.toNat <<< (-e).toNat
    let below := num / den
    let hitBelow := 0 < below && within closed lo hi e below g
    let hitAbove := within closed lo hi e (below + 1) g
    if hitBelow && hitAbove then (roundDiv num den, g)
    else if hitBelow then (below, g)
    else if hitAbove then (below + 1, g)
    else shortestFrom closed lo v hi e grids (g - 1)

/-- The fewest digits that read back as `m * 2 ^ e`, for a positive `m`, and the power of ten of
the last of them. -/
def shortest (m : Nat) (e : Int) : Nat × Int :=
  let lo := if m = fullWidth ∧ -1074 < e then 4 * m - 1 else 4 * m - 2
  shortestFrom (m % 2 = 0) lo (4 * m) (4 * m + 2) (e - 2) 700 309

/-- Decimal digits without the zeros at the end, and the power of ten of the last digit. -/
def trimZeros : (fuel : Nat) → Nat → Int → Nat × Int
  | 0, c, g => (c, g)
  | fuel + 1, c, g => if c ≠ 0 ∧ c % 10 = 0 then trimZeros fuel (c / 10) (g + 1) else (c, g)

/-- The text of `0.d₁d₂… * 10 ^ point`. -/
def layout (digits : List Char) (point : Int) : List Char :=
  let count : Int := digits.length
  if -4 < point ∧ point ≤ 16 then
    if point ≤ 0 then ['0', '.'] ++ List.replicate (-point).toNat '0' ++ digits
    else if count ≤ point then digits ++ List.replicate (point - count).toNat '0' ++ ['.', '0']
    else digits.take point.toNat ++ '.' :: digits.drop point.toNat
  else
    let exponent := point - 1
    let places := Nat.toDigits 10 exponent.natAbs
    let mantissa := match digits with
      | [d] => [d]
      | d :: ds => d :: '.' :: ds
      | [] => []
    mantissa ++ ['e', if exponent < 0 then '-' else '+']
      ++ (if places.length < 2 then '0' :: places else places)

/-- The text of a number. -/
def text : Binary64 → String
  | .nan => "nan"
  | .infinite negative => if negative then "-inf" else "inf"
  | .finite negative m e =>
    let body := if m = 0 then ['0', '.', '0'] else
      let (c, g) := shortest m e
      let (c, g) := trimZeros 20 c g
      let digits := Nat.toDigits 10 c
      layout digits (g + digits.length)
    String.ofList (if negative then '-' :: body else body)

end Binary64
end OpReturn
