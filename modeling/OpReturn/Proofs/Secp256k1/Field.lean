import Mathlib.FieldTheory.Finite.Basic
import OpReturn.Proofs.Secp256k1.Prime
import OpReturn.Secp256k1.Key

/-!
# Coordinates and scalars as fields

Both orders are primes, so the powers that the curve takes for inverses are inverses, and the power
it takes for a square root is one whenever there is one. No coordinate has the cube `-7`, so no
point has the second coordinate zero, and the two points with a first coordinate differ in the
parity of the second.

* `Coord.exists_sqrt?`: the root of a square is found, up to its sign.
* `Coord.cube_ne`: there is no point with the second coordinate zero.
* `Affine.ofX?_eq_some_iff`: a point is found from its first coordinate and a parity.
-/

namespace OpReturn.Secp256k1

open scoped Fin.CommRing

/-! ## Inverses -/

instance : Fact (Nat.Prime p) := ⟨prime_p⟩
instance : Fact (Nat.Prime n) := ⟨prime_n⟩

section Prime

variable {m : Nat} [NeZero m] [hm : Fact m.Prime]

theorem pow_pred {a : Fin m} (h : a ≠ 0) : a ^ (m - 1) = 1 := by
  obtain ⟨k, rfl⟩ := Nat.exists_eq_succ_of_ne_zero (NeZero.ne m)
  exact ZMod.pow_card_sub_one_eq_one (p := k + 1) (a := a) h

theorem mul_power (hbits : m < 2 ^ 256) {a : Fin m} (h : a ≠ 0) :
    a * power 1 a 256 (m - 2) = 1 := by
  have htwo : 2 ≤ m := hm.out.two_le
  have hexponent : m - 2 + 1 = m - 1 := by omega
  rw [power_eq_pow a (Nat.lt_of_le_of_lt (Nat.sub_le _ _) hbits), ← pow_succ', hexponent,
    pow_pred h]

/-- The numbers below a prime, with a given inverse. -/
@[reducible] def fieldOf (inv : Fin m → Fin m) (hinv : ∀ a, a ≠ 0 → a * inv a = 1)
    (hzero : inv 0 = 0) : Field (Fin m) where
  __ := Fin.instCommRing m
  inv := inv
  div a b := a * inv b
  exists_pair_ne := have := Fin.nontrivial_iff_two_le.mpr hm.out.two_le; exists_pair_ne _
  mul_inv_cancel := hinv
  inv_zero := hzero
  nnqsmul := _
  qsmul := _

end Prime

instance : Field Coord :=
  fieldOf Coord.inv (fun _ => mul_power (by decide)) (by decide +kernel)

instance : Field Scalar :=
  fieldOf Scalar.inv (fun _ => mul_power (by decide)) (by decide +kernel)

theorem Coord.inv_eq (a : Coord) : a.inv = a⁻¹ := rfl

theorem Scalar.inv_eq (a : Scalar) : a.inv = a⁻¹ := rfl

/-! ## Roots -/

namespace Coord

/-- The power that is tried for a root is one, because `p` leaves 3 modulo 4. -/
theorem exists_sqrt? (y : Coord) : ∃ r, sqrt? (y * y) = some r ∧ (r = y ∨ r = -y) := by
  have hroot : power 1 (y * y) 256 ((p + 1) / 4) * power 1 (y * y) 256 ((p + 1) / 4) = y * y := by
    by_cases hy : y = 0
    · rw [hy]
      decide +kernel
    · rw [power_eq_pow _ (by decide), ← pow_add, ← pow_two y, ← pow_mul,
        show 2 * ((p + 1) / 4 + (p + 1) / 4) = p - 1 + 2 by decide, pow_add, pow_pred hy, one_mul]
  refine ⟨_, by rw [sqrt?]; exact if_pos hroot, ?_⟩
  exact mul_self_eq_mul_self_iff.mp hroot

theorem mul_self_of_sqrt? {a r : Coord} (h : sqrt? a = some r) : r * r = a := by
  unfold sqrt? at h
  dsimp only at h
  split_ifs at h with hroot
  rw [← Option.some.inj h]
  exact hroot

/-- **No coordinate has the cube `-7`**: that power of the cube which is 1 for every cube is not 1
for this number. -/
theorem cube_ne (x : Coord) : x * x * x + 7 ≠ 0 := by
  intro h
  have hcube : x ^ 3 = -7 := by linear_combination h
  have hx : x ≠ 0 := by
    rintro rfl
    exact absurd h (by decide)
  have hone : (-7 : Coord) ^ ((p - 1) / 3) = 1 := by
    rw [← hcube, ← pow_mul, show 3 * ((p - 1) / 3) = p - 1 by decide, pow_pred hx]
  rw [← power_eq_pow _ (by decide : (p - 1) / 3 < 2 ^ 256)] at hone
  exact absurd hone (by decide +kernel)

/-- Opposite coordinates other than zero differ in parity, because their sum is odd. -/
theorem odd_neg {y : Coord} (h : y ≠ 0) : (-y).odd = !y.odd := by
  have hval : (-y).val = p - y.val := by rw [Fin.val_neg, if_neg h]
  have hlt := y.isLt
  have hp : p % 2 = 1 := by decide
  have hsum : ((-y).val + y.val) % 2 = 1 := by
    rw [hval, Nat.sub_add_cancel hlt.le, hp]
  unfold odd
  by_cases hodd : y.val % 2 = 1
  · simp only [hodd, decide_true, Bool.not_true, decide_eq_false_iff_not]
    omega
  · simp only [hodd, decide_false, Bool.not_false, decide_eq_true_eq]
    omega

end Coord

/-! ## Points of the curve -/

namespace Affine

theorem onCurve_iff {a : Affine} : a.onCurve = true ↔ a.y * a.y = a.x * a.x * a.x + 7 := by
  rw [onCurve, decide_eq_true_eq]

theorem y_ne_zero {a : Affine} (h : a.onCurve = true) : a.y ≠ 0 := by
  intro hy
  have hcurve := onCurve_iff.mp h
  rw [hy, mul_zero] at hcurve
  exact Coord.cube_ne a.x hcurve.symm

theorem ofX?_eq (x : Coord) (odd : Bool) : ofX? x odd =
    (Coord.sqrt? (x * x * x + 7)).map fun y => if y.odd = odd then ⟨x, y⟩ else ⟨x, -y⟩ := by
  have hodd (y : Coord) : ((y.val % 2 = 1) = (odd = true)) = (y.odd = odd) := by
    cases odd <;> simp [Coord.odd]
  simp only [ofX?, hodd]

/-- **The points with a first coordinate are found by their parity.** -/
theorem ofX?_eq_some_iff {x : Coord} {odd : Bool} {a : Affine} :
    ofX? x odd = some a ↔ a.onCurve = true ∧ a.x = x ∧ a.y.odd = odd := by
  rw [ofX?_eq]
  constructor
  · intro h
    obtain ⟨r, hr, ha⟩ := Option.map_eq_some_iff.mp h
    have hcurve : onCurve ⟨x, r⟩ = true := onCurve_iff.mpr (Coord.mul_self_of_sqrt? hr)
    have hneg : onCurve ⟨x, -r⟩ = true := by
      rw [onCurve_iff] at hcurve ⊢
      rw [← hcurve]
      exact neg_mul_neg r r
    have hparity : (-r).odd = !r.odd := Coord.odd_neg (y_ne_zero hcurve)
    split_ifs at ha with hodd
    · rw [← ha]
      exact ⟨hcurve, rfl, hodd⟩
    · rw [← ha]
      exact ⟨hneg, rfl, hparity.trans (Bool.not_eq.mpr hodd)⟩
  · rintro ⟨hcurve, rfl, rfl⟩
    obtain ⟨r, hr, hsign⟩ := Coord.exists_sqrt? a.y
    rw [← onCurve_iff.mp hcurve, hr, Option.map_some]
    rcases hsign with rfl | rfl
    · rw [if_pos rfl]
    · have hparity := Coord.odd_neg (y_ne_zero hcurve)
      rw [if_neg (by rw [hparity]; simp), neg_neg]

end Affine

end OpReturn.Secp256k1
