import Mathlib.GroupTheory.Perm.Cycle.Type
import OpReturn.Proofs.Secp256k1.Group

/-!
# The order of the group

The generator has the order `n`, which a computation shows. There are at most two points with each
first coordinate, so the group has fewer than three times `n` elements, and as no point is its own
opposite, their number is odd. So it is `n` (`Element.card_eq`).

Multiples of elements therefore depend on the multiplier modulo `n` only: the elements are a vector
space over the scalars, and a multiple of an element is zero if one of the two is. This is how
signatures are computed with.
-/

namespace OpReturn.Secp256k1

open scoped Fin.CommRing

/-! ## The generator -/

/-- The first coordinate and the second one of the generator. -/
def base : Affine := ⟨generator.x, generator.y⟩

theorem onCurve_base : base.onCurve = true := by decide +kernel

namespace Element

/-- The generator as an element. -/
def generator : Element := base.element onCurve_base

theorem represents_generator : Secp256k1.generator.Represents generator :=
  Affine.represents_point onCurve_base

theorem nsmul_eq_zero_of_multiple {k : Nat} (hk : k < 2 ^ 256)
    (hz : (Secp256k1.generator.multiple 256 k).z = 0) : k • generator = 0 := by
  have hnone := (represents_generator.multiple hk).affine?
  rw [Point.affine?, if_pos hz] at hnone
  exact affine?_inj (A := k • generator) (B := 0) hnone.symm

theorem nsmul_generator : n • generator = 0 :=
  nsmul_eq_zero_of_multiple (by decide) (by decide +kernel)

theorem generator_ne_zero : generator ≠ 0 := WeierstrassCurve.Affine.Point.some_ne_zero _

theorem addOrderOf_generator : addOrderOf generator = n :=
  addOrderOf_eq_prime nsmul_generator generator_ne_zero

/-! ## All elements -/

/-- What tells an element from all others: a first coordinate and a parity. -/
def label : Element → Option (Coord × Bool)
  | .zero => none
  | .some x y _ => some (x, y.odd)

theorem label_injective : Function.Injective label := by
  intro A B h
  cases A with
  | zero =>
    cases B with
    | zero => rfl
    | some x' y' h' => exact nomatch h
  | some x y hA =>
    cases B with
    | zero => exact nomatch h
    | some x' y' hB =>
      obtain ⟨rfl, hodd⟩ := Prod.mk.inj (Option.some.inj h)
      rcases WeierstrassCurve.Affine.Y_eq_of_X_eq hA.1 hB.1 rfl with rfl | hy
      · rfl
      · rw [hy, negY_eq, Coord.odd_neg (second_ne_zero hB)] at hodd
        simp at hodd

instance : Finite Element := Finite.of_injective label label_injective

theorem card_le : Nat.card Element ≤ 2 * p + 1 := by
  have hcard : Nat.card (Option (Coord × Bool)) = p * 2 + 1 := by
    rw [Finite.card_option, Nat.card_prod, Nat.card_eq_fintype_card, Nat.card_eq_fintype_card,
      Fintype.card_fin, Fintype.card_bool]
  rw [Nat.mul_comm, ← hcard]
  exact Nat.card_le_card_of_injective label label_injective

theorem add_self_ne_zero {A : Element} (h : A ≠ 0) : A + A ≠ 0 := by
  cases A with
  | zero => exact absurd rfl h
  | some x y hA =>
    rw [WeierstrassCurve.Affine.Point.add_of_Y_ne (ne_negY hA)]
    exact WeierstrassCurve.Affine.Point.some_ne_zero _

theorem not_two_dvd_card : ¬2 ∣ Nat.card Element := by
  intro hdvd
  obtain ⟨A, hA⟩ := exists_prime_addOrderOf_dvd_card' 2 hdvd
  have hdouble : A + A = 0 := by
    rw [← two_nsmul, ← hA]
    exact addOrderOf_nsmul_eq_zero A
  have hne : A ≠ 0 := by
    rintro rfl
    rw [addOrderOf_zero] at hA
    exact absurd hA (by decide)
  exact add_self_ne_zero hne hdouble

/-- **The group has `n` elements.** -/
theorem card_eq : Nat.card Element = n := by
  obtain ⟨k, hk⟩ : n ∣ Nat.card Element := addOrderOf_generator ▸ addOrderOf_dvd_natCard generator
  have hle := card_le
  have hodd := not_two_dvd_card
  have hpos : 0 < Nat.card Element := Nat.card_pos
  have hlt : 2 * p + 1 < n * 3 := by decide
  rw [hk] at hle hodd hpos ⊢
  have h3 : k < 3 := Nat.lt_of_mul_lt_mul_left (Nat.lt_of_le_of_lt hle hlt)
  have h2 : k ≠ 2 := fun h => hodd (h ▸ Nat.dvd_mul_left 2 n)
  have h0 : k ≠ 0 := fun h => by simp [h] at hpos
  obtain rfl : k = 1 := by omega
  rw [Nat.mul_one]

theorem nsmul_eq_zero (A : Element) : n • A = 0 := by
  rw [← card_eq]
  exact card_nsmul_eq_zero'

/-! ## Scalars -/

theorem mod_nsmul (k : Nat) (A : Element) : (k % n) • A = k • A := by
  conv_rhs => rw [← Nat.mod_add_div k n, add_nsmul, mul_nsmul, nsmul_eq_zero, nsmul_zero, add_zero]

/-- The multiples of an element by scalars. -/
instance : Module Scalar Element where
  smul k A := k.val • A
  one_smul A := one_nsmul A
  mul_smul k l A := by
    show (k * l).val • A = k.val • l.val • A
    rw [Fin.val_mul, mod_nsmul, Nat.mul_comm, mul_nsmul]
  smul_zero k := nsmul_zero k.val
  smul_add k A B := nsmul_add A B k.val
  add_smul k l A := by
    show (k + l).val • A = k.val • A + l.val • A
    rw [Fin.val_add, mod_nsmul, add_nsmul]
  zero_smul A := zero_nsmul A

end Element

theorem Point.Represents.mul {P : Point} {A : Element} (hP : P.Represents A) (k : Scalar) :
    (Point.mul k P).Represents (k • A) :=
  hP.multiple (k.isLt.trans (by decide))

end OpReturn.Secp256k1
