import Mathlib.AlgebraicGeometry.EllipticCurve.Affine.Point
import Mathlib.GroupTheory.OrderOfElement
import Mathlib.Tactic.FieldSimp
import Mathlib.Tactic.LinearCombination
import OpReturn.Proofs.Secp256k1.Field

/-!
# The group of the curve

The points of the curve and the one at infinity are a group, whose elements have one pair of
coordinates each. The computation works with three coordinates, which stand for the same element
when they are multiples of each other: `P.Represents A` says that those of `P` are a multiple of the
coordinates of `A`.

**Theorem (`Point.Represents.add`).** One pair of formulas adds any two points. That it never comes
to three zeros is where the order of the group being odd comes in: the third coordinate of a sum is,
up to a factor that is not zero, the second coordinate of the difference, and no point has zero
there.

* `Point.Represents.multiple`: doubling and adding comes to the multiple.
* `Point.Represents.affine?`: the coordinates of an element are found again.
-/

namespace OpReturn.Secp256k1

open scoped Fin.CommRing

/-! ## The group -/

/-- The curve. -/
def curve : WeierstrassCurve.Affine Coord where
  a₁ := 0
  a₂ := 0
  a₃ := 0
  a₄ := 0
  a₆ := 7

/-- A point of the curve, or the one at infinity. -/
abbrev Element := curve.Point

section Coordinates

variable {x y x' y' l : Coord}

theorem nonsingular_iff : curve.Nonsingular x y ↔ y * y = x * x * x + 7 := by
  have hequation : curve.Equation x y ↔ y * y = x * x * x + 7 := by
    rw [WeierstrassCurve.Affine.equation_iff]
    simp only [curve, zero_mul, add_zero]
    rw [pow_two, pow_three, mul_assoc]
  rw [WeierstrassCurve.Affine.nonsingular_iff, hequation]
  refine ⟨And.left, fun h => ⟨h, Or.inr ?_⟩⟩
  have hy : y ≠ 0 := Affine.y_ne_zero (a := ⟨x, y⟩) (Affine.onCurve_iff.mpr h)
  simp only [curve, zero_mul, sub_zero]
  intro hneg
  have htwo : 2 * y = 0 := by linear_combination hneg
  exact (mul_eq_zero.mp htwo).elim (by decide) hy

/-- No point has zero there, for a point and its opposite have another parity. -/
theorem second_ne_zero (h : curve.Nonsingular x y) : y ≠ 0 :=
  Affine.y_ne_zero (a := ⟨x, y⟩) (Affine.onCurve_iff.mpr (nonsingular_iff.mp h))

theorem negY_eq (x y : Coord) : curve.negY x y = -y := by
  simp [WeierstrassCurve.Affine.negY, curve]

theorem double_ne_zero (h : curve.Nonsingular x y) : 2 * y ≠ 0 :=
  mul_ne_zero (by decide) (second_ne_zero h)

theorem ne_negY (h : curve.Nonsingular x y) : y ≠ curve.negY x y := by
  rw [negY_eq]
  intro hneg
  exact double_ne_zero h (by linear_combination hneg)

/-- The first coordinate of a sum, from the slope of the line through both points. -/
theorem addX_eq (x x' l : Coord) : curve.addX x x' l = l ^ 2 - x - x' := by
  simp [WeierstrassCurve.Affine.addX, curve]

theorem addY_eq (x x' y l : Coord) : curve.addY x x' y l = -(l * (l ^ 2 - x - x' - x) + y) := by
  rw [WeierstrassCurve.Affine.addY, negY_eq, WeierstrassCurve.Affine.negAddY, addX_eq]

theorem slope_chord (h : x ≠ x') : curve.slope x x' y y' * (x' - x) = y' - y := by
  have hne : x - x' ≠ 0 := sub_ne_zero.mpr h
  rw [WeierstrassCurve.Affine.slope_of_X_ne h, div_mul_eq_mul_div, div_eq_iff hne]
  ring

theorem slope_tangent (h : curve.Nonsingular x y) :
    curve.slope x x y y * (2 * y) = 3 * x ^ 2 := by
  rw [WeierstrassCurve.Affine.slope_of_Y_ne rfl (ne_negY h), negY_eq, sub_neg_eq_add, ← two_mul,
    div_mul_cancel₀ _ (double_ne_zero h)]
  simp [curve]

end Coordinates

/-! ## The formulas -/

namespace Point

/-- The point with all coordinates multiplied by one number. -/
def scale (s : Coord) (P : Point) : Point := ⟨s * P.x, s * P.y, s * P.z⟩

theorem scale_scale (s t : Coord) (P : Point) : (P.scale t).scale s = P.scale (s * t) := by
  simp only [scale, mul_assoc]

theorem add_scale (s t : Coord) (P Q : Point) :
    (P.scale s).add (Q.scale t) = (P.add Q).scale ((s * t) ^ 2) := by
  simp only [add, scale, mk.injEq]
  refine ⟨?_, ?_, ?_⟩ <;> ring

theorem add_comm (P Q : Point) : P.add Q = Q.add P := by
  simp only [add, mk.injEq]
  refine ⟨?_, ?_, ?_⟩ <;> ring

section Formulas

variable {x y x' y' l : Coord}

theorem add_affine (x y x' y' : Coord) : add ⟨x, y, 1⟩ ⟨x', y', 1⟩ =
    ⟨(x * y' + x' * y) * (y * y' - 21) - 21 * ((y + y') * (x + x')),
      (y * y' + 21) * (y * y' - 21) + 63 * ((x * x') * (x + x')),
      (y + y') * (y * y' + 21) + 3 * ((x * x') * (x * y' + x' * y))⟩ := by
  simp only [add, mul_one]

section Chord

variable (h : y * y = x * x * x + 7) (h' : y' * y' = x' * x' * x' + 7)
include h h'

/-- The third coordinate of a sum is the second one of the difference, up to a factor. -/
theorem add_z_chord (hl : l * (x' - x) = -y' - y) :
    (add ⟨x, y, 1⟩ ⟨x', y', 1⟩).z = curve.addY x x' y l * (x' - x) ^ 3 := by
  rw [add_affine, addY_eq]
  linear_combination
    ((l * (x' - x)) ^ 2 + l * (x' - x) * (-y' - y) + (-y' - y) ^ 2
      - (2 * x + x') * (x' - x) ^ 2) * hl - (y + 2 * y') * h - (2 * y + y') * h'

theorem add_x_chord (hne : x ≠ x') (hl : l * (x' - x) = y' - y) :
    (add ⟨x, y, 1⟩ ⟨x', y', 1⟩).x =
      (add ⟨x, y, 1⟩ ⟨x', y', 1⟩).z * curve.addX x x' l := by
  have hd : (x' - x) ^ 2 ≠ 0 := pow_ne_zero 2 (sub_ne_zero.mpr hne.symm)
  rw [add_affine, addX_eq]
  dsimp only
  generalize hz : (y + y') * (y * y' + 21) + 3 * ((x * x') * (x * y' + x' * y)) = z
  apply mul_left_cancel₀ hd
  linear_combination
    ((y' - y) ^ 2 - (x + x') * (x' - x) ^ 2) * hz
    - z * (l * (x' - x) + (y' - y)) * hl
    + (-3 * x ^ 2 * x' * y' - 3 * x * y * x' ^ 2 + 3 * x * x' ^ 2 * y' - y ^ 2 * y' + y * y' ^ 2
      - 21 * y + 2 * x' ^ 3 * y' + y' ^ 3 + 14 * y') * h
    + (3 * x ^ 3 * y + x ^ 3 * y' + 3 * x ^ 2 * y * x' - 3 * x ^ 2 * x' * y' - 3 * x * y * x' ^ 2
      - y * y' ^ 2 + 21 * y - 14 * y') * h'

theorem add_y_chord (hne : x ≠ x') (hl : l * (x' - x) = y' - y) :
    (add ⟨x, y, 1⟩ ⟨x', y', 1⟩).y =
      (add ⟨x, y, 1⟩ ⟨x', y', 1⟩).z * curve.addY x x' y l := by
  have hd : (x' - x) ^ 3 ≠ 0 := pow_ne_zero 3 (sub_ne_zero.mpr hne.symm)
  rw [add_affine, addY_eq]
  dsimp only
  generalize hz : (y + y') * (y * y' + 21) + 3 * ((x * x') * (x * y' + x' * y)) = z
  apply mul_left_cancel₀ hd
  linear_combination
    -((y' - y) * ((y' - y) ^ 2 - (2 * x + x') * (x' - x) ^ 2) + y * (x' - x) ^ 3) * hz
    + z * ((l * (x' - x)) ^ 2 + l * (x' - x) * (y' - y) + (y' - y) ^ 2
      - (2 * x + x') * (x' - x) ^ 2) * hl
    + (-3 * x ^ 2 * y * x' * y' - 9 * x ^ 2 * x' ^ 4 + 15 * x ^ 2 * x' * y' ^ 2
      - 3 * x * y ^ 2 * x' ^ 2 + 6 * x * y * x' ^ 2 * y' + 6 * x * x' ^ 5
      - 15 * x * x' ^ 2 * y' ^ 2 - 84 * x * x' ^ 2 - y ^ 3 * y' + 2 * y ^ 2 * y' ^ 2 - 21 * y ^ 2
      + 2 * y * x' ^ 3 * y' + 35 * y * y' + 2 * x' ^ 3 * y' ^ 2 + 42 * x' ^ 3 - 2 * y' ^ 4
      + 14 * y' ^ 2 - 147) * h
    + (9 * x ^ 5 * x' - 6 * x ^ 4 * x' ^ 2 - 2 * x ^ 3 * y * y' - 2 * x ^ 3 * y' ^ 2 - 42 * x ^ 3
      - 6 * x ^ 2 * y * x' * y' + 3 * x ^ 2 * x' * y' ^ 2 + 189 * x ^ 2 * x'
      + 3 * x * y * x' ^ 2 * y' - 105 * x * x' ^ 2 + y * y' ^ 3 - 35 * y * y' + 7 * y' ^ 2
      + 147) * h'

end Chord

theorem add_tangent (h : y * y = x * x * x + 7) (hl : l * (2 * y) = 3 * x ^ 2) :
    add ⟨x, y, 1⟩ ⟨x, y, 1⟩ = scale ((2 * y) ^ 3) ⟨curve.addX x x l, curve.addY x x y l, 1⟩ := by
  rw [add_affine, scale, addX_eq, addY_eq]
  simp only [mk.injEq]
  refine ⟨?_, ?_, ?_⟩
  · linear_combination -2 * y * (l * (2 * y) + 3 * x ^ 2) * hl + 18 * x * y * h
  · linear_combination
      ((l * (2 * y)) ^ 2 + 3 * x ^ 2 * (l * (2 * y)) + 9 * x ^ 4 - 12 * x * y ^ 2) * hl
        + (63 + 9 * y ^ 2 - 27 * x ^ 3) * h
  · linear_combination -6 * y * h

/-- The sum of a point with its opposite: its second coordinate is that of the double. -/
theorem add_opposite (h : y * y = x * x * x + 7) (hl : l * (2 * y) = 3 * x ^ 2) :
    add ⟨x, y, 1⟩ ⟨x, -y, 1⟩ = ⟨0, (2 * y) ^ 3 * curve.addY x x y l, 0⟩ := by
  have hy := congrArg Point.y (add_tangent h hl)
  rw [add_affine] at hy ⊢
  simp only [mk.injEq]
  refine ⟨by ring, ?_, by ring⟩
  rw [← show _ = (2 * y) ^ 3 * curve.addY x x y l from hy]
  ring

end Formulas

end Point

/-! ## Elements in three coordinates -/

namespace Element

/-- The coordinates of an element: the third is 1, or 0 at infinity. -/
def point : Element → Point
  | .zero => .infinity
  | .some x y _ => ⟨x, y, 1⟩

section Cases

variable {x y x' y' : Coord} (h : curve.Nonsingular x y) (h' : curve.Nonsingular x' y')

theorem point_add_infinity (A : Element) :
    ∃ s ≠ 0, A.point.add Point.infinity = A.point.scale s := by
  cases A with
  | zero => exact ⟨1, by decide, rfl⟩
  | some x y h =>
    refine ⟨y, second_ne_zero h, ?_⟩
    simp only [point, Point.infinity, Point.add, Point.scale, Point.mk.injEq]
    refine ⟨?_, ?_, ?_⟩ <;> ring

theorem point_double : (point (.some x y h)).add (point (.some x y h)) =
    (.some x y h + .some x y h : Element).point.scale ((2 * y) ^ 3) := by
  rw [WeierstrassCurve.Affine.Point.add_of_Y_ne (ne_negY h)]
  exact Point.add_tangent (nonsingular_iff.mp h) (slope_tangent h)

theorem point_add_opposite (h' : curve.Nonsingular x (-y)) : ∃ s ≠ 0,
    (point (.some x y h)).add (point (.some x (-y) h')) = Point.infinity.scale s := by
  have hdouble : curve.addY x x y (curve.slope x x y y) ≠ 0 :=
    second_ne_zero (WeierstrassCurve.Affine.nonsingular_add h h fun hxy => ne_negY h hxy.2)
  refine ⟨(2 * y) ^ 3 * curve.addY x x y (curve.slope x x y y), ?_, ?_⟩
  · exact mul_ne_zero (pow_ne_zero 3 (double_ne_zero h)) hdouble
  · refine (Point.add_opposite (nonsingular_iff.mp h) (slope_tangent h)).trans ?_
    simp only [Point.scale, Point.infinity, mul_zero, mul_one]

theorem point_add_chord (hx : x ≠ x') : ∃ s ≠ 0, (point (.some x y h)).add
    (point (.some x' y' h')) = (.some x y h + .some x' y' h' : Element).point.scale s := by
  have hcurve := nonsingular_iff.mp h
  have hcurve' := nonsingular_iff.mp h'
  have hneg : curve.Nonsingular x' (-y') := nonsingular_iff.mpr (by rw [neg_mul_neg, hcurve'])
  have hdifference : curve.addY x x' y (curve.slope x x' y (-y')) ≠ 0 :=
    second_ne_zero (WeierstrassCurve.Affine.nonsingular_add h hneg fun hxy => hx hxy.1)
  refine ⟨(Point.add ⟨x, y, 1⟩ ⟨x', y', 1⟩).z, ?_, ?_⟩
  · rw [Point.add_z_chord hcurve hcurve' (slope_chord hx)]
    exact mul_ne_zero hdifference (pow_ne_zero 3 (sub_ne_zero.mpr hx.symm))
  · rw [WeierstrassCurve.Affine.Point.add_of_X_ne hx, point, point, point, Point.scale,
      ← Point.add_x_chord hcurve hcurve' hx (slope_chord hx),
      ← Point.add_y_chord hcurve hcurve' hx (slope_chord hx), mul_one]

end Cases

/-- **The formulas add any two elements**, up to a factor that is not zero. -/
theorem point_add (A B : Element) : ∃ s ≠ 0, A.point.add B.point = (A + B).point.scale s := by
  match A, B with
  | A, .zero =>
    rw [show A + .zero = A from add_zero A]
    exact point_add_infinity A
  | .zero, B =>
    rw [show .zero + B = B from zero_add B, Point.add_comm]
    exact point_add_infinity B
  | .some x y h, .some x' y' h' =>
    by_cases hx : x = x'
    · subst hx
      rcases WeierstrassCurve.Affine.Y_eq_of_X_eq h.1 h'.1 rfl with rfl | hy
      · exact ⟨_, pow_ne_zero 3 (double_ne_zero h), point_double h⟩
      · rw [WeierstrassCurve.Affine.Point.add_of_Y_eq rfl hy]
        obtain rfl : y' = -y := by rw [hy, negY_eq, neg_neg]
        exact point_add_opposite h h'
    · exact point_add_chord h h' hx

end Element

namespace Point

/-- The coordinates of the point are a multiple of those of the element. -/
def Represents (P : Point) (A : Element) : Prop := ∃ s ≠ 0, P = A.point.scale s

theorem scale_one (P : Point) : P.scale 1 = P := by
  simp only [scale, one_mul]

theorem represents_point (A : Element) : A.point.Represents A :=
  ⟨1, by decide, (scale_one _).symm⟩

namespace Represents

variable {P Q : Point} {A B : Element}

/-- **The formulas add the elements.** -/
theorem add (hP : P.Represents A) (hQ : Q.Represents B) : (P.add Q).Represents (A + B) := by
  obtain ⟨s, hs, rfl⟩ := hP
  obtain ⟨t, ht, rfl⟩ := hQ
  obtain ⟨u, hu, hsum⟩ := Element.point_add A B
  refine ⟨(s * t) ^ 2 * u, mul_ne_zero (pow_ne_zero 2 (mul_ne_zero hs ht)) hu, ?_⟩
  rw [add_scale, hsum, scale_scale]

theorem multiple (hP : P.Represents A) {bits k : Nat} (hk : k < 2 ^ bits) :
    (P.multiple bits k).Represents (k • A) := by
  induction bits generalizing k with
  | zero =>
    obtain rfl : k = 0 := by simpa using hk
    rw [zero_nsmul]
    exact represents_point (0 : Element)
  | succ bits ih =>
    have hhalf : k / 2 < 2 ^ bits := by
      rw [pow_succ] at hk
      omega
    have hdouble := (ih hhalf).add (ih hhalf)
    rw [← add_nsmul] at hdouble
    rw [Point.multiple]
    split_ifs with hodd
    · have hsum : k = k / 2 + k / 2 + 1 := by omega
      have hnext := hdouble.add hP
      rwa [← succ_nsmul, ← hsum] at hnext
    · have hsum : k / 2 + k / 2 = k := by omega
      rwa [hsum] at hdouble

end Represents

end Point

/-! ## One pair of coordinates -/

namespace Element

/-- The coordinates of an element other than the one at infinity. -/
def affine? : Element → Option Affine
  | .zero => none
  | .some x y _ => some ⟨x, y⟩

theorem affine?_inj {A B : Element} (h : A.affine? = B.affine?) : A = B := by
  cases A with
  | zero =>
    cases B with
    | zero => rfl
    | some x' y' h' => exact nomatch h
  | some x y hA =>
    cases B with
    | zero => exact nomatch h
    | some x' y' hB =>
      obtain ⟨rfl, rfl⟩ := Affine.mk.inj (Option.some.inj h)
      rfl

end Element

theorem Point.Represents.affine? {P : Point} {A : Element} (h : P.Represents A) :
    P.affine? = A.affine? := by
  obtain ⟨s, hs, rfl⟩ := h
  cases A with
  | zero => exact if_pos (mul_zero s)
  | some x y _ =>
    have hz : s * 1 ≠ 0 := by rwa [mul_one]
    refine (if_neg hz).trans (congrArg some ?_)
    simp only [Element.point, scale, Coord.inv_eq, Affine.mk.injEq]
    exact ⟨by field_simp, by field_simp⟩

namespace Affine

/-- The element with the coordinates of a point of the curve. -/
def element (a : Affine) (h : a.onCurve = true) : Element :=
  .some a.x a.y (nonsingular_iff.mpr (onCurve_iff.mp h))

theorem represents_point {a : Affine} (h : a.onCurve = true) : a.point.Represents (a.element h) :=
  Point.represents_point (a.element h)

theorem element_ne_zero {a : Affine} (h : a.onCurve = true) : a.element h ≠ 0 :=
  WeierstrassCurve.Affine.Point.some_ne_zero _

theorem element_inj {a b : Affine} {ha : a.onCurve = true} {hb : b.onCurve = true}
    (h : a.element ha = b.element hb) : a = b :=
  Option.some.inj (congrArg Element.affine? h)

/-- Every pair of coordinates of an element is that of a point of the curve. -/
theorem exists_element {A : Element} {a : Affine} (h : A.affine? = some a) :
    ∃ ha : a.onCurve = true, a.element ha = A := by
  cases A with
  | zero => exact nomatch h
  | some x y hA =>
    obtain rfl := Option.some.inj h
    exact ⟨onCurve_iff.mpr (nonsingular_iff.mp hA), rfl⟩

/-- The point with the opposite second coordinate. -/
def opposite (a : Affine) : Affine := ⟨a.x, -a.y⟩

theorem onCurve_opposite {a : Affine} (h : a.onCurve = true) : a.opposite.onCurve = true := by
  rw [onCurve_iff] at h ⊢
  rw [opposite, neg_mul_neg, h]

theorem odd_opposite {a : Affine} (h : a.onCurve = true) : a.opposite.y.odd = !a.y.odd :=
  Coord.odd_neg (y_ne_zero h)

theorem element_opposite {a : Affine} (h : a.onCurve = true) :
    a.opposite.element (onCurve_opposite h) = -a.element h := by
  rw [element, element, WeierstrassCurve.Affine.Point.neg_some]
  congr 1
  exact (negY_eq a.x a.y).symm

end Affine

end OpReturn.Secp256k1
