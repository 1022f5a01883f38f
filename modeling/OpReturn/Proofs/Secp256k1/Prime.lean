import Mathlib.Data.List.Prime
import Mathlib.Data.Nat.Prime.Basic
import Mathlib.NumberTheory.LucasPrimality
import Mathlib.Tactic.NormNum.Prime
import OpReturn.Secp256k1.Curve

/-!
# The orders of the two fields are primes

A number is a prime if some base has the order of the number less one: the power with that exponent
is 1, and no power with the exponent divided by one of its primes is. A certificate gives the base
and the primes of the number less one, each with its exponent; the primes are certified in turn.
The test of a certificate is a computation, with the powers that the curve uses itself
(`power_eq_pow`).

* `prime_p`: the order of the coordinate field is a prime.
* `prime_n`: so is the order of the group.
-/

namespace OpReturn.Secp256k1

open scoped Fin.CommRing

/-! ## Powers -/

theorem power_eq_pow {m : Nat} [NeZero m] (a : Fin m) {bits e : Nat} (h : e < 2 ^ bits) :
    power 1 a bits e = a ^ e := by
  induction bits generalizing e with
  | zero =>
    obtain rfl : e = 0 := by simpa using h
    rw [power, pow_zero]
  | succ bits ih =>
    have hhalf : e / 2 < 2 ^ bits := by
      rw [pow_succ] at h
      omega
    rw [power, ih hhalf]
    split_ifs with hodd
    · conv_rhs => rw [show e = e / 2 + e / 2 + 1 by omega, pow_succ, pow_add]
    · conv_rhs => rw [show e = e / 2 + e / 2 by omega, pow_add]

/-! ## Certificates -/

/-- The certificate of a number, which is one more than the product of the given primes, each with
its exponent. -/
structure Certificate where
  base : Nat
  factors : List (Nat × Nat)

namespace Certificate

/-- The number less one. -/
def pred (c : Certificate) : Nat := (c.factors.map fun f => f.1 ^ f.2).prod

/-- The certified number. -/
abbrev number (c : Certificate) : Nat := c.pred + 1

/-- A power of the base. -/
def raised (c : Certificate) (e : Nat) : Fin c.number :=
  power 1 (Fin.ofNat c.number c.base) (c.pred.log2 + 1) e

/-- Has the base the order of the number less one, whose factors are among the known primes? -/
def passes (known : List Nat) (c : Certificate) : Bool :=
  c.raised c.pred = 1 && c.factors.all fun f => f.1 ∈ known && c.raised (c.pred / f.1) ≠ 1

/-- Do all certificates pass, each with the numbers certified before it? -/
def allPass : (known : List Nat) → List Certificate → Bool
  | _, [] => true
  | known, c :: cs => c.passes known && allPass (c.number :: known) cs

theorem raised_eq (c : Certificate) {e : Nat} (h : e ≤ c.pred) :
    c.raised e = Fin.ofNat c.number c.base ^ e :=
  power_eq_pow _ (Nat.lt_of_le_of_lt h Nat.lt_log2_self)

/-- **A number with a certificate that passes is a prime.** -/
theorem prime_of_passes {known : List Nat} (hknown : ∀ q ∈ known, q.Prime) {c : Certificate}
    (h : c.passes known = true) : c.number.Prime := by
  simp only [passes, Bool.and_eq_true, decide_eq_true_eq, List.all_eq_true] at h
  obtain ⟨hfull, hparts⟩ := h
  rw [raised_eq c le_rfl] at hfull
  refine lucas_primality c.number (Fin.ofNat c.number c.base) hfull ?_
  intro q hq hdvd
  -- The prime divides one of the powers, so it is the prime of that power.
  obtain ⟨_, hmem, hdvd⟩ := (Prime.dvd_prod_iff hq.prime).mp hdvd
  obtain ⟨f, hf, rfl⟩ := List.mem_map.mp hmem
  obtain ⟨hprime, hpart⟩ := hparts f hf
  obtain rfl := (Nat.prime_dvd_prime_iff_eq hq (hknown _ hprime)).mp (hq.dvd_of_dvd_pow hdvd)
  rw [raised_eq c (Nat.div_le_self _ _)] at hpart
  exact hpart

theorem prime_of_allPass {known : List Nat} (hknown : ∀ q ∈ known, q.Prime)
    {cs : List Certificate} (h : allPass known cs = true) : ∀ c ∈ cs, c.number.Prime := by
  induction cs generalizing known with
  | nil => exact List.forall_mem_nil _
  | cons c cs ih =>
    obtain ⟨hpasses, hrest⟩ := Bool.and_eq_true_iff.mp h
    have hprime := prime_of_passes hknown hpasses
    exact List.forall_mem_cons.mpr ⟨hprime, ih (List.forall_mem_cons.mpr ⟨hprime, hknown⟩) hrest⟩

end Certificate

/-! ## The two orders -/

/-- The primes below ten thousand that occur. -/
def smallPrimes : List Nat :=
  [2, 3, 5, 7, 11, 17, 19, 23, 29, 31, 41, 53, 59, 97, 101, 103, 109, 113, 149, 239, 293, 419, 443,
    461, 631, 797, 971, 1373, 1409, 1627, 1871, 2011, 2621, 2657, 2731, 2861, 4051, 4423, 5323,
    7723, 9349]

theorem prime_of_mem_smallPrimes : ∀ q ∈ smallPrimes, q.Prime := by
  simp only [smallPrimes, List.forall_mem_cons]
  norm_num

/-- The certificate of the order of the coordinate field, behind those that it needs. -/
def certificatesP : List Certificate :=
  [⟨11, [(2, 7), (3, 1), (5, 1), (7, 1)]⟩,
    ⟨10, [(2, 4), (3, 1), (419, 1)]⟩,
    ⟨6, [(2, 3), (7, 1), (443, 1)]⟩,
    ⟨3, [(2, 4), (5, 2), (103, 1)]⟩,
    ⟨2, [(2, 2), (101, 1), (239, 1)]⟩,
    ⟨10, [(2, 2), (3, 1), (5, 1), (20113, 1)]⟩,
    ⟨3, [(2, 1), (3, 1), (1206781, 1)]⟩,
    ⟨13, [(2, 1), (5, 1), (971, 1), (1373, 1)]⟩,
    ⟨3, [(2, 4), (5, 4), (7, 1), (29, 1), (53, 1)]⟩,
    ⟨6, [(2, 3), (5, 2), (2621, 1), (24809, 1), (13331831, 1)]⟩,
    ⟨5, [(2, 3), (3, 1), (5323, 1), (173378833005251801, 1)]⟩,
    ⟨6, [(2, 1), (3, 1), (22149492674086928081353, 1)]⟩,
    ⟨3, [(2, 3), (7, 2), (11, 1), (1627, 1), (2657, 1), (4423, 1), (41201, 1), (96557, 1),
      (7240687, 1), (107590001, 1)]⟩,
    ⟨10, [(2, 1), (3, 1), (5, 1), (29, 2), (31, 1), (7723, 1), (132896956044521568488119, 1),
      (255515944373312847190720520512484175977, 1)]⟩,
    ⟨3, [(2, 1), (3, 1), (7, 1), (13441, 1),
      (205115282021455665897114700593932402728804164701536103180137503955397371, 1)]⟩]

/-- The certificate of the order of the group, behind those that it needs. -/
def certificatesN : List Certificate :=
  [⟨3, [(2, 1), (3, 1), (11, 2), (23, 1)]⟩,
    ⟨2, [(2, 2), (5, 1), (1409, 1)]⟩,
    ⟨3, [(2, 1), (3, 1), (5, 1), (2861, 1)]⟩,
    ⟨3, [(2, 3), (7, 1), (19, 1), (113, 1)]⟩,
    ⟨3, [(2, 4), (7, 1), (2731, 1)]⟩,
    ⟨3, [(2, 1), (3, 1), (5, 1), (29, 1), (1871, 1)]⟩,
    ⟨23, [(2, 3), (3, 1), (97, 1), (2011, 1)]⟩,
    ⟨6, [(2, 1), (3, 1), (797, 1), (9349, 1)]⟩,
    ⟨5, [(2, 3), (41, 1), (59, 1), (28181, 1)]⟩,
    ⟨2, [(2, 2), (3, 2), (11, 1), (461, 1), (1627771, 1)]⟩,
    ⟨3, [(2, 4), (16699, 1), (85831, 1), (4681609, 1)]⟩,
    ⟨3, [(2, 3), (17, 1), (59, 1), (4051, 1), (120233, 1), (44706919, 1)]⟩,
    ⟨2, [(2, 1), (293, 1), (305873, 1), (545358713, 1), (297159362677, 1)]⟩,
    ⟨2, [(2, 2), (3, 3), (109, 1), (29047611873442575647497758179, 1)]⟩,
    ⟨7, [(2, 6), (3, 1), (149, 1), (631, 1), (107361793816595537, 1), (174723607534414371449, 1),
      (341948486974166000522343609283189, 1)]⟩]

theorem prime_of_certificates {cs : List Certificate}
    (h : Certificate.allPass smallPrimes cs = true) {q : Nat}
    (hq : q ∈ cs.map Certificate.number) : q.Prime := by
  obtain ⟨c, hc, rfl⟩ := List.mem_map.mp hq
  exact Certificate.prime_of_allPass prime_of_mem_smallPrimes h c hc

/-- **The order of the coordinate field is a prime.** -/
theorem prime_p : p.Prime :=
  prime_of_certificates (by decide +kernel : Certificate.allPass smallPrimes certificatesP = true)
    (by decide +kernel)

/-- **The order of the group is a prime.** -/
theorem prime_n : n.Prime :=
  prime_of_certificates (by decide +kernel : Certificate.allPass smallPrimes certificatesN = true)
    (by decide +kernel)

end OpReturn.Secp256k1
