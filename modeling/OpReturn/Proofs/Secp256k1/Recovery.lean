import Mathlib.Tactic.Module
import OpReturn.Proofs.Secp256k1.Order
import OpReturn.Proofs.SignedMessage.Signed

/-!
# Recovering keys

A signature of a digest `z` has two halves `r` and `s` and says which nonce point `R` belongs to
`r`. It recovers the one element `A` with `s • R = r • A + z • generator`. The elements are a vector
space over the scalars, so what follows from this equation is plain algebra.

**Theorem (`SecretKey.recover?_of_sign?`).** A signature that a key makes recovers the key. The
nonce point is `k • generator` for a number `k`, `s` is the scalar that makes the equation true of
it, and the recovery number leads back from `r` to this point; or `s` has the other sign, and the
recovery number leads to the opposite point. So a signed message verifies for the address of the
signer's key (`SignedMessage.verify_of_sign`).

**Theorem (`RecoverableSignature.eq_of_recover?`).** Two signatures with the same first half that
recover the same key from the same digest are the same if either their second halves or their
recovery numbers are: the nonce point is a multiple of the key and the generator, and a multiple of
it determines the multiplier, and the other way around.
-/

namespace OpReturn.Secp256k1

open scoped Fin.CommRing

/-! ## The equation of a signature -/

namespace Element

variable {z r s : Scalar} {R A : Element}

/-- The element that a signature recovers. -/
def recovered (z r s : Scalar) (R : Element) : Element :=
  -(z * r⁻¹) • generator + (s * r⁻¹) • R

theorem recovered_eq_iff (hr : r ≠ 0) :
    recovered z r s R = A ↔ s • R = r • A + z • generator := by
  have hexpand : r • recovered z r s R + z • generator = s • R := by
    rw [recovered, smul_add, smul_smul, smul_smul]
    have hz : r * -(z * r⁻¹) = -z := by field_simp
    have hs : r * (s * r⁻¹) = s := by field_simp
    rw [hz, hs]
    module
  rw [← hexpand]
  constructor
  · intro h
    rw [h]
  · intro h
    exact smul_right_injective Element hr (add_right_cancel h)

end Element

/-! ## Recovering -/

theorem scalar?_eq_some_iff {k : Nat} {a : Scalar} : scalar? k = some a ↔ k = a.val := by
  unfold scalar?
  split_ifs with h
  · rw [Option.some_inj, Fin.ext_iff]
  · constructor
    · exact fun hnone => nomatch hnone
    · rintro rfl
      exact absurd a.isLt h

theorem mul_generator_affine? (k : Scalar) :
    (generator.mul k).affine? = (k • Element.generator).affine? :=
  (Element.represents_generator.mul k).affine?

theorem SecretKey.publicKey?_eq (key : SecretKey) :
    key.publicKey? = (key.scalar • Element.generator).affine? := mul_generator_affine? key.scalar

namespace RecoverableSignature

variable {σ : RecoverableSignature} {digest : Bytes}

/-- The nonce point is the one whose first coordinate leaves the first half modulo `n`. -/
theorem noncePoint?_eq_some_iff {R : Affine} : σ.noncePoint? = some R ↔
    R.onCurve = true ∧ R.x.val = (if 2 ≤ σ.recovery then σ.r + n else σ.r) ∧
      R.y.odd = decide (σ.recovery % 2 = 1) := by
  unfold noncePoint?
  generalize (if 2 ≤ σ.recovery then σ.r + n else σ.r) = x
  dsimp only
  split_ifs with hx
  · rw [Affine.ofX?_eq_some_iff, Fin.ext_iff]
  · constructor
    · exact fun h => nomatch h
    · rintro ⟨-, rfl, -⟩
      exact absurd R.x.isLt hx

/-- The halves of a signature are two scalars other than zero, and it has a nonce point. -/
structure Opens (σ : RecoverableSignature) (r s : Scalar) (R : Affine) : Prop where
  first : σ.r = r.val
  second : σ.s = s.val
  first_ne_zero : r ≠ 0
  second_ne_zero : s ≠ 0
  point : σ.noncePoint? = some R

namespace Opens

variable {r s : Scalar} {R : Affine}

theorem onCurve (h : σ.Opens r s R) : R.onCurve = true := (noncePoint?_eq_some_iff.mp h.point).1

/-- The nonce point in the group. -/
def element (h : σ.Opens r s R) : Element := R.element h.onCurve

/-- **A signature recovers the element of its equation.** -/
theorem recover? (h : σ.Opens r s R) : σ.recover? digest =
    (Element.recovered (digestScalar digest) r s h.element).affine? := by
  have hhalves : scalar? σ.r = some r ∧ scalar? σ.s = some s :=
    ⟨scalar?_eq_some_iff.mpr h.first, scalar?_eq_some_iff.mpr h.second⟩
  rw [RecoverableSignature.recover?, hhalves.1, hhalves.2]
  simp only [bind, Option.bind, h.first_ne_zero, h.second_ne_zero, or_self, if_false, h.point]
  exact ((Element.represents_generator.mul _).add
    ((Affine.represents_point h.onCurve).mul _)).affine?

end Opens

theorem exists_opens {a : Affine} (h : σ.recover? digest = some a) : ∃ r s R, σ.Opens r s R := by
  obtain ⟨r, hr, h⟩ := Option.bind_eq_some_iff.mp h
  obtain ⟨s, hs, h⟩ := Option.bind_eq_some_iff.mp h
  dsimp only at h
  split_ifs at h with hzero
  obtain ⟨R, hR, -⟩ := Option.bind_eq_some_iff.mp h
  push Not at hzero
  exact ⟨r, s, R, scalar?_eq_some_iff.mp hr, scalar?_eq_some_iff.mp hs, hzero.1, hzero.2, hR⟩

theorem onCurve_of_recover? {a : Affine} (h : σ.recover? digest = some a) : a.onCurve = true := by
  obtain ⟨r, s, R, hopens⟩ := exists_opens h
  rw [hopens.recover?] at h
  exact (Affine.exists_element h).1

/-! ## What a signature is determined by -/

section Unique

variable {σ' : RecoverableSignature} {r r' s s' : Scalar} {R R' : Affine}

/-- The nonce points of signatures with the same first half that recover the same key. -/
theorem Opens.smul_eq (h : σ.Opens r s R) (h' : σ'.Opens r' s' R') (hr : σ.r = σ'.r)
    (hkey : σ.recover? digest = σ'.recover? digest) : s • h.element = s' • h'.element := by
  obtain rfl : r = r' := Fin.ext (by rw [← h.first, ← h'.first, hr])
  rw [h.recover?, h'.recover?] at hkey
  have hrecovered := (Element.recovered_eq_iff h.first_ne_zero).mp (Element.affine?_inj hkey)
  rw [hrecovered]
  exact ((Element.recovered_eq_iff h.first_ne_zero).mp rfl).symm

theorem recovery_eq (hσ : σ.recovery < 4) (hσ' : σ'.recovery < 4) (hr : σ.r = σ'.r)
    (hR : σ.noncePoint? = some R) (hR' : σ'.noncePoint? = some R) :
    σ.recovery = σ'.recovery := by
  obtain ⟨-, hx, hodd⟩ := noncePoint?_eq_some_iff.mp hR
  obtain ⟨-, hx', hodd'⟩ := noncePoint?_eq_some_iff.mp hR'
  have hparity : σ.recovery % 2 = 1 ↔ σ'.recovery % 2 = 1 :=
    decide_eq_decide.mp (hodd.symm.trans hodd')
  have hlarge : 2 ≤ σ.recovery ↔ 2 ≤ σ'.recovery := by
    have hn : 0 < n := by decide
    rw [hr] at hx
    split_ifs at hx hx' <;> omega
  omega

/-- **A signature is determined by its first half, the key that it recovers, and either the second
half or the recovery number.** -/
theorem eq_of_recover? {point : Affine} (hσ : σ.recovery < 4) (hσ' : σ'.recovery < 4)
    (hkey : σ.recover? digest = some point) (hkey' : σ'.recover? digest = some point)
    (hr : σ.r = σ'.r) (hsame : σ.s = σ'.s ∨ σ.recovery = σ'.recovery) : σ = σ' := by
  obtain ⟨r, s, R, h⟩ := exists_opens hkey
  obtain ⟨r', s', R', h'⟩ := exists_opens hkey'
  have hsmul := h.smul_eq h' hr (hkey.trans hkey'.symm)
  have hboth : σ.s = σ'.s ∧ σ.recovery = σ'.recovery := by
    rcases hsame with hs | hrecovery
    · obtain rfl : s = s' := Fin.ext (by rw [← h.second, ← h'.second, hs])
      obtain rfl : R = R' :=
        Affine.element_inj (smul_right_injective Element h.second_ne_zero hsmul)
      exact ⟨hs, recovery_eq hσ hσ' hr h.point h'.point⟩
    · have hpoint : σ.noncePoint? = σ'.noncePoint? := by
        rw [noncePoint?, noncePoint?, hr, hrecovery]
      obtain rfl : R = R' := Option.some.inj (h.point.symm.trans (hpoint.trans h'.point))
      have hscalar : s = s' :=
        smul_left_injective Scalar (Affine.element_ne_zero h.onCurve) hsmul
      exact ⟨by rw [h.second, h'.second, hscalar], hrecovery⟩
  cases σ
  cases σ'
  simp only [mk.injEq]
  exact ⟨hr, hboth⟩

end Unique

/-! ## Signing -/

theorem Opens.recover?_eq {r s : Scalar} {R : Affine} {A : Element} (h : σ.Opens r s R)
    (hA : s • h.element = r • A + digestScalar digest • Element.generator) :
    σ.recover? digest = A.affine? := by
  rw [h.recover?, (Element.recovered_eq_iff h.first_ne_zero).mpr hA]

/-- The recovery number that leads back to a point. -/
def recoveryOf (R : Affine) : Nat := (if n ≤ R.x.val then 2 else 0) + if R.y.odd then 1 else 0

theorem two_le_recoveryOf_iff {R : Affine} : 2 ≤ recoveryOf R ↔ n ≤ R.x.val := by
  unfold recoveryOf
  split_ifs with hlarge <;> simp [hlarge]

theorem odd_recoveryOf_iff {R : Affine} : recoveryOf R % 2 = 1 ↔ R.y.odd = true := by
  unfold recoveryOf
  split_ifs with hlarge hodd hodd <;> simp [hodd]

/-- The recovery number of a nonce point leads back to it, for a coordinate is less than twice the
order of the group. -/
theorem noncePoint?_recoveryOf {R : Affine} (hR : R.onCurve = true) (s : Nat) :
    noncePoint? ⟨R.x.val % n, s, recoveryOf R⟩ = some R := by
  refine noncePoint?_eq_some_iff.mpr ⟨hR, ?_, ?_⟩
  · have hx : R.x.val < n + n := R.x.isLt.trans (by decide)
    simp only [two_le_recoveryOf_iff]
    split_ifs with hlarge
    · rw [Nat.mod_eq_sub_mod hlarge, Nat.mod_eq_of_lt (by omega), Nat.sub_add_cancel hlarge]
    · rw [Nat.mod_eq_of_lt (by omega)]
  · simp only [odd_recoveryOf_iff, Bool.decide_eq_true]

theorem recoveryOf_opposite {R : Affine} (hR : R.onCurve = true) :
    recoveryOf R.opposite = if R.y.odd then recoveryOf R - 1 else recoveryOf R + 1 := by
  rw [recoveryOf, recoveryOf, Affine.odd_opposite hR, Affine.opposite]
  cases R.y.odd <;> simp

end RecoverableSignature

section Signed

open RecoverableSignature

variable {key : SecretKey} {digest : Bytes} {σ : RecoverableSignature}

/-- What signing with a nonce makes: the second half has either sign, with the nonce point of the
same sign. -/
theorem exists_of_signWith? {k : Scalar} (h : signWith? key digest k = some σ) :
    ∃ (R : Affine) (r s : Scalar), (k • Element.generator).affine? = some R ∧
      r.val = R.x.val % n ∧ s = k⁻¹ * (digestScalar digest + r * key.scalar) ∧ r ≠ 0 ∧ s ≠ 0 ∧
        (σ = ⟨R.x.val % n, s.val, recoveryOf R⟩ ∨
          σ = ⟨R.x.val % n, (-s).val, recoveryOf R.opposite⟩) := by
  obtain ⟨R, hR, h⟩ := Option.bind_eq_some_iff.mp h
  rw [mul_generator_affine?] at hR
  obtain ⟨hcurve, -⟩ := Affine.exists_element hR
  refine ⟨R, Fin.ofNat n R.x.val, _, hR, rfl, rfl, ?_⟩
  rw [recoveryOf_opposite hcurve, recoveryOf, ← Scalar.inv_eq]
  dsimp only at h
  generalize k.inv * (digestScalar digest + Fin.ofNat n R.x.val * key.scalar) = s at h ⊢
  by_cases hzero : Fin.ofNat n R.x.val = 0 ∨ s = 0
  · rw [if_pos hzero] at h
    exact nomatch h
  rw [if_neg hzero] at h
  obtain ⟨hr, hs⟩ := not_or.mp hzero
  refine ⟨hr, hs, ?_⟩
  by_cases hlow : s.val ≤ n / 2
  · rw [if_pos hlow] at h
    exact Or.inl (Option.some.inj h).symm
  · rw [if_neg hlow] at h
    exact Or.inr (Option.some.inj h).symm

theorem recover?_of_signWith? {k : Scalar} (h : signWith? key digest k = some σ) :
    σ.recover? digest = key.publicKey? := by
  obtain ⟨R, r, s, hR, hr, hs, hrzero, hszero, hσ⟩ := exists_of_signWith? h
  obtain ⟨hcurve, helement⟩ := Affine.exists_element hR
  have hk : k ≠ 0 := by
    rintro rfl
    exact Affine.element_ne_zero hcurve (helement.trans (zero_smul Scalar Element.generator))
  -- The equation of the signature, for the nonce point of the signer.
  have hequation : s • R.element hcurve =
      r • key.scalar • Element.generator + digestScalar digest • Element.generator := by
    have hks : s * k = digestScalar digest + r * key.scalar := by
      rw [hs]
      field_simp
    rw [helement, smul_smul, smul_smul, hks, add_smul, add_comm]
  rw [key.publicKey?_eq]
  rcases hσ with rfl | rfl
  · exact Opens.recover?_eq ⟨hr.symm, rfl, hrzero, hszero, noncePoint?_recoveryOf hcurve _⟩
      hequation
  · refine Opens.recover?_eq (R := R.opposite) (s := -s)
      ⟨hr.symm, rfl, hrzero, neg_ne_zero.mpr hszero,
        noncePoint?_recoveryOf (Affine.onCurve_opposite hcurve) _⟩ ?_
    rw [Opens.element, Affine.element_opposite hcurve, neg_smul_neg, hequation]

theorem recover?_of_signFrom {attempts : Nat} {g : NonceState}
    (h : signFrom key digest attempts g = some σ) : σ.recover? digest = key.publicKey? := by
  induction attempts generalizing g with
  | zero => exact nomatch h
  | succ attempts ih =>
    rw [signFrom] at h
    split at h
    · rename_i found hfound
      obtain ⟨k, -, hsign⟩ := Option.bind_eq_some_iff.mp hfound
      exact recover?_of_signWith? (hsign.trans h)
    · exact ih h

/-- **A signature recovers the key that made it**, whatever the digest. -/
theorem SecretKey.recover?_of_sign? (h : key.sign? digest = some σ) :
    σ.recover? digest = key.publicKey? :=
  recover?_of_signFrom h

theorem SecretKey.exists_publicKey? (key : SecretKey) : ∃ point, key.publicKey? = some point := by
  have hne : key.scalar • Element.generator ≠ 0 :=
    smul_ne_zero key.ne_zero Element.generator_ne_zero
  rw [key.publicKey?_eq]
  cases hA : key.scalar • Element.generator with
  | zero => exact absurd hA hne
  | some x y h => exact ⟨⟨x, y⟩, rfl⟩

theorem SecretKey.signs_iff : key.Signs digest ↔ ∃ σ, key.sign? digest = some σ := by
  constructor
  · rintro ⟨σ, _, hσ, -, -⟩
    exact ⟨σ, hσ⟩
  · rintro ⟨σ, hσ⟩
    obtain ⟨point, hpoint⟩ := key.exists_publicKey?
    exact ⟨σ, point, hσ, hpoint, (recover?_of_sign? hσ).trans hpoint⟩

end Signed

end OpReturn.Secp256k1

namespace OpReturn.SignedMessage

open Secp256k1

/-! ## Signed messages -/

variable {key message signature : Bytes} {testnet compressed : Bool}

theorem recover?_of_sign {secret : SecretKey} (hsecret : SecretKey.ofBytes? key = some secret)
    (hsign : sign key message compressed = .ok signature) :
    recover? signature message = secret.publicKey?.map fun point => point.bytes compressed := by
  obtain ⟨secret', σ, hsecret', hmade, rfl⟩ := sign_eq_ok_iff.mp hsign
  obtain rfl := Option.some.inj (hsecret.symm.trans hsecret')
  rw [recover?_compact (wellFormed_of_signFrom hmade), SecretKey.recover?_of_sign? hmade]

/-- **A signed message verifies for the address of the signer's key.** -/
theorem verify_of_sign {address : String}
    (haddress : Address.ofSecretKey testnet compressed key = .ok address)
    (hsign : sign key message compressed = .ok signature) :
    verify address signature message = true := by
  obtain ⟨secret, point, hsecret, hpoint, rfl⟩ := Address.ofSecretKey_eq_ok_iff.mp haddress
  have hkey := recover?_of_sign hsecret hsign
  rw [hpoint, Option.map_some] at hkey
  exact verify_eq_true_iff.mpr ⟨_, hkey, Address.decode_ofHash (length_hash160 _)⟩

end OpReturn.SignedMessage
