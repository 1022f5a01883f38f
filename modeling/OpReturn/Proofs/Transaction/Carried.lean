import OpReturn.Proofs.Record.Legible
import OpReturn.Proofs.Transaction.Appended

/-!
# Signed outputs carried by their own payloads

Signing takes any index, also one of an input behind the tenth, and falls back only where there is
no such input. The record it returns is well formed, so whether it comes back from its payload is
told by its index alone.

**Theorem (`comesBack_iff`).** A well-formed signature comes back from its payload if and only if it
is legible and can be pushed. One that signing returned comes back if and only if the index it was
made for has one digit.
-/

namespace OpReturn.DetachedSignature

section Signed

variable {tx : Transaction} {key : Bytes} {outputIndex inputIndex instanceIndex : Int}
  {algorithm : String} {sig : DetachedSignature}

theorem wellFormed_of_sign (halgorithm : algorithm.toList.head? ≠ some '\x03')
    (hsign : sign tx outputIndex key inputIndex instanceIndex algorithm = .ok sig) :
    sig.WellFormed := by
  obtain ⟨hash, signature, hhash, -, rfl⟩ := fields_of_sign hsign
  obtain ⟨rest, haddress, -⟩ := Address.exists_ofHash hhash
  exact {
    inputIndex := fun h => absurd rfl h
    nonce := fun _ => rfl
    algorithm := halgorithm
    address := by simp [haddress] }

theorem comesBack_of_sign_iff (halgorithm : algorithm.toList.head? ≠ some '\x03')
    (hsize : (Utf8.encode algorithm).length ≤ maxPush)
    (hsign : sign tx outputIndex key inputIndex instanceIndex algorithm = .ok sig)
    (verify : Verifier Id) : sig.ComesBack verify ↔ 0 ≤ inputIndex ∧ inputIndex < 10 := by
  have hlegible : sig.Legible ↔ 0 ≤ inputIndex ∧ inputIndex < 10 := by
    obtain ⟨hash, signature, -, -, rfl⟩ := fields_of_sign hsign
    exact Iff.rfl
  rw [(wellFormed_of_sign halgorithm hsign).comesBack_iff_legible verify, hlegible]
  constructor
  · intro h
    exact h.1
  · rintro ⟨hpos, hlt⟩
    obtain ⟨d, rfl⟩ := Int.eq_ofNat_of_zero_le hpos
    exact ⟨⟨hpos, hlt⟩, length_items_of_sign (Int.ofNat_lt.mp hlt) hsize hsign⟩

end Signed

/-- **A signature comes back from its payload if and only if its fourth field reads as what it
stands for**, for signatures over a message, signatures bound to a transaction and, in particular,
what signing returns. -/
theorem comesBack_iff (verify : Verifier Id) :
    (∀ sig : DetachedSignature, sig.WellFormed →
      (sig.ComesBack verify ↔ sig.Legible ∧ ∀ item ∈ sig.items, item.length ≤ maxPush)) ∧
    ∀ (tx : Transaction) (outputIndex inputIndex instanceIndex : Int) (key : Bytes)
      (algorithm : String) (sig : DetachedSignature),
      sign tx outputIndex key inputIndex instanceIndex algorithm = .ok sig →
      algorithm.toList.head? ≠ some '\x03' → (Utf8.encode algorithm).length ≤ maxPush →
        (sig.ComesBack verify ↔ 0 ≤ inputIndex ∧ inputIndex < 10) := by
  constructor
  · intro sig hsig
    exact hsig.comesBack_iff_legible verify
  · intro tx outputIndex inputIndex instanceIndex key algorithm sig hsign halgorithm hsize
    exact comesBack_of_sign_iff halgorithm hsize hsign verify

/-- A transaction of eleven inputs, all of them the one of `taggedTransaction`. -/
def elevenInputs : Transaction :=
  { taggedTransaction with inputs := taggedTransaction.inputs.flatMap (List.replicate 11) }

theorem exists_sign_elevenInputs (inputIndex : Int) (h : inputIndex ∈ [(9 : Int), 10]) :
    ∃ sig, sign elevenInputs 0 keyOne inputIndex 1 "BSM" = .ok sig := by
  have hbound : ∀ inputIndex ∈ [(9 : Int), 10],
      boundInput? elevenInputs inputIndex 0 = boundInput? taggedTransaction 3 0 := by
    decide
  have houtputs : elevenInputs.outputs = taggedTransaction.outputs := rfl
  have hdigest : messageHash elevenInputs 0 1 inputIndex = .ok (some taggedDigest) := by
    rw [messageHash_of_boundInput houtputs (hbound inputIndex h)]
    exact messageHash_tagged
  obtain ⟨secret, σ, point, hsecret, hσ, hpoint⟩ := keyOne_spec
  exact ⟨_, sign_eq_ok_iff.mpr ⟨taggedDigest, _, _, hdigest,
    Address.ofSecretKey_eq_ok_iff.mpr ⟨secret, point, hsecret, hpoint, rfl⟩,
    SignedMessage.sign_eq_ok_iff.mpr ⟨secret, σ, hsecret, hσ, rfl⟩, rfl⟩⟩

/-- A signature over a message, with an empty nonce. -/
def overMessage (message : String) : DetachedSignature :=
  { algorithm := "BSM", address := "a", signature := [0x73], message, nonce := some "" }

/-- A message of two digits comes back, but none of a single digit. A signature for the tenth input
comes back, but not the one for the eleventh. -/
theorem comesBack_iff_elevenInputs :
    (overMessage "10").ComesBack SignedMessage.verify ∧
      ¬ (overMessage "7").ComesBack SignedMessage.verify ∧
      (∃ sig, sign elevenInputs 0 keyOne 9 1 "BSM" = .ok sig ∧
        sig.ComesBack SignedMessage.verify) ∧
      ∃ sig, sign elevenInputs 0 keyOne 10 1 "BSM" = .ok sig ∧
        ¬ sig.ComesBack SignedMessage.verify := by
  obtain ⟨hrecord, hsigned⟩ := comesBack_iff SignedMessage.verify
  have hten : (overMessage "10").WellFormed := ⟨by decide, by decide, by decide, by decide⟩
  have hseven : (overMessage "7").WellFormed := ⟨by decide, by decide, by decide, by decide⟩
  obtain ⟨ninth, hninth⟩ := exists_sign_elevenInputs 9 (by decide)
  obtain ⟨tenth, htenth⟩ := exists_sign_elevenInputs 10 (by decide)
  refine ⟨(hrecord _ hten).mpr ⟨by decide, by decide⟩, ?_, ⟨ninth, hninth, ?_⟩, tenth, htenth, ?_⟩
  · intro h
    exact absurd ((hrecord _ hseven).mp h).1 (by decide)
  · exact (hsigned _ _ _ _ _ _ _ hninth (by decide) (by decide)).mpr (by decide)
  · intro h
    exact absurd ((hsigned _ _ _ _ _ _ _ htenth (by decide) (by decide)).mp h) (by decide)

/-- A signature bound by the eleventh input of its transaction. -/
def boundByEleventh : DetachedSignature :=
  { algorithm := "BSM", address := "a", signature := [0x73], inputIndex := 10 }

/-- Its payload reads as a signature over the message `10`. -/
theorem decode_boundByEleventh :
    boundByEleventh.WellFormed ∧
      boundByEleventh.payload =
        .ok [0x03, 0x42, 0x53, 0x4D, 0x01, 0x61, 0x01, 0x73, 0x02, 0x31, 0x30] ∧
      Id.run (decode [0x03, 0x42, 0x53, 0x4D, 0x01, 0x61, 0x01, 0x73, 0x02, 0x31, 0x30]
        (fun _ _ _ => false : Verifier Id)).run =
          .ok (some { boundByEleventh with message := some "10", inputIndex := 0 }) ∧
      ¬ boundByEleventh.ComesBack (fun _ _ _ => false) := by
  have hsig : boundByEleventh.WellFormed := ⟨by decide, by decide, by decide, by decide⟩
  refine ⟨hsig, by decide +kernel, by decide +kernel, ?_⟩
  intro h
  exact absurd ((hsig.comesBack_iff_legible _).mp h).1 (by decide +kernel)

end OpReturn.DetachedSignature
