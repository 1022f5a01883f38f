import OpReturn.Proofs.SignedMessage.Published

/-!
# Signing and verifying agree

**Theorem (`SignedMessage.verify_sign`).** Take a secret key that signs the digest of a message, so
that the signature recovers the key from that digest. Then the key has an address on either network
and for either form of its public key, signing the message returns a signature, and this verifies
for the address, raw and as base64 text. It verifies for those texts only that carry the key hash of
the address.

The proof follows the key. Signing puts the recovery number and the form into the header, reading
takes them out again and recovers the public key in the form it had, and the hash of this is what
the address carries.
-/

namespace OpReturn

namespace SignedMessage

/-- **What a key signs, its address verifies**, and no address of another key hash does. -/
theorem verify_sign {key message : Bytes} {secret : Secp256k1.SecretKey}
    (hsecret : Secp256k1.SecretKey.ofBytes? key = some secret)
    (hsigns : secret.Signs (digest message)) (compressed testnet : Bool) :
    ∃ address signature, Address.ofSecretKey testnet compressed key = .ok address ∧
      sign key message compressed = .ok signature ∧
      verify address signature message = true ∧
      verify address (Base64.encode signature) message = true ∧
      ∀ other, verify other signature message = true ↔
        Address.decode other = Address.decode address := by
  obtain ⟨σ, point, hσ, hpoint, -⟩ := id hsigns
  have haddress : Address.ofSecretKey testnet compressed key = .ok _ :=
    Address.ofSecretKey_eq_ok_iff.mpr ⟨secret, point, hsecret, hpoint, rfl⟩
  have hsign : sign key message compressed = .ok _ :=
    sign_eq_ok_iff.mpr ⟨secret, σ, hsecret, hσ, rfl⟩
  have hkey := recover?_of_sign hsecret hsign
  rw [hpoint, Option.map_some] at hkey
  have hcarries : Address.decode (Address.ofHash testnet (hash160 (point.bytes compressed))) =
      some (hash160 (point.bytes compressed)) :=
    Address.decode_ofHash (length_hash160 _)
  have hverify (other : String) : verify other (compact σ compressed) message = true ↔
      Address.decode other = some (hash160 (point.bytes compressed)) := by
    rw [verify_eq_true_iff, hkey]
    simp
  refine ⟨_, _, haddress, hsign, ?_, ?_, ?_⟩
  · exact (hverify _).mpr hcarries
  · rw [verify_encode (length_compact σ compressed)]
    exact (hverify _).mpr hcarries
  · intro other
    rw [hverify other, hcarries]

/-- The key two, in the plain form of its public key and on a test network. -/
theorem verify_sign_keyTwo : ∃ address signature,
    Address.ofSecretKey true false IdentitySignature.keyTwo = .ok address ∧
      sign IdentitySignature.keyTwo (canonicalMessage IdentitySignature.scatteredEntries
        (IdentitySignature.selection IdentitySignature.scattered)) false = .ok signature ∧
      verify address (Base64.encode signature) (canonicalMessage IdentitySignature.scatteredEntries
        (IdentitySignature.selection IdentitySignature.scattered)) = true := by
  obtain ⟨secret, hsecret, hsigns⟩ := IdentitySignature.keyTwo_signs
  obtain ⟨address, signature, haddress, hsign, -, htext, -⟩ :=
    verify_sign hsecret hsigns false true
  exact ⟨address, signature, haddress, hsign, htext⟩

end SignedMessage

end OpReturn
