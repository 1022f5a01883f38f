import OpReturn.Proofs.Secp256k1.Key
import OpReturn.Proofs.Secp256k1.Recovery
import OpReturn.Proofs.SignedMessage.Published
import OpReturn.Proofs.SignedMessage.Transport

/-!
# Changed signatures

One byte of the base64 text of a signature is replaced by another one. The text is then read as
other bytes or not at all, but for the two bits that its last digit has to spare, which nobody
looks at.

Other bytes are another signature, in the first half or in the second. Another second half recovers
another key, for the nonce point and the key determine it. Another first half recovers the same key
only if it is a *twin* of the signature: one with the same second half that the key could have made
as well.

**Theorem (`IdentitySignature.decode_changed`).** The record that is decoded from the changed
payload is the signed one with the changed signature, and it is held valid in three cases: only
spare bits are changed; the signature recovers another key, which has the same hash; the signature
is a twin of the one that was made.
-/

namespace OpReturn

open Secp256k1

/-! ## Twins -/

/-- Another signature of the digest for the same key, with the same second half. -/
structure Secp256k1.RecoverableSignature.Twin (σ σ' : RecoverableSignature) (digest : Bytes) :
    Prop where
  wellFormed : σ'.WellFormed
  first_ne : σ'.r ≠ σ.r
  second : σ'.s = σ.s
  recover? : σ'.recover? digest = σ.recover? digest

namespace SignedMessage

/-! ## What is recovered -/

theorem recover?_congr {signature signature' : Bytes}
    (h : normalize? signature = normalize? signature') (message : Bytes) :
    recover? signature message = recover? signature' message := by
  rw [recover?, recover?, h]

theorem header_eq {b : UInt8} (h : 27 ≤ b ∧ b ≤ 34) :
    header ((b.toNat - 27) % 4) (31 ≤ b) = b := by
  have hall : ∀ k < 8, header (((UInt8.ofNat (27 + k)).toNat - 27) % 4)
      (31 ≤ UInt8.ofNat (27 + k)) = UInt8.ofNat (27 + k) := by
    decide
  have hlow : 27 ≤ b.toNat := UInt8.le_iff_toNat_le.mp h.1
  have hhigh : b.toNat ≤ 34 := UInt8.le_iff_toNat_le.mp h.2
  have hb := hall (b.toNat - 27) (by omega)
  rwa [Nat.add_sub_cancel' hlow, UInt8.ofNat_toNat] at hb

/-- **A key is recovered from the compact form of a signature** that recovers its point. -/
theorem recover?_eq_some_iff {signature message key : Bytes} :
    recover? signature message = some key ↔
      ∃ (σ : RecoverableSignature) (compressed : Bool) (point : Affine), σ.WellFormed ∧
        normalize? signature = some (compact σ compressed) ∧
        σ.recover? (digest message) = some point ∧ key = point.bytes compressed := by
  constructor
  · intro h
    unfold recover? at h
    split at h
    · rename_i b halves hraw
      obtain ⟨hrange, h⟩ := Option.ite_none_right_eq_some.mp h
      obtain ⟨point, hpoint, h⟩ := Option.bind_eq_some_iff.mp h
      obtain rfl := Option.some.inj h
      have hlen : halves.length = 64 := Nat.succ.inj (normalize?_eq_some_iff.mp hraw).1
      have hfirst : Bytes.ofNatBE 32 (Bytes.toNatBE (halves.take 32)) = halves.take 32 := by
        have hbytes := Bytes.ofNatBE_toNatBE (halves.take 32)
        rwa [List.length_take, hlen] at hbytes
      have hsecond : Bytes.ofNatBE 32 (Bytes.toNatBE (halves.drop 32)) = halves.drop 32 := by
        have hbytes := Bytes.ofNatBE_toNatBE (halves.drop 32)
        rwa [List.length_drop, hlen] at hbytes
      obtain ⟨r, s, R, hopens⟩ := RecoverableSignature.exists_opens hpoint
      refine ⟨_, _, point, ⟨?_, ?_, Nat.mod_lt _ (by decide)⟩, ?_, hpoint, rfl⟩
      · rw [hopens.first]
        exact r.isLt
      · rw [hopens.second]
        exact s.isLt
      · rw [hraw, compact]
        dsimp only
        rw [header_eq hrange, hfirst, hsecond, List.take_append_drop]
    · cases h
  · rintro ⟨σ, compressed, point, hσ, hraw, hpoint, rfl⟩
    have hself : normalize? (compact σ compressed) = some (compact σ compressed) :=
      normalize?_eq_some_iff.mpr ⟨length_compact σ compressed, Or.inl rfl⟩
    rw [recover?_congr (hraw.trans hself.symm), recover?_compact hσ, hpoint, Option.map_some]

/-! ## Halves -/

section Halves

variable {σ σ' : RecoverableSignature} {compressed : Bool}

theorem take_compact (σ : RecoverableSignature) (compressed : Bool) :
    (compact σ compressed).take 33 = header σ.recovery compressed :: Bytes.ofNatBE 32 σ.r := by
  rw [compact, List.take_succ_cons, List.take_left' (Bytes.length_ofNatBE 32 σ.r)]

theorem drop_compact (σ : RecoverableSignature) (compressed : Bool) :
    (compact σ compressed).drop 33 = Bytes.ofNatBE 32 σ.s := by
  rw [compact, List.drop_succ_cons, List.drop_left' (Bytes.length_ofNatBE 32 σ.r)]

theorem ofNatBE_inj {a b : Nat} (ha : a < n) (hb : b < n)
    (h : Bytes.ofNatBE 32 a = Bytes.ofNatBE 32 b) : a = b := by
  have hn : n < Bytes.room 32 := by decide
  rw [← Bytes.toNatBE_ofNatBE (ha.trans hn), h, Bytes.toNatBE_ofNatBE (hb.trans hn)]

variable (hσ : σ.WellFormed) (hσ' : σ'.WellFormed)
include hσ hσ'

/-- The first half tells the recovery number and the first number. -/
theorem first_of_take_compact
    (h : (compact σ' compressed).take 33 = (compact σ compressed).take 33) :
    σ'.r = σ.r ∧ σ'.recovery = σ.recovery := by
  rw [take_compact, take_compact] at h
  obtain ⟨hheader, hr⟩ := List.cons.inj h
  refine ⟨ofNatBE_inj hσ'.r hσ.r hr, ?_⟩
  rw [← (header_spec hσ'.recovery compressed).2.1, hheader,
    (header_spec hσ.recovery compressed).2.1]

theorem second_of_drop_compact
    (h : (compact σ' compressed).drop 33 = (compact σ compressed).drop 33) : σ'.s = σ.s := by
  rw [drop_compact, drop_compact] at h
  exact ofNatBE_inj hσ'.s hσ.s h

end Halves

/-! ## Changed texts -/

section Changed

variable {σ : RecoverableSignature} {compressed : Bool} {point : Affine} {message : Bytes}
  {i : Nat} {b old : UInt8}

/-- **A changed signature recovers the signer's key** only if it reads as the same bytes or is a
twin of the signature that was made. -/
theorem recover?_set_iff (hσ : σ.WellFormed) (hpoint : σ.recover? (digest message) = some point)
    (hold : (Base64.encode (compact σ compressed))[i]? = some old) (hb : b ≠ old) :
    recover? ((Base64.encode (compact σ compressed)).set i b) message =
        some (point.bytes compressed) ↔
      (i = 86 ∧ Base64.leadingBits? b = Base64.leadingBits? old) ∨
      i < 44 ∧ ∃ σ', normalize? ((Base64.encode (compact σ compressed)).set i b) =
        some (compact σ' compressed) ∧ σ.Twin σ' (digest message) := by
  have hlen := length_compact σ compressed
  have hsame := normalize?_set_iff hlen hold hb
  rw [recover?_eq_some_iff]
  constructor
  · rintro ⟨σ', compressed', point', hσ', hraw, hpoint', hkey⟩
    obtain ⟨rfl, rfl⟩ := Affine.bytes_inj (RecoverableSignature.onCurve_of_recover? hpoint)
      (RecoverableSignature.onCurve_of_recover? hpoint') hkey
    by_cases hne : σ' = σ
    · rw [hne] at hraw
      exact Or.inl (hsame.mp hraw)
    refine Or.inr ?_
    obtain ⟨hfirst, hsecond⟩ := halves_of_normalize?_set hlen hraw
    have hunique : σ'.r = σ.r → ¬(σ'.s = σ.s ∨ σ'.recovery = σ.recovery) := fun hr hother =>
      hne (RecoverableSignature.eq_of_recover? hσ'.recovery hσ.recovery hpoint' hpoint hr hother)
    by_cases hi : i < 44
    · have hs := second_of_drop_compact hσ hσ' (hfirst hi)
      exact ⟨hi, σ', hraw, hσ', fun hr => hunique hr (Or.inl hs), hs, hpoint'.trans hpoint.symm⟩
    · obtain ⟨hr, hrecovery⟩ := first_of_take_compact hσ hσ' (hsecond (by omega))
      exact absurd (Or.inr hrecovery) (hunique hr)
  · rintro (hspare | ⟨-, σ', hraw, htwin⟩)
    · exact ⟨σ, compressed, point, hσ, hsame.mpr hspare, hpoint, rfl⟩
    · exact ⟨σ', compressed, point, htwin.wellFormed, hraw, htwin.recover?.trans hpoint, rfl⟩

end Changed

end SignedMessage

/-! ## Changed records -/

namespace IdentitySignature

variable {ε : Type} {entries : List Entry} {key : Bytes} {selected : Option (List Int)}
  {algorithm : String} {sig : IdentitySignature}

theorem MadeBy.verify_set_iff {secret : SecretKey} {point : Affine} {σ : RecoverableSignature}
    (h : sig.MadeBy entries secret point σ) {i : Nat} {b old : UInt8}
    (hold : sig.signature[i]? = some old) (hb : b ≠ old) :
    SignedMessage.verify sig.address (sig.signature.set i b)
        (canonicalMessage entries sig.fieldIndexes) = true ↔
      (i = 86 ∧ Base64.leadingBits? b = Base64.leadingBits? old) ∨
      (∃ other, SignedMessage.recover? (sig.signature.set i b)
          (canonicalMessage entries sig.fieldIndexes) = some other ∧
        other ≠ point.bytes true ∧ hash160 other = hash160 (point.bytes true)) ∨
      i < 44 ∧ ∃ σ', SignedMessage.normalize? (sig.signature.set i b) =
          some (SignedMessage.compact σ' true) ∧
        σ.Twin σ' (SignedMessage.digest (canonicalMessage entries sig.fieldIndexes)) := by
  rw [h.signature] at hold
  have hkey := SignedMessage.recover?_set_iff (wellFormed_of_signFrom h.made)
    ((SecretKey.recover?_of_sign? h.made).trans h.publicKey) hold hb
  rw [SignedMessage.verify_eq_true_iff, h.address, h.signature,
    Address.decode_ofHash (length_hash160 _)]
  constructor
  · rintro ⟨other, hother, hhash⟩
    by_cases hsame : other = point.bytes true
    · rw [hsame] at hother
      exact (hkey.mp hother).imp_right Or.inr
    · exact Or.inr (Or.inl ⟨other, hother, hsame, (Option.some.inj hhash).symm⟩)
  · rintro (hspare | ⟨other, hother, -, hhash⟩ | htwin)
    · exact ⟨_, hkey.mpr (Or.inl hspare), rfl⟩
    · exact ⟨other, hother, congrArg some hhash.symm⟩
    · exact ⟨_, hkey.mpr (Or.inr htwin), rfl⟩

theorem exists_payload_set (hsize : (Utf8.encode algorithm).length ≤ maxPush)
    (hselected : ∀ v ∈ selected.getD [], IsIndex v)
    (hsign : sign entries key selected algorithm = .ok sig) (i : Nat) (b : UInt8) :
    ∃ payload, { sig with signature := sig.signature.set i b }.payload = .ok payload ∧
      ∀ found, Returns (decode payload entries (SignedMessage.verifier ε)) found ↔
        found = some
          { sig with
            signature := sig.signature.set i b
            valid := SignedMessage.verify sig.address (sig.signature.set i b)
              (canonicalMessage entries sig.fieldIndexes) } := by
  have hshort : (sig.signature.set i b).length ≤ maxPush := by
    rw [List.length_set, length_signature hsign]
    decide
  have hindexed : Indexed { sig with signature := sig.signature.set i b }.fieldIndexes := by
    obtain ⟨_, _, -, -, rfl⟩ := sign_eq_ok_iff.mp hsign
    exact indexed_selection hselected
  have hpayload : { sig with signature := sig.signature.set i b }.payload = .ok _ :=
    payload_of_indexed hindexed (length_le_of_sign hsize hselected hsign _ hshort)
  refine ⟨_, hpayload, fun found => ?_⟩
  rw [returns_decode_iff (parse_payload hindexed hpayload)]
  constructor
  · rintro ⟨valid, hvalid, rfl⟩
    obtain rfl := Except.ok.inj hvalid
    rfl
  · rintro rfl
    exact ⟨_, rfl, rfl⟩

/-- **A signature of which one byte is changed is decoded as such**, and it is held valid only if
the byte makes no difference to what is read, if it recovers another key of the same hash, or if it
is a twin of the signature that was made. -/
theorem decode_changed (hsize : (Utf8.encode algorithm).length ≤ maxPush)
    (hselected : ∀ v ∈ selected.getD [], IsIndex v)
    (hsign : sign entries key selected algorithm = .ok sig) {i : Nat} {b old : UInt8}
    (hold : sig.signature[i]? = some old) (hb : b ≠ old) :
    ∃ secret point σ payload valid, SecretKey.ofBytes? key = some secret ∧
      sig.MadeBy entries secret point σ ∧
      { sig with signature := sig.signature.set i b }.payload = .ok payload ∧
      (∀ found, Returns (decode payload entries (SignedMessage.verifier ε)) found ↔
        found = some { sig with signature := sig.signature.set i b, valid }) ∧
      (valid = true ↔
        (i = 86 ∧ Base64.leadingBits? b = Base64.leadingBits? old) ∨
        (∃ other, SignedMessage.recover? (sig.signature.set i b)
            (canonicalMessage entries sig.fieldIndexes) = some other ∧
          other ≠ point.bytes true ∧ hash160 other = hash160 (point.bytes true)) ∨
        i < 44 ∧ ∃ σ', SignedMessage.normalize? (sig.signature.set i b) =
            some (SignedMessage.compact σ' true) ∧
          σ.Twin σ' (SignedMessage.digest (canonicalMessage entries sig.fieldIndexes))) := by
  obtain ⟨secret, point, σ, hsecret, hmade⟩ := exists_madeBy hsign
  obtain ⟨payload, hpayload, hreturns⟩ := exists_payload_set (ε := ε) hsize hselected hsign i b
  exact ⟨secret, point, σ, payload, _, hsecret, hmade, hpayload, hreturns,
    hmade.verify_set_iff hold hb⟩

/-- The sign of padding is replaced by a digit: the text is read as too many bytes. -/
theorem decode_changed_padding : ∃ payload,
    signedScattered.signature[87]? = some 0x3D ∧
      { signedScattered with signature := signedScattered.signature.set 87 0x41 }.payload =
        .ok payload ∧
      Returns (decode payload scatteredEntries (SignedMessage.verifier Unit)) (some
        { signedScattered with
          signature := signedScattered.signature.set 87 0x41
          valid := false }) := by
  have hold : signedScattered.signature[87]? = some 0x3D := by decide
  obtain ⟨_, _, _, payload, valid, -, -, hpayload, hreturns, hvalid⟩ :=
    decode_changed (ε := Unit) (by decide) (by decide) sign_scattered hold
      (by decide : (0x41 : UInt8) ≠ 0x3D)
  have hraw : SignedMessage.normalize? (signedScattered.signature.set 87 0x41) = none := by
    decide
  have hnone : SignedMessage.recover? (signedScattered.signature.set 87 0x41)
      (canonicalMessage scatteredEntries scattered) = none := by
    rw [SignedMessage.recover?, hraw]
  obtain rfl : valid = false := by
    rw [← Bool.not_eq_true, hvalid]
    rintro (⟨h, -⟩ | ⟨other, hother, -⟩ | ⟨h, -⟩)
    · exact absurd h (by decide)
    · have hnever := hnone.symm.trans hother
      cases hnever
    · exact absurd h (by decide)
  exact ⟨payload, hold, hpayload, (hreturns _).mpr rfl⟩

/-- The last digit is replaced by the next one, which has the same leading bits: the signature is
held valid all the same. -/
theorem exists_changed_valid : ∃ payload,
    sign scatteredEntries keyTwo scattered defaultAlgorithm = .ok signedScattered ∧
      signedScattered.signature[86]? = some 0x49 ∧
      { signedScattered with signature := signedScattered.signature.set 86 0x4A }.payload =
        .ok payload ∧
      Returns (decode payload scatteredEntries (SignedMessage.verifier Unit)) (some
        { signedScattered with
          signature := signedScattered.signature.set 86 0x4A
          valid := true }) := by
  have hold : signedScattered.signature[86]? = some 0x49 := by decide
  obtain ⟨secret, point, σ, -, hmade⟩ := exists_madeBy sign_scattered
  have hvalid := (hmade.verify_set_iff hold (by decide : (0x4A : UInt8) ≠ 0x49)).mpr
    (Or.inl ⟨rfl, by decide⟩)
  obtain ⟨payload, hpayload, hreturns⟩ :=
    exists_payload_set (ε := Unit) (by decide) (by decide) sign_scattered 86 0x4A
  refine ⟨payload, sign_scattered, hold, hpayload, (hreturns _).mpr ?_⟩
  rw [hvalid]

end IdentitySignature

end OpReturn
