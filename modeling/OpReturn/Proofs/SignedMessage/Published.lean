import OpReturn.Proofs.Record.Built
import OpReturn.Proofs.Record.Detached
import OpReturn.Proofs.Record.Identity
import OpReturn.Proofs.Secp256k1.Recovery

/-!
# Signing entries and publishing the signature

The signer of some entries hashes their message as it is. Whoever reads the published script finds
the signature behind the same entries, at other offsets: the message is the same, the numerals of
the selection are read back, and the signature is judged by the bytes that its base64 text stands
for.

**Theorem (`decode_of_sign`).** Entries can be signed with a selection of any 64-bit integers. In
the script that is built from the entries and the signature, the last record is the signature as it
was made, held valid.
-/

namespace OpReturn

variable {ε : Type}

/-- The verifier that recovers keys; it never fails. -/
def SignedMessage.verifier (ε : Type) : Verifier (Except ε) := fun address signature message =>
  .ok (verify address signature message)

namespace IdentitySignature

/-! ## Signing -/

/-- What signing takes a selection for. Selecting nothing selects everything. -/
def selection (selected : Option (List Int)) : Option (List Int) :=
  if selected = some [] then none else selected

theorem indexed_selection {selected : Option (List Int)}
    (h : ∀ v ∈ selected.getD [], IsIndex v) : Indexed (selection selected) := by
  unfold selection
  split_ifs with hnil
  · exact ⟨by simp, by simp⟩
  · exact ⟨hnil, h⟩

/-- How a signature over entries was made: by a secret key over the digest of their message, for
the address of its public key, and as base64 text. -/
structure MadeBy (sig : IdentitySignature) (entries : List Entry) (secret : Secp256k1.SecretKey)
    (point : Secp256k1.Affine) (σ : Secp256k1.RecoverableSignature) : Prop where
  publicKey : secret.publicKey? = some point
  made : secret.sign? (SignedMessage.digest (canonicalMessage entries sig.fieldIndexes)) = some σ
  address : sig.address = Address.ofHash false (hash160 (point.bytes true))
  signature : sig.signature = Base64.encode (SignedMessage.compact σ true)

section Signed

variable {entries : List Entry} {key : Bytes} {selected : Option (List Int)} {algorithm : String}
  {sig : IdentitySignature}

theorem sign_eq_ok_iff : sign entries key selected algorithm = .ok sig ↔
    ∃ address signature, Address.ofSecretKey false true key = .ok address ∧
      SignedMessage.sign key (canonicalMessage entries (selection selected)) true =
        .ok signature ∧
      sig = { algorithm, address, signature := Base64.encode signature,
              fieldIndexes := selection selected, valid := true } := by
  unfold sign
  rw [show (if selected = some [] then none else selected) = selection selected from rfl]
  dsimp only
  cases SignedMessage.sign key (canonicalMessage entries (selection selected)) true with
  | error e => simp
  | ok signature =>
    cases Address.ofSecretKey false true key with
    | error e => simp
    | ok address => simp [eq_comm]

theorem exists_madeBy (hsign : sign entries key selected algorithm = .ok sig) :
    ∃ secret point σ, Secp256k1.SecretKey.ofBytes? key = some secret ∧
      sig.MadeBy entries secret point σ := by
  obtain ⟨address, signature, haddress, hsigned, rfl⟩ := sign_eq_ok_iff.mp hsign
  obtain ⟨secret, point, hsecret, hpoint, rfl⟩ := Address.ofSecretKey_eq_ok_iff.mp haddress
  obtain ⟨secret', σ, hsecret', hσ, rfl⟩ := SignedMessage.sign_eq_ok_iff.mp hsigned
  obtain rfl := Option.some.inj (hsecret.symm.trans hsecret')
  exact ⟨secret, point, σ, hsecret, hpoint, hσ, rfl, rfl⟩

theorem exists_sign (algorithm : String) {secret : Secp256k1.SecretKey}
    (hsecret : Secp256k1.SecretKey.ofBytes? key = some secret)
    (hsigns : secret.Signs
      (SignedMessage.digest (canonicalMessage entries (selection selected)))) :
    ∃ sig, sign entries key selected algorithm = .ok sig := by
  obtain ⟨σ, point, hσ, hpoint, -⟩ := hsigns
  exact ⟨_, sign_eq_ok_iff.mpr ⟨_, _,
    Address.ofSecretKey_eq_ok_iff.mpr ⟨secret, point, hsecret, hpoint, rfl⟩,
    SignedMessage.sign_eq_ok_iff.mpr ⟨secret, σ, hsecret, hσ, rfl⟩, rfl⟩⟩

theorem verify_of_sign (hsign : sign entries key selected algorithm = .ok sig) :
    SignedMessage.verify sig.address sig.signature
      (canonicalMessage entries sig.fieldIndexes) = true := by
  obtain ⟨address, signature, haddress, hsigned, rfl⟩ := sign_eq_ok_iff.mp hsign
  have hlen : signature.length = 65 := by
    obtain ⟨-, σ, -, -, rfl⟩ := SignedMessage.sign_eq_ok_iff.mp hsigned
    exact SignedMessage.length_compact σ true
  dsimp only
  rw [SignedMessage.verify_encode hlen]
  exact SignedMessage.verify_of_sign haddress hsigned

theorem ofInt_spec {v : Int} (h : IsIndex v) :
    (Decimal.ofInt v).length ≤ 20 ∧ Decimal.ofInt v ≠ Chunk.separator := by
  obtain ⟨hmin, hmax⟩ := h
  refine ⟨Decimal.length_ofInt_le (k := 19) (by decide) (by omega), fun hpipe => ?_⟩
  have hmem : (0x7C : UInt8) ∈ Decimal.ofInt v := hpipe ▸ List.mem_singleton_self _
  exact absurd (Decimal.isDigit_of_mem_ofInt hmem) (by decide)

/-- The items that a signature pushes are short, and stay so with other bytes in its place. -/
theorem length_le_of_sign (hsize : (Utf8.encode algorithm).length ≤ maxPush)
    (hselected : ∀ v ∈ selected.getD [], IsIndex v)
    (hsign : sign entries key selected algorithm = .ok sig) (signature : Bytes)
    (hlen : signature.length ≤ maxPush) :
    ∀ item ∈ { sig with signature }.items, item.length ≤ maxPush := by
  have hrange := (indexed_selection hselected).range
  have hmax : 136 ≤ maxPush := by decide
  obtain ⟨address, made, haddress, -, rfl⟩ := sign_eq_ok_iff.mp hsign
  obtain ⟨secret, point, -, -, rfl⟩ := Address.ofSecretKey_eq_ok_iff.mp haddress
  obtain ⟨-, haddress, -⟩ := DetachedSignature.address_spec (length_hash160 (point.bytes true))
  simp only [items, List.forall_mem_append, List.forall_mem_cons, List.forall_mem_map]
  refine ⟨⟨hsize, by omega, hlen, by simp⟩, fun v hv => ?_⟩
  have hindex := (ofInt_spec (hrange v hv)).1
  omega

theorem length_signature (hsign : sign entries key selected algorithm = .ok sig) :
    sig.signature.length = 88 := by
  obtain ⟨_, _, -, hsigned, rfl⟩ := sign_eq_ok_iff.mp hsign
  obtain ⟨-, σ, -, -, rfl⟩ := SignedMessage.sign_eq_ok_iff.mp hsigned
  rw [Base64.length_encode, SignedMessage.length_compact]

/-- The items that a signature pushes are short, and none of them separates entries, unless the
algorithm does. -/
theorem items_of_sign (hsize : (Utf8.encode algorithm).length ≤ maxPush) (hpipe : algorithm ≠ "|")
    (hselected : ∀ v ∈ selected.getD [], IsIndex v)
    (hsign : sign entries key selected algorithm = .ok sig) :
    ∀ item ∈ sig.items, item.length ≤ maxPush ∧ item ≠ Chunk.separator := by
  have hrange := (indexed_selection hselected).range
  have hlen := length_signature hsign
  have hmax : 136 ≤ maxPush := by decide
  have hshort := length_le_of_sign hsize hselected hsign sig.signature (by omega)
  have halgorithm : Utf8.encode algorithm ≠ Chunk.separator := by
    intro h
    have hpipe' : Utf8.encode "|" = Chunk.separator := by decide
    exact hpipe (Utf8.encode_inj (h.trans hpipe'.symm))
  have hsignature : sig.signature ≠ Chunk.separator := by
    intro h
    rw [h] at hlen
    exact absurd hlen (by decide)
  refine fun item hmem => ⟨hshort item hmem, ?_⟩
  obtain ⟨address, signature, haddress, -, rfl⟩ := sign_eq_ok_iff.mp hsign
  obtain ⟨secret, point, -, -, rfl⟩ := Address.ofSecretKey_eq_ok_iff.mp haddress
  obtain ⟨-, -, haddressPipe⟩ :=
    DetachedSignature.address_spec (length_hash160 (point.bytes true))
  simp only [items, List.mem_append, List.mem_cons, List.mem_map, List.not_mem_nil, or_false]
    at hmem
  -- Substituting the address would make it be computed.
  rcases hmem with (hitem | hitem | hitem) | ⟨v, hv, rfl⟩
  · exact hitem ▸ halgorithm
  · exact hitem ▸ haddressPipe
  · exact hitem ▸ hsignature
  · exact (ofInt_spec (hrange v hv)).2

end Signed

/-! ## Publishing -/

/-- **A signature that is published behind the entries it was made for is decoded as it was made**,
as the last record and with one result for every entry. -/
theorem decode_of_sign {lead : Bytes} (hlead : Clear Chunk.isMarker lead) {entries : List Entry}
    (hpayloads : ∀ entry ∈ entries, Clear Chunk.isDelimiter entry.payload)
    {key : Bytes} {secret : Secp256k1.SecretKey}
    (hsecret : Secp256k1.SecretKey.ofBytes? key = some secret) {selected : Option (List Int)}
    (hselected : ∀ v ∈ selected.getD [], IsIndex v) {algorithm : String} (hpipe : algorithm ≠ "|")
    (hsize : (Utf8.encode algorithm).length ≤ maxPush)
    (hsigns : secret.Signs
      (SignedMessage.digest (canonicalMessage entries (selection selected)))) :
    ∃ sig entry, sign entries key selected algorithm = .ok sig ∧ sig.valid = true ∧
      (Record.identity sig).entry = .ok entry ∧
      ∀ script, Envelope.build lead (entries ++ [entry]) = .ok script →
        ∃ envelope, Envelope.scan script = some envelope ∧
          envelope.entries.map Entry.content = (entries ++ [entry]).map Entry.content ∧
          ∀ (tx : Option Transaction) (outputIndex : Int) (decoded : List DecodedEntry),
            Returns (envelope.decode tx outputIndex (SignedMessage.verifier ε)) decoded →
              decoded.map (·.entry) = envelope.entries ∧
                decoded.getLast?.map (·.record) = some (some (.identity sig)) := by
  obtain ⟨sig, hsign⟩ := exists_sign algorithm hsecret hsigns
  have hvalid := verify_of_sign hsign
  obtain ⟨hindexed, htrue⟩ : Indexed sig.fieldIndexes ∧ sig.valid = true := by
    obtain ⟨_, _, -, -, rfl⟩ := sign_eq_ok_iff.mp hsign
    exact ⟨indexed_selection hselected, rfl⟩
  have hitems := items_of_sign hsize hpipe hselected hsign
  have hpayload := payload_of_indexed hindexed fun item hmem => (hitems item hmem).1
  have hclear := clear_encodePushes (encodeItems_eq_ok_iff.mp hpayload).2
    fun item hmem => (hitems item hmem).2
  let entry : Entry := ⟨tag, sig.items.flatMap pushBytes, 0⟩
  have hentry : (Record.identity sig).entry = .ok entry := map_eq_ok_iff.mpr ⟨_, hpayload, rfl⟩
  refine ⟨sig, entry, hsign, htrue, hentry, fun script hbuild => ?_⟩
  have hclears : ∀ e ∈ entries ++ [entry], Clear Chunk.isDelimiter e.payload :=
    List.forall_mem_append.mpr ⟨hpayloads, by simpa [entry] using hclear.isDelimiter⟩
  obtain ⟨envelope, hscan, -, hcontent⟩ :=
    Envelope.exists_scan_of_build hlead (by simp) hclears hbuild
  refine ⟨envelope, hscan, hcontent, fun tx outputIndex decoded h => ?_⟩
  have hmap := (Envelope.returns_decode_iff.mp h).1
  obtain ⟨d, valid, hd, hverify, hrecord⟩ :=
    Envelope.exists_identity hcontent (rfl : entry.tag = tag) (parse_payload hindexed hpayload) h
  -- The verdict is that of the signer's message.
  obtain rfl : valid = true := (Except.ok.inj hverify).symm.trans hvalid
  have hlen : decoded.length = entries.length + 1 := by
    have := congrArg List.length hmap
    have hplaced := congrArg List.length hcontent
    simp only [List.length_map, List.length_append, List.length_singleton] at this hplaced
    omega
  refine ⟨hmap, ?_⟩
  rw [List.getLast?_eq_getElem?, hlen, Nat.add_sub_cancel, hd, Option.map_some, hrecord, ← htrue]

/-- Two entries, the first with a marker among its chunks. -/
def scatteredEntries : List Entry :=
  [⟨[0x61], [0x01, 0x41, 0x6A], 0⟩, ⟨[0x62], [0x01, 0x42, 0x01, 0x43], 0⟩]

/-- Chunks out of order, one of them twice, and one that there is not. -/
def scattered : Option (List Int) := some [2, -1, 0, 0]

/-- The secret key two. -/
def keyTwo : Bytes := List.replicate 31 0 ++ [2]

/-- What the key makes of these entries. -/
def signedScattered : IdentitySignature where
  algorithm := defaultAlgorithm
  address := "1cMh228HTCiwS8ZsaakH8A8wze1JR5ZsP"
  signature := Utf8.encode
    "Hz4ltHcJQVvLX5s+vnE7FB4BOhwLcxgnaknd3aULYuEKFL5d88RqF3AxfoxVC/jGaHABB7/07CQVBZQT/sVcwJI="
  fieldIndexes := scattered
  valid := true

theorem sign_scattered :
    sign scatteredEntries keyTwo scattered defaultAlgorithm = .ok signedScattered := by
  decide +kernel

theorem keyTwo_signs : ∃ secret,
    Secp256k1.SecretKey.ofBytes? keyTwo = some secret ∧ secret.Signs
      (SignedMessage.digest (canonicalMessage scatteredEntries (selection scattered))) := by
  obtain ⟨secret, _, σ, hsecret, hmade⟩ := exists_madeBy sign_scattered
  exact ⟨secret, hsecret, Secp256k1.SecretKey.signs_iff.mpr ⟨σ, hmade.made⟩⟩

/-- The signature of these entries is found in an envelope that can be decoded. -/
theorem decode_of_sign_scattered :
    ∃ sig entry script envelope decoded,
      sign scatteredEntries keyTwo scattered "|a" = .ok sig ∧
      (Record.identity sig).entry = .ok entry ∧
      Envelope.build [0x51] (scatteredEntries ++ [entry]) = .ok script ∧
      Envelope.scan script = some envelope ∧
      Returns (envelope.decode none 0 (SignedMessage.verifier Unit)) decoded ∧
      decoded.getLast?.map (·.record) = some (some (.identity sig)) ∧ sig.valid = true := by
  obtain ⟨secret, hsecret, hsigns⟩ := keyTwo_signs
  have hlead : Clear Chunk.isMarker [0x51] := .cons rfl rfl .nil
  have hpayloads : ∀ entry ∈ scatteredEntries, Clear Chunk.isDelimiter entry.payload := by
    simp only [scatteredEntries, List.forall_mem_cons]
    exact ⟨.cons rfl rfl (.cons rfl rfl .nil), .cons rfl rfl (.cons rfl rfl .nil), by simp⟩
  have hselected : ∀ v ∈ scattered.getD [], IsIndex v := by decide
  have hpipe : "|a" ≠ "|" := by decide
  obtain ⟨sig, entry, hsign, hvalid, hentry, hread⟩ :=
    decode_of_sign (ε := Unit) hlead hpayloads hsecret hselected hpipe (by decide) hsigns
  obtain ⟨payload, hpayload, rfl⟩ := map_eq_ok_iff.mp hentry
  have htags : ∀ entry ∈ scatteredEntries ++ [⟨tag, payload, 0⟩], entry.tag.length ≤ maxPush := by
    rw [List.forall_mem_append, List.forall_mem_singleton]
    exact ⟨by decide, (by decide : tag.length ≤ maxPush)⟩
  have hbuild := Envelope.build_eq [0x51] (by simp) htags
  obtain ⟨envelope, hscan, hcontent, hlast⟩ := hread _ hbuild
  obtain ⟨decoded, hdecoded⟩ : ∃ decoded,
      Returns (envelope.decode none 0 (SignedMessage.verifier Unit)) decoded := by
    have hindexed : Indexed sig.fieldIndexes := by
      obtain ⟨_, _, -, -, rfl⟩ := sign_eq_ok_iff.mp hsign
      exact indexed_selection hselected
    refine Envelope.exists_decode fun i e he => ?_
    have hmem := List.mem_map_of_mem (f := Entry.content) (List.mem_of_getElem? he)
    rw [hcontent, List.map_append, List.mem_append, List.map_singleton, List.mem_singleton] at hmem
    rcases hmem with hmem | hlast
    · obtain ⟨e', he', hsame⟩ := List.mem_map.mp hmem
      have hunknown : ∀ e' ∈ scatteredEntries, e'.tag ∉ [KeyedRecord.tag, AttachmentRecord.tag, tag,
          AttestationRecord.tag, DetachedSignature.tag] := by decide
      have htag : e'.tag = e.tag := congrArg Prod.fst hsame
      exact ⟨none, Record.foundAt_unknown (htag ▸ hunknown e' he')⟩
    · obtain ⟨htag, hstored⟩ := Prod.mk.inj hlast
      exact ⟨_, (Record.foundAt_identity_iff htag
        (by rw [hstored]; exact parse_payload hindexed hpayload)).mpr ⟨_, rfl, rfl⟩⟩
  exact ⟨sig, _, _, envelope, decoded, hsign, hentry, hbuild, hscan, hdecoded,
    (hlast none 0 decoded hdecoded).2, hvalid⟩

end IdentitySignature

end OpReturn
