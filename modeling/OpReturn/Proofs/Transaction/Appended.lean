import OpReturn.Proofs.Record.Built
import OpReturn.Proofs.Record.Digest
import OpReturn.Proofs.Record.Placed
import OpReturn.Proofs.Secp256k1.Recovery

/-!
# Signing an output and appending the signature

The signer hashes the script of an output as it is. The verifier finds the signature in the longer
script and has to come to the same bytes by a search for its tag. Plain parts hold no tags that this
search counts by mistake, so signer and verifier cover the same bytes.

**Theorem (`listed_of_sign`).** In the transaction with the longer script, the signature listed for
the output and the next free number is exactly the one that signing returned.
-/

namespace OpReturn

namespace DetachedSignature

section Signed

variable {tx : Transaction} {o k d : Nat} {key : Bytes} {algorithm : String}
  {sig : DetachedSignature}

/-- What signing returns can be written, and the payload holds no marker and no delimiter. -/
theorem exists_payload_of_sign (hd : d < 10) (halgorithm : algorithm ∈ supportedAlgorithms)
    (hsign : sign tx o key d k algorithm = .ok sig) :
    ∃ payload, sig.payload = .ok payload ∧ Clear Chunk.isBoundary payload := by
  have hitems := items_of_sign hd halgorithm hsign
  obtain ⟨_, hd', hindex⟩ := (bound_of_sign hd halgorithm hsign).inputIndex
  have hpayload := payload_eq_ok (fun _ => by omega) fun item hmem => (hitems item hmem).1
  exact ⟨_, hpayload, clear_encodePushes (encodeItems_eq_ok_iff.mp hpayload).2
    fun item hmem => (hitems item hmem).2⟩

/-- An entry that holds the signature gives it back as it was made, wherever the digest is the one
that was signed. -/
theorem ofEntry_of_sign (hd : d < 10) (halgorithm : algorithm ∈ supportedAlgorithms)
    (hsign : sign tx o key d k algorithm = .ok sig) {tx' : Transaction}
    (hsame : messageHash tx' o k d = messageHash tx o k d) {entry : Entry}
    (hpayload : sig.payload = .ok entry.payload) :
    Id.run (ofEntry tx' o k entry SignedMessage.verify).run = .ok (some sig) := by
  obtain ⟨digest, address, signature, hdigest, haddress, hsigned, hsig⟩ := sign_eq_ok_iff.mp hsign
  have hvalid : Id.run (SignedMessage.verify address signature digest) = true :=
    SignedMessage.verify_of_sign haddress hsigned
  have hdigest' : messageHash tx' o k sig.inputIndex = .ok (some digest) := by
    rw [hsig]
    exact hsame.trans hdigest
  rw [(bound_of_sign hd halgorithm hsign).run_ofEntry hpayload (by rwa [hsig]) hdigest', hsig]
  dsimp only
  rw [hvalid]

end Signed

/-- **A signature that is appended to the output it was made for is listed as it was made**, under
the next free number of that output and as the only one there. -/
theorem listed_of_sign {lead : Bytes} {entries : List Entry} (hne : entries ≠ [])
    (hplain : Plain lead entries) {tx : Transaction} (htx : tx.WellFormed) {o : Nat}
    {output : TxOutput} (ho : tx.outputs[o]? = some output)
    (hbuild : Envelope.build lead entries = .ok output.script) {key : Bytes} {d : Nat} (hd : d < 10)
    {algorithm : String} (halgorithm : algorithm ∈ supportedAlgorithms) {sig : DetachedSignature}
    (hsign : sign tx o key d (entries.countP (·.tag = tag) : Nat) algorithm = .ok sig) :
    sig.valid = true ∧ ∃ entry script found, (Record.detached sig).entry = .ok entry ∧
      Envelope.build lead (entries ++ [entry]) = .ok script ∧
      Id.run (ofTransaction (tx.withScript o script) (m := Id) SignedMessage.verify).run =
        .ok found ∧
      found.filter (standsAt o (entries.countP (·.tag = tag))) = [sig] := by
  generalize hk : entries.countP (·.tag = tag) = k at hsign ⊢
  have hvalid : sig.valid = true := by
    obtain ⟨-, -, -, -, -, -, rfl⟩ := sign_eq_ok_iff.mp hsign
    rfl
  obtain ⟨payload, hpayload, hclear⟩ := exists_payload_of_sign hd halgorithm hsign
  let entry : Entry := ⟨tag, payload, 0⟩
  let script : Bytes := output.script ++ (Chunk.delimiter ++ entry.encoded)
  have hwritten : (Record.detached sig).entry = .ok entry :=
    map_eq_ok_iff.mpr ⟨payload, hpayload, rfl⟩
  have htag : entry.tag.length ≤ maxPush := (by decide : tag.length ≤ maxPush)
  obtain ⟨envelope, stored, hscan, hfind, hstored⟩ :=
    hplain.exists_find_concat hne hbuild htag hclear
  rw [show entries.countP (·.tag = entry.tag) = k from hk] at hfind
  -- The signer and the verifier cover the same bytes.
  have htally : Tally output.script k := hk ▸ hplain.tally hne hbuild
  have hcovered : covered script k = covered output.script k :=
    (covered_append htally payload).trans (covered_whole htally).symm
  have hentry := ofEntry_of_sign hd halgorithm hsign
    (messageHash_withScript ho hcovered d) (by rw [hpayload, hstored])
  have htx' : (tx.withScript o script).WellFormed := htx
  obtain ⟨found, hfound⟩ :=
    (runs_ofTransaction (m := Id) htx' SignedMessage.verify).exists_run
  have ho' : (tx.withScript o script).outputs[o]? = some { output with script } := by
    simp [Transaction.withScript, ho]
  exact ⟨hvalid, entry, script, found, hwritten, build_concat hne hbuild htag, hfound,
    filter_ofTransaction ho' hscan hfind hentry hfound⟩

/-- An output whose only entry has the tag, but holds nothing. -/
def taggedOutput : TxOutput := ⟨0, Opcode.opReturn :: pushBytes tag⟩

/-- A transaction of one input with that output. -/
def taggedTransaction : Transaction where
  inputs := [⟨String.ofList (List.replicate 64 'a'), 0, [], 0⟩]
  outputs := [taggedOutput]

/-- What a signature of that output covers. -/
def taggedDigest : Bytes :=
  sha256d (sha256 (List.replicate 32 0xAA ++ [0, 0, 0, 0]) ++ sha256 taggedOutput.script)

theorem plain_tagged : Plain [] [⟨tag, [], 0⟩] where
  lead := .nil
  payloads := by simpa using Clear.nil

theorem build_tagged : Envelope.build [] [⟨tag, [], 0⟩] = .ok taggedOutput.script := by rfl

/-- The input that the index names is missing, and the one with the number of the output takes its
place. -/
theorem messageHash_tagged : messageHash taggedTransaction 0 1 3 = .ok (some taggedDigest) := by
  have htally : Tally taggedOutput.script 1 := plain_tagged.tally_of_build build_tagged
  have hcovered : covered taggedOutput.script 1 = taggedOutput.script := covered_whole htally
  have hid : String.ofList (List.replicate 64 'a') = Hex.encode (List.replicate 32 0xAA) := by
    decide
  have hparts : Parts.Of taggedTransaction 0 1 3 ⟨String.ofList (List.replicate 64 'a'), 0, [], 0⟩
      ⟨List.replicate 32 0xAA ++ [0, 0, 0, 0], taggedOutput.script⟩ := by
    refine ⟨rfl, TxInput.outpoint_eq_ok_iff.mpr ⟨List.replicate 32 0xAA, ?_, by decide, by decide⟩,
      taggedOutput, rfl, hcovered.symm⟩
    exact (congrArg Hex.decode hid).trans (Hex.decode_encode _)
  exact messageHash_eq_some_iff.mpr ⟨_, _, hparts, by rw [taggedDigest, Parts.digest, Parts.joined]⟩

/-- The secret key one. -/
def keyOne : Bytes := List.replicate 31 0 ++ [1]

theorem keyOne_spec : ∃ secret σ point, Secp256k1.SecretKey.ofBytes? keyOne = some secret ∧
    secret.sign? (SignedMessage.digest taggedDigest) = some σ ∧
      secret.publicKey? = some point := by
  have hsign : (Secp256k1.SecretKey.ofBytes? keyOne).any
      (fun secret => (secret.sign? (SignedMessage.digest taggedDigest)).isSome) = true := by
    decide +kernel
  obtain ⟨secret, hsecret, hsign⟩ := (Option.any_eq_true _ _).mp hsign
  obtain ⟨σ, hσ⟩ := Option.isSome_iff_exists.mp hsign
  obtain ⟨point, hpoint⟩ := secret.exists_publicKey?
  exact ⟨secret, σ, point, hsecret, hσ, hpoint⟩

/-- The entry that holds nothing is counted, so the signature is listed as the second, though it is
the only one. It names an input that is missing. -/
theorem listed_of_sign_second :
    ∃ sig, sign taggedTransaction 0 keyOne 3 1 "BSM" = .ok sig ∧ sig.valid = true ∧
      ∃ entry script found, (Record.detached sig).entry = .ok entry ∧
        Envelope.build [] [⟨tag, [], 0⟩, entry] = .ok script ∧
        Id.run (ofTransaction (taggedTransaction.withScript 0 script) (m := Id)
          SignedMessage.verify).run = .ok found ∧ found.filter (standsAt 0 1) = [sig] := by
  obtain ⟨secret, σ, point, hsecret, hσ, hpoint⟩ := keyOne_spec
  have htx : taggedTransaction.WellFormed := by
    rintro _ (_ | ⟨_, ⟨⟩⟩)
    refine ⟨by decide, fun c hc => ?_, by decide⟩
    obtain rfl : c = 'a' := by simpa using hc
    decide
  have hdigest := messageHash_tagged
  obtain ⟨sig, hsign⟩ : ∃ sig, sign taggedTransaction 0 keyOne 3 1 "BSM" = .ok sig :=
    ⟨_, sign_eq_ok_iff.mpr ⟨taggedDigest, _, _, hdigest,
      Address.ofSecretKey_eq_ok_iff.mpr ⟨secret, point, hsecret, hpoint, rfl⟩,
      SignedMessage.sign_eq_ok_iff.mpr ⟨secret, σ, hsecret, hσ, rfl⟩, rfl⟩⟩
  exact ⟨sig, hsign, listed_of_sign (List.cons_ne_nil _ _) plain_tagged htx (o := 0) rfl
    build_tagged (d := 3) (by decide) (by decide) hsign⟩

end DetachedSignature

end OpReturn
