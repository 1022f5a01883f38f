import OpReturn.Proofs.Record.Attestation
import OpReturn.Proofs.Record.EntryByEntry

/-!
# Verdicts in decoded records

A verifier is a function from an address, a signature and a message to a verdict; it may also fail
with an error in `ε`. Whenever decoding an envelope returns, every verdict in the records is the
verifier's own, on the message that the entry and those before it give.

**The judgement (`Justified`).** It says for one record what its verdict is, with the index of its
entry and the number of detached signatures before it computed from the envelope.

* `justified_of_decode`: one entry, with the right numbers.
* `decode_justified`: all entries of an envelope.
-/

namespace OpReturn

variable {ε : Type}

/-! ## Detached signatures -/

namespace DetachedSignature

/-- The verifier holds a detached signature valid: over its message, or else over the digest that
its transaction gives for the signature with the given number in the given output. -/
def Holds (verify : Verifier (Except ε)) (tx : Option Transaction)
    (outputIndex instanceIndex : Int) (sig : DetachedSignature) : Prop :=
  sig.algorithm ∈ supportedAlgorithms ∧
    ((∃ message, sig.message = some message ∧
        verify sig.address sig.signature (Utf8.encode message) = .ok true) ∨
      (sig.message = none ∧ ∃ t, tx = some t ∧ ∃ digest,
        messageHash t outputIndex instanceIndex sig.inputIndex = .ok (some digest) ∧
          verify sig.address sig.signature digest = .ok true))

theorem valid_of_parse {payload : Bytes} {sig : DetachedSignature}
    (h : parse payload = some sig) : sig.valid = false := by
  unfold parse at h
  split at h
  · dsimp only at h
    split at h
    · obtain rfl := Option.some.inj h
      rfl
    · split at h
      · obtain rfl := Option.some.inj h
        rfl
      · split_ifs at h <;> obtain rfl := Option.some.inj h <;> rfl
      · obtain rfl := Option.some.inj h
        rfl
  · exact nomatch h

theorem verifyBytes_eq_ok {sig : DetachedSignature} {message : Bytes}
    {verify : Verifier (Except ε)} {valid : Bool}
    (h : sig.verifyBytes message verify = .ok valid) :
    valid = true ↔ sig.algorithm ∈ supportedAlgorithms ∧
      verify sig.address sig.signature message = .ok true := by
  unfold verifyBytes at h
  split_ifs at h with hsupported
  · have hmem : sig.algorithm ∈ supportedAlgorithms := by simpa using hsupported
    simp [h, hmem]
  · have hmem : sig.algorithm ∉ supportedAlgorithms := by simpa using hsupported
    obtain rfl := Except.ok.inj h
    simp [hmem]

theorem holds_of_verify {sig : DetachedSignature} {tx : Option Transaction}
    {outputIndex instanceIndex : Int} {verify : Verifier (Except ε)} {valid : Bool}
    (h : Returns (sig.verify tx outputIndex instanceIndex verify) valid) :
    valid = true ↔ sig.Holds verify tx outputIndex instanceIndex := by
  unfold DetachedSignature.verify at h
  unfold Holds
  split at h
  · rename_i message hmessage
    rw [verifyBytes_eq_ok (returns_lift_iff.mp h)]
    simp [hmessage]
  · rename_i hmessage
    obtain rfl := returns_pure_iff.mp h
    simp [hmessage]
  · rename_i t hmessage
    split at h
    · exact absurd h not_returns_throw
    · rename_i hdigest
      obtain rfl := returns_pure_iff.mp h
      simp [hmessage, hdigest]
    · rename_i digest hdigest
      rw [verifyBytes_eq_ok (returns_lift_iff.mp h)]
      simp [hmessage, hdigest]

/-- Outside a transaction only a signature with a message can be held valid. -/
theorem holds_of_decode {payload : Bytes} {outputIndex instanceIndex : Int}
    {verify : Verifier (Except ε)} {sig : DetachedSignature}
    (h : Returns (decode payload verify) (some sig)) :
    sig.valid = true ↔ sig.Holds verify none outputIndex instanceIndex := by
  unfold decode at h
  cases hparse : parse payload with
  | none =>
    rw [hparse] at h
    exact nomatch returns_pure_iff.mp h
  | some unverified =>
    rw [hparse] at h
    dsimp only at h
    unfold Holds
    split at h
    · rename_i hmessage
      obtain rfl := Option.some.inj (returns_pure_iff.mp h)
      simp [valid_of_parse hparse, hmessage]
    · rename_i message hmessage
      obtain ⟨valid, hvalid, hpure⟩ := returns_bind_iff.mp h
      obtain rfl := Option.some.inj (returns_pure_iff.mp hpure)
      rw [verifyBytes_eq_ok (returns_lift_iff.mp hvalid)]
      simp [hmessage]

theorem holds_of_placed {sig sig' : DetachedSignature} {tx : Transaction}
    {outputIndex instanceIndex : Int} {verify : Verifier (Except ε)}
    (h : Returns (sig.placed tx outputIndex instanceIndex verify) sig') :
    sig'.valid = true ↔ sig'.Holds verify (some tx) outputIndex instanceIndex := by
  obtain ⟨valid, hvalid, hpure⟩ := returns_bind_iff.mp h
  obtain rfl := returns_pure_iff.mp hpure
  exact holds_of_verify hvalid

end DetachedSignature

/-! ## Entries -/

namespace Record

/-- The verdict in the record of an entry, the one with the given index, is the verifier's: on the
entries before it, for an attestation with its own fields, or on the message or the transaction of
a detached signature. -/
def Justified (verify : Verifier (Except ε)) (setting : Setting) (index : Nat) (entry : Entry) :
    Record → Prop
  | .keyed _ => True
  | .attachment _ => True
  | .identity sig =>
    verify sig.address sig.signature
      (canonicalMessage (setting.entries.take index) sig.fieldIndexes) = .ok sig.valid
  | .attestation record => ∀ sig, record.chained = some sig →
    ∃ fields, CutBeforePipe entry.payload fields ∧
      verify sig.address sig.signature
        (canonicalMessage (setting.entries.take index ++ [⟨AttestationRecord.tag, fields, 0⟩])
          sig.fieldIndexes) = .ok sig.valid
  | .detached sig => sig.valid = true ↔ sig.Holds verify setting.transaction setting.outputIndex
      (instancesBefore setting.entries index)

/-- The verdicts that a record carries. -/
def verdicts : Record → List Bool
  | .keyed _ => []
  | .attachment _ => []
  | .identity sig => [sig.valid]
  | .attestation record => (record.chained.map (·.valid)).toList
  | .detached sig => [sig.valid]

theorem holds_of_decodeDetached {setting : Setting} {verify : Verifier (Except ε)}
    {instances : Nat} {payload : Bytes} {sig : DetachedSignature}
    (h : Returns (decodeDetached setting verify instances payload) (some sig)) :
    sig.valid = true ↔
      sig.Holds verify setting.transaction setting.outputIndex instances := by
  obtain ⟨decoded, hdecoded, h⟩ := returns_bind_iff.mp h
  cases decoded with
  | none => exact nomatch returns_pure_iff.mp h
  | some unplaced =>
    cases htx : setting.transaction with
    | none =>
      simp only [htx] at h
      obtain rfl := Option.some.inj (returns_pure_iff.mp h)
      exact DetachedSignature.holds_of_decode hdecoded
    | some tx =>
      simp only [htx] at h
      obtain ⟨placed, hplaced, hpure⟩ := returns_bind_iff.mp h
      obtain rfl := Option.some.inj (returns_pure_iff.mp hpure)
      exact DetachedSignature.holds_of_placed hplaced

theorem justified_of_decode {setting : Setting} {verify : Verifier (Except ε)} {index after : Nat}
    {entry : Entry} {record : Record}
    (h : Returns (decode setting verify index (instancesBefore setting.entries index) entry)
      (some record, after)) : record.Justified verify setting index entry := by
  unfold decode at h
  split_ifs at h
  · obtain ⟨hrecord, -⟩ := Prod.mk.inj (returns_pure_iff.mp h)
    obtain ⟨keyed, -, rfl⟩ := Option.map_eq_some_iff.mp hrecord
    trivial
  · obtain ⟨hrecord, -⟩ := Prod.mk.inj (returns_pure_iff.mp h)
    obtain ⟨attachment, -, rfl⟩ := Option.map_eq_some_iff.mp hrecord
    trivial
  · obtain ⟨sig, hsig, hpure⟩ := returns_bind_iff.mp h
    obtain ⟨hrecord, -⟩ := Prod.mk.inj (returns_pure_iff.mp hpure)
    obtain ⟨sig, rfl, rfl⟩ := Option.map_eq_some_iff.mp hrecord
    exact IdentitySignature.verify_of_decode hsig
  · obtain ⟨attestation, hattest, hpure⟩ := returns_bind_iff.mp h
    obtain ⟨hrecord, -⟩ := Prod.mk.inj (returns_pure_iff.mp hpure)
    obtain ⟨attestation, rfl, rfl⟩ := Option.map_eq_some_iff.mp hrecord
    exact fun sig hchained => AttestationRecord.verify_of_decode hattest hchained
  · obtain ⟨sig, hsig, hpure⟩ := returns_bind_iff.mp h
    obtain ⟨hrecord, -⟩ := Prod.mk.inj (returns_pure_iff.mp hpure)
    obtain ⟨sig, rfl, rfl⟩ := Option.map_eq_some_iff.mp hrecord
    exact holds_of_decodeDetached hsig
  · obtain ⟨hrecord, -⟩ := Prod.mk.inj (returns_pure_iff.mp h)
    cases hrecord

theorem verdicts_of_justified {verify : Verifier (Except ε)} {setting : Setting} {index : Nat}
    {entry : Entry} {record : Record} (h : record.Justified verify setting index entry)
    (hfalse : ∀ address signature message, verify address signature message = .ok false) :
    ∀ valid ∈ record.verdicts, valid = false := by
  intro valid hvalid
  cases record with
  | keyed record => simp [verdicts] at hvalid
  | attachment record => simp [verdicts] at hvalid
  | identity sig =>
    obtain rfl := List.mem_singleton.mp hvalid
    exact (Except.ok.inj ((hfalse ..).symm.trans h)).symm
  | attestation record =>
    obtain ⟨sig, hchained, rfl⟩ := Option.map_eq_some_iff.mp (Option.mem_toList.mp hvalid)
    obtain ⟨fields, -, hverify⟩ := h sig hchained
    exact (Except.ok.inj ((hfalse ..).symm.trans hverify)).symm
  | detached sig =>
    obtain rfl := List.mem_singleton.mp hvalid
    rw [Bool.eq_false_iff]
    intro htrue
    -- A signature that holds needs a verdict of `true`.
    obtain ⟨-, ⟨message, -, hverify⟩ | ⟨-, tx, -, digest, -, hverify⟩⟩ := h.mp htrue
    · exact nomatch (hfalse ..).symm.trans hverify
    · exact nomatch (hfalse ..).symm.trans hverify

end Record

/-! ## Envelopes -/

/-- From any entry on: the records are those of the entries, in order, and justified. -/
theorem DecodedEntry.justified_of_decodeFrom {setting : Record.Setting}
    {verify : Verifier (Except ε)} {done entries : List Entry} {acc decoded : List DecodedEntry}
    (hentries : setting.entries = done ++ entries)
    (h : Returns (decodeFrom setting verify done.length
      (Record.instancesBefore setting.entries done.length) acc entries) decoded) :
    ∃ rest, decoded = acc.reverse ++ rest ∧ rest.map (·.entry) = entries ∧
      ∀ (i : Nat) (d : DecodedEntry) (record : Record), rest[i]? = some d →
        d.record = some record → record.Justified verify setting (done.length + i) d.entry := by
  obtain ⟨rest, hdecoded, hmap, hall⟩ := (returns_decodeFrom_iff hentries acc).mp h
  refine ⟨rest, hdecoded, hmap, fun i d record hi hrecord => ?_⟩
  obtain ⟨after, hfound⟩ := hall i d hi
  rw [hrecord] at hfound
  exact Record.justified_of_decode hfound

namespace Envelope

/-- **Every verdict in a decoded envelope is the verifier's**, and none is `true` if the verifier
never says so. -/
theorem decode_justified {envelope : Envelope} {tx : Option Transaction} {outputIndex : Int}
    {verify : Verifier (Except ε)} {decoded : List DecodedEntry}
    (h : (envelope.decode tx outputIndex verify).run = .ok (.ok decoded)) :
    decoded.map (·.entry) = envelope.entries ∧
      (∀ (i : Nat) (d : DecodedEntry) (record : Record), decoded[i]? = some d →
        d.record = some record →
          record.Justified verify ⟨envelope.entries, tx, outputIndex⟩ i d.entry) ∧
      ((∀ address signature message, verify address signature message = .ok false) →
        ∀ d ∈ decoded, ∀ record, d.record = some record →
          ∀ valid ∈ record.verdicts, valid = false) := by
  let setting : Record.Setting := ⟨envelope.entries, tx, outputIndex⟩
  have hentries : setting.entries = [] ++ envelope.entries := rfl
  have hdecode : Returns (DecodedEntry.decodeFrom setting verify ([] : List Entry).length
      (Record.instancesBefore setting.entries ([] : List Entry).length) [] envelope.entries)
      decoded := h
  obtain ⟨rest, hrest, hmap, hall⟩ := DecodedEntry.justified_of_decodeFrom hentries hdecode
  obtain rfl : decoded = rest := hrest
  have hjustified : ∀ (i : Nat) (d : DecodedEntry) (record : Record), decoded[i]? = some d →
      d.record = some record → record.Justified verify setting i d.entry := by
    intro i d record hi hrecord
    have := hall i d record hi hrecord
    rwa [List.length_nil, Nat.zero_add] at this
  refine ⟨hmap, hjustified, fun hfalse d hd record hrecord => ?_⟩
  obtain ⟨i, hi⟩ := List.getElem?_of_mem hd
  exact Record.verdicts_of_justified (hjustified i d record hi hrecord) hfalse

/-- An entry that reads as no signature, one bound to its transaction, and a signature over
both. -/
def mixedSignatures : Envelope where
  entries :=
    [⟨DetachedSignature.tag, [0x51], 1⟩,
      ⟨DetachedSignature.tag, [0x03, 0x42, 0x53, 0x4D, 0x01, 0x61, 0x01, 0x73], 10⟩,
      ⟨IdentitySignature.tag, [0x01, 0x42, 0x01, 0x61, 0x01, 0x73], 26⟩]

/-- A transaction of one input whose only output has that envelope. -/
def mixedTransaction : Transaction where
  inputs := [⟨String.ofList (List.replicate 64 'a'), 0, [], 0⟩]
  outputs := mixedSignatures.toScript.toOption.toList.map fun script => ⟨0, script⟩

/-- Accepts what has the length of a digest. -/
def acceptsDigests : Verifier (Except String) := fun _ _ message => .ok (message.length = 32)

/-- The digest of the second signature is accepted and the message of the third is not. -/
theorem decode_mixedSignatures :
    mixedTransaction.outputs.map (scan ·.script) = [some mixedSignatures] ∧
      ∃ decoded, (mixedSignatures.decode (some mixedTransaction) 0 acceptsDigests).run =
          .ok (.ok decoded) ∧
        decoded.map (fun d => (d.record.map Record.verdicts).getD []) = [[], [true], [false]] ∧
        decoded.map (·.entry) = mixedSignatures.entries ∧
        ∀ (i : Nat) (d : DecodedEntry) (record : Record), decoded[i]? = some d →
          d.record = some record → record.Justified acceptsDigests
            ⟨mixedSignatures.entries, some mixedTransaction, 0⟩ i d.entry := by
  have hrun : (mixedSignatures.decode (some mixedTransaction) 0 acceptsDigests).run = .ok (.ok
      [⟨⟨DetachedSignature.tag, [0x51], 1⟩, none⟩,
        ⟨⟨DetachedSignature.tag, [0x03, 0x42, 0x53, 0x4D, 0x01, 0x61, 0x01, 0x73], 10⟩,
          some (.detached ⟨"BSM", "a", [0x73], none, none, 0, 0, 1, true⟩)⟩,
        ⟨⟨IdentitySignature.tag, [0x01, 0x42, 0x01, 0x61, 0x01, 0x73], 26⟩,
          some (.identity ⟨"B", "a", [0x73], none, false⟩)⟩]) := by
    decide +kernel
  obtain ⟨hentries, hjustified, -⟩ := decode_justified hrun
  exact ⟨by decide +kernel, _, hrun, rfl, hentries, hjustified⟩

end Envelope
end OpReturn
