import OpReturn.Proofs.Record.Identity

/-!
# Signatures in normal form

Different payloads read as the same identity signature: fields may be pushed in any form, texts may
have broken parts, indexes signs and zeros in front, and fields behind the last index are not read.
What is read is in normal form all the same: its indexes are 64-bit integers, at least one of them
if there is a selection at all (`IdentitySignature.indexed_of_parse`). So one reading and writing
settles a payload.

* `IdentitySignature.decode_normal`: a signature in normal form is read back with the verifier's
  verdict, and every signature that decoding returns is one of these.
-/

namespace OpReturn

variable {ε : Type}

/-! ## Field indexes -/

theorem isIndex_of_parseIndex {data : Bytes} {v : Int} (h : parseIndex data = .ok (some v)) :
    IsIndex v := by
  unfold parseIndex at h
  split at h
  · cases h
  · dsimp only at h
    split_ifs at h with hlarge hlong hrange
    · cases h
    · obtain rfl := Option.some.inj (Except.ok.inj h)
      exact hrange
    · cases h

/-- Reading stops at the first field that is no index, so all that is read are indexes. -/
theorem isIndex_of_parseIndexes {acc : List Int} {chunks : List Chunk} {indexes : List Int}
    (hacc : ∀ v ∈ acc, IsIndex v) (h : parseIndexes acc chunks = .ok indexes) :
    ∀ v ∈ indexes, IsIndex v := by
  induction chunks generalizing acc with
  | nil =>
    obtain rfl := Except.ok.inj h
    simpa using hacc
  | cons chunk chunks ih =>
    rw [parseIndexes] at h
    cases hindex : parseIndex chunk.data with
    | error e =>
      rw [hindex] at h
      cases h
    | ok index =>
      rw [hindex] at h
      cases index with
      | none =>
        obtain rfl := Except.ok.inj h
        simpa using hacc
      | some index =>
        apply ih _ h
        rw [List.forall_mem_cons]
        exact ⟨isIndex_of_parseIndex hindex, hacc⟩

namespace IdentitySignature

/-! ## Signatures -/

theorem indexed_of_ofChunks {chunks : List Chunk} {sig : IdentitySignature}
    (h : ofChunks chunks = .ok (some sig)) : Indexed sig.fieldIndexes := by
  unfold ofChunks at h
  split at h
  · obtain ⟨indexes, hindexes, hsig⟩ := map_eq_ok_iff.mp h
    have hrange := isIndex_of_parseIndexes (by simp) hindexes
    obtain rfl := Option.some.inj hsig
    by_cases hnil : indexes = []
    · simp only [hnil, List.isEmpty_nil, if_true]
      exact ⟨by simp, by simp⟩
    · have hempty : indexes.isEmpty = false := List.isEmpty_eq_false_iff.mpr hnil
      simp only [hempty, Bool.false_eq_true, if_false]
      exact ⟨by simpa using hnil, by simpa using hrange⟩
  · cases h

/-- **A signature that is read from a payload is in normal form.** -/
theorem indexed_of_parse {payload : Bytes} {sig : IdentitySignature}
    (h : parse payload = .ok (some sig)) : Indexed sig.fieldIndexes := by
  unfold parse at h
  split at h
  · cases h
  · exact indexed_of_ofChunks h

theorem exists_parse_of_returns {payload : Bytes} {preceding : List Entry}
    {verify : Verifier (Except ε)} {sig : IdentitySignature}
    (h : Returns (decode payload preceding verify) (some sig)) :
    ∃ found valid, parse payload = .ok (some found) ∧ sig = { found with valid } := by
  cases hparse : parse payload with
  | error e =>
    rw [decode, hparse] at h
    exact absurd h not_returns_throw
  | ok found =>
    cases found with
    | none =>
      rw [decode, hparse] at h
      cases returns_pure_iff.mp h
    | some found =>
      obtain ⟨valid, -, hsig⟩ := (returns_decode_iff hparse).mp h
      exact ⟨found, valid, rfl, Option.some.inj hsig⟩

theorem exists_payload_decode {sig : IdentitySignature} (hindexed : Indexed sig.fieldIndexes)
    (hsize : ∀ item ∈ sig.items, item.length ≤ maxPush) (preceding : List Entry)
    (verify : Verifier (Except ε)) :
    ∃ payload, sig.payload = .ok payload ∧ ∀ found,
      Returns (decode payload preceding verify) found ↔ ∃ valid,
        verify sig.address sig.signature (canonicalMessage preceding sig.fieldIndexes) =
          .ok valid ∧ found = some { sig with valid } := by
  have hpayload := payload_of_indexed hindexed hsize
  exact ⟨_, hpayload, fun found => returns_decode_iff (parse_payload hindexed hpayload)⟩

/-- **Signatures in normal form are read back with the verifier's verdict, and decoding returns no
others**, so one that it returns is written and decoded again to the same. -/
theorem decode_normal (preceding : List Entry) (verify : Verifier (Except ε)) :
    (∀ sig : IdentitySignature, Indexed sig.fieldIndexes →
      (∀ item ∈ sig.items, item.length ≤ maxPush) →
        ∃ payload, sig.payload = .ok payload ∧ ∀ found,
          Returns (decode payload preceding verify) found ↔ ∃ valid,
            verify sig.address sig.signature (canonicalMessage preceding sig.fieldIndexes) =
              .ok valid ∧ found = some { sig with valid }) ∧
    ∀ payload sig, Returns (decode payload preceding verify) (some sig) →
      Indexed sig.fieldIndexes ∧ ((∀ item ∈ sig.items, item.length ≤ maxPush) →
        ∃ payload', sig.payload = .ok payload' ∧
          Returns (decode payload' preceding verify) (some sig)) := by
  constructor
  · intro sig hindexed hsize
    exact exists_payload_decode hindexed hsize preceding verify
  · intro payload sig h
    obtain ⟨found, valid, hparse, hsig⟩ := exists_parse_of_returns h
    have hindexed : Indexed sig.fieldIndexes := by
      rw [hsig]
      show Indexed found.fieldIndexes
      exact indexed_of_parse hparse
    refine ⟨hindexed, fun hsize => ?_⟩
    obtain ⟨payload', hpayload', hdecode⟩ :=
      exists_payload_decode hindexed hsize preceding verify
    exact ⟨payload', hpayload', (hdecode _).mpr ⟨sig.valid, verify_of_decode h, rfl⟩⟩

/-- A payload whose algorithm is no text, whose indexes have signs and zeros in front, and which
goes on behind them. -/
def loosePayload : Bytes :=
  [0x01, 0xFF, 0x4C, 0x01, 0x61, 0x00, 0x03, 0x2B, 0x30, 0x37, 0x03, 0x2D, 0x30, 0x30,
    0x01, 0x78, 0x01, 0x33]

/-- What it reads as. -/
def looseSignature : IdentitySignature := ⟨"\uFFFD", "a", [], some [7, 0], true⟩

/-- What it signs. -/
def looseEntry : Entry := ⟨[0x54], [0x01, 0x62], 0⟩

/-- Accepts the message of that entry and fails on all others. -/
def acceptsOne : Verifier (Except String) := fun _ _ message =>
  if message = [0x6A, 0x54, 0x62, 0x7C] then .ok true else .error "another message"

/-- The signature is written in another form, and read back from it with the same verdict. -/
theorem decode_normal_loose :
    Returns (decode loosePayload [looseEntry] acceptsOne) (some looseSignature) ∧
      Indexed looseSignature.fieldIndexes ∧
      (∀ item ∈ looseSignature.items, item.length ≤ maxPush) ∧
      (∃ payload, looseSignature.payload = .ok payload ∧
        Returns (decode payload [looseEntry] acceptsOne) (some looseSignature)) ∧
      ∃ payload, looseSignature.payload = .ok payload ∧ ∀ found,
        Returns (decode payload [looseEntry] acceptsOne) found ↔ ∃ valid,
          acceptsOne looseSignature.address looseSignature.signature
              (canonicalMessage [looseEntry] looseSignature.fieldIndexes) = .ok valid ∧
            found = some { looseSignature with valid } := by
  have hreturns : Returns (decode loosePayload [looseEntry] acceptsOne) (some looseSignature) := by
    have hparse : parse loosePayload = .ok (some { looseSignature with valid := false }) := by
      decide +kernel
    have hverdict : acceptsOne "a" [] (canonicalMessage [looseEntry] (some [7, 0])) = .ok true := by
      decide +kernel
    exact (returns_decode_iff hparse).mpr ⟨true, hverdict, rfl⟩
  have hsize : ∀ item ∈ looseSignature.items, item.length ≤ maxPush := by decide +kernel
  obtain ⟨hwritten, hread⟩ := decode_normal [looseEntry] acceptsOne
  obtain ⟨hindexed, hagain⟩ := hread _ _ hreturns
  exact ⟨hreturns, hindexed, hsize, hagain hsize, hwritten looseSignature hindexed hsize⟩

end IdentitySignature
end OpReturn
