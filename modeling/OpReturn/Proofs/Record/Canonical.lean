import OpReturn.Proofs.Record.Chained
import OpReturn.Proofs.Record.Normal

/-!
# Attestations in normal form

An attestation of one kind has no use for the fields of another, and its sequence number and the
indexes of the signature it carries are of a fixed width. A record in which all that holds is in
normal form (`AttestationRecord.Normal`). Writing one gives three fields, and behind them perhaps a
pipe and a signature. However these fields look, a pipe is searched for behind the third only, so it
is always the one that was written.

**Theorem (`AttestationRecord.decode_canonical`).** Records in normal form are read back with the
verifier's verdict on the signature they carry, and decoding returns no others, up to the flag of
the records that are found by searching text.
-/

namespace OpReturn

variable {ε : Type}

/-! ## Kinds and sequence numbers -/

theorem AttestationKind.ofText?_text (kind : AttestationKind) : ofText? kind.text = some kind := by
  cases kind <;> decide

theorem parseSequence_lt {text : String} {n : Nat} (h : parseSequence text = some n) :
    n < 0x10000000000000000 := by
  unfold parseSequence at h
  dsimp only at h
  split_ifs at h with hdigits hrange
  obtain rfl := Option.some.inj h
  exact hrange

theorem digit_char {b : UInt8} (h : Decimal.isDigit b = true) :
    b < 0x80 ∧ '0' ≤ Char.ofNat b.toNat ∧ Char.ofNat b.toNat ≤ '9' ∧
      UInt8.ofNat (Char.ofNat b.toNat).toNat = b := by
  obtain ⟨d, hd, rfl⟩ := Decimal.exists_of_isDigit h
  exact (by decide : ∀ d < 10, UInt8.ofNat (0x30 + d) < 0x80 ∧
    '0' ≤ Char.ofNat (UInt8.ofNat (0x30 + d)).toNat ∧
    Char.ofNat (UInt8.ofNat (0x30 + d)).toNat ≤ '9' ∧
    UInt8.ofNat (Char.ofNat (UInt8.ofNat (0x30 + d)).toNat).toNat = UInt8.ofNat (0x30 + d)) d hd

theorem parseSequence_ofNat {n : Nat} (h : n < 0x10000000000000000) :
    parseSequence (Utf8.decode (Decimal.ofNat n)) = some n := by
  have hdigits : ∀ b ∈ Decimal.ofNat n, Decimal.isDigit b = true := fun _ =>
    Decimal.isDigit_of_mem_ofNat
  have htext := Utf8.toList_decode_of_lt fun b hmem => (digit_char (hdigits b hmem)).1
  have hlen : (Decimal.ofNat n).length ≤ 20 := Decimal.length_ofNat_le (by decide) (by omega)
  have hall : ((Decimal.ofNat n).map fun b => Char.ofNat b.toNat).all
      (fun c => '0' ≤ c && c ≤ '9') = true := by
    rw [List.all_eq_true, List.forall_mem_map]
    intro b hmem
    obtain ⟨-, hmin, hmax, -⟩ := digit_char (hdigits b hmem)
    simp [hmin, hmax]
  have hback : ((Decimal.ofNat n).map fun b => Char.ofNat b.toNat).map
      (fun c => UInt8.ofNat c.toNat) = Decimal.ofNat n := by
    rw [List.map_map]
    exact (List.map_congr_left fun b hmem => (digit_char (hdigits b hmem)).2.2.2).trans
      (List.map_id _)
  have hshort : ¬ 20 < (Decimal.ofNat n).length := by omega
  rw [parseSequence, htext]
  dsimp only
  rw [hall, hback, Decimal.value_ofNat]
  simp [Decimal.ofNat_ne_nil, hshort, h]

namespace AttestationRecord

/-! ## Normal form -/

/-- What the kind does not carry is not there, a sequence number fits eight bytes, and the indexes
of the signature can be written and read back. -/
structure Normal (record : AttestationRecord) : Prop where
  sequence : record.kind.hasSequence = false → record.sequence = none
  address : record.kind.hasSequence = true → record.addressOrProfile = ""
  range : ∀ n ∈ record.sequence, 0 ≤ n ∧ n < 0x10000000000000000
  indexed : ∀ sig ∈ record.chained, IdentitySignature.Indexed sig.fieldIndexes
  searched : record.fallback = false

/-- No field of the record, or of the signature it carries, is too long for a push. -/
structure Fits (record : AttestationRecord) : Prop where
  items : ∀ item ∈ record.items, item.length ≤ maxPush
  signature : ∀ sig ∈ record.chained, ∀ item ∈ sig.items, item.length ≤ maxPush

theorem normal_ofFields (kind : AttestationKind) (key field : String)
    {chained : Option IdentitySignature}
    (h : ∀ sig ∈ chained, IdentitySignature.Indexed sig.fieldIndexes) :
    Normal { ofFields kind key field with chained, fallback := false } := by
  unfold ofFields
  split_ifs with hkind
  · refine ⟨fun hnone => ?_, fun _ => rfl, fun n hmem => ?_, h, rfl⟩
    · exact absurd (hkind.symm.trans hnone) (by decide)
    · obtain ⟨k, hk, rfl⟩ := Option.map_eq_some_iff.mp hmem
      exact ⟨Int.natCast_nonneg k, Int.ofNat_lt.mpr (parseSequence_lt hk)⟩
  · exact ⟨fun _ => rfl, fun hsome => absurd hsome hkind, by simp, h, rfl⟩

/-- **A record that decoding returns is in normal form**, once it does not tell how it was found. -/
theorem normal_of_returns {payload : Bytes} {preceding : List Entry}
    {verify : Verifier (Except ε)} {record : AttestationRecord}
    (h : Returns (decode payload preceding verify) (some record)) :
    Normal { record with fallback := false } := by
  obtain ⟨kind, key, field, hrecord⟩ := exists_of_returns h
  have hunsigned : Normal { ofFields kind key field with fallback := false } :=
    normal_ofFields kind key field (by simp [chained_ofFields])
  rcases hrecord with rfl | rfl | ⟨offset, sig, valid, hpart, -, rfl⟩
  · exact hunsigned
  · exact hunsigned
  · obtain ⟨fields, hfields⟩ := exists_ofChunks_of_chainedPart hpart
    refine normal_ofFields kind key field fun sig' hsig => ?_
    obtain rfl := Option.some.inj hsig
    show IdentitySignature.Indexed sig.fieldIndexes
    exact IdentitySignature.indexed_of_ofChunks hfields

/-! ## Reading back -/

/-- The signature that is carried, if any, with the verdict of the verifier over some entries. -/
inductive Judged (entries : List Entry) (verify : Verifier (Except ε)) :
    Option IdentitySignature → Option IdentitySignature → Prop
  | unsigned : Judged entries verify none none
  | signed {sig : IdentitySignature} {valid : Bool}
    (verdict : verify sig.address sig.signature (canonicalMessage entries sig.fieldIndexes) =
      .ok valid) : Judged entries verify (some sig) (some { sig with valid })

/-- The record can be written, and behind any entries it is read back from its payload with the
verdict of the verifier on the signature: over these entries and the fields of the payload. -/
def ReadsBack (ε : Type) (record : AttestationRecord) : Prop :=
  ∃ fields payload, encodePushes record.items = .ok fields ∧ record.payload = .ok payload ∧
    ∀ (preceding : List Entry) (verify : Verifier (Except ε)) (found : Option AttestationRecord),
      Returns (decode payload preceding verify) found ↔ ∃ chained,
        Judged (preceding ++ [⟨tag, fields, 0⟩]) verify record.chained chained ∧
          found = some { record with chained, fallback := false }

/-- The third field of a payload. -/
def field (record : AttestationRecord) : Bytes :=
  if record.kind.hasSequence then (record.sequence.map Decimal.ofInt).getD []
  else Utf8.encode record.addressOrProfile

theorem parseSequence_field {sequence : Option Int}
    (h : ∀ n ∈ sequence, 0 ≤ n ∧ n < 0x10000000000000000) :
    (parseSequence (Utf8.decode ((sequence.map Decimal.ofInt).getD []))).map Int.ofNat =
      sequence := by
  cases sequence with
  | none => decide
  | some n =>
    obtain ⟨hmin, hmax⟩ := h n rfl
    obtain ⟨k, rfl⟩ := Int.eq_ofNat_of_zero_le hmin
    show (parseSequence (Utf8.decode (Decimal.ofNat k))).map Int.ofNat = some (k : Int)
    rw [parseSequence_ofNat (Int.ofNat_lt.mp hmax)]
    rfl

theorem ofFields_field {record : AttestationRecord} (h : Normal record) :
    ofFields record.kind record.keyOrTxid (Utf8.decode record.field) =
      { record with chained := none } := by
  obtain ⟨hsequence, haddress, hrange, -, hsearched⟩ := h
  obtain ⟨kind, key, address, sequence, chained, fallback⟩ := record
  dsimp only at hsequence haddress hrange hsearched
  subst hsearched
  unfold ofFields field
  dsimp only
  split_ifs with hkind
  · obtain rfl := haddress hkind
    rw [parseSequence_field hrange]
  · obtain rfl := hsequence (by simpa using hkind)
    rw [Utf8.decode_encode]

theorem readsAs_items {record : AttestationRecord} (h : Normal record) {fields : Bytes}
    (hfields : encodePushes record.items = .ok fields) :
    ReadsAs fields { record with chained := none } := by
  obtain ⟨chunks, hchunks, hdata, -⟩ := parseAll_encodePushes hfields
  have hitems : record.items =
      [Utf8.encode record.kind.text, Utf8.encode record.keyOrTxid, record.field] := rfl
  rw [hitems] at hdata
  obtain ⟨kind, chunks, rfl, hkind, hdata⟩ := List.map_eq_cons_iff.mp hdata
  obtain ⟨key, chunks, rfl, hkey, hdata⟩ := List.map_eq_cons_iff.mp hdata
  obtain ⟨field, chunks, rfl, hfield, hdata⟩ := List.map_eq_cons_iff.mp hdata
  obtain rfl := List.map_eq_nil_iff.mp hdata
  have hread : ReadsAs fields
      (ofFields record.kind (Utf8.decode key.data) (Utf8.decode field.data)) := by
    refine .mk hchunks ?_ (by simp)
    rw [hkind, Utf8.decode_encode, AttestationKind.ofText?_text]
  rwa [hkey, hfield, Utf8.decode_encode, ofFields_field h] at hread

theorem Normal.encodeItems_eq {record : AttestationRecord} (h : Normal record) {fields : Bytes}
    (hfields : encodePushes record.items = .ok fields) :
    encodeItems record.integers record.items = .ok fields := by
  refine encodeItems_eq_ok_iff.mpr ⟨fun n hn => ?_, hfields⟩
  unfold AttestationRecord.integers at hn
  split_ifs at hn
  · obtain ⟨hmin, hmax⟩ := h.range n (Option.mem_toList.mp hn)
    exact Decimal.isShowable_of_lt (k := 20) (by decide) (by omega)
  · exact absurd hn List.not_mem_nil

theorem payload_eq_ok {record : AttestationRecord} {fields : Bytes}
    (hfields : encodeItems record.integers record.items = .ok fields) :
    (record.chained = none → record.payload = .ok fields) ∧
    ∀ sig ∈ record.chained, ∀ signature, sig.payload = .ok signature →
      record.payload = .ok (chain fields signature) := by
  have hpipe : encodePushes [Chunk.separator, IdentitySignature.tag] =
      .ok (Chunk.delimiter ++ pushBytes IdentitySignature.tag) :=
    encodePushes_eq_ok_iff.mpr ⟨by decide, by decide⟩
  constructor
  · intro hnone
    rw [payload, hfields, hnone]
    rfl
  · intro sig hsig signature hsignature
    rw [payload, hfields, Option.mem_def.mp hsig]
    show (do
      let pipe ← encodePushes [Chunk.separator, IdentitySignature.tag]
      let signature ← sig.payload
      return fields ++ pipe ++ signature) = _
    rw [hpipe, hsignature]
    show Except.ok (fields ++ (Chunk.delimiter ++ pushBytes IdentitySignature.tag) ++ signature) = _
    rw [chain, List.append_assoc, List.append_assoc]

/-- **A record in normal form is read back from its payload.** -/
theorem Normal.readsBack {record : AttestationRecord} (h : Normal record) (hfits : Fits record) :
    ReadsBack ε record := by
  have hfields : encodePushes record.items = .ok (record.items.flatMap pushBytes) :=
    encodePushes_eq_ok_iff.mpr ⟨hfits.items, rfl⟩
  obtain ⟨hunsigned, hsigned⟩ := payload_eq_ok (h.encodeItems_eq hfields)
  have hread := readsAs_items h hfields
  have hsearched (chained : Option IdentitySignature) :
      { record with chained, fallback := false } = { record with chained } := by
    rw [← h.searched]
  unfold ReadsBack
  simp only [hsearched]
  cases hchained : record.chained with
  | none =>
    refine ⟨_, _, hfields, hunsigned hchained, fun preceding verify found => ?_⟩
    rw [hread.decode, returns_pure_iff]
    constructor
    · rintro rfl
      exact ⟨none, .unsigned, rfl⟩
    · rintro ⟨_, ⟨⟩, rfl⟩
      rfl
  | some sig =>
    have hpayload := IdentitySignature.payload_of_indexed (h.indexed sig hchained)
      (hfits.signature sig hchained)
    have hparse := IdentitySignature.parse_payload (h.indexed sig hchained) hpayload
    refine ⟨_, _, hfields, hsigned sig hchained _ hpayload, fun preceding verify found => ?_⟩
    rw [hread.decode_chain hparse, returns_bind_iff]
    simp only [returns_lift_iff, returns_pure_iff, IdentitySignature.verified_eq_ok_iff]
    constructor
    · rintro ⟨_, ⟨valid, hvalid, rfl⟩, rfl⟩
      exact ⟨_, .signed hvalid, rfl⟩
    · rintro ⟨_, ⟨⟩ | ⟨hvalid⟩, rfl⟩
      exact ⟨_, ⟨_, hvalid, rfl⟩, rfl⟩

/-- **Attestations in normal form are read back with the verifier's verdict, and decoding returns no
others**, up to the flag of those found by searching text. So one that it returns is written and
read again with the same fields. -/
theorem decode_canonical :
    (∀ record : AttestationRecord, Normal record → Fits record → ReadsBack ε record) ∧
    ∀ (payload : Bytes) (preceding : List Entry) (verify : Verifier (Except ε))
      (record : AttestationRecord), Returns (decode payload preceding verify) (some record) →
        Normal { record with fallback := false } ∧ (Fits record → ReadsBack ε record) := by
  constructor
  · intro record hnormal hfits
    exact hnormal.readsBack hfits
  · intro payload preceding verify record h
    have hnormal := normal_of_returns h
    refine ⟨hnormal, fun hfits => ?_⟩
    -- What is written does not tell how the record was found.
    have hback : ReadsBack ε { record with fallback := false } :=
      hnormal.readsBack ⟨hfits.items, hfits.signature⟩
    exact hback

/-- A pipe as the key, the largest sequence number, and a signature whose address is a pipe. -/
def pipedRecord : AttestationRecord where
  kind := .attest
  keyOrTxid := "|"
  sequence := some 0xFFFFFFFFFFFFFFFF
  chained := some ⟨"", "|", Chunk.separator, some [2, -1], false⟩

/-- The text `ATTEST a 07`, which is cut short when it is read as pushes. -/
def searchedPayload : Bytes :=
  [0x41, 0x54, 0x54, 0x45, 0x53, 0x54, 0x20, 0x61, 0x20, 0x30, 0x37]

/-- What that text is searched for. -/
def searchedRecord : AttestationRecord where
  kind := .attest
  keyOrTxid := "a"
  sequence := some 7
  fallback := true

/-- Both come back, with pipes all over the one and from text that is no payload for the other. -/
theorem decode_canonical_piped :
    (Normal pipedRecord ∧ Fits pipedRecord ∧ ReadsBack String pipedRecord) ∧
    Returns (decode searchedPayload [] acceptsKey) (some searchedRecord) ∧
    Normal { searchedRecord with fallback := false } ∧ Fits searchedRecord ∧
      ReadsBack String searchedRecord := by
  obtain ⟨hwritten, hread⟩ := decode_canonical (ε := String)
  have hnormal : Normal pipedRecord :=
    ⟨by decide, by decide, by decide, by simpa [pipedRecord] using ⟨by decide, by decide⟩,
      by decide⟩
  have hfits : Fits pipedRecord := ⟨by decide +kernel, by decide +kernel⟩
  have hfits' : Fits searchedRecord := ⟨by decide +kernel, by decide⟩
  have hreturns : Returns (decode searchedPayload [] acceptsKey) (some searchedRecord) := by
    have hfew : (locatedChunks searchedPayload).length < 2 := by decide +kernel
    have hfound : ofTextSearch searchedPayload = some searchedRecord := by decide +kernel
    rw [decode, if_pos hfew, hfound]
    exact returns_pure_iff.mpr rfl
  obtain ⟨hnormal', hback⟩ := hread _ _ _ _ hreturns
  exact ⟨⟨hnormal, hfits, hwritten _ hnormal hfits⟩, hreturns, hnormal', hfits', hback hfits'⟩

end AttestationRecord
end OpReturn
