import OpReturn.Proofs.Record.Stored

/-!
# Records without signatures, written again

Reading a keyed record or an attachment forgets much of the payload: how its fields were pushed,
bytes that are no text, keys that were set before, fields behind the last one that counts. What is
left is written as a payload of its own, and nothing more is lost on that. The one value that is not
read back as it was written is the character zero, whose byte reads as a space; so it is never read
in the first place (`KeyedRecord.ne_null_of_decode`).

**Theorem (`decode_payload_stable`).** These records are read back from their payloads, and those
that come from any payload are read back as they are.
-/

namespace OpReturn

/-! ## Null values -/

namespace KeyedRecord

/-- No data reads as the character zero: only the byte zero could, and that one reads as a space. -/
theorem valueText_ne_null (data : Bytes) : valueText data ≠ "\x00" := by
  rw [valueText]
  split_ifs with hnull
  · decide
  · intro h
    have hshown : Utf8.decode data = String.ofList ['\x00'] := h
    obtain ⟨rest, hdata, hrest⟩ := Utf8.exists_of_decode_eq_cons (by decide) hshown
    obtain rfl := Utf8.decode_eq_empty_iff.mp hrest
    exact hnull hdata

theorem ne_null_of_mem_pairsOf :
    ∀ fields, ∀ pair ∈ pairsOf [] fields, pair.2 ≠ "\x00"
  | [] | [_] => by simp [pairsOf]
  | key :: value :: fields => by
    rw [pairsOf_cons, List.forall_mem_cons]
    exact ⟨valueText_ne_null value.data, ne_null_of_mem_pairsOf fields⟩

theorem ne_null_of_decode {payload : Bytes} {record : KeyedRecord}
    (h : decode payload = some record) : ∀ pair ∈ record.attributes.pairs, pair.2 ≠ "\x00" := by
  unfold decode at h
  split at h
  · rename_i command fields hparse
    obtain rfl := Option.some.inj h
    intro pair hmem
    obtain ⟨i, hpair, -⟩ := Attributes.mem_ofList_iff.mp hmem
    exact ne_null_of_mem_pairsOf fields pair (List.mem_of_getElem? hpair)
  · cases h

end KeyedRecord

/-! ## Written again -/

theorem KeyedRecord.exists_payload {record : KeyedRecord}
    (hsize : ∀ item ∈ record.items, item.length ≤ maxPush) :
    ∃ payload, record.payload = .ok payload ∧ decode payload = some record.shown := by
  have hpayload : record.payload = .ok (record.items.flatMap pushBytes) :=
    encodePushes_eq_ok_iff.mpr ⟨hsize, rfl⟩
  exact ⟨_, hpayload, decode_payload hpayload⟩

theorem AttachmentRecord.exists_payload {record : AttachmentRecord}
    (hsize : ∀ item ∈ record.items, item.length ≤ maxPush) :
    ∃ payload, record.payload = .ok payload ∧ decode payload = some record := by
  have hpayload : record.payload = .ok (record.items.flatMap pushBytes) :=
    encodePushes_eq_ok_iff.mpr ⟨hsize, rfl⟩
  exact ⟨_, hpayload, decode_payload hpayload⟩

/-- **Keyed records, up to null values, and attachments are read back from their payloads, and what
any payload reads as is read back as it is.** -/
theorem decode_payload_stable :
    (∀ record : KeyedRecord, (∀ item ∈ record.items, item.length ≤ maxPush) →
      ∃ payload, record.payload = .ok payload ∧
        KeyedRecord.decode payload = some record.shown) ∧
    (∀ record : AttachmentRecord, (∀ item ∈ record.items, item.length ≤ maxPush) →
      ∃ payload, record.payload = .ok payload ∧
        AttachmentRecord.decode payload = some record) ∧
    (∀ (payload : Bytes) (record : KeyedRecord), KeyedRecord.decode payload = some record →
      (∀ item ∈ record.items, item.length ≤ maxPush) →
        ∃ payload', record.payload = .ok payload' ∧
          KeyedRecord.decode payload' = some record) ∧
    ∀ (payload : Bytes) (record : AttachmentRecord),
      AttachmentRecord.decode payload = some record →
      (∀ item ∈ record.items, item.length ≤ maxPush) →
        ∃ payload', record.payload = .ok payload' ∧
          AttachmentRecord.decode payload' = some record := by
  refine ⟨fun record hsize => KeyedRecord.exists_payload hsize,
    fun record hsize => AttachmentRecord.exists_payload hsize, ?_,
    fun payload record _ hsize => AttachmentRecord.exists_payload hsize⟩
  intro payload record h hsize
  have hread := KeyedRecord.exists_payload hsize
  rwa [KeyedRecord.shown_eq (KeyedRecord.ne_null_of_decode h)] at hread

/-- A table whose key is no text, in a long push, with a null value, that is set a second time with
an opcode as its value, and with a key that has none. -/
def looseTable : Bytes :=
  [0x01, 0x41, 0x4C, 0x01, 0xFF, 0x01, 0x00, 0x01, 0x62, 0x01, 0x00, 0x01, 0xFE, 0x51, 0x01, 0x63]

/-- What it reads as. -/
def looseTableRecord : KeyedRecord := ⟨"A", [("\uFFFD", ""), ("b", " ")], by decide⟩

/-- An attachment with an empty file name and a field behind it. -/
def looseAttachment : Bytes := [0x4C, 0x01, 0xFF, 0x01, 0xFF, 0x51, 0x00, 0x01, 0x78]

/-- What it reads as. -/
def looseAttachmentRecord : AttachmentRecord := ⟨[0xFF], "\uFFFD", "", some ""⟩

/-- A null value comes back as a space, and both loose payloads read as records that come back. -/
theorem decode_payload_stable_loose :
    (∃ payload, (⟨"", [("a", "\x00")], by decide⟩ : KeyedRecord).payload = .ok payload ∧
      KeyedRecord.decode payload = some ⟨"", [("a", " ")], by decide⟩) ∧
    (∃ payload, (⟨[], "", "", none⟩ : AttachmentRecord).payload = .ok payload ∧
      AttachmentRecord.decode payload = some ⟨[], "", "", none⟩) ∧
    (KeyedRecord.decode looseTable = some looseTableRecord ∧
      ∃ payload, looseTableRecord.payload = .ok payload ∧
        KeyedRecord.decode payload = some looseTableRecord) ∧
    (AttachmentRecord.decode looseAttachment = some looseAttachmentRecord ∧
      ∃ payload, looseAttachmentRecord.payload = .ok payload ∧
        AttachmentRecord.decode payload = some looseAttachmentRecord) := by
  obtain ⟨htable, hattachment, htable', hattachment'⟩ := decode_payload_stable
  have hread : KeyedRecord.decode looseTable = some looseTableRecord := by decide +kernel
  have hread' : AttachmentRecord.decode looseAttachment = some looseAttachmentRecord := by
    decide +kernel
  exact ⟨htable ⟨"", [("a", "\x00")], by decide⟩ (by decide),
    hattachment ⟨[], "", "", none⟩ (by decide),
    ⟨hread, htable' _ _ hread (by decide)⟩, ⟨hread', hattachment' _ _ hread' (by decide)⟩⟩

end OpReturn
