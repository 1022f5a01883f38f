import OpReturn.Proofs.Record.Attributes
import OpReturn.Proofs.Record.Built
import OpReturn.Proofs.Record.Verdict
import OpReturn.Proofs.Text.Utf8

/-!
# Records without signatures

The payload of a keyed record or of an attachment pushes its fields, and reading the payload gives
the record back. In a script the fields are only as safe as the separator is rare: a field that is
the single byte of the separator is pushed as a delimiter is. There the entry ends, and what is left
of the payload starts an entry of its own.

**Theorem (`decode_stored_iff`).** Records of these kinds come back from the script that is built
from them, each as it was, if and only if none of their fields is the separator.

The record that is cut short cannot come back, as a payload with fewer chunks never reads as a
record with so many fields (`length_fields_le`).
-/

namespace OpReturn

variable {ε : Type}

/-! ## Payloads -/

namespace KeyedRecord

/-- What a value reads back as: the character zero is written as a null and reads as a space. -/
def shownValue (value : String) : String := if value = "\x00" then " " else value

/-- The record with what its values read back as. -/
def shown (record : KeyedRecord) : KeyedRecord where
  command := record.command
  attributes :=
    { pairs := record.attributes.pairs.map fun pair => (pair.1, shownValue pair.2)
      nodup := by
        rw [List.map_map]
        exact record.attributes.nodup }

theorem shown_eq {record : KeyedRecord}
    (h : ∀ pair ∈ record.attributes.pairs, pair.2 ≠ "\x00") : record.shown = record := by
  have hpairs : record.attributes.pairs.map (fun pair => (pair.1, shownValue pair.2)) =
      record.attributes.pairs := by
    refine (List.map_congr_left fun pair hmem => ?_).trans (List.map_id _)
    rw [shownValue, if_neg (h pair hmem), id]
  obtain ⟨command, pairs, hnodup⟩ := record
  simp only [shown, hpairs]

theorem valueText_encode (value : String) : valueText (Utf8.encode value) = shownValue value := by
  have hzero : Utf8.encode "\x00" = [0] := by decide
  rw [valueText, shownValue]
  by_cases h : value = "\x00"
  · rw [h, if_pos hzero, if_pos rfl]
  · have hne : Utf8.encode value ≠ [0] := by
      intro heq
      exact h (Utf8.encode_inj (heq.trans hzero.symm))
    rw [if_neg hne, if_neg h, Utf8.decode_encode]

theorem pairsOf_encode {pairs : List (String × String)} {chunks : List Chunk}
    (hdata : chunks.map (·.data) =
      pairs.flatMap fun pair => [Utf8.encode pair.1, Utf8.encode pair.2])
    (acc : List (String × String)) :
    pairsOf acc chunks = acc.reverse ++ pairs.map fun pair => (pair.1, shownValue pair.2) := by
  induction pairs generalizing acc chunks with
  | nil =>
    obtain rfl := List.map_eq_nil_iff.mp hdata
    rw [pairsOf, List.map_nil, List.append_nil]
    simp
  | cons pair pairs ih =>
    obtain ⟨key, chunks, rfl, hkey, hdata⟩ := List.map_eq_cons_iff.mp hdata
    obtain ⟨value, chunks, rfl, hvalue, hdata⟩ := List.map_eq_cons_iff.mp hdata
    rw [pairsOf, ih hdata, hkey, hvalue, Utf8.decode_encode, valueText_encode]
    simp

/-- **The payload of a keyed record reads as that record**, up to null values. -/
theorem decode_payload {record : KeyedRecord} {payload : Bytes} (h : record.payload = .ok payload) :
    decode payload = some record.shown := by
  obtain ⟨chunks, hchunks, hdata, -⟩ := parseAll_encodePushes h
  obtain ⟨command, fields, rfl, hcommand, hdata⟩ := List.map_eq_cons_iff.mp hdata
  rw [decode, hchunks]
  dsimp only
  rw [hcommand, Utf8.decode_encode, pairsOf_encode hdata, List.reverse_nil, List.nil_append]
  exact congrArg some (congrArg (KeyedRecord.mk record.command)
    (Attributes.ofList_pairs record.shown.attributes))

theorem length_items (record : KeyedRecord) :
    record.items.length = 2 * record.attributes.pairs.length + 1 := by
  simp [items, Nat.mul_comm]

theorem length_items_le {payload : Bytes} {record : KeyedRecord}
    (h : decode payload = some record) {chunks : List Chunk}
    (hchunks : Chunk.parseAll payload = .ok chunks) : record.items.length ≤ chunks.length := by
  rw [decode, hchunks] at h
  cases chunks with
  | nil => cases h
  | cons command fields =>
    obtain rfl := Option.some.inj h
    have hset := Attributes.length_ofList_le (pairsOf [] fields)
    rw [length_pairsOf] at hset
    rw [length_items, List.length_cons]
    dsimp only
    omega

end KeyedRecord

namespace AttachmentRecord

/-- **The payload of an attachment reads as that attachment.** -/
theorem decode_payload {record : AttachmentRecord} {payload : Bytes}
    (h : record.payload = .ok payload) : decode payload = some record := by
  obtain ⟨chunks, hchunks, hdata, -⟩ := parseAll_encodePushes h
  obtain ⟨content, chunks, rfl, hcontent, hdata⟩ := List.map_eq_cons_iff.mp hdata
  obtain ⟨mediaType, chunks, rfl, hmediaType, hdata⟩ := List.map_eq_cons_iff.mp hdata
  obtain ⟨encoding, rest, rfl, hencoding, hdata⟩ := List.map_eq_cons_iff.mp hdata
  have hname : rest.head?.map (fun name => Utf8.decode name.data) = record.filename := by
    have hhead := congrArg List.head? hdata
    rw [List.head?_map] at hhead
    cases hfilename : record.filename with
    | none =>
      rw [hfilename] at hhead
      rw [Option.map_eq_none_iff.mp hhead]
      rfl
    | some name =>
      rw [hfilename] at hhead
      obtain ⟨chunk, hchunk, hsame⟩ := Option.map_eq_some_iff.mp hhead
      rw [hchunk, Option.map_some, hsame, Utf8.decode_encode]
  rw [decode, hchunks]
  dsimp only
  rw [hcontent, hmediaType, hencoding, Utf8.decode_encode, Utf8.decode_encode, hname]

theorem length_items_le {payload : Bytes} {record : AttachmentRecord}
    (h : decode payload = some record) {chunks : List Chunk}
    (hchunks : Chunk.parseAll payload = .ok chunks) : record.items.length ≤ chunks.length := by
  rw [decode, hchunks] at h
  rcases chunks with _ | ⟨content, _ | ⟨mediaType, _ | ⟨encoding, rest⟩⟩⟩
  · exact nomatch h
  · exact nomatch h
  · exact nomatch h
  · obtain rfl := Option.some.inj h
    cases rest with
    | nil => simp [items]
    | cons name rest => simp [items]

end AttachmentRecord

/-! ## Records and their entries -/

namespace Record

/-- Records without a signature whose texts can be read back: no value is the character zero. -/
def IsStored : Record → Prop
  | .keyed record => ∀ pair ∈ record.attributes.pairs, pair.2 ≠ "\x00"
  | .attachment _ => True
  | .identity _ | .attestation _ | .detached _ => False

instance : DecidablePred IsStored
  | .keyed record => inferInstanceAs
      (Decidable (∀ pair ∈ record.attributes.pairs, pair.2 ≠ "\x00"))
  | .attachment _ => isTrue trivial
  | .identity _ | .attestation _ | .detached _ => isFalse id

/-- The fields that the payload of such a record pushes. -/
def fields : Record → List Bytes
  | .keyed record => record.items
  | .attachment record => record.items
  | .identity _ | .attestation _ | .detached _ => []

/-- The entry of such a record. -/
def storedEntry (record : Record) : Entry := ⟨record.tag, record.fields.flatMap pushBytes, 0⟩

/-- The record of an entry with one of their tags. -/
def readStored (entry : Entry) : Option Record :=
  if entry.tag = KeyedRecord.tag then (KeyedRecord.decode entry.payload).map .keyed
  else (AttachmentRecord.decode entry.payload).map .attachment

theorem readStored_congr {a b : Entry} (h : a.content = b.content) :
    readStored a = readStored b := by
  obtain ⟨htag, hpayload⟩ := Prod.mk.inj h
  rw [readStored, readStored, htag, hpayload]

theorem tag_of_isStored {record : Record} (h : record.IsStored) :
    record.tag = KeyedRecord.tag ∨ record.tag = AttachmentRecord.tag := by
  cases record with
  | keyed record => exact Or.inl rfl
  | attachment record => exact Or.inr rfl
  | identity sig => exact h.elim
  | attestation record => exact h.elim
  | detached sig => exact h.elim

/-- What an entry with such a tag holds is told by the entry alone. -/
theorem foundAt_stored_iff {setting : Setting} {verify : Verifier (Except ε)} {index : Nat}
    {d : DecodedEntry}
    (htag : d.entry.tag = KeyedRecord.tag ∨ d.entry.tag = AttachmentRecord.tag) :
    FoundAt setting verify index d ↔ d.record = readStored d.entry := by
  have hne : AttachmentRecord.tag ≠ KeyedRecord.tag := by decide
  unfold FoundAt
  rcases htag with htag | htag
  · simp [decode_keyed htag, returns_pure_iff, readStored, htag, eq_comm]
  · simp [decode_attachment htag, returns_pure_iff, readStored, htag, hne, eq_comm]

section Stored

variable {record : Record} (hstored : record.IsStored)
  (hsize : ∀ field ∈ record.fields, field.length ≤ maxPush)

include hstored hsize

theorem payload_of_isStored : record.payload = .ok (record.fields.flatMap pushBytes) := by
  have hpushes := encodePushes_eq_ok_iff.mpr ⟨hsize, rfl⟩
  cases record with
  | keyed record => exact hpushes
  | attachment record => exact hpushes
  | identity sig => exact hstored.elim
  | attestation record => exact hstored.elim
  | detached sig => exact hstored.elim

theorem entry_of_isStored : record.entry = .ok record.storedEntry :=
  map_eq_ok_iff.mpr ⟨_, payload_of_isStored hstored hsize, rfl⟩

theorem readStored_storedEntry : readStored record.storedEntry = some record := by
  have hpayload := payload_of_isStored hstored hsize
  cases record with
  | keyed record =>
    have htag : (keyed record).storedEntry.tag = KeyedRecord.tag := rfl
    rw [readStored, if_pos htag]
    have hread := KeyedRecord.decode_payload hpayload
    rw [KeyedRecord.shown_eq hstored] at hread
    exact congrArg (Option.map keyed) hread
  | attachment record =>
    have htag : (attachment record).storedEntry.tag ≠ KeyedRecord.tag :=
      (by decide : AttachmentRecord.tag ≠ KeyedRecord.tag)
    rw [readStored, if_neg htag]
    exact congrArg (Option.map attachment) (AttachmentRecord.decode_payload hpayload)
  | identity sig => exact hstored.elim
  | attestation record => exact hstored.elim
  | detached sig => exact hstored.elim

end Stored

/-- A payload has at least as many chunks as the record that it reads as has fields. -/
theorem length_fields_le {entry : Entry} {record : Record} (h : readStored entry = some record)
    {chunks : List Chunk} (hchunks : Chunk.parseAll entry.payload = .ok chunks) :
    record.fields.length ≤ chunks.length := by
  unfold readStored at h
  split_ifs at h
  · obtain ⟨keyed, hkeyed, rfl⟩ := Option.map_eq_some_iff.mp h
    exact KeyedRecord.length_items_le hkeyed hchunks
  · obtain ⟨attachment, hattachment, rfl⟩ := Option.map_eq_some_iff.mp h
    exact AttachmentRecord.length_items_le hattachment hchunks

theorem readStored_ne_of_cut {entry : Entry} {record : Record} {xs ys : List Bytes} {field : Bytes}
    (hfields : record.fields = xs ++ field :: ys) (hsize : ∀ field ∈ xs, field.length ≤ maxPush)
    (hpayload : entry.payload = xs.flatMap pushBytes) : readStored entry ≠ some record := by
  intro hread
  obtain ⟨chunks, hchunks, hdata, -⟩ :=
    parseAll_encodePushes (encodePushes_eq_ok_iff.mpr ⟨hsize, rfl⟩)
  have hle := length_fields_le hread (hpayload ▸ hchunks)
  have hfew : chunks.length = xs.length := by rw [← hdata, List.length_map]
  rw [hfields, List.length_append, List.length_cons] at hle
  omega

theorem exists_first_separator {records : List Record}
    (h : ∃ record ∈ records, Chunk.separator ∈ record.fields) :
    ∃ before found after xs ys, records = before ++ found :: after ∧
      (∀ record ∈ before, Chunk.separator ∉ record.fields) ∧
      found.fields = xs ++ Chunk.separator :: ys ∧ Chunk.separator ∉ xs := by
  obtain ⟨found, hfound⟩ : ∃ record, records.find? (Chunk.separator ∈ ·.fields) = some record := by
    rw [← Option.isSome_iff_exists, List.find?_isSome]
    simpa using h
  obtain ⟨hmem, before, after, hrecords, hbefore⟩ := List.find?_eq_some_iff_append.mp hfound
  obtain ⟨xs, ys, hfields, hxs⟩ := List.eq_append_cons_of_mem (of_decide_eq_true hmem)
  exact ⟨before, found, after, xs, ys, hrecords, by simpa using hbefore, hfields, hxs⟩

end Record

/-! ## Scripts of records -/

theorem clear_pushes {fields : List Bytes} (hsize : ∀ field ∈ fields, field.length ≤ maxPush)
    (h : Chunk.separator ∉ fields) : Clear Chunk.isDelimiter (fields.flatMap pushBytes) :=
  (clear_encodePushes (encodePushes_eq_ok_iff.mpr ⟨hsize, rfl⟩) fun _ hmem heq =>
    h (heq ▸ hmem)).isDelimiter

namespace Envelope

section Scripts

variable {lead script : Bytes} {records : List Record} {tx : Option Transaction}
  {outputIndex : Int} {verify : Verifier (Except ε)}

theorem mapM_entry (hstored : ∀ record ∈ records, record.IsStored)
    (hsize : ∀ record ∈ records, ∀ field ∈ record.fields, field.length ≤ maxPush) :
    records.mapM Record.entry = .ok (records.map Record.storedEntry) := by
  rw [mapM_eq_ok_iff, List.forall₂_map_right_iff, List.forall₂_same]
  exact fun record hmem => Record.entry_of_isStored (hstored record hmem) (hsize record hmem)

theorem returns_decode_stored_iff {envelope : Envelope}
    (htags : ∀ entry ∈ envelope.entries,
      entry.tag = KeyedRecord.tag ∨ entry.tag = AttachmentRecord.tag)
    {decoded : List DecodedEntry} :
    Returns (envelope.decode tx outputIndex verify) decoded ↔
      decoded = envelope.entries.map fun entry => ⟨entry, Record.readStored entry⟩ := by
  rw [returns_decode_iff]
  constructor
  · rintro ⟨hmap, hall⟩
    rw [← hmap, List.map_map]
    refine (List.map_id' decoded).symm.trans (List.map_congr_left fun d hd => ?_)
    obtain ⟨i, hi⟩ := List.getElem?_of_mem hd
    have htag := htags d.entry (hmap ▸ List.mem_map_of_mem hd)
    show d = ⟨d.entry, Record.readStored d.entry⟩
    rw [← (Record.foundAt_stored_iff htag).mp (hall i d hi)]
  · rintro rfl
    refine ⟨(List.map_map).trans (List.map_id' _), fun i d hi => ?_⟩
    obtain ⟨entry, hentry, rfl⟩ := List.mem_map.mp (List.mem_of_getElem? hi)
    exact (Record.foundAt_stored_iff (htags entry hentry)).mpr rfl

theorem exists_decode_stored (tx : Option Transaction) (outputIndex : Int)
    (verify : Verifier (Except ε)) (hlead : Clear Chunk.isMarker lead) (hne : records ≠ [])
    (hstored : ∀ record ∈ records, record.IsStored)
    (hsize : ∀ record ∈ records, ∀ field ∈ record.fields, field.length ≤ maxPush)
    (hclear : ∀ record ∈ records, Chunk.separator ∉ record.fields)
    (hbuild : build lead (records.map Record.storedEntry) = .ok script) :
    ∃ envelope decoded, scan script = some envelope ∧ envelope.lead = lead ∧
      Returns (envelope.decode tx outputIndex verify) decoded ∧
        decoded.map (·.record) = records.map some := by
  have hclears : ∀ entry ∈ records.map Record.storedEntry,
      Clear Chunk.isDelimiter entry.payload := by
    rw [List.forall_mem_map]
    exact fun record hmem => clear_pushes (hsize record hmem) (hclear record hmem)
  obtain ⟨envelope, hscan, hsamelead, hcontent⟩ :=
    exists_scan_of_build hlead (by simpa using hne) hclears hbuild
  have htags : ∀ entry ∈ envelope.entries,
      entry.tag = KeyedRecord.tag ∨ entry.tag = AttachmentRecord.tag := by
    intro entry hmem
    have hmem' := List.mem_map_of_mem (f := Entry.content) hmem
    rw [hcontent, List.map_map] at hmem'
    obtain ⟨record, hrecord, hsame⟩ := List.mem_map.mp hmem'
    obtain ⟨htag, -⟩ := Prod.mk.inj hsame
    exact htag ▸ Record.tag_of_isStored (hstored record hrecord)
  refine ⟨_, _, hscan, hsamelead, (returns_decode_stored_iff htags).mpr rfl, ?_⟩
  have hread : envelope.entries.map Record.readStored =
      (records.map Record.storedEntry).map Record.readStored := by
    have hfun : Record.readStored = (fun c => Record.readStored ⟨c.1, c.2, 0⟩) ∘ Entry.content :=
      funext fun entry => Record.readStored_congr rfl
    rw [hfun, ← List.map_map, hcontent, List.map_map]
  rw [List.map_map]
  refine hread.trans ?_
  rw [List.map_map]
  exact List.map_congr_left fun record hmem =>
    Record.readStored_storedEntry (hstored record hmem) (hsize record hmem)

/-- The first record with the separator among its fields does not come back. -/
theorem separator_not_mem_of_decode (hlead : Clear Chunk.isMarker lead)
    (hstored : ∀ record ∈ records, record.IsStored)
    (hsize : ∀ record ∈ records, ∀ field ∈ record.fields, field.length ≤ maxPush)
    (hbuild : build lead (records.map Record.storedEntry) = .ok script) {envelope : Envelope}
    (hscan : scan script = some envelope) {decoded : List DecodedEntry}
    (h : Returns (envelope.decode tx outputIndex verify) decoded)
    (hsame : decoded.map (·.record) = records.map some) :
    ∀ record ∈ records, Chunk.separator ∉ record.fields := by
  by_contra hsome
  push Not at hsome
  obtain ⟨before, found, after, xs, ys, rfl, hbefore, hfields, hxs⟩ :=
    Record.exists_first_separator hsome
  have hxsize : ∀ field ∈ xs, field.length ≤ maxPush := fun field hfield =>
    hsize found (by simp) field (hfields ▸ List.mem_append_left _ hfield)
  -- A reader finds the record cut before the separator.
  let cut : Entry := ⟨found.tag, xs.flatMap pushBytes, 0⟩
  have hpayload : found.storedEntry.payload =
      cut.payload ++ (Chunk.delimiter ++ ys.flatMap pushBytes) := by
    have hpipe : pushBytes Chunk.separator = Chunk.delimiter := by decide
    rw [Record.storedEntry, hfields, List.flatMap_append, List.flatMap_cons, hpipe]
  have hclears : ∀ entry ∈ before.map Record.storedEntry ++ [cut],
      Clear Chunk.isDelimiter entry.payload := by
    rw [List.forall_mem_append, List.forall_mem_map, List.forall_mem_singleton]
    exact ⟨fun record hrecord => clear_pushes (hsize record (by simp [hrecord]))
      (hbefore record hrecord), clear_pushes hxsize hxs⟩
  rw [List.map_append, List.map_cons] at hbuild
  obtain ⟨envelope, later, hscan', hcontent⟩ := exists_scan_cut hlead hclears hpayload rfl hbuild
  obtain rfl := Option.some.inj (hscan'.symm.trans hscan)
  obtain ⟨d, hd, hcut, -, hat⟩ := exists_foundAt hcontent h
  obtain ⟨htag, hcut⟩ := Prod.mk.inj hcut
  have hrecord : d.record = some found := by
    have := congrArg (·[before.length]?) hsame
    rw [List.length_map] at hd
    simpa [hd] using this
  have htags := Record.tag_of_isStored (hstored found (by simp))
  rw [(Record.foundAt_stored_iff (htag ▸ htags)).mp hat] at hrecord
  exact Record.readStored_ne_of_cut hfields hxsize hcut hrecord

/-- **Records come back from the script that is built from them, and build it again, exactly if none
of their fields is the separator.** -/
theorem decode_stored_iff (hlead : Clear Chunk.isMarker lead) (hne : records ≠ [])
    (hstored : ∀ record ∈ records, record.IsStored)
    (hsize : ∀ record ∈ records, ∀ field ∈ record.fields, field.length ≤ maxPush) :
    ∃ entries script envelope, records.mapM Record.entry = .ok entries ∧
      build lead entries = .ok script ∧ scan script = some envelope ∧
      ∀ (tx : Option Transaction) (outputIndex : Int) (verify : Verifier (Except ε)),
        (∃ decoded, Returns (envelope.decode tx outputIndex verify) decoded ∧
          decoded.map (·.record) = records.map some ∧
          ((decoded.filterMap (·.record)).mapM Record.entry >>= build envelope.lead) =
            .ok script) ↔
        ∀ record ∈ records, Chunk.separator ∉ record.fields := by
  have hentries := mapM_entry hstored hsize
  have htags : ∀ entry ∈ records.map Record.storedEntry, entry.tag.length ≤ maxPush := by
    rw [List.forall_mem_map]
    intro record hmem
    have hboth : KeyedRecord.tag.length ≤ maxPush ∧ AttachmentRecord.tag.length ≤ maxPush := by
      decide
    rcases Record.tag_of_isStored (hstored record hmem) with htag | htag
    · exact (congrArg List.length htag).trans_le hboth.1
    · exact (congrArg List.length htag).trans_le hboth.2
  have hbuild := build_eq lead (by simpa using hne) htags
  have hscan := scan_append hlead (joined ((records.map Record.storedEntry).map Entry.encoded))
  refine ⟨_, _, _, hentries, hbuild, hscan, fun tx outputIndex verify => ⟨?_, fun hclear => ?_⟩⟩
  · rintro ⟨decoded, h, hsame, -⟩
    exact separator_not_mem_of_decode hlead hstored hsize hbuild hscan h hsame
  · obtain ⟨envelope, decoded, hscan', -, h, hsame⟩ :=
      exists_decode_stored tx outputIndex verify hlead hne hstored hsize hclear hbuild
    obtain rfl := Option.some.inj (hscan.symm.trans hscan')
    have hrecords : decoded.filterMap (·.record) = records := by
      rw [show decoded.filterMap (·.record) = (decoded.map (·.record)).filterMap id by
        rw [List.filterMap_map]; rfl, hsame, List.filterMap_map]
      exact List.filterMap_some
    refine ⟨decoded, h, hsame, ?_⟩
    rw [hrecords, hentries]
    exact hbuild

end Scripts

/-- A table with pipes inside longer texts and an empty value, and an attachment of a marker. -/
def storedRecords : List Record :=
  [.keyed ⟨"SET", [("a", "b|c"), ("|d", "")], by decide⟩,
    .attachment ⟨[0x6A], "text/plain", "utf-8", some "e"⟩]

/-- These records come back. -/
theorem decode_storedRecords :
    ∃ entries script envelope decoded, storedRecords.mapM Record.entry = .ok entries ∧
      build [0x00] entries = .ok script ∧ scan script = some envelope ∧
      Returns (envelope.decode none 0 acceptsDigests) decoded ∧
      decoded.map (·.record) = storedRecords.map some := by
  have hlead : Clear Chunk.isMarker [0x00] := .cons rfl rfl .nil
  have hne : storedRecords ≠ [] := List.cons_ne_nil _ _
  obtain ⟨entries, script, envelope, hentries, hbuild, hscan, hiff⟩ :=
    decode_stored_iff (ε := String) hlead hne (by decide) (by decide)
  obtain ⟨decoded, hdecoded, hsame, -⟩ := (hiff none 0 acceptsDigests).mpr (by decide)
  exact ⟨entries, script, envelope, decoded, hentries, hbuild, hscan, hdecoded, hsame⟩

/-- A table with the separator as a value. -/
def pipeRecord : Record := .keyed ⟨"SET", [("a", "|")], by decide⟩

/-- Not all records come back: this table does not. -/
theorem decode_pipeRecord :
    ¬ ∀ (lead : Bytes) (records : List Record), Clear Chunk.isMarker lead → records ≠ [] →
      (∀ record ∈ records, record.IsStored) →
      (∀ record ∈ records, ∀ field ∈ record.fields, field.length ≤ maxPush) →
      ∃ entries script envelope decoded, records.mapM Record.entry = .ok entries ∧
        build lead entries = .ok script ∧ scan script = some envelope ∧
        Returns (envelope.decode none 0 acceptsDigests) decoded ∧
        decoded.map (·.record) = records.map some := by
  intro h
  have hstored : ∀ record ∈ [pipeRecord], record.IsStored := by decide
  have hsize : ∀ record ∈ [pipeRecord], ∀ field ∈ record.fields, field.length ≤ maxPush := by
    decide
  obtain ⟨entries, script, envelope, decoded, hentries, hbuild, hscan, hdecoded, hsame⟩ :=
    h [] [pipeRecord] .nil (List.cons_ne_nil _ _) hstored hsize
  obtain rfl := Except.ok.inj (hentries.symm.trans (mapM_entry hstored hsize))
  have hclear := separator_not_mem_of_decode .nil hstored hsize hbuild hscan hdecoded hsame
  exact absurd hclear (by decide)

end Envelope

end OpReturn
