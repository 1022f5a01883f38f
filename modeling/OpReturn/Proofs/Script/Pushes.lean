import OpReturn.Proofs.Script.Push
import OpReturn.Proofs.Script.Walk
import OpReturn.Proofs.Success

/-!
# Items pushed one after another

The payload of a record is a row of pushes. It parses strictly, into one chunk for each item, and
none of these chunks is a marker (`parseAll_encodePushes`).
-/

namespace OpReturn

theorem encodePush_eq_ok_iff {data s : Bytes} :
    encodePush data = .ok s ↔ data.length ≤ maxPush ∧ s = pushBytes data := by
  unfold encodePush
  split_ifs with h
  · simp [h, pushBytes, eq_comm]
  · simp [h]

theorem encodePushes_eq_ok_iff {items : List Bytes} {s : Bytes} :
    encodePushes items = .ok s ↔
      (∀ item ∈ items, item.length ≤ maxPush) ∧ s = items.flatMap pushBytes := by
  simp only [encodePushes, map_eq_ok_iff, mapM_eq_ok_iff, encodePush_eq_ok_iff]
  constructor
  · rintro ⟨parts, hparts, rfl⟩
    induction hparts with
    | nil => exact ⟨by simp, rfl⟩
    | cons hpart _ ih =>
      obtain ⟨hlen, rfl⟩ := hpart
      exact ⟨List.forall_mem_cons.mpr ⟨hlen, ih.1⟩, by rw [List.flatten_cons, ih.2]; rfl⟩
  · rintro ⟨hlen, rfl⟩
    refine ⟨items.map pushBytes, ?_, rfl⟩
    rw [List.forall₂_map_right_iff, List.forall₂_same]
    exact fun item hmem => ⟨hlen item hmem, rfl⟩

theorem encodeItems_eq_ok_iff {integers : List Int} {items : List Bytes} {s : Bytes} :
    encodeItems integers items = .ok s ↔
      (∀ v ∈ integers, Decimal.isShowable v = true) ∧ encodePushes items = .ok s := by
  unfold encodeItems
  rw [← List.all_eq_true]
  split_ifs with h <;> simp [h]

theorem parseAll_pushBytes {data : Bytes} (h : data.length ≤ maxPush) :
    ∃ chunk, Chunk.parseAll (pushBytes data) = .ok [chunk] ∧ chunk.data = data ∧
      chunk.op ≠ Opcode.opReturn := by
  obtain ⟨op, body, hpush, hread⟩ := read_pushBytes h
  have hstep : Step.read op body = ⟨⟨op, data⟩, (pushBytes data).length, [], none⟩ := by
    simpa using hread []
  refine ⟨⟨op, data⟩, ?_, rfl, ?_⟩
  · rw [hpush, parseAll_cons_iff, hstep]
    exact ⟨rfl, [], parseAll_eq_ok_iff.mpr (by simp), rfl⟩
  · -- A marker has no data, but the push of no data has another opcode.
    rintro rfl
    rw [Step.read_opReturn] at hstep
    obtain rfl : [] = data := congrArg (·.chunk.data) hstep
    have hempty : pushBytes [] = [0x00] := by decide
    exact absurd (List.head_eq_of_cons_eq (hempty.symm.trans hpush)) (by decide)

/-- **A row of pushes parses into one chunk for each item**, none of them a marker. -/
theorem parseAll_encodePushes {items : List Bytes} {s : Bytes} (h : encodePushes items = .ok s) :
    ∃ chunks, Chunk.parseAll s = .ok chunks ∧ chunks.map (·.data) = items ∧
      ∀ chunk ∈ chunks, chunk.op ≠ Opcode.opReturn := by
  obtain ⟨hlen, rfl⟩ := encodePushes_eq_ok_iff.mp h
  clear h
  induction items with
  | nil => exact ⟨[], parseAll_eq_ok_iff.mpr (by simp), rfl, by simp⟩
  | cons item items ih =>
    obtain ⟨hitem, hlen⟩ := List.forall_mem_cons.mp hlen
    obtain ⟨chunk, hchunk, hdata, hop⟩ := parseAll_pushBytes hitem
    obtain ⟨chunks, hchunks, hmap, hops⟩ := ih hlen
    refine ⟨chunk :: chunks, ?_, by rw [List.map_cons, hdata, hmap],
      List.forall_mem_cons.mpr ⟨hop, hops⟩⟩
    rw [List.flatMap_cons]
    exact (parseAll_append_iff hchunk).mpr ⟨chunks, hchunks, rfl⟩

end OpReturn
