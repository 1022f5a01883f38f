import OpReturn.Proofs.Transaction.RoundTrip
import OpReturn.Record.Detached

/-!
# Outpoints that can be written

The digest of a bound signature needs the outpoint of an input. A transaction may be built with
inputs that have none, but what was read from bytes has only inputs that can be written, and
their outpoints are parts of those bytes.

* `TxInput.WellFormed`: an id of sixty-four digits and an index of four bytes.
* `TxInput.eq_of_outpoint_eq`: an outpoint tells the bytes of the id and the index.
* `wellFormed_of_ofBytes`: every input of a transaction that was read is well-formed.
* `exists_messageHash`: the digests of a transaction with well-formed inputs never fail.
-/

namespace OpReturn

/-- The id is sixty-four hexadecimal digits and the index fits in four bytes. -/
structure TxInput.WellFormed (input : TxInput) : Prop where
  length : input.txid.length = 64
  digits : ∀ c ∈ input.txid.toList, (Hex.digit? c).isSome
  vout : fits32 input.vout = true

/-- Every input of the transaction is well-formed. -/
def Transaction.WellFormed (tx : Transaction) : Prop := ∀ input ∈ tx.inputs, input.WellFormed

namespace TxInput

/-- An outpoint is the id, last byte first, and four bytes of the index. -/
theorem outpoint_eq_ok_iff {input : TxInput} {s : Bytes} : input.outpoint = .ok s ↔
    ∃ id, Hex.decode input.txid = .ok id ∧ fits32 input.vout = true ∧
      s = id.reverse ++ Bytes.ofNatLE 4 input.vout.toNat := by
  unfold outpoint
  cases Hex.decode input.txid with
  | error e => simp
  | ok id =>
    dsimp only
    split_ifs with hout hlarge
    · have hnot : ¬ fits32 input.vout = true := by simp [fits32]; omega
      simp [hnot]
    · have hnot : ¬ fits32 input.vout = true := by simp [fits32]; omega
      simp [hnot]
    · have hfits : fits32 input.vout = true := by simp [fits32]; omega
      simp [hfits, eq_comm]

/-- **An outpoint tells the bytes of the id and the index**, of ids of any length. -/
theorem eq_of_outpoint_eq {input input' : TxInput} {s : Bytes} (h : input.outpoint = .ok s)
    (h' : input'.outpoint = .ok s) :
    Hex.decode input.txid = Hex.decode input'.txid ∧ input.vout = input'.vout := by
  obtain ⟨id, hid, hvout, rfl⟩ := outpoint_eq_ok_iff.mp h
  obtain ⟨id', hid', hvout', hsame⟩ := outpoint_eq_ok_iff.mp h'
  obtain ⟨k, hk, hroom⟩ := fits32_iff.mp hvout
  obtain ⟨k', hk', hroom'⟩ := fits32_iff.mp hvout'
  obtain ⟨hids, hindexes⟩ := List.append_inj' hsame (by simp)
  rw [hk, hk', Int.toNat_natCast, Int.toNat_natCast] at hindexes
  have hindex : k = k' := by
    rw [← Bytes.toNatLE_ofNatLE hroom, hindexes, Bytes.toNatLE_ofNatLE hroom']
  rw [hid, hid', List.reverse_inj.mp hids, hk, hk', hindex]
  exact ⟨rfl, rfl⟩

theorem WellFormed.exists_outpoint {input : TxInput} (h : input.WellFormed) :
    ∃ s, input.outpoint = .ok s := by
  obtain ⟨id, hid, -, -⟩ := Hex.exists_decode_of_digits (n := 32) h.length h.digits
  exact ⟨_, outpoint_eq_ok_iff.mpr ⟨id, hid, h.vout, rfl⟩⟩

theorem wellFormed_of_serialize {input : TxInput} {s : Bytes} (h : input.serialize = .ok s) :
    input.WellFormed := by
  obtain ⟨id, vout, sequence, hid, hvout, -⟩ := serialize_eq_ok_iff.mp h
  obtain ⟨hlen, hdigits, hencode⟩ := txidField_eq_ok_iff.mp hid
  refine ⟨?_, hdigits, (field32_eq_ok_iff.mp hvout).1⟩
  rw [← length_toLower, ← hencode, Hex.length_encode, List.length_reverse, hlen]

end TxInput

namespace Transaction

theorem wellFormed_of_serialize {tx : Transaction} {raw : Bytes} (h : tx.serialize = .ok raw) :
    tx.WellFormed := by
  obtain ⟨_, _, inputs, _, _, _, _, _, hinputs, -⟩ := serialize_eq_ok_iff.mp h
  intro input hmem
  obtain ⟨s, -, hs⟩ := exists_of_forall₂ hinputs hmem
  exact TxInput.wellFormed_of_serialize hs

/-- **What was read from bytes has well-formed inputs.** -/
theorem wellFormed_of_ofBytes {tx : Transaction} {raw : Bytes} (h : ofBytes raw = .ok tx) :
    tx.WellFormed :=
  wellFormed_of_serialize (ofBytes_eq_ok_iff.mp h).2

end Transaction

/-! ## Digests -/

theorem mem_of_atIndex? {α : Type} {items : List α} {index : Int} {item : α}
    (h : atIndex? items index = some item) : item ∈ items := by
  unfold atIndex? at h
  split_ifs at h
  exact List.mem_of_getElem? h

theorem mem_of_boundInput? {tx : Transaction} {inputIndex outputIndex : Int} {input : TxInput}
    (h : boundInput? tx inputIndex outputIndex = some input) : input ∈ tx.inputs := by
  obtain h | ⟨-, h⟩ := Option.or_eq_some_iff.mp h
  · exact mem_of_atIndex? h
  · exact mem_of_atIndex? h

theorem exists_inputHash {tx : Transaction} (htx : tx.WellFormed) (inputIndex outputIndex : Int) :
    ∃ hash, inputHash tx inputIndex outputIndex = .ok hash := by
  unfold inputHash
  cases hbound : boundInput? tx inputIndex outputIndex with
  | none => exact ⟨none, rfl⟩
  | some input =>
    obtain ⟨outpoint, hout⟩ := (htx input (mem_of_boundInput? hbound)).exists_outpoint
    exact ⟨some (sha256 outpoint), by simp only [hout, Except.map]⟩

/-- The digest of a bound signature never fails, though it may be none. -/
theorem exists_messageHash {tx : Transaction} (htx : tx.WellFormed)
    (outputIndex instanceIndex inputIndex : Int) :
    ∃ digest, messageHash tx outputIndex instanceIndex inputIndex = .ok digest := by
  unfold messageHash
  cases atIndex? tx.outputs outputIndex with
  | none => exact ⟨none, rfl⟩
  | some output =>
    obtain ⟨hash, hhash⟩ := exists_inputHash htx inputIndex outputIndex
    exact ⟨_, by rw [hhash]; rfl⟩

end OpReturn
