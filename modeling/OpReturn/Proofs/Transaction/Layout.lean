import OpReturn.Proofs.Success
import OpReturn.Proofs.Text.Hex
import OpReturn.Proofs.Transaction.Reading

/-!
# How transactions are laid out

A transaction is laid out in bytes if it is written as them up to the forms of its counts and
lengths (`LaidOut`). That is what a reader reads it from, its ids in lower case: reading knows a
transaction id by its bytes alone (`ReadAs`). One lemma for each part, `reads_input`, `reads_output`
and `reads_transaction`, says so for both modes, and which bytes a lenient reader overflows on
(`Transaction.Overflows`).
-/

namespace OpReturn

open TxReader

/-! ## Ids in lower case -/

/-- The input with its transaction id in lower case. -/
def TxInput.lowered (input : TxInput) : TxInput := { input with txid := input.txid.toLower }

/-- The transaction with the ids of its inputs in lower case. -/
def Transaction.lowered (tx : Transaction) : Transaction :=
  { tx with inputs := tx.inputs.map TxInput.lowered }

theorem length_toLower (text : String) : text.toLower.length = text.length := by
  rw [← String.length_toList, ← String.length_toList, Hex.toList_toLower, List.length_map]

/-! ## Fields -/

theorem field32_eq_ok_iff {n : Int} {e : SerializeError} {field : Bytes} :
    field32 n e = .ok field ↔ fits32 n = true ∧ field = Bytes.ofNatLE 4 n.toNat := by
  unfold field32
  split_ifs with h <;> simp [h, eq_comm]

theorem fits32_iff {n : Int} : fits32 n = true ↔ ∃ k : Nat, n = k ∧ k < Bytes.room 4 := by
  have hroom : Bytes.room 4 = 0x100000000 := rfl
  rw [fits32, Bool.and_eq_true, decide_eq_true_iff, decide_eq_true_iff, hroom]
  constructor
  · rintro ⟨hpos, hlt⟩
    exact ⟨n.toNat, by omega, by omega⟩
  · rintro ⟨k, rfl, hk⟩
    omega

theorem exists_of_field32 {n : Int} {e : SerializeError} {field : Bytes}
    (h : field32 n e = .ok field) :
    ∃ k : Nat, n = k ∧ k < Bytes.room 4 ∧ field = Bytes.ofNatLE 4 k := by
  obtain ⟨hfits, rfl⟩ := field32_eq_ok_iff.mp h
  obtain ⟨k, rfl, hk⟩ := fits32_iff.mp hfits
  exact ⟨k, rfl, hk, rfl⟩

theorem field32_natCast {k : Nat} {e : SerializeError} (h : k < Bytes.room 4) :
    field32 k e = .ok (Bytes.ofNatLE 4 k) :=
  field32_eq_ok_iff.mpr ⟨fits32_iff.mpr ⟨k, rfl, h⟩, rfl⟩

theorem countField_eq_ok_iff {n : Nat} {field : Bytes} :
    countField n = .ok field ↔ n < 0x10000000000000000 ∧ field = Varint.encode n := by
  unfold countField
  split_ifs with h <;> simp [h, eq_comm]

/-- An id has a field if, up to the case of its digits, it is the text of the field's bytes, the
last of them first. -/
theorem txidField_eq_ok_iff {txid : String} {field : Bytes} :
    txidField txid = .ok field ↔
      field.length = 32 ∧ (∀ c ∈ txid.toList, (Hex.digit? c).isSome) ∧
        Hex.encode field.reverse = txid.toLower := by
  have hwritten : txid.length = 64 → (∀ c ∈ txid.toList, (Hex.digit? c).isSome) →
      ∃ id, txidField txid = .ok id.reverse ∧ id.length = 32 ∧ Hex.encode id = txid.toLower := by
    intro hlen hdigits
    obtain ⟨id, hdecode, hid, hencode⟩ := Hex.exists_decode_of_digits (n := 32) hlen hdigits
    refine ⟨id, ?_, hid, hencode⟩
    have hall : txid.length = 64 ∧ txid.toList.all (fun c => (Hex.digit? c).isSome) :=
      ⟨hlen, List.all_eq_true.mpr hdigits⟩
    rw [txidField, if_pos hall, hdecode]
  constructor
  · intro h
    have hall : txid.length = 64 ∧ txid.toList.all (fun c => (Hex.digit? c).isSome) := by
      by_contra hnot
      rw [txidField, if_neg hnot] at h
      exact nomatch h
    have hdigits := List.all_eq_true.mp hall.2
    obtain ⟨id, hok, hid, hencode⟩ := hwritten hall.1 hdigits
    obtain rfl := Except.ok.inj (hok.symm.trans h)
    exact ⟨by rw [List.length_reverse, hid], hdigits, by rw [List.reverse_reverse, hencode]⟩
  · rintro ⟨hlen, hdigits, hencode⟩
    have htext : txid.length = 64 := by
      rw [← length_toLower, ← hencode, Hex.length_encode, List.length_reverse, hlen]
    obtain ⟨id, hok, -, hid⟩ := hwritten htext hdigits
    rw [hok, Hex.encode_inj.mp (hid.trans hencode.symm), List.reverse_reverse]

theorem txidField_toLower {txid : String} {field : Bytes} (h : txidField txid = .ok field) :
    txidField txid.toLower = .ok field := by
  obtain ⟨hlen, -, hencode⟩ := txidField_eq_ok_iff.mp h
  refine txidField_eq_ok_iff.mpr ⟨hlen, fun c hc => ?_, ?_⟩
  · rw [← hencode] at hc
    exact Hex.isSome_of_mem_encode hc
  · rw [← hencode, Hex.toLower_encode]

theorem txidField_encode {id : Bytes} (h : id.length = 32) :
    txidField (Hex.encode id.reverse) = .ok id :=
  txidField_eq_ok_iff.mpr ⟨h, fun _ hc => Hex.isSome_of_mem_encode hc, (Hex.toLower_encode _).symm⟩

/-! ## Inputs and outputs -/

theorem scriptField_eq_ok_iff {script field : Bytes} :
    scriptField script = .ok field ↔ script.length < 0x10000000000000000 ∧
      field = Varint.encode script.length ++ script := by
  simp only [scriptField, map_eq_ok_iff, countField_eq_ok_iff]
  constructor
  · rintro ⟨_, ⟨hlen, rfl⟩, rfl⟩
    exact ⟨hlen, rfl⟩
  · rintro ⟨hlen, rfl⟩
    exact ⟨_, ⟨hlen, rfl⟩, rfl⟩

theorem TxInput.serialize_eq_ok_iff {input : TxInput} {s : Bytes} :
    input.serialize = .ok s ↔ ∃ id vout sequence,
      txidField input.txid = .ok id ∧ field32 input.vout .vout = .ok vout ∧
      input.scriptSig.length < 0x10000000000000000 ∧ sequenceField input.sequence = .ok sequence ∧
      s = id ++ vout ++ (Varint.encode input.scriptSig.length ++ input.scriptSig) ++ sequence := by
  simp only [serialize, bind_eq_ok_iff, scriptField_eq_ok_iff]
  constructor
  · rintro ⟨id, hid, vout, hvout, _, ⟨hlen, rfl⟩, sequence, hsequence, hpure⟩
    exact ⟨id, vout, sequence, hid, hvout, hlen, hsequence, (Except.ok.inj hpure).symm⟩
  · rintro ⟨id, vout, sequence, hid, hvout, hlen, hsequence, rfl⟩
    exact ⟨id, hid, vout, hvout, _, ⟨hlen, rfl⟩, sequence, hsequence, rfl⟩

theorem TxInput.serialize_lowered {input : TxInput} {s : Bytes} (h : input.serialize = .ok s) :
    input.lowered.serialize = .ok s := by
  obtain ⟨id, vout, sequence, hid, hrest⟩ := serialize_eq_ok_iff.mp h
  exact serialize_eq_ok_iff.mpr ⟨id, vout, sequence, txidField_toLower hid, hrest⟩

/-- The input is laid out in the bytes, its script behind its length in any form. -/
def TxInput.LaidOut (input : TxInput) (s : Bytes) : Prop :=
  ∃ id vout length sequence, txidField input.txid = .ok id ∧ field32 input.vout .vout = .ok vout ∧
    VarintForm input.scriptSig.length length ∧ sequenceField input.sequence = .ok sequence ∧
    s = id ++ vout ++ (length ++ input.scriptSig) ++ sequence

theorem TxInput.laidOut_of_serialize {input : TxInput} {s : Bytes} (h : input.serialize = .ok s) :
    input.LaidOut s := by
  obtain ⟨id, vout, sequence, hid, hvout, hlen, hsequence, rfl⟩ := serialize_eq_ok_iff.mp h
  exact ⟨id, vout, _, sequence, hid, hvout, varintForm_encode hlen, hsequence, rfl⟩

/-- The input is read from the bytes: a reader knows the id in lower case and, leniently, no script
that no index can count. -/
def TxInput.ReadAs (mode : Mode) (input : TxInput) (s : Bytes) : Prop :=
  input.LaidOut s ∧ input.lowered = input ∧ (mode = .lenient → input.scriptSig.length < lengthLimit)

theorem TxInput.LaidOut.readAs_lowered {mode : Mode} {input : TxInput} {s : Bytes}
    (h : input.LaidOut s) (hsmall : mode = .lenient → s.length < lengthLimit) :
    input.lowered.ReadAs mode s := by
  obtain ⟨id, vout, length, sequence, hid, hvout, hlength, hsequence, rfl⟩ := h
  obtain ⟨-, -, hencode⟩ := txidField_eq_ok_iff.mp hid
  refine ⟨⟨id, vout, length, sequence, txidField_toLower hid, hvout, hlength, hsequence, rfl⟩, ?_,
    fun hmode => Nat.lt_of_le_of_lt ?_ (hsmall hmode)⟩
  · rw [lowered, lowered, ← hencode, Hex.toLower_encode]
  · simp only [lowered, List.length_append]
    omega

/-- The bytes begin as an input whose script is too long. -/
def HugeInput (s : Bytes) : Prop :=
  ∃ id vout rest : Bytes, id.length = 32 ∧ vout.length = 4 ∧ HugeLength rest ∧
    s = id ++ vout ++ rest

theorem reads_input {mode : Mode} :
    TxReader.Reads mode (TxInput.ReadAs mode) (fun s => mode = .lenient ∧ HugeInput s)
      (input mode) := by
  have hfour : 0 < 4 := by decide
  refine ((reads_take 32).bind fun id => (reads_integer hfour).bind fun vout =>
    reads_scriptLength.bind fun size => (reads_take size).bind fun script =>
    (reads_integer hfour).bind fun sequence => reads_pure _).congr ?_ ?_
  · intro txin s
    constructor
    · rintro ⟨id, _, _, ⟨rfl, hid⟩, ⟨v, _, _, ⟨hv, rfl⟩, ⟨_, length, _, ⟨hlength, hsmall⟩,
        ⟨script, _, _, ⟨rfl, rfl⟩, ⟨q, _, _, ⟨hq, rfl⟩, ⟨rfl, rfl⟩, rfl⟩, rfl⟩, rfl⟩, rfl⟩, rfl⟩
      refine ⟨⟨id, _, length, _, txidField_encode hid, field32_natCast hv, hlength,
        field32_natCast hq, ?_⟩, ?_, hsmall⟩
      · simp only [List.append_assoc, List.append_nil]
      · rw [TxInput.lowered, Hex.toLower_encode]
    · rintro ⟨⟨id, _, length, _, hid, hvout, hlength, hsequence, rfl⟩, hlowered, hsmall⟩
      obtain ⟨hidlen, -, hencode⟩ := txidField_eq_ok_iff.mp hid
      obtain ⟨v, hv, hvroom, rfl⟩ := exists_of_field32 hvout
      obtain ⟨q, hq, hqroom, rfl⟩ := exists_of_field32 hsequence
      have hvalue : txin = ⟨Hex.encode id.reverse, v, txin.scriptSig, q⟩ := by
        rw [hencode, ← hv, ← hq]
        exact hlowered.symm
      refine ⟨id, _, _, ⟨rfl, hidlen⟩, ⟨v, _, _, ⟨hvroom, rfl⟩, ⟨_, length, _, ⟨hlength, hsmall⟩,
        ⟨_, _, _, ⟨rfl, rfl⟩, ⟨q, _, [], ⟨hqroom, rfl⟩, ⟨hvalue, rfl⟩, rfl⟩, rfl⟩, rfl⟩, rfl⟩, ?_⟩
      simp only [List.append_assoc, List.append_nil]
  · intro s
    simp only [false_or, or_false, and_false, false_and, exists_false]
    constructor
    · rintro ⟨id, _, _, ⟨rfl, hid⟩, ⟨v, _, rest, ⟨hv, rfl⟩, ⟨hmode, hrest⟩, rfl⟩, rfl⟩
      exact ⟨hmode, id, _, rest, hid, Bytes.length_ofNatLE 4 v, hrest,
        (List.append_assoc ..).symm⟩
    · rintro ⟨hmode, id, vout, rest, hid, hvout, hrest, rfl⟩
      obtain ⟨v, hv, rfl⟩ := exists_ofNatLE hvout
      exact ⟨id, _, _, ⟨rfl, hid⟩, ⟨v, _, rest, ⟨hv, rfl⟩, ⟨hmode, hrest⟩, rfl⟩,
        List.append_assoc ..⟩

theorem TxOutput.serialize_eq_ok_iff {output : TxOutput} {s : Bytes} :
    output.serialize = .ok s ↔ ∃ k : Nat, output.satoshis = k ∧ k < Bytes.room 8 ∧
      output.script.length < 0x10000000000000000 ∧
      s = Bytes.ofNatLE 8 k ++ (Varint.encode output.script.length ++ output.script) := by
  have hroom : Bytes.room 8 = 0x10000000000000000 := rfl
  unfold serialize
  split_ifs with hneg hlarge
  · simp only [false_iff]
    rintro ⟨k, hk, -⟩
    omega
  · simp only [false_iff]
    rintro ⟨k, hk, hlt, -⟩
    omega
  · simp only [map_eq_ok_iff, scriptField_eq_ok_iff]
    constructor
    · rintro ⟨_, ⟨hlen, rfl⟩, rfl⟩
      exact ⟨output.satoshis.toNat, by omega, by omega, hlen, rfl⟩
    · rintro ⟨k, hk, -, hlen, rfl⟩
      exact ⟨_, ⟨hlen, rfl⟩, by rw [hk, Int.toNat_natCast]⟩

/-- The output is laid out in the bytes, its script behind its length in any form. -/
def TxOutput.LaidOut (output : TxOutput) (s : Bytes) : Prop :=
  ∃ (k : Nat) (length : Bytes), output.satoshis = k ∧ k < Bytes.room 8 ∧
    VarintForm output.script.length length ∧ s = Bytes.ofNatLE 8 k ++ (length ++ output.script)

theorem TxOutput.laidOut_of_serialize {output : TxOutput} {s : Bytes}
    (h : output.serialize = .ok s) : output.LaidOut s := by
  obtain ⟨k, hk, hroom, hlen, rfl⟩ := serialize_eq_ok_iff.mp h
  exact ⟨k, _, hk, hroom, varintForm_encode hlen, rfl⟩

/-- The output is read from the bytes: a reader knows, leniently, no script that no index can
count. -/
def TxOutput.ReadAs (mode : Mode) (output : TxOutput) (s : Bytes) : Prop :=
  output.LaidOut s ∧ (mode = .lenient → output.script.length < lengthLimit)

theorem TxOutput.LaidOut.readAs {mode : Mode} {output : TxOutput} {s : Bytes}
    (h : output.LaidOut s) (hsmall : mode = .lenient → s.length < lengthLimit) :
    output.ReadAs mode s := by
  obtain ⟨k, length, hk, hroom, hlength, rfl⟩ := h
  refine ⟨⟨k, length, hk, hroom, hlength, rfl⟩, fun hmode => Nat.lt_of_le_of_lt ?_ (hsmall hmode)⟩
  simp only [List.length_append]
  omega

/-- The bytes begin as an output whose script is too long. -/
def HugeOutput (s : Bytes) : Prop :=
  ∃ satoshis rest : Bytes, satoshis.length = 8 ∧ HugeLength rest ∧ s = satoshis ++ rest

theorem output_eq {mode : Mode} :
    output mode = do
      let satoshis ← integer mode 8
      let size ← scriptLength mode
      let script ← upTo mode size
      return ⟨satoshis, script⟩ := by
  cases mode <;> rfl

theorem reads_output {mode : Mode} :
    TxReader.Reads mode (TxOutput.ReadAs mode) (fun s => mode = .lenient ∧ HugeOutput s)
      (output mode) := by
  have hwidth : 0 < 8 := by decide
  rw [output_eq]
  refine ((reads_integer hwidth).bind fun satoshis => reads_scriptLength.bind fun size =>
    (reads_upTo size).bind fun script => reads_pure _).congr ?_ ?_
  · intro txout s
    constructor
    · rintro ⟨k, _, _, ⟨hk, rfl⟩, ⟨_, length, _, ⟨hlength, hsmall⟩, ⟨script, _, _, ⟨rfl, rfl⟩,
        ⟨rfl, rfl⟩, rfl⟩, rfl⟩, rfl⟩
      rw [List.append_nil]
      exact ⟨⟨k, length, rfl, hk, hlength, rfl⟩, hsmall⟩
    · rintro ⟨⟨k, length, hk, hroom, hlength, rfl⟩, hsmall⟩
      have hvalue : txout = ⟨k, txout.script⟩ := by rw [← hk]
      exact ⟨k, _, _, ⟨hroom, rfl⟩, ⟨_, length, _, ⟨hlength, hsmall⟩, ⟨_, _, [], ⟨rfl, rfl⟩,
        ⟨hvalue, rfl⟩, (List.append_nil _).symm⟩, rfl⟩, rfl⟩
  · intro s
    simp only [false_or, or_false, and_false, false_and, exists_false]
    constructor
    · rintro ⟨k, _, rest, ⟨hk, rfl⟩, ⟨hmode, hrest⟩, rfl⟩
      exact ⟨hmode, _, rest, Bytes.length_ofNatLE 8 k, hrest, rfl⟩
    · rintro ⟨hmode, satoshis, rest, hlen, hrest, rfl⟩
      obtain ⟨k, hk, rfl⟩ := exists_ofNatLE hlen
      exact ⟨k, _, rest, ⟨hk, rfl⟩, ⟨hmode, hrest⟩, rfl⟩

theorem forall₂_of_length_flatten {α : Type} {R R' : α → Bytes → Prop} {P : Prop} {n : Nat}
    {values : List α} {parts : List Bytes} (h : List.Forall₂ R values parts)
    (himp : ∀ a s, R a s → (P → s.length < n) → R' a s) (hlen : P → parts.flatten.length < n) :
    List.Forall₂ R' values parts := by
  induction h with
  | nil => exact .nil
  | cons hfirst _ ih =>
    simp only [List.flatten_cons, List.length_append] at hlen
    exact .cons (himp _ _ hfirst fun hP => Nat.lt_of_le_of_lt (by omega) (hlen hP))
      (ih fun hP => Nat.lt_of_le_of_lt (by omega) (hlen hP))

/-! ## Transactions -/

namespace Transaction

theorem serialize_eq_ok_iff {tx : Transaction} {s : Bytes} :
    tx.serialize = .ok s ↔ ∃ version locktime inputs outputs,
      (∀ input ∈ tx.inputs, fits32 input.vout = true) ∧
      headerField .version tx.version = .ok version ∧
      headerField .locktime tx.locktime = .ok locktime ∧
      tx.inputs.length < 0x10000000000000000 ∧
      List.Forall₂ (fun input s => input.serialize = .ok s) tx.inputs inputs ∧
      tx.outputs.length < 0x10000000000000000 ∧
      List.Forall₂ (fun output s => output.serialize = .ok s) tx.outputs outputs ∧
      s = version ++ Varint.encode tx.inputs.length ++ inputs.flatten ++
        Varint.encode tx.outputs.length ++ outputs.flatten ++ locktime := by
  have hcheck : (!tx.inputs.all (fun input => fits32 input.vout)) = true ↔
      ¬ ∀ input ∈ tx.inputs, fits32 input.vout = true := by
    simp
  unfold serialize
  by_cases hfits : ∀ input ∈ tx.inputs, fits32 input.vout = true
  · simp only [hcheck, if_neg (not_not.mpr hfits), bind_eq_ok_iff, countField_eq_ok_iff,
      mapM_eq_ok_iff]
    constructor
    · rintro ⟨version, hversion, locktime, hlocktime, _, ⟨hin, rfl⟩, inputs, hinputs, _,
        ⟨hout, rfl⟩, outputs, houtputs, hpure⟩
      exact ⟨version, locktime, inputs, outputs, hfits, hversion, hlocktime, hin, hinputs, hout,
        houtputs, (Except.ok.inj hpure).symm⟩
    · rintro ⟨version, locktime, inputs, outputs, -, hversion, hlocktime, hin, hinputs, hout,
        houtputs, rfl⟩
      exact ⟨version, hversion, locktime, hlocktime, _, ⟨hin, rfl⟩, inputs, hinputs, _,
        ⟨hout, rfl⟩, outputs, houtputs, rfl⟩
  · simp only [hcheck, if_pos hfits]
    constructor
    · intro h
      exact nomatch h
    · rintro ⟨_, _, _, _, hall, -⟩
      exact absurd hall hfits

theorem serialize_lowered {tx : Transaction} {s : Bytes} (h : tx.serialize = .ok s) :
    tx.lowered.serialize = .ok s := by
  obtain ⟨version, locktime, inputs, outputs, hfits, hversion, hlocktime, hin, hinputs, houts⟩ :=
    serialize_eq_ok_iff.mp h
  have hlen : tx.lowered.inputs.length = tx.inputs.length := List.length_map _
  refine serialize_eq_ok_iff.mpr ⟨version, locktime, inputs, outputs, ?_, hversion, hlocktime, ?_,
    ?_, ?_⟩
  · exact List.forall_mem_map.mpr hfits
  · rwa [hlen]
  · exact List.forall₂_map_left_iff.mpr (hinputs.imp fun _ _ => TxInput.serialize_lowered)
  · rwa [hlen]

/-- The transaction is laid out in the bytes, every count and length in any form. -/
def LaidOut (tx : Transaction) (s : Bytes) : Prop :=
  ∃ version locktime inputCount outputCount inputs outputs,
    headerField .version tx.version = .ok version ∧
    headerField .locktime tx.locktime = .ok locktime ∧
    VarintForm tx.inputs.length inputCount ∧ List.Forall₂ TxInput.LaidOut tx.inputs inputs ∧
    VarintForm tx.outputs.length outputCount ∧ List.Forall₂ TxOutput.LaidOut tx.outputs outputs ∧
    s = version ++ inputCount ++ inputs.flatten ++ outputCount ++ outputs.flatten ++ locktime

theorem laidOut_of_serialize {tx : Transaction} {s : Bytes} (h : tx.serialize = .ok s) :
    tx.LaidOut s := by
  obtain ⟨version, locktime, inputs, outputs, -, hversion, hlocktime, hin, hinputs, hout, houtputs,
    rfl⟩ := serialize_eq_ok_iff.mp h
  exact ⟨version, locktime, _, _, inputs, outputs, hversion, hlocktime, varintForm_encode hin,
    hinputs.imp fun _ _ => TxInput.laidOut_of_serialize, varintForm_encode hout,
    houtputs.imp fun _ _ => TxOutput.laidOut_of_serialize, rfl⟩

/-- The transaction is read from the bytes, each of its parts as a reader knows it. -/
def ReadAs (mode : Mode) (tx : Transaction) (s : Bytes) : Prop :=
  ∃ version locktime inputCount outputCount inputs outputs,
    headerField .version tx.version = .ok version ∧
    headerField .locktime tx.locktime = .ok locktime ∧
    VarintForm tx.inputs.length inputCount ∧
    List.Forall₂ (TxInput.ReadAs mode) tx.inputs inputs ∧
    VarintForm tx.outputs.length outputCount ∧
    List.Forall₂ (TxOutput.ReadAs mode) tx.outputs outputs ∧
    s = version ++ inputCount ++ inputs.flatten ++ outputCount ++ outputs.flatten ++ locktime

theorem ReadAs.laidOut {mode : Mode} {tx : Transaction} {s : Bytes} (h : tx.ReadAs mode s) :
    tx.LaidOut s := by
  obtain ⟨version, locktime, inputCount, outputCount, inputs, outputs, hversion, hlocktime, hin,
    hinputs, hout, houtputs, rfl⟩ := h
  exact ⟨version, locktime, inputCount, outputCount, inputs, outputs, hversion, hlocktime, hin,
    hinputs.imp fun _ _ h => h.1, hout, houtputs.imp fun _ _ h => h.1, rfl⟩

theorem LaidOut.readAs_lowered {mode : Mode} {tx : Transaction} {s : Bytes} (h : tx.LaidOut s)
    (hsmall : mode = .lenient → s.length < lengthLimit) : tx.lowered.ReadAs mode s := by
  obtain ⟨version, locktime, inputCount, outputCount, inputs, outputs, hversion, hlocktime, hin,
    hinputs, hout, houtputs, rfl⟩ := h
  simp only [List.length_append] at hsmall
  have hread := forall₂_of_length_flatten hinputs (fun _ _ => TxInput.LaidOut.readAs_lowered)
    fun hmode => Nat.lt_of_le_of_lt (by omega) (hsmall hmode)
  have hread' := forall₂_of_length_flatten houtputs (fun _ _ => TxOutput.LaidOut.readAs)
    fun hmode => Nat.lt_of_le_of_lt (by omega) (hsmall hmode)
  refine ⟨version, locktime, inputCount, outputCount, inputs, outputs, hversion, hlocktime, ?_,
    List.forall₂_map_left_iff.mpr hread, hout, hread', rfl⟩
  rwa [lowered, List.length_map]

/-- The bytes begin as a transaction, up to a script that is too long: that of an input, or that of
an output after all the inputs. -/
inductive Overflows : Bytes → Prop
  | input {version inputCount rest : Bytes} {n : Nat} {inputs : List TxInput} {parts : List Bytes}
      (hversion : version.length = 4) (hcount : VarintForm n inputCount)
      (hinputs : List.Forall₂ (TxInput.ReadAs .lenient) inputs parts) (hmore : inputs.length < n)
      (hrest : HugeInput rest) :
      Overflows (version ++ (inputCount ++ (parts.flatten ++ rest)))
  | output {version inputCount outputCount rest : Bytes} {n : Nat} {inputs : List TxInput}
      {outputs : List TxOutput} {parts parts' : List Bytes} (hversion : version.length = 4)
      (hin : VarintForm inputs.length inputCount)
      (hinputs : List.Forall₂ (TxInput.ReadAs .lenient) inputs parts)
      (hcount : VarintForm n outputCount)
      (houtputs : List.Forall₂ (TxOutput.ReadAs .lenient) outputs parts')
      (hmore : outputs.length < n) (hrest : HugeOutput rest) :
      Overflows (version ++
        (inputCount ++ (parts.flatten ++ (outputCount ++ (parts'.flatten ++ rest)))))

/-- **What a reader reads as a transaction, and what it overflows on.** -/
theorem reads_transaction {mode : Mode} :
    TxReader.Reads mode (ReadAs mode) (fun s => mode = .lenient ∧ Overflows s)
      (transaction mode) := by
  have hfour : 0 < 4 := by decide
  have hnoInput : input mode [] = .error .ended := by cases mode <;> rfl
  have hnoOutput : output mode [] = .error .ended := by cases mode <;> rfl
  refine ((reads_integer hfour).bind fun version =>
    reads_varint.bind fun inputCount =>
    (reads_many reads_input hnoInput inputCount).bind fun inputs =>
    reads_varint.bind fun outputCount =>
    (reads_many reads_output hnoOutput outputCount).bind fun outputs =>
    (reads_integer hfour).bind fun locktime => reads_pure _).congr ?_ ?_
  · intro tx s
    constructor
    · rintro ⟨v, _, _, ⟨hv, rfl⟩, ⟨_, inputCount, _, hin, ⟨inputs, _, _, ⟨parts, rfl, hinputs, rfl⟩,
        ⟨_, outputCount, _, hout, ⟨outputs, _, _, ⟨parts', rfl, houtputs, rfl⟩,
        ⟨l, _, _, ⟨hl, rfl⟩, ⟨rfl, rfl⟩, rfl⟩, rfl⟩, rfl⟩, rfl⟩, rfl⟩, rfl⟩
      refine ⟨_, _, inputCount, outputCount, parts, parts', field32_natCast hv, field32_natCast hl,
        hin, hinputs, hout, houtputs, ?_⟩
      simp only [List.append_assoc, List.append_nil]
    · rintro ⟨_, _, inputCount, outputCount, parts, parts', hversion, hlocktime, hin, hinputs, hout,
        houtputs, rfl⟩
      obtain ⟨v, hv, hvroom, rfl⟩ := exists_of_field32 hversion
      obtain ⟨l, hl, hlroom, rfl⟩ := exists_of_field32 hlocktime
      have hvalue : tx = ⟨tx.inputs, tx.outputs, v, l⟩ := by rw [← hv, ← hl]
      refine ⟨v, _, _, ⟨hvroom, rfl⟩, ⟨_, inputCount, _, hin, ⟨_, _, _, ⟨parts, rfl, hinputs, rfl⟩,
        ⟨_, outputCount, _, hout, ⟨_, _, _, ⟨parts', rfl, houtputs, rfl⟩,
        ⟨l, _, [], ⟨hlroom, rfl⟩, ⟨hvalue, rfl⟩, rfl⟩, rfl⟩, rfl⟩, rfl⟩, rfl⟩, ?_⟩
      simp only [List.append_assoc, List.append_nil]
  · intro s
    simp only [false_or, or_false, and_false, false_and, exists_false]
    constructor
    · rintro ⟨v, _, _, ⟨hv, rfl⟩, ⟨n, inputCount, _, hcount,
        ⟨inputs, parts, rest, hmore, hinputs, ⟨rfl, hrest⟩, rfl⟩ |
        ⟨inputs, _, _, ⟨parts, rfl, hinputs, rfl⟩, ⟨m, outputCount, _, hcount',
          ⟨outputs, parts', rest, hmore, houtputs, ⟨rfl, hrest⟩, rfl⟩, rfl⟩, rfl⟩, rfl⟩, rfl⟩
      · exact ⟨rfl, .input (Bytes.length_ofNatLE 4 v) hcount hinputs hmore hrest⟩
      · exact ⟨rfl, .output (Bytes.length_ofNatLE 4 v) hcount hinputs hcount' houtputs hmore hrest⟩
    · rintro ⟨rfl, hs⟩
      cases hs with
      | input hversion hcount hinputs hmore hrest =>
        obtain ⟨v, hv, rfl⟩ := exists_ofNatLE hversion
        exact ⟨v, _, _, ⟨hv, rfl⟩, ⟨_, _, _, hcount, .inl ⟨_, _, _, hmore, hinputs, ⟨rfl, hrest⟩,
          rfl⟩, rfl⟩, rfl⟩
      | output hversion hin hinputs hcount houtputs hmore hrest =>
        obtain ⟨v, hv, rfl⟩ := exists_ofNatLE hversion
        exact ⟨v, _, _, ⟨hv, rfl⟩, ⟨_, _, _, hin, .inr ⟨_, _, _, ⟨_, rfl, hinputs, rfl⟩,
          ⟨_, _, _, hcount, ⟨_, _, _, hmore, houtputs, ⟨rfl, hrest⟩, rfl⟩, rfl⟩, rfl⟩, rfl⟩, rfl⟩

/-- **The strict reader takes a transaction that is laid out in the bytes.** -/
theorem takes_transaction {tx : Transaction} {s : Bytes} (h : tx.LaidOut s) :
    Takes (transaction .strict) s tx.lowered :=
  reads_transaction.takes (h.readAs_lowered nofun)

end Transaction

end OpReturn
