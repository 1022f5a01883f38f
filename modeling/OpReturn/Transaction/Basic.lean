import OpReturn.Hash.Sha256
import OpReturn.Text.Hex

/-!
# Transactions

A transaction as signature checks see it. Its numbers are plain integers; writing one out checks
that each fits its field (`Transaction.serialize`), and so does writing the outpoint of an input
(`TxInput.outpoint`).
-/

namespace OpReturn

/-- An input: the output it spends, by transaction id and index, and how it is unlocked. -/
structure TxInput where
  txid : String
  vout : Int
  scriptSig : Bytes := []
  sequence : Int := 0xFFFFFFFF
deriving DecidableEq, Repr

/-- An output. -/
structure TxOutput where
  satoshis : Int
  script : Bytes
deriving DecidableEq, Repr

/-- A transaction. -/
structure Transaction where
  inputs : List TxInput := []
  outputs : List TxOutput := []
  version : Int := 1
  locktime : Int := 0
deriving DecidableEq, Repr

/-! ## Outpoints -/

/-- Why an outpoint has no serialization. -/
inductive OutpointError where
  | txid (e : Hex.DecodeError)
  /-- The index needs more than four bytes. -/
  | tooLarge
  /-- The index is negative or needs more than eight bytes. -/
  | outOfRange
deriving DecidableEq, Repr

/-- What went wrong, in words. -/
def OutpointError.message : OutpointError → String
  | .txid e => e.message
  | .tooLarge => "'I' format requires 0 <= number <= 4294967295"
  | .outOfRange => "argument out of range"

/-- The outpoint of an input: the bytes of the transaction id, last first, and the index in four
bytes. The id is taken at any length. -/
def TxInput.outpoint (input : TxInput) : Except OutpointError Bytes :=
  match Hex.decode input.txid with
  | .error e => .error (.txid e)
  | .ok id =>
    if input.vout < 0 ∨ 0x10000000000000000 ≤ input.vout then .error .outOfRange
    else if 0x100000000 ≤ input.vout then .error .tooLarge
    else .ok (id.reverse ++ Bytes.ofNatLE 4 input.vout.toNat)

/-! ## Serialization -/

/-- A number of a transaction that belongs to none of its inputs and outputs. -/
inductive HeaderField where
  | version
  | locktime
deriving DecidableEq, Repr

/-- The name of a field. -/
def HeaderField.text : HeaderField → String
  | .version => "version"
  | .locktime => "locktime"

/-- Why a transaction has no serialization. -/
inductive SerializeError where
  | vout
  | negative (field : HeaderField)
  | tooLarge (field : HeaderField)
  | txid
  | negativeSequence
  | sequence
  /-- The sequence number needs more than eight bytes. -/
  | sequenceOutOfRange
  | negativeSatoshis
  | satoshisTooLarge
  /-- A count or a length needs more than eight bytes. -/
  | tooLong
deriving DecidableEq, Repr

/-- What went wrong, in words. -/
def SerializeError.message : SerializeError → String
  | .vout => "source_output_index must be a uint32"
  | .negative field => "can't convert negative int to unsigned (" ++ field.text ++ ")"
  | .tooLarge field => field.text ++ " does not fit in uint32"
  | .txid => "source_txid must be exactly 64 hex characters"
  | .negativeSequence => "can't convert negative value to unsigned int"
  | .sequence => "sequence does not fit in uint32"
  | .sequenceOutOfRange => "Python int too large to convert to C unsigned long"
  | .negativeSatoshis => "can't convert negative int to unsigned"
  | .satoshisTooLarge | .tooLong => "int too big to convert"

/-- Does the number fit in four bytes? -/
def fits32 (n : Int) : Bool := 0 ≤ n && n < 0x100000000

/-- The four bytes of a number, or the given error. -/
def field32 (n : Int) (e : SerializeError) : Except SerializeError Bytes :=
  if fits32 n then .ok (Bytes.ofNatLE 4 n.toNat) else .error e

/-- The four bytes of a field of the transaction itself. -/
def headerField (field : HeaderField) (n : Int) : Except SerializeError Bytes :=
  field32 n (if n < 0 then .negative field else .tooLarge field)

/-- The four bytes of a sequence number. -/
def sequenceField (n : Int) : Except SerializeError Bytes :=
  field32 n (if n < 0 then .negativeSequence
    else if 0x10000000000000000 ≤ n then .sequenceOutOfRange else .sequence)

/-- The bytes of a transaction id, last first. The id is 64 digits and nothing else. -/
def txidField (txid : String) : Except SerializeError Bytes :=
  if txid.length = 64 ∧ txid.toList.all (fun c => (Hex.digit? c).isSome) then
    match Hex.decode txid with
    | .ok id => .ok id.reverse
    | .error _ => .error .txid
  else .error .txid

/-- A count or a length, in the shortest form that holds it. -/
def countField (n : Nat) : Except SerializeError Bytes :=
  if n < 0x10000000000000000 then .ok (Varint.encode n) else .error .tooLong

/-- A script behind its length. -/
def scriptField (script : Bytes) : Except SerializeError Bytes :=
  (countField script.length).map (· ++ script)

/-- The bytes of an input. -/
def TxInput.serialize (input : TxInput) : Except SerializeError Bytes := do
  let id ← txidField input.txid
  let vout ← field32 input.vout .vout
  let scriptSig ← scriptField input.scriptSig
  let sequence ← sequenceField input.sequence
  return id ++ vout ++ scriptSig ++ sequence

/-- The bytes of an output. -/
def TxOutput.serialize (output : TxOutput) : Except SerializeError Bytes :=
  if output.satoshis < 0 then .error .negativeSatoshis
  else if 0x10000000000000000 ≤ output.satoshis then .error .satoshisTooLarge
  else (scriptField output.script).map (Bytes.ofNatLE 8 output.satoshis.toNat ++ ·)

namespace Transaction

/-- The bytes of a transaction. The indexes of all inputs are checked first, then the version and
the lock time. -/
def serialize (tx : Transaction) : Except SerializeError Bytes := do
  if !tx.inputs.all (fun input => fits32 input.vout) then throw .vout
  let version ← headerField .version tx.version
  let locktime ← headerField .locktime tx.locktime
  let inputCount ← countField tx.inputs.length
  let inputs ← tx.inputs.mapM TxInput.serialize
  let outputCount ← countField tx.outputs.length
  let outputs ← tx.outputs.mapM TxOutput.serialize
  return version ++ inputCount ++ inputs.flatten ++ outputCount ++ outputs.flatten ++ locktime

/-- The transaction id: the double digest of the bytes, last byte first, in hexadecimal. -/
def txid (tx : Transaction) : Except SerializeError String :=
  tx.serialize.map fun raw => Hex.encode (sha256d raw).reverse

end Transaction
end OpReturn
