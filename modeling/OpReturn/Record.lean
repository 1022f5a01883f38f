import OpReturn.Record.Attachment
import OpReturn.Record.Attestation
import OpReturn.Record.Detached
import OpReturn.Record.Keyed

/-!
# Records

The five kinds of record that an entry can hold. The tag of an entry decides which kind its
payload is read as; an entry with another tag, or with a payload that does not read as its kind,
holds no record.

* `Record.decode`: the record of one entry of an envelope.
* `Envelope.decode`: the records of all its entries, with a count of the detached signatures.
-/

namespace OpReturn

/-- What an entry holds. -/
inductive Record where
  | keyed (record : KeyedRecord)
  | attachment (record : AttachmentRecord)
  | identity (sig : IdentitySignature)
  | attestation (record : AttestationRecord)
  | detached (sig : DetachedSignature)
deriving DecidableEq, Repr

namespace Record

/-- The tag of entries that hold such a record. -/
def tag : Record → Bytes
  | .keyed _ => KeyedRecord.tag
  | .attachment _ => AttachmentRecord.tag
  | .identity _ => IdentitySignature.tag
  | .attestation _ => AttestationRecord.tag
  | .detached _ => DetachedSignature.tag

/-- The payload of a record. -/
def payload : Record → Except WriteError Bytes
  | .keyed record => record.payload
  | .attachment record => record.payload
  | .identity sig => sig.payload
  | .attestation record => record.payload
  | .detached sig => sig.payload

/-- The entry that holds a record. -/
def entry (record : Record) : Except WriteError Entry :=
  record.payload.map fun payload => ⟨record.tag, payload, 0⟩

/-- Where an entry stands: in an envelope, which may stand in an output of a transaction. -/
structure Setting where
  entries : List Entry
  transaction : Option Transaction := none
  outputIndex : Int := 0

/-- The detached signature of a payload that `instances` entries with the tag of detached
signatures stand before; within a transaction it is placed and gets the verdict there. -/
def decodeDetached {m : Type → Type} [Monad m] (setting : Setting) (verify : Verifier m)
    (instances : Nat) (payload : Bytes) : Decoding m (Option DetachedSignature) := do
  match ← DetachedSignature.decode payload verify with
  | none => return none
  | some sig =>
    match setting.transaction with
    | none => return some sig
    | some tx => do
      let sig ← sig.placed tx setting.outputIndex instances verify
      return some sig

/-- The record of the entry with the given index, and the number of entries with the tag of
detached signatures up to and with it, readable or not, if there are `instances` before it. -/
def decode {m : Type → Type} [Monad m] (setting : Setting) (verify : Verifier m)
    (index instances : Nat) (entry : Entry) : Decoding m (Option Record × Nat) :=
  if entry.tag = KeyedRecord.tag then
    return ((KeyedRecord.decode entry.payload).map .keyed, instances)
  else if entry.tag = AttachmentRecord.tag then
    return ((AttachmentRecord.decode entry.payload).map .attachment, instances)
  else if entry.tag = IdentitySignature.tag then do
    let sig ← IdentitySignature.decode entry.payload (setting.entries.take index) verify
    return (sig.map .identity, instances)
  else if entry.tag = AttestationRecord.tag then do
    let record ← AttestationRecord.decode entry.payload (setting.entries.take index) verify
    return (record.map .attestation, instances)
  else if entry.tag = DetachedSignature.tag then do
    let sig ← decodeDetached setting verify instances entry.payload
    return (sig.map .detached, instances + 1)
  else return (none, instances)

end Record

/-- An entry with the record that it holds, if any. -/
structure DecodedEntry where
  entry : Entry
  record : Option Record
deriving DecidableEq, Repr

/-- The entries with their records, after those in `acc`, last first. The first of them has the
given index, and `instances` entries with the tag of detached signatures stand before it. -/
def DecodedEntry.decodeFrom {m : Type → Type} [Monad m] (setting : Record.Setting)
    (verify : Verifier m) (index instances : Nat) (acc : List DecodedEntry) :
    List Entry → Decoding m (List DecodedEntry)
  | [] => return acc.reverse
  | entry :: entries => do
    let (record, instances) ← Record.decode setting verify index instances entry
    decodeFrom setting verify (index + 1) instances (⟨entry, record⟩ :: acc) entries

/-- The entries of an envelope with their records, in order. The transaction is the one that the
envelope stands in and the index that of its output. -/
def Envelope.decode {m : Type → Type} [Monad m] (envelope : Envelope) (tx : Option Transaction)
    (outputIndex : Int) (verify : Verifier m) : Decoding m (List DecodedEntry) :=
  DecodedEntry.decodeFrom ⟨envelope.entries, tx, outputIndex⟩ verify 0 0 [] envelope.entries

end OpReturn
