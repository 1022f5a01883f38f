import OpReturn.Text.Blank
import OpReturn.Transaction.Basic

/-!
# Reading transactions

The bytes are read strictly and, when that fails, once more leniently: then an integer takes what
is left if at least one byte is, and an output's script may be short. What was read is accepted
only if it is written as exactly the bytes it was read from (`Transaction.ofBytes`), so neither
trailing bytes nor long forms of a number pass.
-/

namespace OpReturn

/-- Why nothing was read. -/
inductive TxFault where
  /-- The bytes ended. -/
  | ended
  /-- A script's length is beyond what a length can be. -/
  | lengthOverflow
deriving DecidableEq, Repr

/-- A reader of what is left of the bytes: a value and what is left after it. -/
abbrev TxReader (α : Type) := StateT Bytes (Except TxFault) α

namespace TxReader

/-- The next `size` bytes. -/
def take (size : Nat) : TxReader Bytes := fun s =>
  let field := s.take size
  if field.length < size then .error .ended else .ok (field, s.drop size)

/-- An integer of `width` bytes. -/
def integer (mode : Mode) (width : Nat) : TxReader Nat := fun s =>
  let field := s.take width
  let enough : Bool := match mode with
    | .strict => width ≤ field.length
    | .lenient => 0 < field.length
  if enough then .ok (Bytes.toNatLE field, s.drop width) else .error .ended

/-- A variable-length integer, of any of its forms. -/
def varint (mode : Mode) : TxReader Nat := do
  let first ← integer mode 1
  match Varint.width? (UInt8.ofNat first) with
  | none => return first
  | some width => integer mode width

/-- The length of a script. -/
def scriptLength (mode : Mode) : TxReader Nat := do
  let size ← varint mode
  if mode = .lenient ∧ 0x8000000000000000 ≤ size then throw .lengthOverflow
  return size

/-- An input. -/
def input (mode : Mode) : TxReader TxInput := do
  let id ← take 32
  let vout ← integer mode 4
  let scriptSig ← take (← scriptLength mode)
  let sequence ← integer mode 4
  return ⟨Hex.encode id.reverse, vout, scriptSig, sequence⟩

/-- An output. -/
def output (mode : Mode) : TxReader TxOutput := do
  let satoshis ← integer mode 8
  let size ← scriptLength mode
  let script ← match mode with
    | .strict => take size
    | .lenient => fun s => .ok (s.take size, s.drop size)
  return ⟨satoshis, script⟩

/-- `count` values, after those in `acc`, last first. The fuel is the number of bytes left, as
every value takes at least one. -/
def manyFrom {α : Type} (item : TxReader α) : (fuel : Nat) → (count : Nat) → (acc : List α) →
    TxReader (List α)
  | _, 0, acc => return acc.reverse
  | 0, _ + 1, _ => throw .ended
  | fuel + 1, count + 1, acc => do manyFrom item fuel count ((← item) :: acc)

/-- `count` values, each of at least one byte. -/
def many {α : Type} (item : TxReader α) (count : Nat) : TxReader (List α) := fun s =>
  manyFrom item (s.length + 1) count [] s

/-- A transaction. -/
def transaction (mode : Mode) : TxReader Transaction := do
  let version ← integer mode 4
  let inputs ← many (input mode) (← varint mode)
  let outputs ← many (output mode) (← varint mode)
  let locktime ← integer mode 4
  return ⟨inputs, outputs, version, locktime⟩

end TxReader

namespace Transaction

/-- Why bytes are no transaction. -/
inductive DecodeError where
  | hex (e : Hex.DecodeError)
  | nothingRead
  | unwritable (e : SerializeError)
  | notCanonical
  | lengthOverflow
deriving DecidableEq, Repr

/-- What went wrong, in words. -/
def DecodeError.message : DecodeError → String
  | .hex e => e.message
  | .nothingRead => "Transaction could not be deserialized: no transaction read"
  | .unwritable e => "Transaction could not be deserialized: " ++ e.message
  | .notCanonical => "Transaction is truncated or has trailing data"
  | .lengthOverflow => "cannot fit 'int' into an index-sized integer"

/-- The transaction at the front of some bytes, read strictly or else leniently. -/
def readFront (raw : Bytes) : Except TxFault Transaction :=
  match TxReader.transaction .strict raw with
  | .ok (tx, _) => .ok tx
  | .error _ => (TxReader.transaction .lenient raw).map (·.1)

/-- The transaction that some bytes are the serialization of. -/
def ofBytes (raw : Bytes) : Except DecodeError Transaction :=
  match readFront raw with
  | .error .ended => .error .nothingRead
  | .error .lengthOverflow => .error .lengthOverflow
  | .ok tx =>
    match tx.serialize with
    | .error e => .error (.unwritable e)
    | .ok written => if written = raw then .ok tx else .error .notCanonical

/-- The transaction of a hexadecimal text, with white space around it. -/
def ofHex (text : String) : Except DecodeError Transaction :=
  match Hex.decode (Blank.trim text) with
  | .error e => .error (.hex e)
  | .ok raw => ofBytes raw

end Transaction
end OpReturn
