import OpReturn.Record.Identity

/-!
# Detached signatures

A detached signature covers either a message that it carries or the transaction it stands in. Its
payload pushes the algorithm, the address, the signature, and then the message with an optional
nonce, or the index of an input.

A signature bound to a transaction covers a digest of two parts: the outpoint of an input, and the
script of its own output up to the marker or delimiter before its tag.

* `DetachedSignature.parse`: the unverified record of a payload.
* `dataHash`, `inputHash`, `messageHash`: the digest of a bound signature.
* `DetachedSignature.verify`: the verdict of a verifier.
* `DetachedSignature.ofTransaction`: all signatures of a transaction.
* `DetachedSignature.sign`: signs an output.
-/

namespace OpReturn

/-- A detached signature. An input index outside the transaction falls back to the output index.
`instanceIndex` numbers the signatures of one output. -/
structure DetachedSignature where
  algorithm : String
  address : String
  signature : Bytes
  message : Option String := none
  nonce : Option String := none
  inputIndex : Int := 0
  outputIndex : Int := 0
  instanceIndex : Int := 0
  valid : Bool := false
deriving DecidableEq, Repr

namespace DetachedSignature

/-- The tag of detached signatures. -/
def tag : Bytes := Utf8.encode "SIGMA"

/-- The algorithms whose signatures can be valid. -/
def supportedAlgorithms : List String := ["BSM", "ECDSA", "SHA256-ECDSA"]

/-- The items that the payload of a signature pushes. -/
def items (sig : DetachedSignature) : List Bytes :=
  [Utf8.encode sig.algorithm, Utf8.encode sig.address, sig.signature] ++
    match sig.message with
    | some message => Utf8.encode message :: (sig.nonce.map Utf8.encode).toList
    | none => [Decimal.ofInt sig.inputIndex]

/-- The input index that is pushed. -/
def integers (sig : DetachedSignature) : List Int :=
  if sig.message.isSome then [] else [sig.inputIndex]

/-- The payload of a signature. -/
def payload (sig : DetachedSignature) : Except WriteError Bytes :=
  encodeItems sig.integers sig.items

/-! ## Parsing -/

/-- Up to `limit` chunks from the front of a payload; fewer if it is cut short. -/
def frontChunks (limit : Nat) (payload : Bytes) : List Chunk :=
  (((walk payload).take limit).takeWhile fun located => located.2.cut.isNone).map (·.2.chunk)

/-- An algorithm without a length byte that some signers push inside. -/
def unwrapAlgorithm (data : Bytes) : Bytes :=
  match data with
  | 0x03 :: b :: s => b :: s
  | data => data

/-- An address without the quotes that some signers push inside. -/
def unwrapAddress (data : Bytes) : Bytes :=
  match data with
  | 0x22 :: b :: s => (b :: s).dropLast
  | data => data

/-- The unverified signature of a payload; `none` if fewer than three fields can be read. The
fourth field is an input index if it is a single digit, else a message unless it is empty; the
fifth is the nonce of a message. -/
def parse (payload : Bytes) : Option DetachedSignature :=
  match frontChunks 5 payload with
  | algorithm :: address :: signature :: fields =>
    let sig : DetachedSignature :=
      { algorithm := Utf8.decode (unwrapAlgorithm algorithm.data)
        address := Utf8.decode (unwrapAddress address.data)
        signature := signature.data }
    match fields with
    | [] => some sig
    | field :: rest =>
      match field.data with
      | [] => some sig
      | [b] =>
        if Decimal.isDigit b then some { sig with inputIndex := (Decimal.value [b] : Nat) }
        else some { sig with
          message := some (Utf8.decode [b])
          nonce := rest.head?.map fun nonce => Utf8.decode nonce.data }
      | data => some { sig with
          message := some (Utf8.decode data)
          nonce := rest.head?.map fun nonce => Utf8.decode nonce.data }
  | _ => none

end DetachedSignature

/-! ## The signed digest -/

/-- Goes through the steps of a script, and after a marker or a delimiter looks at the step that
follows it as one that may carry the tag. The `n`-th of those that do, counting on from `seen`,
ends the covered part at its marker; if there is none, or a cut comes first, the whole script is
covered. -/
def coveredFrom (script : Bytes) (n : Int) (seen : Nat) : List (Nat × Step) → Bytes
  | [] => script
  | (offset, marker) :: steps =>
    if marker.cut.isSome then script
    else if marker.chunk.op = Opcode.opReturn ∨ marker.chunk.isDelimiter then
      match steps with
      | [] => script
      | (_, following) :: steps =>
        if following.cut.isSome then script
        else if following.chunk.data = DetachedSignature.tag then
          if (seen : Int) = n then script.take offset else coveredFrom script n (seen + 1) steps
        else coveredFrom script n seen steps
    else coveredFrom script n seen steps

/-- The part of a script that the signature with the given number covers. -/
def covered (script : Bytes) (instanceIndex : Int) : Bytes :=
  coveredFrom script instanceIndex 0 (walk script)

/-- The digest of the part of a script that the signature with the given number covers. -/
def dataHash (script : Bytes) (instanceIndex : Int) : Bytes := sha256 (covered script instanceIndex)

/-- The member of a list with an integer index. -/
def atIndex? {α : Type} (items : List α) (index : Int) : Option α :=
  if index < 0 then none else items[index.toNat]?

/-- The input that a signature is bound to: the one with the input index, or else the one with the
output index. -/
def boundInput? (tx : Transaction) (inputIndex outputIndex : Int) : Option TxInput :=
  (atIndex? tx.inputs inputIndex).or (atIndex? tx.inputs outputIndex)

/-- The digest of the outpoint of the input that a signature is bound to. -/
def inputHash (tx : Transaction) (inputIndex outputIndex : Int) :
    Except OutpointError (Option Bytes) :=
  match boundInput? tx inputIndex outputIndex with
  | none => .ok none
  | some input => input.outpoint.map fun outpoint => some (sha256 outpoint)

/-- The digest that a signature bound to a transaction covers; `none` if the transaction lacks the
output or the input. -/
def messageHash (tx : Transaction) (outputIndex instanceIndex inputIndex : Int) :
    Except OutpointError (Option Bytes) :=
  match atIndex? tx.outputs outputIndex with
  | none => .ok none
  | some output => (inputHash tx inputIndex outputIndex).map fun hash =>
      hash.map fun hash => sha256d (hash ++ dataHash output.script instanceIndex)

namespace DetachedSignature

/-! ## Verifying -/

/-- The verdict of a verifier over a message, if the algorithm is supported. -/
def verifyBytes {m : Type → Type} [Monad m] (sig : DetachedSignature) (message : Bytes)
    (verify : Verifier m) : m Bool :=
  if supportedAlgorithms.contains sig.algorithm then verify sig.address sig.signature message
  else return false

/-- Is the signature valid, over its message or else in its transaction? -/
def verify {m : Type → Type} [Monad m] (sig : DetachedSignature) (tx : Option Transaction)
    (outputIndex instanceIndex : Int) (verify : Verifier m) : Decoding m Bool :=
  match sig.message, tx with
  | some message, _ => (sig.verifyBytes (Utf8.encode message) verify : m Bool)
  | none, none => return false
  | none, some tx =>
    match messageHash tx outputIndex instanceIndex sig.inputIndex with
    | .error e => throw (.outpoint e)
    | .ok none => return false
    | .ok (some digest) => (sig.verifyBytes digest verify : m Bool)

/-- The signature of a payload. One over a message gets its verdict; one bound to a transaction
stays unverified. -/
def decode {m : Type → Type} [Monad m] (payload : Bytes) (verify : Verifier m) :
    Decoding m (Option DetachedSignature) :=
  match parse payload with
  | none => return none
  | some sig =>
    match sig.message with
    | none => return some sig
    | some message => do
      let valid ← (sig.verifyBytes (Utf8.encode message) verify : m Bool)
      return some { sig with valid }

/-- The signature with its place in a transaction and the verdict there. -/
def placed {m : Type → Type} [Monad m] (sig : DetachedSignature) (tx : Transaction)
    (outputIndex instanceIndex : Int) (verify : Verifier m) : Decoding m DetachedSignature := do
  let valid ← sig.verify (some tx) outputIndex instanceIndex verify
  return { sig with outputIndex, instanceIndex, valid }

/-- The signature of one entry of an output, placed. -/
def ofEntry {m : Type → Type} [Monad m] (tx : Transaction) (outputIndex instanceIndex : Nat)
    (entry : Entry) (verify : Verifier m) : Decoding m (Option DetachedSignature) := do
  match ← decode entry.payload verify with
  | none => return none
  | some sig => return some (← sig.placed tx outputIndex instanceIndex verify)

/-- All signatures of one output, placed. -/
def ofOutput {m : Type → Type} [Monad m] (tx : Transaction) (outputIndex : Nat)
    (output : TxOutput) (verify : Verifier m) : Decoding m (List DetachedSignature) :=
  match Envelope.scan output.script with
  | none => return []
  | some envelope => do
    let found ← (envelope.find tag).zipIdx.mapM fun numbered =>
      ofEntry tx outputIndex numbered.2 numbered.1 verify
    return found.filterMap id

/-- All signatures of the outputs of a transaction, placed. -/
def ofTransaction {m : Type → Type} [Monad m] (tx : Transaction) (verify : Verifier m) :
    Decoding m (List DetachedSignature) := do
  let found ← tx.outputs.zipIdx.mapM fun numbered => ofOutput tx numbered.2 numbered.1 verify
  return found.flatten

/-! ## Signing -/

/-- Why an output cannot be signed. -/
inductive SignError where
  | outpoint (e : OutpointError)
  | unbound (outputIndex : Int)
  | address (e : Address.KeyError)
  | message (e : SignedMessage.SignError)
deriving DecidableEq, Repr

/-- What went wrong, in words. -/
def SignError.text : SignError → String
  | .outpoint e => e.message
  | .unbound outputIndex =>
    if Decimal.isShowable outputIndex then
      "Transaction has no input/output pair for output " ++ toString outputIndex
    else Decimal.tooLongToShow
  | .address e => e.message
  | .message e => e.message

/-- Signs an output as it is, bound to an input, with a secret key given in bytes. The record is
meant to be appended to the envelope of that output. -/
def sign (tx : Transaction) (outputIndex : Int) (key : Bytes) (inputIndex instanceIndex : Int)
    (algorithm : String) : Except SignError DetachedSignature :=
  match messageHash tx outputIndex instanceIndex inputIndex with
  | .error e => .error (.outpoint e)
  | .ok none => .error (.unbound outputIndex)
  | .ok (some digest) =>
    match Address.ofSecretKey false true key with
    | .error e => .error (.address e)
    | .ok address =>
      match SignedMessage.sign key digest true with
      | .error e => .error (.message e)
      | .ok signature => .ok
        { algorithm, address, signature, inputIndex, outputIndex, instanceIndex, valid := true }

end DetachedSignature
end OpReturn
