import OpReturn.Envelope
import OpReturn.SignedMessage.Signature
import OpReturn.Text.Decimal
import OpReturn.Transaction.Basic

/-!
# Identity signatures

An identity signature covers the entries before it in the same envelope. Its payload pushes the
algorithm, the address, the signature and possibly the indexes of the fields it covers; without
indexes it covers every field.

The signed message is `OP_RETURN` and then, for each entry, its tag, what its chunks contribute,
and the separator. Chunks are numbered through all entries, tags not counted. A covered chunk
contributes its data, and one that is not covered its opcode if that is a visible character above
`0x43`.

Records that carry signatures are decoded with a verifier, which judges a signature over a message
for an address. It may have effects of its own, so decoding takes place in its monad. Decoding can
fail on a numeral of too many digits and on an outpoint that cannot be written.

* `canonicalMessage`: the signed message.
* `IdentitySignature.decode`: the record of a payload, with the verdict of a verifier.
* `IdentitySignature.sign`: signs entries.
-/

namespace OpReturn

/-! ## Verifiers -/

/-- Judges a signature: the claimed address, the signature and the signed message. -/
abbrev Verifier (m : Type → Type) := String → Bytes → Bytes → m Bool

/-- Why a payload could not be decoded. -/
inductive DecodeError where
  | index (e : Decimal.TooLong)
  | outpoint (e : OutpointError)
deriving DecidableEq, Repr

/-- What went wrong, in words. -/
def DecodeError.message : DecodeError → String
  | .index e => e.message
  | .outpoint e => e.message

/-- A decoding that may ask a verifier in `m` and may fail. -/
abbrev Decoding (m : Type → Type) := ExceptT DecodeError m

/-! ## Field indexes -/

/-- A numeral as its sign and its digits: an optional sign, then at least one digit. -/
def signedDigits? (data : Bytes) : Option (Bool × Bytes) :=
  let (negative, digits) := match data with
    | 0x2D :: digits => (true, digits)
    | 0x2B :: digits => (false, digits)
    | digits => (false, digits)
  if digits.isEmpty || !digits.all Decimal.isDigit then none else some (negative, digits)

/-- The integer with a sign and a size. -/
def signedInt (negative : Bool) (size : Nat) : Int := if negative then -(size : Int) else size

/-- The index that a field stands for: a decimal numeral in the range of 64-bit integers. A
numeral with more than nineteen digits after its leading zeros is out of range unread; any other
is read, and reading fails if the zeros make it too long. -/
def parseIndex (data : Bytes) : Except Decimal.TooLong (Option Int) :=
  match signedDigits? data with
  | none => .ok none
  | some (negative, digits) =>
    if 19 < (digits.dropWhile (· = 0x30)).length then .ok none
    else if Decimal.maxDigits < digits.length then .error ⟨digits.length⟩
    else
      let v := signedInt negative (Decimal.value digits)
      .ok (if -0x8000000000000000 ≤ v ∧ v < 0x8000000000000000 then some v else none)

/-- The indexes that chunks stand for, up to the first that is none, after those in `acc`, last
first. -/
def parseIndexes (acc : List Int) : List Chunk → Except Decimal.TooLong (List Int)
  | [] => .ok acc.reverse
  | chunk :: chunks =>
    match parseIndex chunk.data with
    | .error e => .error e
    | .ok none => .ok acc.reverse
    | .ok (some index) => parseIndexes (index :: acc) chunks

/-! ## The signed message -/

/-- Is the opcode a visible Latin-1 character? -/
def isVisible (op : UInt8) : Bool := (0x20 ≤ op && op ≤ 0x7E) || (0xA1 ≤ op && op ≠ 0xAD)

/-- What a chunk adds to the message. -/
def Chunk.contribution (chunk : Chunk) (covered : Bool) : Bytes :=
  if covered then chunk.data
  else if 0x43 < chunk.op && isVisible chunk.op then [chunk.op]
  else []

/-- Does a selection cover the chunk with the given number? -/
def covers (selected : Option (List Int)) (index : Nat) : Bool :=
  match selected with
  | none => true
  | some indexes => indexes.contains (index : Int)

/-- What the chunks of a payload add to the message, the first of them with the given number. -/
def contributions (selected : Option (List Int)) (index : Nat) (chunks : List Chunk) : Bytes :=
  (chunks.zipIdx index).flatMap fun numbered =>
    numbered.1.contribution (covers selected numbered.2)

/-- What entries add to the message, their first chunk with the given number. A payload that is
cut short adds nothing beyond its tag. -/
def messageFrom (selected : Option (List Int)) (index : Nat) : List Entry → Bytes
  | [] => []
  | entry :: entries =>
    match Chunk.parseAll entry.payload with
    | .error _ => entry.tag ++ messageFrom selected index entries
    | .ok chunks =>
      entry.tag ++ contributions selected index chunks ++ Chunk.separator
        ++ messageFrom selected (index + chunks.length) entries

/-- The message that an identity signature over some entries covers. -/
def canonicalMessage (entries : List Entry) (selected : Option (List Int)) : Bytes :=
  Opcode.opReturn :: messageFrom selected 0 entries

/-! ## Records -/

/-- A signature over entries; `fieldIndexes` is `none` when it covers every field. -/
structure IdentitySignature where
  algorithm : String
  address : String
  signature : Bytes
  fieldIndexes : Option (List Int) := none
  valid : Bool := false
deriving DecidableEq, Repr

namespace IdentitySignature

/-- The tag of identity signatures. -/
def tag : Bytes := Utf8.encode "15PciHG22SNLQJXMoSUaWVi7WSqc7hCfva"

/-- The items that the payload of a signature pushes. -/
def items (sig : IdentitySignature) : List Bytes :=
  [Utf8.encode sig.algorithm, Utf8.encode sig.address, sig.signature]
    ++ (sig.fieldIndexes.getD []).map Decimal.ofInt

/-- The payload of a signature. -/
def payload (sig : IdentitySignature) : Except WriteError Bytes :=
  encodeItems (sig.fieldIndexes.getD []) sig.items

/-- The unverified signature that chunks stand for; `none` if there are fewer than three. -/
def ofChunks (chunks : List Chunk) : Except Decimal.TooLong (Option IdentitySignature) :=
  match chunks with
  | algorithm :: address :: signature :: fields =>
    (parseIndexes [] fields).map fun indexes => some
      { algorithm := Utf8.decode algorithm.data
        address := Utf8.decode address.data
        signature := signature.data
        fieldIndexes := if indexes.isEmpty then none else some indexes }
  | _ => .ok none

/-- The signature with the verdict of a verifier over the entries that it covers. -/
def verified {m : Type → Type} [Monad m] (sig : IdentitySignature) (preceding : List Entry)
    (verify : Verifier m) : m IdentitySignature := do
  let valid ← verify sig.address sig.signature (canonicalMessage preceding sig.fieldIndexes)
  return { sig with valid }

/-- The unverified signature of a payload; `none` if it is cut short or has fewer than three
fields. -/
def parse (payload : Bytes) : Except Decimal.TooLong (Option IdentitySignature) :=
  match Chunk.parseAll payload with
  | .error _ => .ok none
  | .ok chunks => ofChunks chunks

/-- The signature of a payload that follows some entries, with the verdict of a verifier. -/
def decode {m : Type → Type} [Monad m] (payload : Bytes) (preceding : List Entry)
    (verify : Verifier m) : Decoding m (Option IdentitySignature) :=
  match parse payload with
  | .error e => throw (.index e)
  | .ok none => return none
  | .ok (some sig) => do return some (← (sig.verified preceding verify : m IdentitySignature))

/-! ## Signing -/

/-- Why entries cannot be signed. -/
inductive SignError where
  | address (e : Address.KeyError)
  | message (e : SignedMessage.SignError)
deriving DecidableEq, Repr

/-- What went wrong, in words. -/
def SignError.text : SignError → String
  | .address e => e.message
  | .message e => e.message

/-- The algorithm that signing names unless told otherwise. -/
def defaultAlgorithm : String := "BITCOIN_ECDSA"

/-- Signs entries with a secret key given in bytes. The signature is carried as base64 text, and
no indexes at all mean every field. -/
def sign (entries : List Entry) (key : Bytes) (selected : Option (List Int))
    (algorithm : String) : Except SignError IdentitySignature :=
  let selected := if selected = some [] then none else selected
  match SignedMessage.sign key (canonicalMessage entries selected) true with
  | .error e => .error (.message e)
  | .ok signature =>
    match Address.ofSecretKey false true key with
    | .error e => .error (.address e)
    | .ok address => .ok
      { algorithm, address, signature := Base64.encode signature, fieldIndexes := selected,
        valid := true }

end IdentitySignature
end OpReturn
