import OpReturn.Record.Identity
import OpReturn.Text.Ascii
import OpReturn.Text.Blank

/-!
# Attestations

An attestation pushes its kind and two fields: an identity key and an address, a transaction id
and a sequence number, or an alias and a profile. It may carry an identity signature of its own
behind a separator, which covers the entries before it and its own fields.

A payload that does not split into two chunks is searched as text for the name of a kind instead,
and the two words after it are taken as the fields.

* `AttestationRecord.decode`: the record of a payload, with the verdict of a verifier on the
  signature it carries.
-/

namespace OpReturn

/-! ## Kinds and sequence numbers -/

/-- What an attestation states. -/
inductive AttestationKind where
  | identity
  | attest
  | revoke
  | aliased
deriving DecidableEq, Repr

namespace AttestationKind

/-- The name of a kind. -/
def text : AttestationKind → String
  | .identity => "ID"
  | .attest => "ATTEST"
  | .revoke => "REVOKE"
  | .aliased => "ALIAS"

/-- The kind with the given name. -/
def ofText? (name : String) : Option AttestationKind :=
  [.identity, .attest, .revoke, .aliased].find? fun kind => kind.text = name

/-- Does the kind carry a sequence number? -/
def hasSequence : AttestationKind → Bool
  | .attest | .revoke => true
  | .identity | .aliased => false

end AttestationKind

/-- The sequence number that a text stands for: one to twenty ASCII digits, below `2 ^ 64`. -/
def parseSequence (text : String) : Option Nat :=
  let digits := text.toList
  if digits.isEmpty || 20 < digits.length || !digits.all (fun c => '0' ≤ c && c ≤ '9') then none
  else
    let v := Decimal.value (digits.map fun c => UInt8.ofNat c.toNat)
    if v < 0x10000000000000000 then some v else none

/-! ## Records -/

/-- An attestation. `keyOrTxid` is the identity key, the transaction id or the alias;
`addressOrProfile` is the address or the profile, and empty for the kinds with a sequence number.
`fallback` tells that the record was found by searching text. -/
structure AttestationRecord where
  kind : AttestationKind
  keyOrTxid : String
  addressOrProfile : String := ""
  sequence : Option Int := none
  chained : Option IdentitySignature := none
  fallback : Bool := false
deriving DecidableEq, Repr

namespace AttestationRecord

/-- The tag of attestations. -/
def tag : Bytes := Utf8.encode "1BAPSuaPnfGnSBM3GLV9yhxUdYe4vGbdMT"

/-- Is the record an identity that carries a signature? -/
def isSignedById (record : AttestationRecord) : Bool :=
  record.kind = .identity && record.chained.isSome

/-- The items that the payload of a record pushes for its fields. -/
def items (record : AttestationRecord) : List Bytes :=
  [Utf8.encode record.kind.text, Utf8.encode record.keyOrTxid,
    if record.kind.hasSequence then (record.sequence.map Decimal.ofInt).getD []
    else Utf8.encode record.addressOrProfile]

/-- The sequence number that is pushed. -/
def integers (record : AttestationRecord) : List Int :=
  if record.kind.hasSequence then record.sequence.toList else []

/-- The payload of a record. -/
def payload (record : AttestationRecord) : Except WriteError Bytes := do
  let fields ← encodeItems record.integers record.items
  match record.chained with
  | none => return fields
  | some sig => return fields ++ (← encodePushes [Chunk.separator, IdentitySignature.tag])
      ++ (← sig.payload)

/-- The record of a kind with two fields. -/
def ofFields (kind : AttestationKind) (key field : String) : AttestationRecord :=
  if kind.hasSequence then
    { kind, keyOrTxid := key, sequence := (parseSequence field).map Int.ofNat }
  else { kind, keyOrTxid := key, addressOrProfile := field }

/-! ## Searching text -/

/-- What follows the first occurrence of a word in a text. -/
def after? (word : List Char) : List Char → Option (List Char)
  | [] => if word.isEmpty then some [] else none
  | c :: text =>
    if word.isPrefixOf (c :: text) then some ((c :: text).drop word.length) else after? word text

/-- The record that the text of a payload stands for: the first two words after the first `ID`,
or, in a text without `ID`, after the first `ATTEST`. -/
def ofTextSearch (payload : Bytes) : Option AttestationRecord :=
  let text := Latin1.decode payload
  let found := [AttestationKind.identity, .attest].findSome? fun kind =>
    (after? kind.text.toList text).map fun rest => (kind, rest)
  match found with
  | none => none
  | some (kind, rest) =>
    match Blank.fields rest with
    | key :: field :: _ =>
      some { ofFields kind (String.ofList key) (String.ofList field) with fallback := true }
    | _ => none

/-! ## Decoding -/

/-- The chunks of a payload with their offsets; none if it is cut short. -/
def locatedChunks (payload : Bytes) : List (Nat × Chunk) :=
  let steps := walk payload
  if steps.all (fun located => located.2.cut.isNone) then
    steps.map fun located => (located.1, located.2.chunk)
  else []

/-- The signature that a payload carries behind its first separator after the third chunk, with
the offset of that separator. A tag, an algorithm, an address and a signature must follow it. -/
def chainedPart (chunks : List (Nat × Chunk)) :
    Except Decimal.TooLong (Option (Nat × IdentitySignature)) :=
  match (chunks.drop 3).dropWhile (fun located => located.2.data ≠ Chunk.separator) with
  | (offset, _) :: _ :: rest =>
    (IdentitySignature.ofChunks (rest.map (·.2))).map fun sig => sig.map fun sig => (offset, sig)
  | _ => .ok none

/-- What the chunks of a payload stand for: the record of its fields and the signature it carries,
with the offset of the separator before that. -/
def parseChunks (chunks : List (Nat × Chunk)) :
    Except Decimal.TooLong (Option (AttestationRecord × Option (Nat × IdentitySignature))) :=
  match chunks with
  | (_, kind) :: (_, key) :: (_, field) :: _ =>
    match AttestationKind.ofText? (Utf8.decode kind.data) with
    | none => .ok none
    | some kind => (chainedPart chunks).map fun part =>
        some (ofFields kind (Utf8.decode key.data) (Utf8.decode field.data), part)
  | _ => .ok none

/-- The record of a payload that follows some entries. The signature it carries gets the verdict
of a verifier over those entries and the payload's own fields. -/
def decode {m : Type → Type} [Monad m] (payload : Bytes) (preceding : List Entry)
    (verify : Verifier m) : Decoding m (Option AttestationRecord) :=
  let chunks := locatedChunks payload
  if chunks.length < 2 then return ofTextSearch payload
  else match parseChunks chunks with
    | .error e => throw (.index e)
    | .ok none => return none
    | .ok (some (record, none)) => return some record
    | .ok (some (record, some (offset, sig))) => do
      let signed := preceding ++ [⟨tag, payload.take offset, 0⟩]
      let sig ← (sig.verified signed verify : m IdentitySignature)
      return some { record with chained := some sig }

end AttestationRecord
end OpReturn
