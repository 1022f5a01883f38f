import OpReturn.Json.Value
import OpReturn.Record
import OpReturn.Text.Hex

/-!
# Records as JSON

Decoded entries as the server shows them: every field of a record by name, byte strings in
hexadecimal, and the name of the record's kind.
-/

namespace OpReturn

/-- Bytes as a JSON string of hexadecimal digits. -/
def Json.ofBytes (s : Bytes) : Json := .str (Hex.encode s)

/-- The attributes as a JSON object. -/
def Attributes.toJson (a : Attributes) : Json :=
  .obj (a.pairs.map fun pair => (pair.1, .str pair.2))

/-- A keyed record as JSON. -/
def KeyedRecord.toJson (record : KeyedRecord) : Json := .obj [
  ("type", .str "KeyedRecord"),
  ("command", .str record.command),
  ("pairs", record.attributes.toJson)]

/-- An attachment as JSON. -/
def AttachmentRecord.toJson (record : AttachmentRecord) : Json := .obj [
  ("type", .str "AttachmentRecord"),
  ("content", .ofBytes record.content),
  ("media_type", .str record.mediaType),
  ("encoding", .str record.encoding),
  ("filename", .ofText? record.filename)]

/-- An identity signature as JSON. -/
def IdentitySignature.toJson (sig : IdentitySignature) : Json := .obj [
  ("type", .str "IdentitySignature"),
  ("algorithm", .str sig.algorithm),
  ("address", .str sig.address),
  ("signature", .ofBytes sig.signature),
  ("field_indexes", match sig.fieldIndexes with
    | some indexes => .arr (indexes.map .int)
    | none => .null),
  ("valid", .bool sig.valid)]

/-- An attestation as JSON. -/
def AttestationRecord.toJson (record : AttestationRecord) : Json := .obj [
  ("type", .str "AttestationRecord"),
  ("kind", .str record.kind.text),
  ("key_or_txid", .str record.keyOrTxid),
  ("address_or_profile", .str record.addressOrProfile),
  ("sequence", .ofInt? record.sequence),
  ("chained_signature", match record.chained with
    | some sig => sig.toJson
    | none => .null),
  ("fallback", .bool record.fallback)]

/-- A detached signature as JSON. -/
def DetachedSignature.toJson (sig : DetachedSignature) : Json := .obj [
  ("type", .str "DetachedSignature"),
  ("algorithm", .str sig.algorithm),
  ("address", .str sig.address),
  ("signature", .ofBytes sig.signature),
  ("message", .ofText? sig.message),
  ("nonce", .ofText? sig.nonce),
  ("input_index", .int sig.inputIndex),
  ("output_index", .int sig.outputIndex),
  ("instance_index", .int sig.instanceIndex),
  ("valid", .bool sig.valid)]

/-- A record as JSON. -/
def Record.toJson : Record → Json
  | .keyed record => record.toJson
  | .attachment record => record.toJson
  | .identity sig => sig.toJson
  | .attestation record => record.toJson
  | .detached sig => sig.toJson

/-- A record as JSON, or null for none. -/
def Record.toJson? (record : Option Record) : Json := (record.map Record.toJson).getD .null

/-- The text of some bytes, or null if they are not UTF-8. -/
def Json.ofUtf8? (s : Bytes) : Json :=
  match Utf8.decodeStrict s with
  | .ok text => .str text
  | .error _ => .null

/-- An entry with its record as JSON. -/
def DecodedEntry.toJson (decoded : DecodedEntry) : Json := .obj [
  ("tag", .ofUtf8? decoded.entry.tag),
  ("tag_hex", .ofBytes decoded.entry.tag),
  ("offset", .int decoded.entry.offset),
  ("payload_hex", .ofBytes decoded.entry.payload),
  ("record", Record.toJson? decoded.record)]

end OpReturn
