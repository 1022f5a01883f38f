import OpReturn.Node.Interface
import OpReturn.Server.Render
import OpReturn.Transaction.Reader

/-!
# The tools of the server

Each tool takes a few arguments and answers with JSON. Arguments come from outside and can be any
values, so each is asked for what it has to be only where it is used. Tools that read bytes take
them in hexadecimal and refuse more than the configured size; tools that look at transactions
fetch them from the node. Signatures are verified unless the configuration says otherwise.

* `Tool.ofJson`: a tool with its arguments.
* `Tool.run`: the answer of a tool.
-/

namespace OpReturn

/-! ## Tools -/

/-- A tool with its arguments. -/
inductive Tool where
  | decodeScript (scriptHex : Json)
  | buildScript (entries leadHex : Json)
  | decodeKeyed (payloadHex : Json)
  | decodeAttachment (payloadHex : Json)
  | decodeAttestation (payloadHex : Json)
  | verifyIdentities (scriptHex : Json)
  | verifyDetached (txHex outputIndex : Json)
  | verifyMessage (address signatureBase64 message : Json)
  | nodeInfo
  | transaction (txid : Json)
  | decodeTransaction (txid : Json)

namespace Tool

/-- The names of all tools, sorted. -/
def names : List String := [
  "build_script", "decode_b", "decode_bap", "decode_map", "decode_script", "decode_transaction",
  "get_node_info", "get_transaction", "verify_aip", "verify_message", "verify_sigma"]

/-- Why a name with arguments is no tool. -/
inductive CallError where
  | unknownTool (tool : String)
  | unexpected (tool argument : String)
  | missing (tool : String) (arguments : List String)
deriving DecidableEq, Repr

/-- Names in quotes as an enumeration. -/
def enumeration : List String → String
  | [] => ""
  | [a] => "'" ++ a ++ "'"
  | [a, b] => "'" ++ a ++ "' and '" ++ b ++ "'"
  | names => String.join ((names.dropLast).map fun a => "'" ++ a ++ "', ")
      ++ "and '" ++ names.getLastD "" ++ "'"

/-- What went wrong, in words. -/
def CallError.message : CallError → String
  | .unknownTool tool => "Unknown tool: " ++ tool
  | .unexpected tool argument =>
    "create_server.<locals>." ++ tool ++ "() got an unexpected keyword argument '" ++ argument
      ++ "'"
  | .missing tool arguments =>
    "create_server.<locals>." ++ tool ++ "() missing " ++ toString arguments.length
      ++ " required positional argument" ++ (if arguments.length = 1 then "" else "s") ++ ": "
      ++ enumeration arguments

/-- A tool made from its arguments, of which some are required and others have defaults. -/
def withArguments (tool : String) (required : List String) (optional : List (String × Json))
    (args : List (String × Json)) (make : (String → Json) → Tool) : Except CallError Tool :=
  let known := required ++ optional.map (·.1)
  match args.find? fun arg => !known.contains arg.1 with
  | some (name, _) => .error (.unexpected tool name)
  | none =>
    match required.filter fun name => (args.lookup name).isNone with
    | [] => .ok (make fun name => ((args.lookup name).or (optional.lookup name)).getD .null)
    | missing => .error (.missing tool missing)

/-- The tool with the given name and arguments. -/
def ofJson (name : String) (args : List (String × Json)) : Except CallError Tool :=
  let take (required : List String) (make : (String → Json) → Tool) : Except CallError Tool :=
    withArguments name required [] args make
  match name with
  | "decode_script" => take ["script_hex"] fun get => .decodeScript (get "script_hex")
  | "build_script" => withArguments name ["entries"] [("prefix_hex", .str "")] args fun get =>
      .buildScript (get "entries") (get "prefix_hex")
  | "decode_map" => take ["payload_hex"] fun get => .decodeKeyed (get "payload_hex")
  | "decode_b" => take ["payload_hex"] fun get => .decodeAttachment (get "payload_hex")
  | "decode_bap" => take ["payload_hex"] fun get => .decodeAttestation (get "payload_hex")
  | "verify_aip" => take ["script_hex"] fun get => .verifyIdentities (get "script_hex")
  | "verify_sigma" => withArguments name ["tx_hex"] [("output_index", .int 0)] args fun get =>
      .verifyDetached (get "tx_hex") (get "output_index")
  | "verify_message" => take ["address", "signature_base64", "message"] fun get =>
      .verifyMessage (get "address") (get "signature_base64") (get "message")
  | "get_node_info" => take [] fun _ => .nodeInfo
  | "get_transaction" => take ["txid"] fun get => .transaction (get "txid")
  | "decode_transaction" => take ["txid"] fun get => .decodeTransaction (get "txid")
  | _ => .error (.unknownTool name)

/-! ## Errors -/

/-- What an argument of the wrong type cannot do. -/
inductive TypeFault where
  | beHexText
  | beIterated
  | beSearched
  | haveOrder
  | haveLength
  | bePatterned
  | beSliced
deriving DecidableEq, Repr

/-- The fault of a value of the given type, in words. -/
def TypeFault.message (typeName : String) : TypeFault → String
  | .beHexText => "fromhex() argument must be str, not " ++ typeName
  | .beIterated => "'" ++ typeName ++ "' object is not iterable"
  | .beSearched => "argument of type '" ++ typeName ++ "' is not iterable"
  | .haveOrder => "'<=' not supported between instances of 'int' and '" ++ typeName ++ "'"
  | .haveLength => "object of type '" ++ typeName ++ "' has no len()"
  | .bePatterned => "expected string or bytes-like object, got '" ++ typeName ++ "'"
  | .beSliced => "unhashable type: 'slice'"

/-- Why a tool has no answer. -/
inductive Error where
  | notHex (name : String)
  | tooLarge (name : String) (size : Nat) (limit : String)
  /-- The limit is a value of the given type, which has no order. -/
  | limitType (typeName : String)
  | argumentType (fault : TypeFault) (typeName : String)
  | noAttribute (typeName name : String)
  | missingTag
  | push (e : WriteError)
  | decode (e : DecodeError)
  | transaction (e : Transaction.DecodeError)
  | serialize (e : SerializeError)
  | noOutput (index : String)
  | signature (e : Ascii.EncodeError)
  | node (e : Node.Error)
deriving DecidableEq, Repr

/-- What went wrong, in words. -/
def Error.message : Error → String
  | .notHex name => name ++ " is not valid hex"
  | .tooLarge name size limit =>
    name ++ " is " ++ toString size ++ " bytes, limit is " ++ limit
  | .limitType typeName =>
    "'>' not supported between instances of 'int' and '" ++ typeName ++ "'"
  | .argumentType fault typeName => fault.message typeName
  | .noAttribute typeName name =>
    "'" ++ typeName ++ "' object has no attribute '" ++ name ++ "'"
  | .missingTag => "Each entry needs a 'tag'"
  | .push e => e.message
  | .decode e => e.message
  | .transaction e => e.message
  | .serialize e => e.message
  | .noOutput index => "Transaction has no output " ++ index
  | .signature e => e.message
  | .node e => e.message

/-! ## Arguments -/

/-- The error of an argument of the wrong type. -/
def wrongType (fault : TypeFault) (v : Json) : Error := .argumentType fault (Node.typeName v)

/-- The text that an argument is, which is going to be asked for an attribute of texts. -/
def textFor (name : String) : Json → Except Error String
  | .str s => .ok s
  | v => .error (.noAttribute (Node.typeName v) name)

/-- Is a number above a limit? `none` for a limit without order. -/
def exceeds? (size : Nat) : Toml.Value → Option Bool
  | .int n => some (n < size)
  | .bool b => some ((if b then 1 else 0) < size)
  | .float x => some (x.lessThan size)
  | _ => none

/-- The bytes of a hexadecimal text within the configured size. -/
def hexBytes (config : Config) (text name : String) : Except Error Bytes :=
  match Hex.decode text with
  | .error _ => .error (.notHex name)
  | .ok s =>
    match exceeds? s.length config.maxScriptSize with
    | none => .error (.limitType config.maxScriptSize.typeName)
    | some true => .error (.tooLarge name s.length config.maxScriptSize.display)
    | some false => .ok s

/-- The bytes of a hexadecimal argument within the configured size. -/
def hexArgument (config : Config) (v : Json) (name : String) : Except Error Bytes :=
  match v with
  | .str text => hexBytes config text name
  | v => .error (wrongType .beHexText v)

/-- The verifier that a configuration asks for: one that finds nothing valid if signatures are not
to be verified. -/
def verifier (config : Config) : Verifier Id := fun address signature message =>
  if config.verifySignatures.isTruthy then SignedMessage.verify address signature message
  else false

/-! ## Offline tools -/

/-- The lead and the decoded entries of an envelope. -/
def describeEnvelope (config : Config) (envelope : Envelope) (tx : Option Transaction)
    (outputIndex : Int) : Except Error (List (Json.Text × Json)) :=
  match Id.run (envelope.decode tx outputIndex (verifier config)).run with
  | .error e => .error (.decode e)
  | .ok entries => .ok [
      ("prefix_hex", .ofBytes envelope.lead),
      ("entries", .arr (entries.map DecodedEntry.toJson))]

/-- Splits a script into entries and decodes each. -/
def decodeScriptAnswer (config : Config) (scriptHex : Json) : Except Error Json := do
  let script ← hexArgument config scriptHex "script_hex"
  match Envelope.scan script with
  | none => return .obj [
      ("found", .bool false), ("prefix_hex", .ofBytes script), ("entries", .arr [])]
  | some envelope =>
    return .obj (("found", .bool true) :: (← describeEnvelope config envelope none 0))

/-- The values that an argument runs through: the items of a list, the keys of an object or the
characters of a text. -/
def itemsOf : Json → Except Error (List Json)
  | .arr items => .ok items
  | .obj members => .ok (members.map fun m => .ofText m.1)
  | .str s => .ok (s.toList.map fun c => .str c.toString)
  | v => .error (wrongType .beIterated v)

/-- Does a text hold a word? -/
def holdsWord (word : List Char) : List Char → Bool
  | [] => word.isEmpty
  | c :: s => word.isPrefixOf (c :: s) || holdsWord word s

/-- Does a value hold a name: as a key of an object, an item of a list or a part of a text? -/
def holdsName (name : String) : Json → Except Error Bool
  | .obj members => .ok ((Json.obj members).member? name).isSome
  | .arr items => .ok (items.any fun item => match item with
      | .str s => s = name
      | _ => false)
  | .str s => .ok (holdsWord name.toList s.toList)
  | v => .error (wrongType .beSearched v)

/-- The entry that a value stands for: an object with a tag and a payload. -/
def entryOf (config : Config) (v : Json) : Except Error Entry := do
  if !(← holdsName "tag" v) then throw .missingTag
  match v with
  | .obj _ =>
    let payload ← hexArgument config ((v.member? "payload_hex").getD (.str "")) "payload_hex"
    let tag ← textFor "encode" ((v.member? "tag").getD .null)
    return ⟨Utf8.encode tag, payload, 0⟩
  | v => throw (.noAttribute (Node.typeName v) "get")

/-- Builds a script. -/
def buildScriptAnswer (config : Config) (entries leadHex : Json) : Except Error Json := do
  let lead ← hexArgument config leadHex "prefix_hex"
  let entries ← (← itemsOf entries).mapM (entryOf config)
  match Envelope.build lead entries with
  | .error e => throw (.push e)
  | .ok script => return .obj [("script_hex", .ofBytes script), ("size", .int script.length)]

/-- Decodes the payload of a keyed record. -/
def decodeKeyedAnswer (config : Config) (payloadHex : Json) : Except Error Json := do
  let payload ← hexArgument config payloadHex "payload_hex"
  return .obj [("record", Record.toJson? ((KeyedRecord.decode payload).map .keyed))]

/-- The text of an attachment's content; null if it does not decode or is no text. -/
def contentText (record : AttachmentRecord) : Json :=
  match record.decodedContent with
  | .ok content => .ofUtf8? content
  | .error _ => .null

/-- Decodes the payload of an attachment. -/
def decodeAttachmentAnswer (config : Config) (payloadHex : Json) : Except Error Json := do
  let payload ← hexArgument config payloadHex "payload_hex"
  match AttachmentRecord.decode payload with
  | none => return .obj [("record", .null)]
  | some record => return .obj [("record", record.toJson), ("content_utf8", contentText record)]

/-- Decodes the payload of an attestation on its own. -/
def decodeAttestationAnswer (config : Config) (payloadHex : Json) : Except Error Json := do
  let payload ← hexArgument config payloadHex "payload_hex"
  match Id.run (AttestationRecord.decode payload [] (verifier config)).run with
  | .error e => throw (.decode e)
  | .ok record => return .obj [("record", Record.toJson? (record.map .attestation))]

/-- An identity signature with the offset of its entry. -/
def identityAnswer (entry : Entry) (sig : IdentitySignature) : Json :=
  match sig.toJson with
  | .obj members => .obj (("offset", .int entry.offset) :: members)
  | v => v

/-- The identity signature of the entry with the given index, if it is one. -/
def identityAt (config : Config) (envelope : Envelope) (entry : Entry) (index : Nat) :
    Except Error (Option Json) :=
  if entry.tag = IdentitySignature.tag then
    match Id.run
        (IdentitySignature.decode entry.payload (envelope.entries.take index)
          (verifier config)).run with
    | .error e => .error (.decode e)
    | .ok sig => .ok (sig.map (identityAnswer entry))
  else .ok none

/-- Verifies the identity signatures of a script. -/
def verifyIdentitiesAnswer (config : Config) (scriptHex : Json) : Except Error Json := do
  let script ← hexArgument config scriptHex "script_hex"
  match Envelope.scan script with
  | none => return .obj [("found", .bool false), ("signatures", .arr [])]
  | some envelope =>
    let found ← envelope.entries.zipIdx.mapM fun numbered =>
      identityAt config envelope numbered.1 numbered.2
    return .obj [("found", .bool true), ("signatures", .arr (found.filterMap id))]

/-- The id of a transaction. -/
def txidOf (tx : Transaction) : Except Error String := tx.txid.mapError .serialize

/-- The detached signature of a decoded entry, with the index of its output as it was given. -/
def detachedOf (outputIndex : Json) (decoded : DecodedEntry) : Option Json :=
  match decoded.record with
  | some (.detached sig) =>
    match sig.toJson with
    | .obj members => some (.obj (Json.setMember members "output_index" outputIndex))
    | v => some v
  | _ => none

/-- The decoded entries of an output's script. -/
def decodedIn (config : Config) (tx : Transaction) (outputIndex : Int) (script : Bytes) :
    Except Error (List DecodedEntry) :=
  match Envelope.scan script with
  | none => .ok []
  | some envelope =>
    (Id.run (envelope.decode (some tx) outputIndex (verifier config)).run).mapError .decode

/-- The number that an argument counts as. -/
def indexOf : Json → Except Error Int
  | .int n => .ok n
  | .bool b => .ok (if b then 1 else 0)
  | v => .error (wrongType .haveOrder v)

/-- Verifies the detached signatures of an output. -/
def verifyDetachedAnswer (config : Config) (txHex outputIndex : Json) : Except Error Json := do
  let tx ← (Transaction.ofHex (← textFor "strip" txHex)).mapError .transaction
  let index ← indexOf outputIndex
  match atIndex? tx.outputs index with
  | none => throw (.noOutput outputIndex.display)
  | some output =>
    let decoded ← decodedIn config tx index output.script
    return .obj [
      ("txid", .str (← txidOf tx)),
      ("signatures", .arr (decoded.filterMap (detachedOf outputIndex)))]

/-- The most that an address can measure. -/
def maxAddress : Nat := 35

/-- Is a signature of a message valid for an address? A value that is no text is no address, and
only one that is too long for an address is told so without a look at it. -/
def isSigned (address : Json) (signature message : Bytes) : Except Error Bool :=
  match address with
  | .str address => .ok (SignedMessage.verify address signature message)
  | .arr items => if items.length ≤ maxAddress then .error (wrongType .bePatterned address)
      else .ok false
  | .obj members => .error (wrongType
      (if members.length ≤ maxAddress then .bePatterned else .beSliced) address)
  | v => .error (wrongType .haveLength v)

/-- Verifies the signature of a message, whatever the configuration says. -/
def verifyMessageAnswer (address signatureBase64 message : Json) : Except Error Json := do
  let signature ← (Ascii.encode (← textFor "encode" signatureBase64)).mapError .signature
  let message ← textFor "encode" message
  let valid ← isSigned address signature (Utf8.encode message)
  return .obj [("address", address), ("valid", .bool valid)]

/-! ## Node tools -/

/-- The state of a node as JSON. -/
def infoAnswer (info : Node.Info) : Json := .obj [
  ("connected", .bool info.connected),
  ("network", info.network),
  ("block_height", info.blockHeight),
  ("version", info.version),
  ("errors", info.errors)]

/-- A transaction as the node tells it, as JSON. -/
def transactionAnswer (info : Node.TransactionInfo) : Json := .obj [
  ("txid", info.txid),
  ("blockhash", info.blockhash),
  ("confirmations", info.confirmations),
  ("time", info.time),
  ("hex", info.hex)]

/-- The envelope of an output, if there is one. -/
def outputAnswer (config : Config) (tx : Transaction) (output : TxOutput) (index : Nat) :
    Except Error (Option Json) :=
  match Envelope.scan output.script with
  | none => .ok none
  | some envelope => (describeEnvelope config envelope (some tx) index).map fun described =>
      some (.obj (("output_index", .int index) :: ("satoshis", .int output.satoshis) :: described))

/-- Decodes the envelopes of all outputs of a transaction that the node told. -/
def decodeTransactionAnswer (config : Config) (info : Node.TransactionInfo) :
    Except Error Json := do
  match info.hex.text? with
  | some text =>
    let tx ← (Transaction.ofHex text).mapError .transaction
    let outputs ← tx.outputs.zipIdx.mapM fun numbered =>
      outputAnswer config tx numbered.1 numbered.2
    return .obj [
      ("txid", .str (← txidOf tx)),
      ("confirmations", info.confirmations),
      ("outputs", .arr (outputs.filterMap id))]
  | none => throw (.node (.noAttribute (Node.typeName info.hex) "strip"))

/-! ## Running -/

/-- Running tools: the number of requests made to the node so far is kept. -/
abbrev Running (m : Type → Type) := ExceptT Error (StateT Nat m)

/-- A question to the node, as part of a tool. -/
def ask {m : Type → Type} [Monad m] {α : Type} (question : Node.Asking m α) : Running m α :=
  ExceptT.mk do return (← question.run).mapError .node

/-- The answer of a tool. -/
def run {m : Type → Type} [Monad m] (config : Config) (transport : Node.Transport m) :
    Tool → Running m Json
  | .decodeScript scriptHex => ExceptT.mk (pure (decodeScriptAnswer config scriptHex))
  | .buildScript entries leadHex => ExceptT.mk (pure (buildScriptAnswer config entries leadHex))
  | .decodeKeyed payloadHex => ExceptT.mk (pure (decodeKeyedAnswer config payloadHex))
  | .decodeAttachment payloadHex => ExceptT.mk (pure (decodeAttachmentAnswer config payloadHex))
  | .decodeAttestation payloadHex => ExceptT.mk (pure (decodeAttestationAnswer config payloadHex))
  | .verifyIdentities scriptHex => ExceptT.mk (pure (verifyIdentitiesAnswer config scriptHex))
  | .verifyDetached txHex outputIndex =>
    ExceptT.mk (pure (verifyDetachedAnswer config txHex outputIndex))
  | .verifyMessage address signature message =>
    ExceptT.mk (pure (verifyMessageAnswer address signature message))
  | .nodeInfo => do return infoAnswer (← ask (Node.getInfo config transport))
  | .transaction txid => do
    return transactionAnswer (← ask (Node.getTransaction config transport txid))
  | .decodeTransaction txid => do
    let info ← ask (Node.getTransaction config transport txid)
    ExceptT.mk (pure (decodeTransactionAnswer config info))

end Tool
end OpReturn
