import OpReturn.Config
import OpReturn.Json.Parser
import OpReturn.Json.Printer
import OpReturn.Text.Ascii
import OpReturn.Text.Base64
import OpReturn.Text.Blank
import OpReturn.Text.Utf8
import OpReturn.Url.Basic

/-!
# Nodes

A node answers questions about the chain. It is reached through a transport, which runs a command
or posts a request and gives back what came of it; here is what is asked, and what is made of the
answers.

* `Node.call`: one question and the result in its answer.
* `Node.getInfo`: the state of the node. Most faults make it a disconnected one.
* `Node.getTransaction`: a transaction, asked of the node's wallet if the node itself refuses.
-/

namespace OpReturn.Node

/-! ## Transports -/

/-- How a transport fails: the system refuses to run the command, the command holds a NUL character
and cannot be put to the system at all, or the connection does not hold. -/
inductive FaultKind where
  | notFound
  | denied
  | nul
  | connect
  | timeout
deriving DecidableEq, Repr

/-- Does the system refuse? -/
def FaultKind.isSystem : FaultKind → Bool
  | .notFound | .denied => true
  | .nul | .connect | .timeout => false

/-- A failure of a transport. -/
structure Fault where
  kind : FaultKind
  text : String
deriving DecidableEq, Repr

/-- What a command left behind. -/
structure Exit where
  code : Int
  stdout : Bytes
  stderr : Bytes

/-- A request to the RPC interface. -/
structure Post where
  url : String
  authorization : String
  contentType : String
  body : Json

/-- Runs commands and posts requests. The answer to a post is its body. -/
structure Transport (m : Type → Type) where
  run : List String → m (Except Fault Exit)
  post : Post → m (Except Fault Bytes)

/-! ## Errors -/

/-- Why a question has no result. -/
inductive Error where
  /-- A part of a command is not a text but a value of the given type. -/
  | commandType (position : Nat) (typeName : String)
  | url (e : Url.Error)
  | host (e : Url.HostError)
  /-- The address of a request names no protocol. -/
  | noProtocol (url : String)
  | transport (fault : Fault)
  /-- The node refused, in its own words. -/
  | refused (text : Json.Text)
  | output (e : Utf8.DecodeError)
  | answer (e : Json.ReadError)
  | missingKey (key : String)
  /-- A value of the given type was asked for a member. -/
  | noMember (typeName : String)
  /-- A value of the given type was asked for an attribute that only other types have. -/
  | noAttribute (typeName name : String)
deriving DecidableEq, Repr

/-- What went wrong, in words. -/
def Error.message : Error → String
  | .commandType position typeName =>
    "sequence item " ++ toString position ++ ": expected str instance, " ++ typeName ++ " found"
  | .url e => e.message
  | .host e => e.message
  | .noProtocol text => "unknown url type: " ++ Quoted.encode text
  | .transport fault => fault.text
  | .refused text => text.shown
  | .output e => e.message
  | .answer e => e.message
  | .missingKey key => Quoted.encode key
  | .noMember typeName =>
    if typeName = "str" then "string indices must be integers, not 'str'"
    else if typeName = "list" then "list indices must be integers or slices, not str"
    else "'" ++ typeName ++ "' object is not subscriptable"
  | .noAttribute typeName name =>
    "'" ++ typeName ++ "' object has no attribute '" ++ name ++ "'"

/-- What went wrong, in words, among which those of the node are kept as they are. -/
def Error.text : Error → Json.Text
  | .refused text => text
  | e => e.message

/-! ## Answers -/

/-- The name of a value's type. -/
def typeName : Json → String
  | .null => "NoneType"
  | .bool _ => "bool"
  | .int _ => "int"
  | .float _ => "float"
  | .str _ | .unpaired _ => "str"
  | .arr _ => "list"
  | .obj _ => "dict"

/-- The member of an answer with the given key. -/
def member (v : Json) (key : String) : Except Error Json :=
  match v with
  | .obj _ =>
    match v.member? key with
    | some v => .ok v
    | none => .error (.missingKey key)
  | v => .error (.noMember (typeName v))

/-- The member of an answer with the given key, or a default for a key that is not there. -/
def memberOr (v : Json) (key : String) (default : Json) : Except Error Json :=
  match v with
  | .obj _ => .ok ((v.member? key).getD default)
  | v => .error (.noAttribute (typeName v) "get")

/-! ## Questions -/

/-- Asking a node: the number of requests made so far is kept. -/
abbrev Asking (m : Type → Type) := ExceptT Error (StateT Nat m)

/-- The flag that selects a network on the command line. -/
def networkFlags : Network → List String
  | .mainnet => []
  | .testnet => ["-testnet"]
  | .signet => ["-signet"]
  | .regtest => ["-regtest"]

/-- The arguments that ask a question. -/
def arguments (config : Config) (method : String) (args : List Json) : List String :=
  networkFlags config.network
    ++ (if config.cliDatadir.isTruthy then ["-datadir=" ++ config.cliDatadir.display] else [])
    ++ method :: args.map Json.display

/-- The command that asks a question, with its arguments. Its path and its method must be
texts. -/
def command (config : Config) (method : Json) (args : List Json) : Except Error (List String) :=
  match config.cliPath, method with
  | .str path, .str method => .ok (path :: arguments config method args)
  | .str _, v => .error (.commandType 1 (typeName v))
  | v, _ => .error (.commandType 0 v.typeName)

/-- The result in what a command left behind. Output that is not JSON is a plain text. -/
def resultOfExit (exit : Exit) : Except Error Json :=
  if exit.code ≠ 0 then
    match Utf8.decodeStrict exit.stderr with
    | .error e => .error (.output e)
    | .ok text => .error (.refused ("bitcoin-cli error: " ++ Blank.trim text))
  else match Utf8.decodeStrict exit.stdout with
    | .error e => .error (.output e)
    | .ok text =>
      let text := Blank.trim text
      if text = "" then .ok .null
      else match Json.parse text with
        | .ok v => .ok v
        | .error (.malformed _) => .ok (.str text)
        | .error e => .error (.answer e)

/-- The header that proves who asks. -/
def authorization (user password : String) : String :=
  "Basic " ++ String.ofList (Latin1.decode (Base64.encode (Utf8.encode (user ++ ":" ++ password))))

/-- The address of the RPC interface. -/
def address (config : Config) : Except Url.Error Url :=
  Url.parse (config.rpcHost.display ++ ":" ++ config.port.display)

/-- The request that asks a question at an address, with its number. Who asks is told by the
address, if it names a user. -/
def request (config : Config) (url : Url) (number : Nat) (method : Json) (args : List Json) :
    Post :=
  let (user, password) :=
    url.credentials?.getD (config.rpcUser.display, config.rpcPassword.display)
  { url := url.text
    authorization := authorization user password
    contentType := "application/json"
    body := .obj [("jsonrpc", .str "2.0"), ("id", .int number), ("method", method),
      ("params", .arr args)] }

/-- The result in the body of an answer, unless it reports an error. -/
def resultOfBody (body : Bytes) : Except Error Json :=
  match Json.parseBytes body with
  | .error e => .error (.answer e)
  | .ok data => do
    let reported ← memberOr data "error" .null
    if reported.isTruthy then
      let code ← member reported "code"
      let text ← member reported "message"
      throw (.refused ("RPC error " ++ code.text ++ ": " ++ text.text))
    memberOr data "result" .null

/-- The request that asks a question, with its number, and whether its address is relative. -/
def requestOf (config : Config) (number : Nat) (method : Json) (args : List Json) :
    Except Error (Post × Bool) := do
  let url ← (address config).mapError .url
  url.checkHost.mapError .host
  return (request config url number method args, url.isRelative)

/-- Asks a question and gives the result in the answer. An answer from a relative address is not
accepted. -/
def call {m : Type → Type} [Monad m] (config : Config) (transport : Transport m)
    (method : Json) (args : List Json) : Asking m Json :=
  match config.method with
  | .commandLine => do
    let argv ← ExceptT.mk (pure (command config method args))
    match ← (transport.run argv : m _) with
    | .error fault => throw (.transport fault)
    | .ok exit => ExceptT.mk (pure (resultOfExit exit))
  | .rpc => do
    modify (· + 1)
    let (post, isRelative) ← ExceptT.mk (return requestOf config (← get) method args)
    match ← (transport.post post : m _) with
    | .error fault => throw (.transport fault)
    | .ok body =>
      if isRelative then throw (.noProtocol post.url) else ExceptT.mk (pure (resultOfBody body))

/-! ## State of the node -/

/-- The state of a node. What the node says is kept as it is. -/
structure Info where
  connected : Bool
  network : Json
  blockHeight : Json
  version : Json
  errors : Json

/-- The state that the two answers of a node tell. -/
def Info.ofAnswers (chain network : Json) : Except Error Info := do
  let name ← member chain "chain"
  let blocks ← member chain "blocks"
  let version ← member network "version"
  let warnings ← memberOr chain "warnings" (.str "")
  return ⟨true, name, blocks, version, warnings⟩

/-- The state of a node that could not be asked. -/
def Info.disconnected (e : Error) : Info :=
  ⟨false, .str "unknown", .int 0, .int 0, .ofText e.text⟩

/-- Does an error mean that the node is disconnected? Of the failures of a transport the command
line counts those in which the system refuses, and the RPC interface all others. The command line
does not count answers that cannot be read, unless they are too deep. -/
def meansDisconnected (method : ConnectionMethod) : Error → Bool
  | .transport fault => fault.kind.isSystem = (method = .commandLine)
  | .commandType .. | .refused _ | .missingKey _ | .noMember _ | .answer (.tooDeep _) => true
  | .host _ | .noProtocol _ | .output _ | .answer _ => method = .rpc
  | .url _ | .noAttribute .. => false

/-- Asks for the state of the node. -/
def getInfo {m : Type → Type} [Monad m] (config : Config) (transport : Transport m) :
    Asking m Info := ExceptT.mk do
  let answers : Asking m Info := do
    let chain ← call config transport (.str "getblockchaininfo") []
    let network ← call config transport (.str "getnetworkinfo") []
    ExceptT.mk (pure (Info.ofAnswers chain network))
  match ← answers.run with
  | .ok info => return .ok info
  | .error e =>
    if meansDisconnected config.method e then return .ok (.disconnected e) else return .error e

/-! ## Transactions -/

/-- A transaction as the node tells it. -/
structure TransactionInfo where
  txid : Json
  blockhash : Json
  confirmations : Json
  time : Json
  hex : Json

/-- The transaction that an answer tells. -/
def TransactionInfo.ofAnswer (answer : Json) : Except Error TransactionInfo := do
  let txid ← member answer "txid"
  let blockhash ← memberOr answer "blockhash" .null
  let confirmations ← memberOr answer "confirmations" (.int 0)
  let time ← memberOr answer "time" .null
  let hex ← member answer "hex"
  return ⟨txid, blockhash, confirmations, time, hex⟩

/-- The flag that asks for the details of a transaction: the command line takes it as a word. -/
def verboseFlag : ConnectionMethod → Json
  | .commandLine => .str "true"
  | .rpc => .bool true

/-- Is an error the node's refusal? An answer that is too deep counts as one. -/
def meansRefused : Error → Bool
  | .refused _ | .answer (.tooDeep _) => true
  | _ => false

/-- Asks for a transaction, and asks the wallet if the node refuses. -/
def getTransaction {m : Type → Type} [Monad m] (config : Config) (transport : Transport m)
    (txid : Json) : Asking m TransactionInfo := ExceptT.mk do
  let first ←
    (call config transport (.str "getrawtransaction") [txid, verboseFlag config.method]).run
  match first with
  | .ok answer => return TransactionInfo.ofAnswer answer
  | .error e =>
    if meansRefused e then
      match ← (call config transport (.str "gettransaction") [txid]).run with
      | .ok answer => return TransactionInfo.ofAnswer answer
      | .error e => return .error e
    else return .error e

end OpReturn.Node
