import OpReturn.Text.Upper
import OpReturn.Toml.Document

/-!
# Configuration

How the server reaches a node, what it verifies, how much it reads and how much it logs. A
configuration is read from a TOML document (`Config.ofToml`); settings that are missing there have
defaults, and most keep whatever value the document gives them.
-/

namespace OpReturn

/-! ## Choices -/

/-- How a node is reached: by its command-line client or by its JSON-RPC interface. -/
inductive ConnectionMethod where
  | commandLine
  | rpc
deriving DecidableEq, Repr

/-- The name of a method in a document. -/
def ConnectionMethod.text : ConnectionMethod → String
  | .commandLine => "cli"
  | .rpc => "rpc"

/-- The method with the given name. -/
def ConnectionMethod.ofText? (name : String) : Option ConnectionMethod :=
  [.commandLine, .rpc].find? fun method => method.text = name

/-- The network that a node belongs to. -/
inductive Network where
  | mainnet
  | testnet
  | signet
  | regtest
deriving DecidableEq, Repr

namespace Network

/-- The name of a network in a document. -/
def text : Network → String
  | .mainnet => "mainnet"
  | .testnet => "testnet"
  | .signet => "signet"
  | .regtest => "regtest"

/-- The network with the given name. -/
def ofText? (name : String) : Option Network :=
  [.mainnet, .testnet, .signet, .regtest].find? fun network => network.text = name

/-- The port that the nodes of a network answer on unless told otherwise. -/
def defaultPort : Network → Nat
  | .mainnet => 8332
  | .testnet => 18332
  | .signet => 38332
  | .regtest => 18443

end Network

/-- How much is logged. -/
inductive LogLevel where
  | debug
  | info
  | warning
  | error
  | critical
deriving DecidableEq, Repr

namespace LogLevel

/-- The name of a level. -/
def text : LogLevel → String
  | .debug => "DEBUG"
  | .info => "INFO"
  | .warning => "WARNING"
  | .error => "ERROR"
  | .critical => "CRITICAL"

/-- The number of a level: higher ones are more severe. -/
def number : LogLevel → Nat
  | .debug => 10
  | .info => 20
  | .warning => 30
  | .error => 40
  | .critical => 50

/-- The level with the given name. -/
def ofText? (name : String) : Option LogLevel :=
  [.debug, .info, .warning, .error, .critical].find? fun level => level.text = name

end LogLevel

/-! ## The configuration -/

/-- A configuration. -/
structure Config where
  method : ConnectionMethod := .commandLine
  network : Network := .mainnet
  cliPath : Toml.Value := .str "bitcoin-cli"
  cliDatadir : Toml.Value := .str ""
  rpcHost : Toml.Value := .str "127.0.0.1"
  rpcPort : Toml.Value := .null
  rpcUser : Toml.Value := .str ""
  rpcPassword : Toml.Value := .str ""
  verifySignatures : Toml.Value := .bool true
  maxScriptSize : Toml.Value := .int 102400
  logLevel : LogLevel := .warning

/-- Why a document is no configuration. -/
inductive ConfigError where
  | toml (e : Toml.ReadError)
  /-- A section is not a table but a value of the given type. -/
  | noTable (typeName : String)
  /-- The size limit is a value of the given type, which has no order. -/
  | sizeType (typeName : String)
  | size (value : String)
  /-- A value that a message would show has no text. -/
  | unshowable (fault : Toml.Value.ShowFault)
  | level (name : String)
  | method (value : String)
  | network (value : String)
deriving DecidableEq, Repr

/-- What went wrong, in words. -/
def ConfigError.message : ConfigError → String
  | .toml .malformed => "Invalid document"
  | .toml (.number e) => e.message
  | .toml .tooDeep => "maximum recursion depth exceeded"
  | .noTable typeName => "'" ++ typeName ++ "' object has no attribute 'get'"
  | .sizeType typeName =>
    "'<=' not supported between instances of '" ++ typeName ++ "' and 'int'"
  | .size value => "max_script_size must be positive, got " ++ value
  | .unshowable fault => fault.message
  | .level name => "Unknown log level: " ++ name
  | .method value => value ++ " is not a valid ConnectionMethod"
  | .network value => value ++ " is not a valid Network"

/-- Is a size at most zero? `none` for a value without order. -/
def isNonPositive? : Toml.Value → Option Bool
  | .int n => some (n ≤ 0)
  | .bool b => some !b
  | .float x => some x.isNonPositive
  | _ => none

namespace Config

/-- The port of the RPC interface: the one configured, or the default of the network. -/
def port (config : Config) : Toml.Value :=
  if config.rpcPort.isTruthy then config.rpcPort else .int config.network.defaultPort

/-- A section of a document: the table with its name, empty if it is missing. -/
def sectionOf (document : Toml.Table) (name : String) : Toml.Value :=
  (document.get? name).getD (.table [])

/-- A setting of a section, or its default. -/
def setting (part : Toml.Value) (key : String) (default : Toml.Value) :
    Except ConfigError Toml.Value :=
  match part with
  | .table t => .ok ((Toml.Table.get? t key).getD default)
  | v => .error (.noTable v.typeName)

/-- The name that a value is. -/
def nameOf? : Toml.Value → Option String
  | .str s => some s
  | _ => none

/-- A value that is going to be shown. -/
def shown (v : Toml.Value) : Except ConfigError Toml.Value :=
  match v.showFault? Toml.Value.maxShownDepth with
  | none => .ok v
  | some fault => .error (.unshowable fault)

/-- The configuration that the table of a document gives. -/
def ofTable (document : Toml.Table) : Except ConfigError Config := do
  let defaults : Config := {}
  let connection := sectionOf document "connection"
  let method ← setting connection "method" (.str defaults.method.text)
  let network ← setting connection "network" (.str defaults.network.text)
  let decoder := sectionOf document "decoder"
  let maxScriptSize ← setting decoder "max_script_size" defaults.maxScriptSize
  match isNonPositive? maxScriptSize with
  | none => throw (.sizeType maxScriptSize.typeName)
  | some true => throw (.size maxScriptSize.display)
  | some false => pure ()
  let level ← setting (sectionOf document "logging") "level" (.str defaults.logLevel.text)
  let levelName := Upper.ofText (← shown level).display
  let some logLevel := LogLevel.ofText? levelName | throw (.level levelName)
  let some method' := (nameOf? method).bind ConnectionMethod.ofText?
    | throw (.method (← shown method).describe)
  let some network' := (nameOf? network).bind Network.ofText?
    | throw (.network (← shown network).describe)
  let cli := sectionOf document "cli"
  let rpc := sectionOf document "rpc"
  let cliPath ← setting cli "path" defaults.cliPath
  let cliDatadir ← setting cli "datadir" defaults.cliDatadir
  let rpcHost ← setting rpc "host" defaults.rpcHost
  let rpcPort ← setting rpc "port" defaults.rpcPort
  let rpcUser ← setting rpc "user" defaults.rpcUser
  let rpcPassword ← setting rpc "password" defaults.rpcPassword
  let verifySignatures ← setting decoder "verify_signatures" defaults.verifySignatures
  return { method := method', network := network', cliPath, cliDatadir, rpcHost, rpcPort, rpcUser,
           rpcPassword, verifySignatures, maxScriptSize, logLevel }

/-- The configuration that the text of a document gives. -/
def ofToml (text : String) : Except ConfigError Config :=
  match Toml.Document.parse text with
  | .error e => .error (.toml e)
  | .ok document => ofTable document

/-- The configuration of a file, given its text; a file that is not there means the defaults. -/
def load (file : Option String) : Except ConfigError Config :=
  match file with
  | none => .ok {}
  | some text => ofToml text

/-- The configuration of the first file that is there, in order of preference. -/
def loadFirst (files : List (Option String)) : Except ConfigError Config :=
  load (files.findSome? id)

end Config
end OpReturn
