import OpReturn.Idna.Domain
import OpReturn.Text.Lower
import OpReturn.Text.Numeral
import OpReturn.Text.Quoted
import OpReturn.Url.IpAddress
import OpReturn.Url.Percent

/-!
# Addresses on the web

An address names a host, perhaps a user and a port, and what is asked for there. Reading one puts
it in a normal form: the host in small ASCII letters, no port where the usual one is meant, no
detours in the path, and escapes for characters that cannot stand for themselves.

* `Url.parse`: the address that a text stands for.
* `Url.text`: the text of an address.
-/

namespace OpReturn

/-- An address for the protocol of the web. An address without a host is relative. -/
structure Url where
  userinfo : String
  host : String
  port : Option Int
  path : String
  query : Option String
  fragment : Option String
deriving DecidableEq, Repr

namespace Url

/-! ## Errors -/

/-- Why a text is no address. -/
inductive Error where
  | tooLong
  | longPath
  | longQuery
  | control (c : Char) (position : Nat)
  | ipv4 (host : String)
  | ipv6 (host : String)
  | hostName (host : String)
  | port (text : String)
deriving DecidableEq, Repr

/-- What went wrong, in words. -/
def Error.message : Error → String
  | .tooLong => "URL too long"
  | .longPath => "URL component 'path' too long"
  | .longQuery => "URL component 'query' too long"
  | .control c position =>
    "Invalid non-printable ASCII character in URL, " ++ Quoted.encode c.toString
      ++ " at position " ++ toString position ++ "."
  | .ipv4 host => "Invalid IPv4 address: " ++ Quoted.encode host
  | .ipv6 host => "Invalid IPv6 address: " ++ Quoted.encode host
  | .hostName host => "Invalid IDNA hostname: " ++ Quoted.encode host
  | .port text => "Invalid port: " ++ Quoted.encode text

/-! ## Characters that stand for themselves -/

/-- Is the character printable ASCII but none of the given ones? -/
def isPlainBut (others : String) (c : Char) : Bool :=
  0x20 ≤ c.toNat && c.toNat < 0x7F && !others.toList.contains c

/-- The characters that need an escape in the name of a user. -/
def escapedInUserinfo : String := " \"#<>?`\x7b\x7d/;=@[\\]^|"

/-- The characters that need an escape in the name of a host. -/
def escapedInHost : String := " #<>?/:@[]^"

/-- The characters that need an escape in a path. -/
def escapedInPath : String := " \"#<>?`\x7b\x7d"

/-- The characters that need an escape in a query. -/
def escapedInQuery : String := " \"#<>"

/-- The characters that need an escape in a fragment. -/
def escapedInFragment : String := " \"<>`"

/-- A part of an address, with escapes for characters outside printable ASCII and the given
ones. -/
def escaped (others : String) (s : List Char) : String :=
  Percent.encode (isPlainBut others) (String.ofList s)

/-! ## Hosts -/

/-- Does the text look like an address of four numbers, however large they are? -/
def looksLikeV4 (s : List Char) : Bool :=
  let parts := s.splitOnP (· = '.')
  parts.length = 4 && parts.all fun part => !part.isEmpty && part.all Char.isDigit

/-- The normal form of the host that a text stands for. -/
def hostOf (s : List Char) : Except Error String :=
  let text := String.ofList s
  if s.isEmpty then .ok ""
  else if looksLikeV4 s then
    if IpAddress.isV4 s then .ok text else .error (.ipv4 text)
  else if s.head? = some '[' ∧ s.getLast? = some ']' then
    let address := s.tail.dropLast
    if IpAddress.isV6 address then .ok (String.ofList address) else .error (.ipv6 text)
  else if s.all (·.toNat < 0x80) then .ok (escaped escapedInHost (s.map Char.toLower))
  else match Idna.Domain.encode (Lower.ofText text).toList with
    | .ok name => .ok (String.ofList name)
    | .error _ => .error (.hostName text)

/-! ## Ports and paths -/

/-- The port that is meant where none is given. -/
def usualPort : Int := 80

/-- The port that a text stands for; none for the usual one and for no text. -/
def portOf (s : List Char) : Except Error (Option Int) :=
  let text := String.ofList s
  if s.isEmpty then .ok none
  else match Numeral.read? text with
    | some port => .ok (if port = usualPort then none else some port)
    | none => .error (.port text)

/-- The steps of a path after those in `done`, last first, without detours: a step of one dot
stays, a step of two dots goes back, but not before the beginning. -/
def stepsFrom (done : List (List Char)) : List (List Char) → List (List Char)
  | [] => done.reverse
  | step :: steps =>
    if step = ['.'] then stepsFrom done steps
    else if step = ['.', '.'] then stepsFrom (if done = [[]] then done else done.tail) steps
    else stepsFrom (step :: done) steps

/-- The path that leads to the same place without detours. -/
def straightened (path : List Char) : List Char :=
  ['/'].intercalate (stepsFrom [] (path.splitOnP (· = '/')))

/-! ## Reading -/

/-- What stands before the first character that ends a part, and what follows from there. -/
def splitBefore (ends : Char → Bool) (s : List Char) : List Char × List Char :=
  (s.takeWhile (!ends ·), s.dropWhile (!ends ·))

/-- The part behind a mark, if the mark stands at the front. -/
def behind? (mark : Char) : List Char → Option (List Char)
  | c :: s => if c = mark then some s else none
  | [] => none

/-- The host at the front and what follows it. An address in brackets reaches to the last closing
one. -/
def splitHost (s : List Char) : List Char × List Char :=
  match s with
  | '[' :: _ =>
    let size := s.length - (s.reverse.takeWhile (· ≠ ']')).length
    if size = 0 then splitBefore (· = ':') s else (s.take size, s.drop size)
  | _ => splitBefore (· = ':') s

/-- The address whose text continues so after the name of the protocol. -/
def parseParts (s : List Char) : Except Error Url := do
  let (authority, rest) := splitBefore (fun c => c = '/' || c = '?' || c = '#') s
  let (path, rest) := splitBefore (fun c => c = '?' || c = '#') rest
  let (query, rest) := splitBefore (· = '#') rest
  let place := (authority.reverse.takeWhile (· ≠ '@')).reverse
  let userinfo := authority.take (authority.length - place.length - 1)
  let (host, port) := splitHost place
  let host ← hostOf host
  let port ← portOf ((behind? ':' port).getD port)
  return {
    userinfo := escaped escapedInUserinfo userinfo
    host, port
    path := escaped escapedInPath (straightened path)
    query := (behind? '?' query).map (escaped escapedInQuery)
    fragment := (behind? '#' rest).map (escaped escapedInFragment) }

/-- The name of the protocol at the front of an address. -/
def lead : String := "http://"

/-- The longest text of an address. -/
def maxLength : Nat := 65536

/-- Is the address relative? It then names no host, whatever else stands in its place. -/
def isRelative (url : Url) : Bool := url.host = ""

/-- The path that a relative address asks for, behind a single slash. -/
def relativePath (url : Url) : String := "/" ++ String.ofList (url.path.toList.dropWhile (· = '/'))

/-- Refuses a relative address with a part that grew over the limit by its escapes. Such an
address is put together anew from its parts, so each of them has to be within it. -/
def checkParts (url : Url) : Except Error Url :=
  if !url.isRelative then .ok url
  else if maxLength < url.relativePath.length then .error .longPath
  else if maxLength < (url.query.getD "").length then .error .longQuery
  else .ok url

/-- Is it an ASCII control character? -/
def isControl (c : Char) : Bool := c.toNat < 0x20 || c.toNat = 0x7F

/-- The address that a text stands for, which follows the name of the protocol. -/
def parse (text : String) : Except Error Url :=
  let chars := lead.toList ++ text.toList
  if maxLength < chars.length then .error .tooLong
  else match chars.findIdx? isControl with
    | some position => .error (.control (chars.getD position ' ') position)
    | none => parseParts text.toList >>= checkParts

/-! ## Writing -/

/-- The host and the port of an address. An address of hexadecimal numbers stands in brackets. -/
def place (url : Url) : String :=
  (if url.host.toList.contains ':' then "[" ++ url.host ++ "]" else url.host)
    ++ (match url.port with
      | some port => ":" ++ toString port
      | none => "")

/-- The query of an address behind its mark. -/
def markedQuery (url : Url) : String :=
  match url.query with
  | some query => "?" ++ query
  | none => ""

/-- The text of an address as it is asked for. Of a relative one only its path and its query are
left. -/
def text (url : Url) : String :=
  if url.isRelative then url.relativePath ++ url.markedQuery
  else lead ++ (if url.userinfo = "" then "" else url.userinfo ++ "@") ++ url.place ++ url.path
    ++ url.markedQuery
    ++ (match url.fragment with
      | some fragment => "#" ++ fragment
      | none => "")

/-- The user and the password in an address, if one of them is not empty. A relative address has
none. -/
def credentials? (url : Url) : Option (String × String) :=
  let chars := url.userinfo.toList
  let user := Percent.decode (String.ofList (chars.takeWhile (· ≠ ':')))
  let password := Percent.decode (String.ofList ((chars.dropWhile (· ≠ ':')).tail))
  if url.isRelative ∨ user = "" ∧ password = "" then none else some (user, password)

/-! ## The host that is asked -/

/-- Why a request for an address cannot name its host. -/
inductive HostError where
  /-- The name was sent for no domain name. -/
  | domain (e : Idna.DomainError)
  | ascii (e : Ascii.EncodeError)
deriving DecidableEq, Repr

/-- What went wrong, in words. -/
def HostError.message : HostError → String
  | .domain e => e.message
  | .ascii e => e.message

/-- Checks that a request for an address can name its host. If the name begins like the ASCII form
of a label, it must be that of a domain name. -/
def checkHost (url : Url) : Except HostError Unit := do
  let name := url.host.toList
  if Idna.Label.lead.isPrefixOf name then
    let _ ← (Idna.Domain.decode name).mapError .domain
  let _ ← (Ascii.encode url.place).mapError .ascii
  return ()

end Url
end OpReturn
