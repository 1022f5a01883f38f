import OpReturn.Hash.Sha256

/-!
# Base58Check

Bytes as a number in base 58, with one digit `1` for each zero byte in front. The checked form
carries four bytes of a double digest at the end.
-/

namespace OpReturn.Base58

/-- The digits, in the order of their values: no `0`, `O`, `I` and `l`. -/
def alphabet : List Char := "123456789ABCDEFGHJKLMNPQRSTUVWXYZabcdefghijkmnopqrstuvwxyz".toList

/-- The value of a digit. -/
def digit? (c : Char) : Option Nat := alphabet.idxOf? c

/-- The digits of a positive number after those in `acc`; none for zero. -/
def digitsFrom (acc : List Char) (n : Nat) : List Char :=
  if n = 0 then acc else digitsFrom (alphabet.getD (n % 58) '1' :: acc) (n / 58)
termination_by n

/-- The bytes of a positive number, most significant first, after those in `acc`; none for
zero. -/
def bytesFrom (acc : Bytes) (n : Nat) : Bytes :=
  if n = 0 then acc else bytesFrom (UInt8.ofNat n :: acc) (n / 256)
termination_by n

/-- The base-58 text of some bytes. -/
def encode (s : Bytes) : String :=
  let zeros := (s.takeWhile (· = 0)).length
  String.ofList (List.replicate zeros '1' ++ digitsFrom [] (Bytes.toNatBE s))

/-- The bytes of a base-58 text; `none` if it holds anything but digits. -/
def decode (text : String) : Option Bytes := do
  let values ← text.toList.mapM digit?
  let zeros := (values.takeWhile (· = 0)).length
  return List.replicate zeros 0 ++ bytesFrom [] (values.foldl (fun n v => 58 * n + v) 0)

/-- The first four bytes of the double digest. -/
def checksum (s : Bytes) : Bytes := (sha256d s).take 4

/-- The base-58 text of some bytes and their checksum. -/
def encodeCheck (s : Bytes) : String := encode (s ++ checksum s)

/-- The bytes before the checksum of a base-58 text, if the checksum is theirs. -/
def decodeCheck (text : String) : Option Bytes := do
  let s ← decode text
  let body := s.take (s.length - 4)
  if s.drop (s.length - 4) = checksum body then return body else none

end OpReturn.Base58
