import OpReturn.Hash.Ripemd160
import OpReturn.Hash.Sha256
import OpReturn.Secp256k1.Key
import OpReturn.Text.Base58

/-!
# Addresses

An address is the Base58Check text of a version byte and a key hash. Writing one takes a public or
a secret key; reading one gives back what follows the version byte.
-/

namespace OpReturn

open Secp256k1

/-- The key hash: RIPEMD-160 of SHA-256. -/
def hash160 (message : Bytes) : Bytes := ripemd160 (sha256 message)

@[simp] theorem length_hash160 (message : Bytes) : (hash160 message).length = 20 := by
  simp [hash160]

namespace Address

/-- The version byte of an address: test networks have one of their own. -/
def version (testnet : Bool) : UInt8 := if testnet then 0x6F else 0x00

/-- The address of a key hash. -/
def ofHash (testnet : Bool) (hash : Bytes) : String := Base58.encodeCheck (version testnet :: hash)

/-- Why a key has no address. -/
inductive KeyError where
  | publicLength
  | publicKey
  | secretLength
  | secretKey
deriving DecidableEq, Repr

/-- What went wrong, in words. -/
def KeyError.message : KeyError → String
  | .publicLength => "public key must be 33 (compressed) or 65 (uncompressed) bytes"
  | .publicKey => "invalid public key"
  | .secretLength => "secret key must be 32 bytes"
  | .secretKey => "invalid secret key"

/-- The address of a public key given in bytes. It hashes the compressed form of a key given in 33
bytes and the plain form of one given in 65. -/
def ofPublicKey (testnet : Bool) (key : Bytes) : Except KeyError String :=
  if key.length ≠ 33 ∧ key.length ≠ 65 then .error .publicLength
  else match Affine.ofBytes? key with
    | none => .error .publicKey
    | some point => .ok (ofHash testnet (hash160 (point.bytes (key.length = 33))))

/-- The address of a secret key given in bytes, for the compressed or the plain form of its public
key. -/
def ofSecretKey (testnet compressed : Bool) (key : Bytes) : Except KeyError String :=
  if key.length ≠ 32 then .error .secretLength
  else match (SecretKey.ofBytes? key).bind SecretKey.publicKey? with
    | none => .error .secretKey
    | some point => .ok (ofHash testnet (hash160 (point.bytes compressed)))

/-- Does the text look like an address: 25 to 34 base-58 digits, of which the first is `1`, `m` or
`n`? -/
def isPlausible (text : String) : Bool :=
  let chars := text.toList
  25 ≤ chars.length && chars.length ≤ 34 && chars.all (fun c => (Base58.digit? c).isSome)
    && (match chars with
      | c :: _ => c = '1' || c = 'm' || c = 'n'
      | [] => false)

/-- What an address carries after its version byte; `none` if the text is no address. -/
def decode (text : String) : Option Bytes :=
  if isPlausible text then (Base58.decodeCheck text).map (·.drop 1) else none

end Address
end OpReturn
