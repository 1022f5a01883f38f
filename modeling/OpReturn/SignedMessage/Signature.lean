import OpReturn.Secp256k1.Signature
import OpReturn.SignedMessage.Address
import OpReturn.Text.Base64
import OpReturn.Text.Utf8

/-!
# Signed messages

A message is signed over the double digest of a magic text and the message, each behind its
length. The compact signature has 65 bytes: a header that holds the recovery number and whether
the signer's key is compressed, and the two halves of the signature. It travels raw or as base64
text.

* `SignedMessage.sign`: the compact signature of a message.
* `SignedMessage.recover?`: the public key that made a signature.
* `SignedMessage.verify`: does that key belong to an address? It answers for any input.
-/

namespace OpReturn

open Secp256k1

namespace SignedMessage

/-- The text that every signed message begins with. -/
def magic : Bytes := Utf8.encode "Bitcoin Signed Message:\n"

/-- The bytes whose double digest is signed. -/
def preimage (message : Bytes) : Bytes :=
  Varint.encode magic.length ++ magic ++ Varint.encode message.length ++ message

/-- The digest that is signed. -/
def digest (message : Bytes) : Bytes := sha256d (preimage message)

/-! ## Signing -/

/-- Why a message cannot be signed. -/
inductive SignError where
  | keyLength (size : Nat)
  | failed
deriving DecidableEq, Repr

/-- What went wrong, in words. -/
def SignError.message : SignError → String
  | .keyLength size => "Private key must be 32 bytes, got " ++ toString size
  | .failed => "recoverable signing failed"

/-- The header of a signature: 27, the recovery number, and four for a compressed key. -/
def header (recovery : Nat) (compressed : Bool) : UInt8 :=
  UInt8.ofNat (27 + recovery + if compressed then 4 else 0)

/-- The compact form of a signature. -/
def compact (σ : RecoverableSignature) (compressed : Bool) : Bytes :=
  header σ.recovery compressed :: (Bytes.ofNatBE 32 σ.r ++ Bytes.ofNatBE 32 σ.s)

/-- Signs a message with a secret key given in bytes. -/
def sign (key message : Bytes) (compressed : Bool) : Except SignError Bytes :=
  if key.length ≠ 32 then .error (.keyLength key.length)
  else match (SecretKey.ofBytes? key).bind fun key => key.sign? (digest message) with
    | none => .error .failed
    | some σ => .ok (compact σ compressed)

/-! ## Recovering and verifying -/

/-- The 65 raw bytes of a signature that is given raw or as base64 text. -/
def normalize? (signature : Bytes) : Option Bytes :=
  if signature.length = 65 then some signature
  else match Base64.decode signature with
    | .ok raw => if raw.length = 65 then some raw else none
    | .error _ => none

/-- The bytes of the public key that made a signature. -/
def recover? (signature message : Bytes) : Option Bytes :=
  match normalize? signature with
  | some (header :: halves) =>
    if 27 ≤ header ∧ header ≤ 34 then do
      let σ : RecoverableSignature :=
        ⟨Bytes.toNatBE (halves.take 32), Bytes.toNatBE (halves.drop 32), (header.toNat - 27) % 4⟩
      let point ← σ.recover? (digest message)
      return point.bytes (31 ≤ header)
    else none
  | _ => none

/-- Was the signature made over the message by the key that the address belongs to? -/
def verify (address : String) (signature message : Bytes) : Bool :=
  match Address.decode address with
  | none => false
  | some hash =>
    match recover? signature message with
    | none => false
    | some key => hash160 key = hash

end SignedMessage
end OpReturn
