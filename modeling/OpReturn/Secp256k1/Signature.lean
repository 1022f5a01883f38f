import OpReturn.Hash.Sha256
import OpReturn.Secp256k1.Key

/-!
# Recoverable signatures

A signature over a 32-byte digest comes with a number from 0 to 3 that picks, among the points
that fit it, the one the signer used, so that the public key can be computed back from the
signature and the digest (`RecoverableSignature.recover?`). The nonce is derived from the key and
the digest (RFC 6979), so signing is a function.
-/

namespace OpReturn.Secp256k1

/-- A signature with its recovery number: bit 0 is the parity of the nonce point's second
coordinate, bit 1 tells that its first coordinate is not below the group order. -/
structure RecoverableSignature where
  r : Nat
  s : Nat
  recovery : Nat
deriving DecidableEq, Repr

/-- The scalar that a digest stands for. -/
def digestScalar (digest : Bytes) : Scalar := Fin.ofNat n digest.toNatBE

/-! ## Nonces -/

/-- The two chained values of the nonce generator. -/
structure NonceState where
  key : Bytes
  value : Bytes

/-- Folds some data into the generator. -/
def NonceState.update (g : NonceState) (data : Bytes) : NonceState :=
  let key := hmacSha256 g.key (g.value ++ data)
  ⟨key, hmacSha256 key g.value⟩

/-- The generator for a key and a digest, with its first candidate in `value`. -/
def NonceState.initial (key digest : Bytes) : NonceState :=
  let seed := key ++ digest
  let g : NonceState := ⟨List.replicate 32 0, List.replicate 32 1⟩
  let g := (g.update (0 :: seed)).update (1 :: seed)
  { g with value := hmacSha256 g.key g.value }

/-- Moves on to the next candidate. -/
def NonceState.next (g : NonceState) : NonceState :=
  let g := g.update [0]
  { g with value := hmacSha256 g.key g.value }

/-! ## Signing -/

/-- The signature with nonce `k`, its second half in the lower half of the range; `none` if the
nonce cannot be used. -/
def signWith? (key : SecretKey) (digest : Bytes) (k : Scalar) : Option RecoverableSignature := do
  let R ← (generator.mul k).affine?
  let r : Scalar := Fin.ofNat n R.x.val
  let s := k.inv * (digestScalar digest + r * key.scalar)
  if r = 0 ∨ s = 0 then none
  else
    let recovery := (if n ≤ R.x.val then 2 else 0) + (if R.y.odd then 1 else 0)
    if s.val ≤ n / 2 then some ⟨r.val, s.val, recovery⟩
    else some ⟨r.val, (-s).val, if R.y.odd then recovery - 1 else recovery + 1⟩

/-- The signature with the first usable candidate among the next `attempts`. -/
def signFrom (key : SecretKey) (digest : Bytes) : (attempts : Nat) → NonceState →
    Option RecoverableSignature
  | 0, _ => none
  | attempts + 1, g =>
    match (scalar? g.value.toNatBE).bind (signWith? key digest) with
    | some signature => some signature
    | none => signFrom key digest attempts g.next

/-- Signs a digest. A candidate nonce is refused with a probability below `2 ^ -127`, so the bound
on their number is out of reach. -/
def SecretKey.sign? (key : SecretKey) (digest : Bytes) : Option RecoverableSignature :=
  signFrom key digest 64 (.initial key.bytes digest)

/-! ## Recovery -/

/-- The nonce point of a signature. -/
def RecoverableSignature.noncePoint? (σ : RecoverableSignature) : Option Affine :=
  let x := if 2 ≤ σ.recovery then σ.r + n else σ.r
  if h : x < p then Affine.ofX? ⟨x, h⟩ (σ.recovery % 2 = 1) else none

/-- The public key that made a signature over a digest. -/
def RecoverableSignature.recover? (σ : RecoverableSignature) (digest : Bytes) : Option Affine := do
  let r ← scalar? σ.r
  let s ← scalar? σ.s
  if r = 0 ∨ s = 0 then none
  else
    let R ← σ.noncePoint?
    let w := r.inv
    ((generator.mul (-(digestScalar digest * w))).add (R.point.mul (s * w))).affine?

end OpReturn.Secp256k1
