import Mathlib.Tactic.SplitIfs
import OpReturn.Proofs.Text.Base58
import OpReturn.Proofs.Text.Base64
import OpReturn.SignedMessage.Signature

/-!
# What the signer writes, the verifier reads

An address is read back as the key hash it was written from, and a compact signature as its
two halves and its recovery number. That the signature recovers the signer's key from the digest is
a property of the curve and only named here (`SecretKey.Signs`).

* `Address.decode_ofHash`: an address carries its key hash, on either network.
* `recover?_compact`: recovery sees the signature that was made.
* `verify_eq_true_iff`: what a signature is good for.
* `normalize?_eq_some_iff`, `verify_encode`: a signature is the same raw and as base64 text.
-/

namespace OpReturn

open Secp256k1

/-! ## Addresses -/

namespace Address

/-- The text of an address of the main network. Its first zero byte gives a `1`, every other byte
at least one digit, and all of them together at most 33. -/
theorem exists_ofHash {hash : Bytes} (h : hash.length = 20) :
    ∃ rest, (ofHash false hash).toList = '1' :: rest ∧ 24 ≤ rest.length ∧ rest.length ≤ 33 := by
  obtain ⟨z, rest, hs, hrest⟩ := Base58.exists_zeros 0 (0 :: hash ++ Base58.checksum (0 :: hash))
  have hz : z ≠ 0 := by
    rintro rfl
    rw [List.replicate_zero, List.nil_append] at hs
    exact hrest (hs ▸ rfl)
  have hlen : z + rest.length = 25 := by
    have := congrArg List.length hs
    rw [List.length_append, List.length_append, List.length_replicate, Base58.length_checksum,
      List.length_cons, h] at this
    exact this.symm
  obtain ⟨hmin, hmax⟩ := Base58.length_digits_bounds hrest
  have hmax : (Nat.digits 58 (Bytes.toNatBE rest)).length ≤ rest.length + 9 :=
    hmax _ ((by decide : ∀ k ≤ 24, 256 ^ k ≤ 58 ^ (k + 9)) rest.length (by omega))
  have htext : (ofHash false hash).toList = _ :=
    (congrArg (fun s => (Base58.encode s).toList) hs).trans (Base58.encode_zeros hrest z)
  obtain ⟨z, rfl⟩ := Nat.exists_eq_succ_of_ne_zero hz
  rw [List.replicate_succ, List.cons_append, List.map_cons] at htext
  refine ⟨_, htext, ?_⟩
  simp only [List.length_map, List.length_append, List.length_replicate, List.length_reverse]
  omega

/-- The text of a number between 44 and 46 times the same power of 58: its first digit is `m` or
`n`. -/
theorem exists_text_of_bounds {s : Bytes} (hs : s.head? ≠ some 0) {k : Nat}
    (hmin : 44 * 58 ^ k ≤ Bytes.toNatBE s) (hmax : Bytes.toNatBE s < 46 * 58 ^ k) :
    ∃ first rest, (Base58.encode s).toList = first :: rest ∧ (first = 'm' ∨ first = 'n') ∧
      rest.length = k := by
  have hlen : (Base58.encode s).length = k + 1 :=
    (Base58.length_encode_eq_iff hs).mpr ⟨by omega, by rw [Nat.pow_succ]; omega⟩
  have hfirst : Bytes.toNatBE s / 58 ^ k = 44 ∨ Bytes.toNatBE s / 58 ^ k = 45 := by
    have hpos : 0 < 58 ^ k := by positivity
    have hge := (Nat.le_div_iff_mul_le hpos).mpr hmin
    have hlt := (Nat.div_lt_iff_lt_mul hpos).mpr hmax
    omega
  obtain ⟨rest, htext, hrest⟩ := Base58.exists_first_symbol hs hlen
  refine ⟨_, rest, htext, ?_, hrest⟩
  rcases hfirst with h44 | h45
  · exact Or.inl ((congrArg Base58.symbol h44).trans (by decide))
  · exact Or.inr ((congrArg Base58.symbol h45).trans (by decide))

/-- The number of a version byte, a hash and their checksum. -/
def number (v : UInt8) (hash : Bytes) : Nat :=
  Bytes.toNatBE (v :: hash ++ Base58.checksum (v :: hash))

theorem number_bounds (v : UInt8) {hash : Bytes} (h : hash.length = 20) :
    v.toNat * 256 ^ 24 ≤ number v hash ∧ number v hash < (v.toNat + 1) * 256 ^ 24 := by
  have hrest : (hash ++ Base58.checksum (v :: hash)).length = 24 := by
    rw [List.length_append, h, Base58.length_checksum]
  have hcons := Bytes.toNatBE_cons v (hash ++ Base58.checksum (v :: hash))
  have hlow := Bytes.toNatBE_lt (hash ++ Base58.checksum (v :: hash))
  rw [hrest] at hcons hlow
  rw [number, List.cons_append, hcons]
  omega

/-- The text of an address of a test network: 34 digits, of which the first is `m` or `n`. -/
theorem exists_ofHash_testnet {hash : Bytes} (h : hash.length = 20) :
    ∃ first rest, (ofHash true hash).toList = first :: rest ∧ (first = 'm' ∨ first = 'n') ∧
      rest.length = 33 := by
  obtain ⟨hmin, hmax⟩ := number_bounds (version true) h
  have hhead : (version true :: hash ++ Base58.checksum (version true :: hash)).head? ≠ some 0 := by
    simp [version]
  exact exists_text_of_bounds hhead (Nat.le_trans (by decide) hmin)
    (Nat.lt_of_lt_of_le hmax (by decide))

variable {testnet : Bool} {hash : Bytes}

theorem isPlausible_ofHash (h : hash.length = 20) : isPlausible (ofHash testnet hash) = true := by
  have hdigits : ∀ c ∈ (ofHash testnet hash).toList, (Base58.digit? c).isSome = true :=
    fun _ => Base58.isSome_of_mem_encode
  obtain ⟨first, rest, htext, hfirst, hmin, hmax⟩ : ∃ first rest,
      (ofHash testnet hash).toList = first :: rest ∧ (first = '1' ∨ first = 'm' ∨ first = 'n') ∧
        24 ≤ rest.length ∧ rest.length ≤ 33 := by
    cases testnet with
    | false =>
      obtain ⟨rest, htext, hmin, hmax⟩ := exists_ofHash h
      exact ⟨'1', rest, htext, Or.inl rfl, hmin, hmax⟩
    | true =>
      obtain ⟨first, rest, htext, hfirst, hlen⟩ := exists_ofHash_testnet h
      exact ⟨first, rest, htext, Or.inr hfirst, by omega, by omega⟩
  rw [isPlausible]
  simp only [Bool.and_eq_true, decide_eq_true_eq, List.all_eq_true]
  refine ⟨⟨⟨?_, ?_⟩, hdigits⟩, ?_⟩ <;> rw [htext]
  · exact Nat.succ_le_succ hmin
  · exact Nat.succ_le_succ hmax
  · simpa [or_assoc] using hfirst

/-- **An address carries the key hash it was written from**, on either network. -/
theorem decode_ofHash (h : hash.length = 20) : decode (ofHash testnet hash) = some hash := by
  rw [decode, if_pos (isPlausible_ofHash h), ofHash, Base58.decodeCheck_encodeCheck]
  rfl

theorem ofSecretKey_eq_ok_iff {compressed : Bool} {key : Bytes} {address : String} :
    ofSecretKey testnet compressed key = .ok address ↔ ∃ secret point,
      SecretKey.ofBytes? key = some secret ∧ secret.publicKey? = some point ∧
        address = ofHash testnet (hash160 (point.bytes compressed)) := by
  unfold ofSecretKey
  split_ifs with hlen
  · have hnone : SecretKey.ofBytes? key = none := by rw [SecretKey.ofBytes?, if_pos hlen]
    simp [hnone]
  · cases SecretKey.ofBytes? key with
    | none => simp
    | some secret => cases hpoint : secret.publicKey? <;> simp [hpoint, eq_comm]

end Address

/-! ## Signatures -/

namespace Secp256k1

/-- The halves are scalars, and the recovery number is one of four. -/
structure RecoverableSignature.WellFormed (σ : RecoverableSignature) : Prop where
  r : σ.r < n
  s : σ.s < n
  recovery : σ.recovery < 4

theorem wellFormed_of_signWith? {key : SecretKey} {digest : Bytes} {k : Scalar}
    {σ : RecoverableSignature} (h : signWith? key digest k = some σ) : σ.WellFormed := by
  obtain ⟨R, -, h⟩ := Option.bind_eq_some_iff.mp h
  dsimp only at h
  generalize k.inv * (digestScalar digest + Fin.ofNat n R.x.val * key.scalar) = s at h
  generalize Fin.ofNat n R.x.val = r at h
  split_ifs at h
  all_goals
    obtain rfl := Option.some.inj h
    refine ⟨r.isLt, ?_, by simp⟩
    first
      | exact s.isLt
      | exact (-s).isLt

theorem wellFormed_of_signFrom {key : SecretKey} {digest : Bytes} {attempts : Nat}
    {g : NonceState} {σ : RecoverableSignature} (h : signFrom key digest attempts g = some σ) :
    σ.WellFormed := by
  induction attempts generalizing g with
  | zero => exact nomatch h
  | succ attempts ih =>
    rw [signFrom] at h
    split at h
    · rename_i found hfound
      obtain ⟨k, -, hsign⟩ := Option.bind_eq_some_iff.mp hfound
      exact wellFormed_of_signWith? (hsign.trans h)
    · exact ih h

/-- The key makes a signature over the digest, which recovers its public key from it. -/
def SecretKey.Signs (key : SecretKey) (digest : Bytes) : Prop :=
  ∃ σ point, key.sign? digest = some σ ∧ key.publicKey? = some point ∧
    σ.recover? digest = some point

/-- Whether it does is found out by signing and recovering. -/
instance (key : SecretKey) (digest : Bytes) : Decidable (key.Signs digest) :=
  decidable_of_iff (((key.sign? digest).any fun σ => key.publicKey?.any fun point =>
    σ.recover? digest = some point) = true) (by
      simp only [SecretKey.Signs, Option.any_eq_true, decide_eq_true_eq]
      constructor
      · rintro ⟨σ, hσ, point, hpoint, hrecover⟩
        exact ⟨σ, point, hσ, hpoint, hrecover⟩
      · rintro ⟨σ, point, hσ, hpoint, hrecover⟩
        exact ⟨σ, hσ, point, hpoint, hrecover⟩)

end Secp256k1

namespace SignedMessage

theorem length_compact (σ : RecoverableSignature) (compressed : Bool) :
    (compact σ compressed).length = 65 := by
  simp [compact]

theorem header_spec {recovery : Nat} (h : recovery < 4) (compressed : Bool) :
    (27 ≤ header recovery compressed ∧ header recovery compressed ≤ 34) ∧
      ((header recovery compressed).toNat - 27) % 4 = recovery ∧
      decide (31 ≤ header recovery compressed) = compressed := by
  have hall : ∀ recovery < 4, ∀ compressed : Bool,
      (27 ≤ header recovery compressed ∧ header recovery compressed ≤ 34) ∧
        ((header recovery compressed).toNat - 27) % 4 = recovery ∧
        decide (31 ≤ header recovery compressed) = compressed := by
    decide
  exact hall recovery h compressed

/-- **Recovery sees the signature that was made.** -/
theorem recover?_compact {σ : RecoverableSignature} (h : σ.WellFormed) (compressed : Bool)
    (message : Bytes) :
    recover? (compact σ compressed) message =
      (σ.recover? (digest message)).map fun point => point.bytes compressed := by
  obtain ⟨hrange, hrecovery, hcompressed⟩ := header_spec h.recovery compressed
  have hn : n < Bytes.room 32 := by decide
  have hr : Bytes.toNatBE (Bytes.ofNatBE 32 σ.r) = σ.r :=
    Bytes.toNatBE_ofNatBE (Nat.lt_trans h.r hn)
  have hs : Bytes.toNatBE (Bytes.ofNatBE 32 σ.s) = σ.s :=
    Bytes.toNatBE_ofNatBE (Nat.lt_trans h.s hn)
  have hlen : (Bytes.ofNatBE 32 σ.r).length = 32 := Bytes.length_ofNatBE 32 σ.r
  rw [recover?, normalize?, if_pos (length_compact σ compressed), compact]
  dsimp only
  rw [if_pos hrange, List.take_left' hlen, List.drop_left' hlen, hr, hs, hrecovery, hcompressed]
  cases σ.recover? (digest message) with
  | none => rfl
  | some point => rfl

theorem sign_eq_ok_iff {key message signature : Bytes} {compressed : Bool} :
    sign key message compressed = .ok signature ↔ ∃ secret σ,
      SecretKey.ofBytes? key = some secret ∧ secret.sign? (digest message) = some σ ∧
        signature = compact σ compressed := by
  have hbind : ∀ σ, ((SecretKey.ofBytes? key).bind fun secret => secret.sign? (digest message)) =
      some σ ↔ ∃ secret, SecretKey.ofBytes? key = some secret ∧
        secret.sign? (digest message) = some σ := fun _ => Option.bind_eq_some_iff
  unfold sign
  generalize ((SecretKey.ofBytes? key).bind fun secret => secret.sign? (digest message)) = made
    at hbind ⊢
  split_ifs with hlen
  · have hnone : SecretKey.ofBytes? key = none := by rw [SecretKey.ofBytes?, if_pos hlen]
    simp [hnone]
  · cases made with
    | none =>
      constructor
      · exact fun h => nomatch h
      · rintro ⟨secret, σ, hsecret, hσ, -⟩
        exact nomatch (hbind σ).mpr ⟨secret, hsecret, hσ⟩
    | some σ =>
      constructor
      · intro h
        obtain ⟨secret, hsecret, hσ⟩ := (hbind σ).mp rfl
        exact ⟨secret, σ, hsecret, hσ, (Except.ok.inj h).symm⟩
      · rintro ⟨secret, σ', hsecret, hσ, rfl⟩
        obtain rfl := Option.some.inj ((hbind σ').mpr ⟨secret, hsecret, hσ⟩)
        rfl

theorem verify_eq_true_iff {address : String} {signature message : Bytes} :
    verify address signature message = true ↔ ∃ key,
      recover? signature message = some key ∧ Address.decode address = some (hash160 key) := by
  unfold verify
  cases Address.decode address with
  | none => simp
  | some hash => cases recover? signature message <;> simp [eq_comm]

/-! ## Raw bytes and base64 text -/

/-- What is read of a signature has 65 bytes: those that are given, or those that they are the
base64 text of if there is another number of them. -/
theorem normalize?_eq_some_iff {signature raw : Bytes} : normalize? signature = some raw ↔
    raw.length = 65 ∧
      (signature = raw ∨ signature.length ≠ 65 ∧ Base64.decode signature = .ok raw) := by
  unfold normalize?
  split_ifs with hlen
  · rw [Option.some_inj]
    constructor
    · rintro rfl
      exact ⟨hlen, Or.inl rfl⟩
    · rintro ⟨-, rfl | ⟨hne, -⟩⟩
      · rfl
      · exact absurd hlen hne
  · have hne : raw.length = 65 → signature ≠ raw := by
      rintro h rfl
      exact hlen h
    cases hdecode : Base64.decode signature with
    | error e => simpa using hne
    | ok bytes =>
      constructor
      · intro h
        obtain ⟨hbytes, h⟩ := Option.ite_none_right_eq_some.mp h
        obtain rfl := Option.some.inj h
        exact ⟨hbytes, Or.inr ⟨hlen, rfl⟩⟩
      · rintro ⟨hraw, h | ⟨-, h⟩⟩
        · exact absurd h (hne hraw)
        · obtain rfl := Except.ok.inj h
          exact if_pos hraw

/-- The base64 text of 65 bytes is too long to be taken for a raw signature. -/
theorem normalize?_encode {raw : Bytes} (h : raw.length = 65) :
    normalize? (Base64.encode raw) = some raw := by
  have hlen : (Base64.encode raw).length ≠ 65 := by
    rw [Base64.length_encode, h]
    decide
  exact normalize?_eq_some_iff.mpr ⟨h, Or.inr ⟨hlen, Base64.decode_encode raw⟩⟩

theorem recover?_encode {raw : Bytes} (h : raw.length = 65) (message : Bytes) :
    recover? (Base64.encode raw) message = recover? raw message := by
  rw [recover?, recover?, normalize?_encode h, normalize?_eq_some_iff.mpr ⟨h, Or.inl rfl⟩]

theorem verify_encode {signature : Bytes} (h : signature.length = 65) (address : String)
    (message : Bytes) :
    verify address (Base64.encode signature) message = verify address signature message := by
  rw [verify, verify, recover?_encode h]

end SignedMessage

end OpReturn
