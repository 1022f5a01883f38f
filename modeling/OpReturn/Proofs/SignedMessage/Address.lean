import OpReturn.Proofs.Secp256k1.Key
import OpReturn.Proofs.Secp256k1.Order
import OpReturn.Proofs.SignedMessage.Signed

/-!
# What addresses carry

The address of a public key is the Base58Check text of a version byte and the hash of the key, and
it is read by its looks: 25 to 34 digits, the first `1`, `m` or `n`, with the right checksum.

**Theorem (`decode_ofPublicKey`).** The keys that have an address are the written points of the
curve, in one of three forms. On both networks the address carries the hash of the point, written in
the compressed or in the plain form, and so does any text of one of their two version bytes and a
hash.

**Theorem (`decode_some_iff`).** Whatever looks like an address and has the right checksum is read,
and the version byte is dropped unseen. A text of a version byte and twenty bytes more looks like an
address if the version byte is zero or the number of its bytes begins with the right digit. All
numbers with a version byte from `0x6E` to `0x71` do, and some with its neighbours and with `0x01`.
-/

namespace OpReturn

open Secp256k1

namespace Address

/-! ## Looks -/

theorem isPlausible_iff {text : String} : isPlausible text = true ↔
    (25 ≤ text.length ∧ text.length ≤ 34) ∧ (∀ c ∈ text.toList, (Base58.digit? c).isSome = true) ∧
      ∃ c ∈ text.toList.head?, c = '1' ∨ c = 'm' ∨ c = 'n' := by
  rw [isPlausible, ← String.length_toList]
  cases htext : text.toList with
  | nil => simp
  | cons c rest => simp [and_assoc, or_assoc]

theorem isPlausible_encode_iff {s : Bytes} : isPlausible (Base58.encode s) = true ↔
    (25 ≤ (Base58.encode s).length ∧ (Base58.encode s).length ≤ 34) ∧
      ∃ c ∈ (Base58.encode s).toList.head?, c = '1' ∨ c = 'm' ∨ c = 'n' := by
  rw [isPlausible_iff]
  constructor
  · rintro ⟨hlen, -, hfirst⟩
    exact ⟨hlen, hfirst⟩
  · rintro ⟨hlen, hfirst⟩
    exact ⟨hlen, fun _ => Base58.isSome_of_mem_encode, hfirst⟩

theorem not_isPlausible_nil : isPlausible (Base58.encodeCheck []) = false := by decide +kernel

/-- **A text is read if it looks like an address and has the right checksum**; a version byte is
always there. -/
theorem decode_eq_some_iff {text : String} {hash : Bytes} : decode text = some hash ↔
    isPlausible text = true ∧ ∃ v, text = Base58.encodeCheck (v :: hash) := by
  unfold decode
  constructor
  · intro h
    split_ifs at h with hlooks
    obtain ⟨body, hbody, rfl⟩ := Option.map_eq_some_iff.mp h
    obtain rfl := Base58.decodeCheck_eq_some_iff.mp hbody
    cases body with
    | nil => exact absurd (not_isPlausible_nil.symm.trans hlooks) Bool.false_ne_true
    | cons v hash => exact ⟨hlooks, v, rfl⟩
  · rintro ⟨hlooks, v, rfl⟩
    rw [if_pos hlooks, Base58.decodeCheck_encodeCheck]
    rfl

/-! ## Version bytes -/

/-- The text of a version byte and twenty bytes begins as an address does: with a `1` for the
version byte zero, or else with the digit 44 or 45, which are `m` and `n`. -/
def Begins (v : UInt8) (hash : Bytes) : Prop :=
  v = 0 ∨ ∃ k, (k = 32 ∨ k = 33) ∧ 44 * 58 ^ k ≤ number v hash ∧ number v hash < 46 * 58 ^ k

/-- Of the digits from 1 on, 44 and 45 are written as an address begins. -/
theorem first_digit_of_letter {d : Nat} (h : d < 58) (hpos : 1 ≤ d)
    (hletter : Base58.symbol d = '1' ∨ Base58.symbol d = 'm' ∨ Base58.symbol d = 'n') :
    d = 44 ∨ d = 45 :=
  (by decide : ∀ d < 58, 1 ≤ d → Base58.symbol d = '1' ∨ Base58.symbol d = 'm' ∨
    Base58.symbol d = 'n' → d = 44 ∨ d = 45) d h hpos hletter

section Version

variable {v : UInt8} {hash : Bytes} (h : hash.length = 20)
include h

theorem isPlausible_of_begins (hbegins : Begins v hash) :
    isPlausible (Base58.encodeCheck (v :: hash)) = true := by
  by_cases hv : v = 0
  · subst hv
    have hmain : isPlausible (ofHash false hash) = true := isPlausible_ofHash h
    exact hmain
  obtain ⟨k, hk, hmin, hmax⟩ := hbegins.resolve_left hv
  have hhead : (v :: hash ++ Base58.checksum (v :: hash)).head? ≠ some 0 := by simpa using hv
  obtain ⟨first, rest, htext, hfirst, hlen⟩ := exists_text_of_bounds hhead hmin hmax
  have hlength := congrArg List.length htext
  rw [List.length_cons, hlen, String.length_toList] at hlength
  refine isPlausible_encode_iff.mpr ⟨?_, first, by rw [htext]; rfl, Or.inr hfirst⟩
  rw [hlength]
  omega

theorem le_of_number_lt (hv : v ≠ 0) {k : Nat} (hmax : number v hash < 46 * 58 ^ k) : 32 ≤ k := by
  by_contra hk
  have hone : 1 ≤ v.toNat := by
    rw [Nat.one_le_iff_ne_zero]
    exact fun hzero => hv (UInt8.toNat_inj.mp hzero)
  have hlarge : 46 * 58 ^ k ≤ v.toNat * 256 ^ 24 :=
    calc 46 * 58 ^ k ≤ 46 * 58 ^ 31 :=
          Nat.mul_le_mul_left _ (Nat.pow_le_pow_right (by decide) (by omega))
      _ ≤ 1 * 256 ^ 24 := by decide
      _ ≤ v.toNat * 256 ^ 24 := Nat.mul_le_mul_right _ hone
  exact absurd hmax (Nat.not_lt.mpr (hlarge.trans (number_bounds v h).1))

/-- **What looks like an address begins as one**: other numbers of twenty-five bytes have too many
digits or another first one. -/
theorem begins_of_isPlausible (hlooks : isPlausible (Base58.encodeCheck (v :: hash)) = true) :
    Begins v hash := by
  by_cases hv : v = 0
  · exact Or.inl hv
  have hhead : (v :: hash ++ Base58.checksum (v :: hash)).head? ≠ some 0 := by simpa using hv
  obtain ⟨⟨hshort, hlong⟩, first, hfirst, hletter⟩ := isPlausible_encode_iff.mp hlooks
  obtain ⟨k, hk⟩ := Nat.exists_eq_succ_of_ne_zero (Nat.ne_zero_of_lt hshort)
  obtain ⟨hmin, hmax⟩ := (Base58.length_encode_eq_iff hhead).mp hk
  obtain ⟨rest, htext, -⟩ := Base58.exists_first_symbol hhead hk
  rw [htext, List.head?_cons, Option.mem_some_iff] at hfirst
  obtain rfl := hfirst
  rw [← number] at hmin hmax hletter
  have hpos : 0 < 58 ^ k := by positivity
  have hone : 1 ≤ number v hash / 58 ^ k := (Nat.one_le_div_iff hpos).mpr hmin
  have h58 : number v hash / 58 ^ k < 58 := by
    rw [Nat.div_lt_iff_lt_mul hpos, Nat.mul_comm, ← Nat.pow_succ]
    exact hmax
  have hdigit := first_digit_of_letter h58 hone hletter
  have hlow : 44 * 58 ^ k ≤ number v hash := (Nat.le_div_iff_mul_le hpos).mp (by omega)
  have hhigh : number v hash < 46 * 58 ^ k := (Nat.div_lt_iff_lt_mul hpos).mp (by omega)
  have hmany : 32 ≤ k := le_of_number_lt h hv hhigh
  have hfew : k + 1 ≤ 34 := hk.symm.trans_le hlong
  exact Or.inr ⟨k, by omega, hlow, hhigh⟩

theorem begins_of_version (hv : v = 0 ∨ (0x6E ≤ v ∧ v ≤ 0x71)) : Begins v hash := by
  by_cases hzero : v = 0
  · exact Or.inl hzero
  obtain ⟨hmin, hmax⟩ := hv.resolve_left hzero
  rw [UInt8.le_iff_toNat_le] at hmin hmax
  obtain ⟨hlow, hhigh⟩ := number_bounds v h
  refine Or.inr ⟨33, Or.inr rfl, ?_, ?_⟩
  · exact Nat.le_trans (Nat.le_trans (by decide) (Nat.mul_le_mul_right _ hmin)) hlow
  · exact Nat.lt_of_lt_of_le hhigh
      (Nat.le_trans (Nat.mul_le_mul_right _ (Nat.succ_le_succ hmax)) (by decide))

theorem version_of_begins (hbegins : Begins v hash) :
    v = 0 ∨ v = 1 ∨ (0x6D ≤ v ∧ v ≤ 0x72) := by
  obtain ⟨hlow, hhigh⟩ := number_bounds v h
  have hbelow {m : Nat} (hm : number v hash < m * 256 ^ 24) : v.toNat < m :=
    Nat.lt_of_mul_lt_mul_right (Nat.lt_of_le_of_lt hlow hm)
  have habove {m : Nat} (hm : m * 256 ^ 24 ≤ number v hash) : m ≤ v.toNat :=
    Nat.le_of_lt_succ (Nat.lt_of_mul_lt_mul_right (Nat.lt_of_le_of_lt hm hhigh))
  rcases hbegins with hzero | ⟨k, rfl | rfl, hmin, hmax⟩
  · exact Or.inl hzero
  · have h2 : v.toNat < 2 := hbelow (hmax.trans_le (by decide))
    rw [← UInt8.toNat_inj, ← UInt8.toNat_inj (b := 1)]
    exact (by omega : v.toNat = 0 ∨ v.toNat = 1).imp_right Or.inl
  · have hmin : 0x6D ≤ v.toNat := habove (Nat.le_trans (by decide) hmin)
    have hmax : v.toNat < 0x73 := hbelow (hmax.trans_le (by decide))
    exact Or.inr (Or.inr ⟨UInt8.le_iff_toNat_le.mpr hmin,
      UInt8.le_iff_toNat_le.mpr (Nat.le_of_lt_succ hmax)⟩)

end Version

/-! ## Addresses of keys -/

theorem ofPublicKey_eq_ok_iff {testnet : Bool} {key : Bytes} {address : String} :
    ofPublicKey testnet key = .ok address ↔ ∃ (point : Affine) (compressed : Bool),
      point.onCurve = true ∧ point.WrittenAs compressed key ∧
        address = ofHash testnet (hash160 (point.bytes compressed)) := by
  have hform {point : Affine} {compressed : Bool} (h : point.WrittenAs compressed key) :
      (key.length = 33 ∨ key.length = 65) ∧ decide (key.length = 33) = compressed := by
    rw [h.length]
    cases compressed <;> decide
  unfold ofPublicKey
  constructor
  · intro h
    split_ifs at h with hlen
    cases hpoint : Affine.ofBytes? key with
    | none =>
      rw [hpoint] at h
      exact nomatch h
    | some point =>
      rw [hpoint] at h
      obtain ⟨hcurve, compressed, hwritten⟩ := Affine.ofBytes?_eq_some_iff.mp hpoint
      refine ⟨point, compressed, hcurve, hwritten, ?_⟩
      rw [← (hform hwritten).2]
      exact (Except.ok.inj h).symm
  · rintro ⟨point, compressed, hcurve, hwritten, rfl⟩
    obtain ⟨hlen, hcompressed⟩ := hform hwritten
    rw [if_neg (by omega), Affine.ofBytes?_eq_some_iff.mpr ⟨hcurve, compressed, hwritten⟩]
    dsimp only
    rw [hcompressed]

/-- **The addresses of a key carry the hash of the key**, the same on both networks. So does any
text of one of their version bytes and a hash. -/
theorem decode_ofPublicKey :
    (∀ (point : Affine) (compressed : Bool) (key : Bytes), point.onCurve = true →
      point.WrittenAs compressed key → ∀ testnet, ∃ address,
        ofPublicKey testnet key = .ok address ∧
        decode address = some (hash160 (point.bytes compressed)) ∧
        (hash160 (point.bytes compressed)).length = 20) ∧
    (∀ (testnet : Bool) (key : Bytes) (address : String), ofPublicKey testnet key = .ok address →
      ∃ (point : Affine) (compressed : Bool), point.onCurve = true ∧
        point.WrittenAs compressed key) ∧
    ∀ (v : UInt8) (hash : Bytes), v = 0x00 ∨ v = 0x6F → hash.length = 20 →
      decode (Base58.encodeCheck (v :: hash)) = some hash := by
  refine ⟨?_, ?_, ?_⟩
  · intro point compressed key hcurve hwritten testnet
    have hlen := length_hash160 (point.bytes compressed)
    exact ⟨_, ofPublicKey_eq_ok_iff.mpr ⟨point, compressed, hcurve, hwritten, rfl⟩,
      decode_ofHash hlen, hlen⟩
  · intro testnet key address h
    obtain ⟨point, compressed, hcurve, hwritten, -⟩ := ofPublicKey_eq_ok_iff.mp h
    exact ⟨point, compressed, hcurve, hwritten⟩
  · have hboth (testnet : Bool) {hash : Bytes} (h : hash.length = 20) :
        decode (Base58.encodeCheck (version testnet :: hash)) = some hash := decode_ofHash h
    rintro v hash (rfl | rfl) h
    · exact hboth false h
    · exact hboth true h

/-- The generator in the hybrid form, whose address hashes the plain one. -/
theorem decode_ofPublicKey_hybrid : ∃ address,
    ofPublicKey true (6 :: (base.x.bytes ++ base.y.bytes)) = .ok address ∧
      decode address = some (hash160 (base.bytes false)) := by
  have hwritten : base.WrittenAs false (6 :: (base.x.bytes ++ base.y.bytes)) := .hybrid
  obtain ⟨address, haddress, hdecode, -⟩ :=
    decode_ofPublicKey.1 base false _ onCurve_base hwritten true
  exact ⟨address, haddress, hdecode⟩

/-! ## What is taken for an address -/

/-- **What is read as an address**: any text of a version byte and what it carries that looks like
one. The version byte and the twenty bytes of a hash decide whether it does, and a signature is good
for any such text with the hash of the key that it recovers. -/
theorem decode_some_iff (text : String) :
    (∀ hash, decode text = some hash ↔ (∃! v, text = Base58.encodeCheck (v :: hash)) ∧
      (25 ≤ text.length ∧ text.length ≤ 34) ∧
        ∃ c ∈ text.toList.head?, c = '1' ∨ c = 'm' ∨ c = 'n') ∧
    (∀ hash, hash.length = 20 →
      (decode text = some hash ↔ ∃ v, Begins v hash ∧ text = Base58.encodeCheck (v :: hash)) ∧
      ∀ v, (v = 0 ∨ (0x6E ≤ v ∧ v ≤ 0x71) → Begins v hash) ∧
        (Begins v hash → v = 0 ∨ v = 1 ∨ (0x6D ≤ v ∧ v ≤ 0x72))) ∧
    ∀ signature message, SignedMessage.verify text signature message = true ↔
      ∃ key v, SignedMessage.recover? signature message = some key ∧ Begins v (hash160 key) ∧
        text = Base58.encodeCheck (v :: hash160 key) := by
  have hunique {v : UInt8} {hash : Bytes} (h : text = Base58.encodeCheck (v :: hash)) :
      ∃! v, text = Base58.encodeCheck (v :: hash) :=
    ⟨v, h, fun w hw => (List.cons.inj (Base58.encodeCheck_injective (hw.symm.trans h))).1⟩
  have hhash {hash : Bytes} (h : hash.length = 20) : decode text = some hash ↔
      ∃ v, Begins v hash ∧ text = Base58.encodeCheck (v :: hash) := by
    rw [decode_eq_some_iff]
    constructor
    · rintro ⟨hlooks, v, rfl⟩
      exact ⟨v, begins_of_isPlausible h hlooks, rfl⟩
    · rintro ⟨v, hbegins, rfl⟩
      exact ⟨isPlausible_of_begins h hbegins, v, rfl⟩
  refine ⟨fun hash => ?_, fun hash h => ⟨hhash h, fun v => ?_⟩, fun signature message => ?_⟩
  · rw [decode_eq_some_iff]
    constructor
    · rintro ⟨hlooks, v, hv⟩
      have hshape := isPlausible_iff.mp hlooks
      exact ⟨hunique hv, hshape.1, hshape.2.2⟩
    · rintro ⟨⟨v, rfl, -⟩, hshape⟩
      exact ⟨isPlausible_encode_iff.mpr hshape, v, rfl⟩
  · exact ⟨begins_of_version h, version_of_begins h⟩
  · rw [SignedMessage.verify_eq_true_iff]
    refine exists_congr fun key => ?_
    rw [hhash (length_hash160 key)]
    constructor
    · rintro ⟨hkey, v, hv⟩
      exact ⟨v, hkey, hv⟩
    · rintro ⟨v, hkey, hv⟩
      exact ⟨hkey, v, hv⟩

/-- A version byte of no network. -/
theorem decode_some_iff_unassigned : Begins 0x70 (List.replicate 20 0) ∧
    decode (Base58.encodeCheck (0x70 :: List.replicate 20 0)) = some (List.replicate 20 0) := by
  obtain ⟨-, hhash, -⟩ := decode_some_iff (Base58.encodeCheck (0x70 :: List.replicate 20 0))
  obtain ⟨hread, hversion⟩ := hhash (List.replicate 20 0) List.length_replicate
  have hbegins := (hversion 0x70).1 (Or.inr (by decide))
  exact ⟨hbegins, hread.mpr ⟨0x70, hbegins, rfl⟩⟩

/-- So what is read as an address need not be one of a network. -/
theorem exists_decode_of_no_network : ∃ text hash, decode text = some hash ∧
    ¬(hash.length = 20 ∧
      (text = Base58.encodeCheck (0x00 :: hash) ∨ text = Base58.encodeCheck (0x6F :: hash))) := by
  refine ⟨"n4rZHAPGXCu8bYchjzJhK3V7VVrefDJHw3", List.replicate 20 0, by decide +kernel, ?_⟩
  rintro ⟨-, h | h⟩ <;> revert h <;> decide +kernel

end Address

end OpReturn
