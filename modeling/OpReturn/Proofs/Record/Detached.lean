import Mathlib.Data.List.TakeWhile
import OpReturn.Proofs.Record.Verifier
import OpReturn.Proofs.Script.Pushes
import OpReturn.Proofs.SignedMessage.Signed
import OpReturn.Proofs.Text.Decimal
import OpReturn.Proofs.Text.Utf8
import OpReturn.Proofs.Transaction.Outpoint

/-!
# Detached signatures read back

What signing an output returns is written as a payload of four pushes. None of them is a delimiter,
and the payload reads as the same signature, not yet placed and not yet verified.

* `parse_pushes`: what a payload reads as, by what its fourth field holds.
* `Bound.parse_payload`: the payload of a bound signature reads as that signature.
* `bound_of_sign`, `items_of_sign`: what signing returns can be written.
* `runs_decode`, `runs_placed`: decoding and verifying come to an end.
-/

namespace OpReturn

theorem frontChunks_of_parseAll {payload : Bytes} {chunks : List Chunk}
    (h : Chunk.parseAll payload = .ok chunks) (limit : Nat) :
    DetachedSignature.frontChunks limit payload = chunks.take limit := by
  obtain ⟨hcuts, rfl⟩ := parseAll_eq_ok_iff.mp h
  have hall : ∀ located ∈ (walk payload).take limit, located.2.cut.isNone = true := by
    intro located hmem
    rw [hcuts located.2 (List.mem_map_of_mem (List.mem_of_mem_take hmem))]
    rfl
  rw [DetachedSignature.frontChunks, List.takeWhile_eq_self_iff.mpr hall, steps, List.map_map,
    List.map_take]
  rfl

namespace DetachedSignature

/-! ## Payloads -/

/-- Does the fourth field of a payload hold a message? A digit is the index of an input instead,
and an empty field says nothing. -/
def holdsMessage : Bytes → Bool
  | [] => false
  | [b] => !Decimal.isDigit b
  | _ => true

/-- What a payload of four or five pushes reads as. The number of an empty field is zero, which is
the index of an input that is not given. -/
theorem parse_pushes {algorithm address signature field : Bytes} {nonce : Option Bytes}
    {payload : Bytes}
    (h : encodePushes ([algorithm, address, signature, field] ++ nonce.toList) = .ok payload) :
    parse payload = some
      (if holdsMessage field then
        { algorithm := Utf8.decode (unwrapAlgorithm algorithm)
          address := Utf8.decode (unwrapAddress address)
          signature
          message := some (Utf8.decode field)
          nonce := nonce.map Utf8.decode }
      else
        { algorithm := Utf8.decode (unwrapAlgorithm algorithm)
          address := Utf8.decode (unwrapAddress address)
          signature
          inputIndex := (Decimal.value field : Nat) }) := by
  obtain ⟨chunks, hchunks, hdata, -⟩ := parseAll_encodePushes h
  obtain ⟨first, chunks, rfl, halgorithm, hdata⟩ := List.map_eq_cons_iff.mp hdata
  obtain ⟨second, chunks, rfl, haddress, hdata⟩ := List.map_eq_cons_iff.mp hdata
  obtain ⟨third, chunks, rfl, hsignature, hdata⟩ := List.map_eq_cons_iff.mp hdata
  obtain ⟨fourth, chunks, rfl, hfield, hdata⟩ := List.map_eq_cons_iff.mp hdata
  have hnonce : ((chunks.take 1).head?.map fun chunk => Utf8.decode chunk.data) =
      nonce.map Utf8.decode := by
    cases nonce with
    | none =>
      obtain rfl := List.map_eq_nil_iff.mp hdata
      rfl
    | some nonce =>
      obtain ⟨fifth, chunks, rfl, hfifth, -⟩ := List.map_eq_cons_iff.mp hdata
      exact congrArg (some ∘ Utf8.decode) hfifth
  rw [parse, frontChunks_of_parseAll hchunks]
  simp only [List.take_succ_cons, halgorithm, haddress, hsignature, hfield, hnonce]
  cases field with
  | nil => rfl
  | cons b field =>
    cases field with
    | nil => cases hdigit : Decimal.isDigit b <;> simp [holdsMessage, hdigit]
    | cons b' field => rfl

/-- A signature bound to its transaction by one of the first ten inputs, whose fields are pushed as
they are. -/
structure Bound (sig : DetachedSignature) : Prop where
  message : sig.message = none
  nonce : sig.nonce = none
  inputIndex : ∃ d < 10, sig.inputIndex = (d : Nat)
  algorithm : unwrapAlgorithm (Utf8.encode sig.algorithm) = Utf8.encode sig.algorithm
  address : unwrapAddress (Utf8.encode sig.address) = Utf8.encode sig.address

theorem numeral_digit {d : Nat} (h : d < 10) :
    ∃ b, Decimal.ofInt d = [b] ∧ Decimal.isDigit b = true ∧ Decimal.value [b] = d := by
  have hofInt : Decimal.ofInt d = [UInt8.ofNat (0x30 + d)] := by
    show Decimal.ofNat d = _
    rw [Decimal.ofNat, if_pos h]
  refine ⟨_, hofInt, ?_⟩
  exact (by decide : ∀ d < 10, Decimal.isDigit (UInt8.ofNat (0x30 + d)) = true ∧
    Decimal.value [UInt8.ofNat (0x30 + d)] = d) d h

theorem payload_eq_ok {sig : DetachedSignature}
    (hindex : sig.message = none → 0 ≤ sig.inputIndex ∧ sig.inputIndex < 10)
    (hsize : ∀ item ∈ sig.items, item.length ≤ maxPush) :
    sig.payload = .ok (sig.items.flatMap pushBytes) := by
  refine encodeItems_eq_ok_iff.mpr ⟨fun v hv => ?_, encodePushes_eq_ok_iff.mpr ⟨hsize, rfl⟩⟩
  unfold integers at hv
  cases hmessage : sig.message with
  | none =>
    obtain rfl : v = sig.inputIndex := by simpa [hmessage] using hv
    obtain ⟨hmin, hmax⟩ := hindex hmessage
    exact Decimal.isShowable_of_lt (k := 1) (by decide) (by omega)
  | some message => simp [hmessage] at hv

/-- **The payload of a bound signature reads as that signature**, not placed and not verified. -/
theorem Bound.parse_payload {sig : DetachedSignature} (hbound : sig.Bound) {payload : Bytes}
    (h : sig.payload = .ok payload) :
    parse payload = some { sig with outputIndex := 0, instanceIndex := 0, valid := false } := by
  obtain ⟨hmessage, hnonce, ⟨d, hd, hindex⟩, halgorithm, haddress⟩ := hbound
  obtain ⟨b, hnumeral, hdigit, hvalue⟩ := numeral_digit hd
  have hitems : sig.items = [Utf8.encode sig.algorithm, Utf8.encode sig.address, sig.signature,
      [b]] ++ (none : Option Bytes).toList := by
    rw [items, hmessage, hindex, hnumeral]
    rfl
  have hfield : holdsMessage [b] = false := by simp [holdsMessage, hdigit]
  have hpushes := (encodeItems_eq_ok_iff.mp h).2
  rw [hitems] at hpushes
  rw [parse_pushes hpushes, hfield, halgorithm, haddress, Utf8.decode_encode, Utf8.decode_encode,
    hvalue, hmessage, hnonce, hindex]
  rfl

/-! ## Signing -/

theorem sign_eq_ok_iff {tx : Transaction} {key : Bytes} {inputIndex outputIndex instanceIndex : Int}
    {algorithm : String} {sig : DetachedSignature} :
    sign tx outputIndex key inputIndex instanceIndex algorithm = .ok sig ↔
      ∃ digest address signature,
        messageHash tx outputIndex instanceIndex inputIndex = .ok (some digest) ∧
        Address.ofSecretKey false true key = .ok address ∧
        SignedMessage.sign key digest true = .ok signature ∧
        sig = { algorithm, address, signature, inputIndex, outputIndex, instanceIndex,
                valid := true } := by
  unfold sign
  cases messageHash tx outputIndex instanceIndex inputIndex with
  | error e => simp
  | ok found =>
    cases found with
    | none => simp
    | some digest =>
      cases Address.ofSecretKey false true key with
      | error e => simp
      | ok address =>
        cases hsigned : SignedMessage.sign key digest true <;> simp [hsigned, eq_comm]

theorem fields_of_sign {tx : Transaction} {key : Bytes}
    {inputIndex outputIndex instanceIndex : Int} {algorithm : String} {sig : DetachedSignature}
    (h : sign tx outputIndex key inputIndex instanceIndex algorithm = .ok sig) :
    ∃ hash signature, hash.length = 20 ∧ signature.length = 65 ∧
      sig = { algorithm, address := Address.ofHash false hash, signature, inputIndex, outputIndex,
              instanceIndex, valid := true } := by
  obtain ⟨digest, address, signature, -, haddress, hsigned, rfl⟩ := sign_eq_ok_iff.mp h
  obtain ⟨secret, point, -, -, rfl⟩ := Address.ofSecretKey_eq_ok_iff.mp haddress
  obtain ⟨-, σ, -, -, rfl⟩ := SignedMessage.sign_eq_ok_iff.mp hsigned
  exact ⟨_, _, length_hash160 _, SignedMessage.length_compact σ true, rfl⟩

theorem supportedAlgorithms_spec {algorithm : String} (h : algorithm ∈ supportedAlgorithms) :
    unwrapAlgorithm (Utf8.encode algorithm) = Utf8.encode algorithm ∧
      (Utf8.encode algorithm).length ≤ 12 ∧ Utf8.encode algorithm ≠ Chunk.separator := by
  have hall : ∀ algorithm ∈ supportedAlgorithms,
      unwrapAlgorithm (Utf8.encode algorithm) = Utf8.encode algorithm ∧
        (Utf8.encode algorithm).length ≤ 12 ∧ Utf8.encode algorithm ≠ Chunk.separator := by
    decide
  exact hall algorithm h

theorem address_spec {hash : Bytes} (h : hash.length = 20) :
    unwrapAddress (Utf8.encode (Address.ofHash false hash)) =
        Utf8.encode (Address.ofHash false hash) ∧
      (Utf8.encode (Address.ofHash false hash)).length ≤ 136 ∧
      Utf8.encode (Address.ofHash false hash) ≠ Chunk.separator := by
  obtain ⟨rest, htext, -, hrest⟩ := Address.exists_ofHash h
  have hlen := Utf8.length_encode_le (Address.ofHash false hash)
  have hencode : Utf8.encode (Address.ofHash false hash) =
      0x31 :: rest.flatMap String.utf8EncodeChar := by
    rw [Utf8.encode, htext, List.flatMap_cons]
    rfl
  rw [htext, List.length_cons] at hlen
  refine ⟨?_, by omega, ?_⟩ <;> rw [hencode]
  · rfl
  · exact fun h => absurd (List.head_eq_of_cons_eq h) (by decide)

/-- What signing with a supported algorithm returns is bound to the transaction. -/
theorem bound_of_sign {tx : Transaction} {key : Bytes} {outputIndex instanceIndex : Int} {d : Nat}
    (hd : d < 10) {algorithm : String} (halgorithm : algorithm ∈ supportedAlgorithms)
    {sig : DetachedSignature}
    (h : sign tx outputIndex key d instanceIndex algorithm = .ok sig) : sig.Bound := by
  obtain ⟨hash, signature, hhash, -, rfl⟩ := fields_of_sign h
  exact ⟨rfl, rfl, ⟨d, hd, rfl⟩, (supportedAlgorithms_spec halgorithm).1, (address_spec hhash).1⟩

/-- The items that a signature for one of the first ten inputs pushes are as long as its algorithm
or short. -/
theorem length_items_of_sign {tx : Transaction} {key : Bytes} {outputIndex instanceIndex : Int}
    {d : Nat} (hd : d < 10) {algorithm : String} (hsize : (Utf8.encode algorithm).length ≤ maxPush)
    {sig : DetachedSignature}
    (h : sign tx outputIndex key d instanceIndex algorithm = .ok sig) :
    ∀ item ∈ sig.items, item.length ≤ maxPush := by
  obtain ⟨hash, signature, hhash, hcompact, rfl⟩ := fields_of_sign h
  obtain ⟨b, hnumeral, -⟩ := numeral_digit hd
  obtain ⟨-, haddress, -⟩ := address_spec hhash
  have hmax : 136 ≤ maxPush := by decide
  simp only [items, hnumeral, List.cons_append, List.nil_append, List.forall_mem_cons]
  refine ⟨hsize, by omega, by omega, ?_, by simp⟩
  rw [List.length_singleton]
  omega

theorem items_of_sign {tx : Transaction} {key : Bytes} {outputIndex instanceIndex : Int} {d : Nat}
    (hd : d < 10) {algorithm : String} (halgorithm : algorithm ∈ supportedAlgorithms)
    {sig : DetachedSignature}
    (h : sign tx outputIndex key d instanceIndex algorithm = .ok sig) :
    ∀ item ∈ sig.items, item.length ≤ maxPush ∧ item ≠ Chunk.separator := by
  obtain ⟨-, hsize, hnotPipe⟩ := supportedAlgorithms_spec halgorithm
  have hmax : 12 ≤ maxPush := by decide
  have hlength := length_items_of_sign hd (hsize.trans hmax) h
  have hseparator : ∀ item ∈ sig.items, item ≠ Chunk.separator := by
    obtain ⟨hash, signature, hhash, hcompact, rfl⟩ := fields_of_sign h
    obtain ⟨b, hnumeral, hdigit, -⟩ := numeral_digit hd
    simp only [items, hnumeral, List.cons_append, List.nil_append, List.forall_mem_cons]
    refine ⟨hnotPipe, (address_spec hhash).2.2, ?_, ?_, by simp⟩
    · intro hpipe
      rw [hpipe] at hcompact
      exact absurd hcompact (by decide)
    · intro hpipe
      rw [List.head_eq_of_cons_eq hpipe] at hdigit
      exact absurd hdigit (by decide)
  intro item hmem
  exact ⟨hlength item hmem, hseparator item hmem⟩

/-! ## Decoding -/

section Decoding

variable {m : Type → Type} [Monad m] [LawfulMonad m]

theorem runs_decode (verify : Verifier m) (payload : Bytes) : Runs (decode payload verify) := by
  unfold decode
  split
  · exact runs_pure _
  · split
    · exact runs_pure _
    · exact (runs_lift _).bind fun _ => runs_pure _

theorem runs_verify {tx : Transaction} (htx : tx.WellFormed) (sig : DetachedSignature)
    (outputIndex instanceIndex : Int) (verify : Verifier m) :
    Runs (sig.verify (some tx) outputIndex instanceIndex verify) := by
  unfold DetachedSignature.verify
  split
  · exact runs_lift _
  · exact runs_pure _
  · rename_i tx' _ heq
    obtain rfl := Option.some.inj heq
    obtain ⟨digest, hdigest⟩ := exists_messageHash htx outputIndex instanceIndex sig.inputIndex
    rw [hdigest]
    cases digest with
    | none => exact runs_pure _
    | some digest => exact runs_lift _

theorem runs_placed {tx : Transaction} (htx : tx.WellFormed) (sig : DetachedSignature)
    (outputIndex instanceIndex : Int) (verify : Verifier m) :
    Runs (sig.placed tx outputIndex instanceIndex verify) :=
  (runs_verify htx sig outputIndex instanceIndex verify).bind fun _ => runs_pure _

end Decoding

/-- The signature of an entry that holds a bound one is that one, placed, with the verdict over the
digest there. -/
theorem Bound.run_ofEntry {sig : DetachedSignature} (hbound : sig.Bound) {entry : Entry}
    (hpayload : sig.payload = .ok entry.payload)
    (halgorithm : sig.algorithm ∈ supportedAlgorithms) {tx : Transaction}
    {outputIndex instanceIndex : Nat} {digest : Bytes}
    (hdigest : messageHash tx outputIndex instanceIndex sig.inputIndex = .ok (some digest))
    (verify : Verifier Id) :
    Id.run (ofEntry tx outputIndex instanceIndex entry verify).run =
      .ok (some { sig with outputIndex, instanceIndex,
                           valid := Id.run (verify sig.address sig.signature digest) }) := by
  obtain ⟨algorithm, address, signature, message, nonce, inputIndex, _, _, _⟩ := sig
  obtain rfl : message = none := hbound.message
  have hcontains : supportedAlgorithms.contains algorithm = true := by simpa using halgorithm
  rw [ofEntry, decode, hbound.parse_payload hpayload, run_bind_eq_ok_iff]
  refine ⟨_, rfl, run_bind_eq_ok_iff.mpr ⟨_, ?_, rfl⟩⟩
  rw [placed, run_bind_eq_ok_iff]
  refine ⟨_, ?_, rfl⟩
  unfold DetachedSignature.verify
  dsimp only
  rw [hdigest]
  dsimp only
  rw [verifyBytes, if_pos hcontains]
  rfl

end DetachedSignature

end OpReturn
