import OpReturn.Proofs.Record.Detached

/-!
# Which detached signatures come back from their payloads

The fourth field of a payload is a message or the index of an input, and a reader goes by its bytes:
a single digit is an index, an empty field is neither, and anything else is a message. A writer does
not look at them. It writes an index with all its digits and a message as it is.

**Theorem (`WellFormed.comesBack_iff_legible`).** A well-formed signature comes back from its
payload if and only if its fourth field reads as what it stands for: the index has one digit, and
the message is neither empty nor a single digit.
-/

namespace OpReturn.DetachedSignature

/-- What a payload tells of a signature. Where it stands and the verdict on it are not written. -/
def told (sig : DetachedSignature) : DetachedSignature :=
  { sig with outputIndex := 0, instanceIndex := 0, valid := false }

/-- Decoding the payload of the signature gives all that it tells. -/
def ComesBack (sig : DetachedSignature) (verify : Verifier Id) : Prop :=
  ∃ payload found, sig.payload = .ok payload ∧
    Id.run (decode payload verify).run = .ok (some found) ∧ found.told = sig.told

/-- A signature whose fields go together, and whose algorithm and address do not look as if they
were wrapped. -/
structure WellFormed (sig : DetachedSignature) : Prop where
  inputIndex : sig.message ≠ none → sig.inputIndex = 0
  nonce : sig.message = none → sig.nonce = none
  algorithm : sig.algorithm.toList.head? ≠ some '\x03'
  address : sig.address.toList.head? ≠ some '"'

/-- The messages whose bytes are read as an index or as no field at all. -/
def misread : List String := ["", "0", "1", "2", "3", "4", "5", "6", "7", "8", "9"]

/-- Is the signature over a message that reads as one, or else bound by an index of one digit? -/
def Legible (sig : DetachedSignature) : Prop :=
  match sig.message with
  | some message => message ∉ misread
  | none => 0 ≤ sig.inputIndex ∧ sig.inputIndex < 10

/-! ## The fourth field -/

/-- The fourth item of a payload. -/
def field (sig : DetachedSignature) : Bytes :=
  match sig.message with
  | some message => Utf8.encode message
  | none => Decimal.ofInt sig.inputIndex

theorem holdsMessage_of_two_le {s : Bytes} (h : 2 ≤ s.length) : holdsMessage s = true := by
  match s, h with
  | _ :: _ :: _, _ => rfl

theorem holdsMessage_ofInt {v : Int} :
    holdsMessage (Decimal.ofInt v) = false ↔ 0 ≤ v ∧ v < 10 := by
  constructor
  · intro h
    by_contra hv
    rw [holdsMessage_of_two_le (Decimal.two_le_length_ofInt hv)] at h
    contradiction
  · rintro ⟨hpos, hv⟩
    obtain ⟨d, rfl⟩ := Int.eq_ofNat_of_zero_le hpos
    obtain ⟨b, hnumeral, hdigit, -⟩ := numeral_digit (Int.ofNat_lt.mp hv)
    simp [hnumeral, holdsMessage, hdigit]

/-- Only the bytes of a message that is empty or a single digit do not read as a message. -/
theorem holdsMessage_encode {message : String} :
    holdsMessage (Utf8.encode message) = false ↔ message ∈ misread := by
  constructor
  · -- A text is told by its bytes, so the one byte of a short message leaves only the digits.
    intro h
    have hdecode := Utf8.decode_encode message
    cases hbytes : Utf8.encode message with
    | nil =>
      rw [hbytes] at hdecode
      rw [← hdecode]
      decide
    | cons b s =>
      rw [hbytes] at hdecode h
      cases s with
      | nil =>
        have hdigit : Decimal.isDigit b = true := by simpa [holdsMessage] using h
        obtain ⟨d, hd, rfl⟩ := Decimal.exists_of_isDigit hdigit
        rw [← hdecode]
        exact (by decide : ∀ d < 10, Utf8.decode [UInt8.ofNat (0x30 + d)] ∈ misread) d hd
      | cons b' s => contradiction
  · intro h
    exact (by decide : ∀ message ∈ misread, holdsMessage (Utf8.encode message) = false) message h

/-- A signature is legible if the reader takes its fourth field for a message just when it is
one. -/
theorem legible_iff {sig : DetachedSignature} :
    sig.Legible ↔ holdsMessage sig.field = sig.message.isSome := by
  unfold Legible field
  cases sig.message with
  | none =>
    show 0 ≤ sig.inputIndex ∧ sig.inputIndex < 10 ↔
      holdsMessage (Decimal.ofInt sig.inputIndex) = false
    exact holdsMessage_ofInt.symm
  | some message =>
    show message ∉ misread ↔ holdsMessage (Utf8.encode message) = true
    rw [← holdsMessage_encode, Bool.not_eq_false]

instance (sig : DetachedSignature) : Decidable sig.Legible := decidable_of_iff _ legible_iff.symm

/-! ## Coming back -/

theorem exists_decode {payload : Bytes} {sig : DetachedSignature} (h : parse payload = some sig)
    (verify : Verifier Id) :
    ∃ found, Id.run (decode payload verify).run = .ok (some found) ∧ found.told = sig.told := by
  cases hmessage : sig.message with
  | none =>
    refine ⟨sig, ?_, rfl⟩
    simp only [decode, h, hmessage]
    rfl
  | some message =>
    refine ⟨{ sig with valid := Id.run (sig.verifyBytes (Utf8.encode message) verify) }, ?_, rfl⟩
    simp only [decode, h, hmessage]
    rfl

theorem comesBack_iff_of_parse {sig read : DetachedSignature} {payload : Bytes}
    (hpayload : sig.payload = .ok payload) (hparse : parse payload = some read)
    (verify : Verifier Id) : sig.ComesBack verify ↔ read.told = sig.told := by
  obtain ⟨found, hdecode, htold⟩ := exists_decode hparse verify
  constructor
  · rintro ⟨payload', found', hpayload', hdecode', htold'⟩
    obtain rfl := Except.ok.inj (hpayload.symm.trans hpayload')
    obtain rfl := Option.some.inj (Except.ok.inj (hdecode.symm.trans hdecode'))
    rw [← htold, htold']
  · intro h
    exact ⟨payload, found, hpayload, hdecode, htold.trans h⟩

theorem unwrapAlgorithm_encode {algorithm : String} (h : algorithm.toList.head? ≠ some '\x03') :
    unwrapAlgorithm (Utf8.encode algorithm) = Utf8.encode algorithm := by
  unfold unwrapAlgorithm
  split
  · rename_i b s hbytes
    exact absurd (Utf8.head?_of_encode hbytes (by decide)) h
  · rfl

theorem unwrapAddress_encode {address : String} (h : address.toList.head? ≠ some '"') :
    unwrapAddress (Utf8.encode address) = Utf8.encode address := by
  unfold unwrapAddress
  split
  · rename_i b s hbytes
    exact absurd (Utf8.head?_of_encode hbytes (by decide)) h
  · rfl

variable {sig : DetachedSignature}

/-- What the payload of a well-formed signature reads as. -/
theorem WellFormed.parse_payload (hsig : sig.WellFormed) {payload : Bytes}
    (h : sig.payload = .ok payload) :
    parse payload = some
      (if holdsMessage sig.field then
        { algorithm := sig.algorithm
          address := sig.address
          signature := sig.signature
          message := some (Utf8.decode sig.field)
          nonce := sig.nonce }
      else
        { algorithm := sig.algorithm
          address := sig.address
          signature := sig.signature
          inputIndex := (Decimal.value sig.field : Nat) }) := by
  have hitems : sig.items = [Utf8.encode sig.algorithm, Utf8.encode sig.address, sig.signature,
      sig.field] ++ (sig.nonce.map Utf8.encode).toList := by
    unfold DetachedSignature.items field
    cases hmessage : sig.message with
    | none =>
      rw [hsig.nonce hmessage]
      rfl
    | some message => rfl
  have hnonce : (sig.nonce.map Utf8.encode).map Utf8.decode = sig.nonce := by
    cases sig.nonce with
    | none => rfl
    | some nonce => exact congrArg some (Utf8.decode_encode nonce)
  have hpushes := (encodeItems_eq_ok_iff.mp h).2
  rw [hitems] at hpushes
  rw [parse_pushes hpushes, unwrapAlgorithm_encode hsig.algorithm,
    unwrapAddress_encode hsig.address, Utf8.decode_encode, Utf8.decode_encode, hnonce]

theorem WellFormed.comesBack_iff_of_payload (hsig : sig.WellFormed) {payload : Bytes}
    (hpayload : sig.payload = .ok payload) (verify : Verifier Id) :
    sig.ComesBack verify ↔ sig.Legible := by
  rw [comesBack_iff_of_parse hpayload (hsig.parse_payload hpayload), legible_iff]
  constructor
  · -- What is read has a message just when its field holds one.
    intro h
    have hmessage := congrArg (·.message.isSome) h
    cases hfield : holdsMessage sig.field <;> simpa [hfield, told] using hmessage
  · intro h
    obtain ⟨algorithm, address, signature, message, nonce, inputIndex, _, _, _⟩ := sig
    cases message with
    | none =>
      obtain rfl : nonce = none := hsig.nonce rfl
      have hfield : holdsMessage (Decimal.ofInt inputIndex) = false := h
      obtain ⟨d, rfl⟩ := Int.eq_ofNat_of_zero_le (holdsMessage_ofInt.mp hfield).1
      have hvalue : Decimal.value (Decimal.ofInt d) = d := Decimal.value_ofNat d
      simp [field, hfield, hvalue, told]
    | some message =>
      obtain rfl : inputIndex = 0 := hsig.inputIndex (Option.some_ne_none message)
      have hfield : holdsMessage (Utf8.encode message) = true := h
      simp [field, hfield, Utf8.decode_encode, told]

/-- **A well-formed signature comes back from its payload if and only if it is legible** and all of
its items can be pushed. -/
theorem WellFormed.comesBack_iff_legible (hsig : sig.WellFormed) (verify : Verifier Id) :
    sig.ComesBack verify ↔ sig.Legible ∧ ∀ item ∈ sig.items, item.length ≤ maxPush := by
  constructor
  · intro h
    have ⟨payload, _, hpayload, _⟩ := h
    have hlegible := (hsig.comesBack_iff_of_payload hpayload verify).mp h
    exact ⟨hlegible, (encodePushes_eq_ok_iff.mp (encodeItems_eq_ok_iff.mp hpayload).2).1⟩
  · rintro ⟨hlegible, hitems⟩
    have hpayload := payload_eq_ok (fun hnone => by simpa [Legible, hnone] using hlegible) hitems
    exact (hsig.comesBack_iff_of_payload hpayload verify).mpr hlegible

end OpReturn.DetachedSignature
