import OpReturn.Proofs.Record.Attestation
import OpReturn.Proofs.Record.EntryByEntry
import OpReturn.Proofs.Script.Pushes
import OpReturn.Proofs.Text.Decimal
import OpReturn.Proofs.Text.Utf8

/-!
# Identity signatures read back

The payload of an identity signature pushes its fields and the numerals of the indexes it covers.
It reads as the same signature, not yet verified, if the indexes are 64-bit integers and a
selection is not empty: an empty one is written as no selection is.

* `parseIndexes_ofInt`: the numerals of indexes, of either sign, in any order, repeated or not.
* `IdentitySignature.parse_payload`: a payload reads as the signature it was written for.
* `canonicalMessage_congr`: the signed message does not depend on where the entries stand.
-/

namespace OpReturn

variable {ε : Type}

/-! ## Field indexes -/

/-- The index is in the range of 64-bit integers. -/
def IsIndex (v : Int) : Prop := -0x8000000000000000 ≤ v ∧ v < 0x8000000000000000

instance (v : Int) : Decidable (IsIndex v) := inferInstanceAs (Decidable (_ ∧ _))

theorem signedDigits?_eq_some_iff {data digits : Bytes} {negative : Bool} :
    signedDigits? data = some (negative, digits) ↔
      (digits ≠ [] ∧ digits.all Decimal.isDigit = true) ∧
        (negative = false ∧ (data = digits ∨ data = 0x2B :: digits) ∨
          negative = true ∧ data = 0x2D :: digits) := by
  constructor
  · intro h
    unfold signedDigits? at h
    split at h
    rename_i negative' digits' hsplit
    split_ifs at h with hbad
    obtain ⟨rfl, rfl⟩ := Prod.mk.inj (Option.some.inj h)
    refine ⟨by simpa using hbad, ?_⟩
    split at hsplit
    · obtain ⟨rfl, rfl⟩ := Prod.mk.inj hsplit
      exact Or.inr ⟨rfl, rfl⟩
    · obtain ⟨rfl, rfl⟩ := Prod.mk.inj hsplit
      exact Or.inl ⟨rfl, Or.inr rfl⟩
    · obtain ⟨rfl, rfl⟩ := Prod.mk.inj hsplit
      exact Or.inl ⟨rfl, Or.inl rfl⟩
  · rintro ⟨⟨hnil, hall⟩, ⟨rfl, rfl | rfl⟩ | ⟨rfl, rfl⟩⟩
    · unfold signedDigits?
      split
      rename_i negative' digits' hsplit
      -- A digit is no sign.
      split at hsplit
      · exact absurd hall (by simp [Decimal.isDigit])
      · exact absurd hall (by simp [Decimal.isDigit])
      · obtain ⟨rfl, rfl⟩ := Prod.mk.inj hsplit
        simp [hnil, hall]
    · simp [signedDigits?, hnil, hall]
    · simp [signedDigits?, hnil, hall]

theorem signedDigits?_ofInt (v : Int) :
    ∃ negative, signedDigits? (Decimal.ofInt v) = some (negative, Decimal.ofNat v.natAbs) ∧
      signedInt negative v.natAbs = v := by
  have hdigits : Decimal.ofNat v.natAbs ≠ [] ∧
      (Decimal.ofNat v.natAbs).all Decimal.isDigit = true :=
    ⟨Decimal.ofNat_ne_nil _, List.all_eq_true.mpr fun _ hb => Decimal.isDigit_of_mem_ofNat hb⟩
  cases v with
  | ofNat n =>
    exact ⟨false, signedDigits?_eq_some_iff.mpr ⟨hdigits, Or.inl ⟨rfl, Or.inl rfl⟩⟩, rfl⟩
  | negSucc n => exact ⟨true, signedDigits?_eq_some_iff.mpr ⟨hdigits, Or.inr ⟨rfl, rfl⟩⟩, rfl⟩

theorem parseIndex_ofInt {v : Int} (h : IsIndex v) :
    parseIndex (Decimal.ofInt v) = .ok (some v) := by
  obtain ⟨negative, hdigits, hsigned⟩ := signedDigits?_ofInt v
  have hsize : (Decimal.ofNat v.natAbs).length ≤ 19 := by
    obtain ⟨hmin, hmax⟩ := h
    exact Decimal.length_ofNat_le (by decide) (by omega)
  have hdrop : ((Decimal.ofNat v.natAbs).dropWhile (· = 0x30)).length ≤ 19 :=
    Nat.le_trans (List.dropWhile_suffix _).length_le hsize
  have hmax : ¬ Decimal.maxDigits < (Decimal.ofNat v.natAbs).length := by
    have : Decimal.maxDigits = 4300 := rfl
    omega
  rw [parseIndex, hdigits]
  dsimp only
  rw [if_neg (by omega), if_neg hmax, Decimal.value_ofNat, hsigned]
  exact congrArg Except.ok (if_pos h)

theorem parseIndexes_ofInt {indexes : List Int} (h : ∀ v ∈ indexes, IsIndex v)
    {chunks : List Chunk} (hdata : chunks.map (·.data) = indexes.map Decimal.ofInt)
    (acc : List Int) : parseIndexes acc chunks = .ok (acc.reverse ++ indexes) := by
  induction indexes generalizing acc chunks with
  | nil =>
    obtain rfl := List.map_eq_nil_iff.mp hdata
    rw [parseIndexes, List.append_nil]
  | cons v indexes ih =>
    obtain ⟨hv, h⟩ := List.forall_mem_cons.mp h
    obtain ⟨chunk, chunks, rfl, hchunk, hdata⟩ := List.map_eq_cons_iff.mp hdata
    rw [parseIndexes, hchunk, parseIndex_ofInt hv]
    dsimp only
    rw [ih h hdata]
    simp

/-! ## The signed message -/

theorem messageFrom_congr {a b : List Entry} (h : a.map Entry.content = b.map Entry.content)
    (selected : Option (List Int)) (index : Nat) :
    messageFrom selected index a = messageFrom selected index b := by
  induction a generalizing b index with
  | nil => rw [List.map_eq_nil_iff.mp h.symm]
  | cons entry a ih =>
    obtain ⟨entry', b, rfl, hentry, h⟩ := List.map_eq_cons_iff.mp h.symm
    obtain ⟨htag, hpayload⟩ : entry'.tag = entry.tag ∧ entry'.payload = entry.payload :=
      Prod.mk.inj hentry
    have hrest (index : Nat) := ih h.symm index
    simp only [messageFrom, htag, hpayload, hrest]

theorem canonicalMessage_congr {a b : List Entry}
    (h : a.map Entry.content = b.map Entry.content) (selected : Option (List Int)) :
    canonicalMessage a selected = canonicalMessage b selected := by
  rw [canonicalMessage, canonicalMessage, messageFrom_congr h]

namespace IdentitySignature

/-! ## Payloads -/

/-- The indexes can be written and read back. -/
structure Indexed (selected : Option (List Int)) : Prop where
  ne_nil : selected ≠ some []
  range : ∀ v ∈ selected.getD [], IsIndex v

theorem isShowable_of_isIndex {v : Int} (h : IsIndex v) : Decimal.isShowable v = true := by
  obtain ⟨hmin, hmax⟩ := h
  exact Decimal.isShowable_of_lt (k := 19) (by decide) (by omega)

theorem payload_of_indexed {sig : IdentitySignature} (hindexed : Indexed sig.fieldIndexes)
    (hsize : ∀ item ∈ sig.items, item.length ≤ maxPush) :
    sig.payload = .ok (sig.items.flatMap pushBytes) :=
  encodeItems_eq_ok_iff.mpr ⟨fun v hv => isShowable_of_isIndex (hindexed.range v hv),
    encodePushes_eq_ok_iff.mpr ⟨hsize, rfl⟩⟩

/-- **The payload of a signature reads as that signature**, not verified. -/
theorem parse_payload {sig : IdentitySignature} (hindexed : Indexed sig.fieldIndexes)
    {payload : Bytes} (h : sig.payload = .ok payload) :
    parse payload = .ok (some { sig with valid := false }) := by
  obtain ⟨chunks, hchunks, hdata, -⟩ := parseAll_encodePushes (encodeItems_eq_ok_iff.mp h).2
  obtain ⟨algorithm, chunks, rfl, halgorithm, hdata⟩ := List.map_eq_cons_iff.mp hdata
  obtain ⟨address, chunks, rfl, haddress, hdata⟩ := List.map_eq_cons_iff.mp hdata
  obtain ⟨signature, fields, rfl, hsignature, hdata⟩ := List.map_eq_cons_iff.mp hdata
  have hselected : (if (sig.fieldIndexes.getD []).isEmpty then none
      else some (sig.fieldIndexes.getD [])) = sig.fieldIndexes := by
    cases hsel : sig.fieldIndexes with
    | none => rfl
    | some indexes =>
      have hne : indexes ≠ [] := by
        rintro rfl
        exact hindexed.ne_nil hsel
      simp [hne]
  rw [parse, hchunks]
  dsimp only
  rw [ofChunks, parseIndexes_ofInt hindexed.range hdata]
  show Except.ok (some _) = _
  rw [List.reverse_nil, List.nil_append, halgorithm, haddress, hsignature, Utf8.decode_encode,
    Utf8.decode_encode, hselected]

/-- Decoding a payload that reads as a signature asks the verifier for its verdict. -/
theorem returns_decode_iff {payload : Bytes} {preceding : List Entry}
    {verify : Verifier (Except ε)} {sig : IdentitySignature} (h : parse payload = .ok (some sig))
    {found : Option IdentitySignature} :
    Returns (decode payload preceding verify) found ↔ ∃ valid,
      verify sig.address sig.signature (canonicalMessage preceding sig.fieldIndexes) = .ok valid ∧
        found = some { sig with valid } := by
  rw [decode, h]
  dsimp only
  rw [returns_bind_iff]
  simp only [returns_lift_iff, returns_pure_iff, verified_eq_ok_iff]
  constructor
  · rintro ⟨_, ⟨valid, hvalid, rfl⟩, rfl⟩
    exact ⟨valid, hvalid, rfl⟩
  · rintro ⟨valid, hvalid, rfl⟩
    exact ⟨_, ⟨valid, hvalid, rfl⟩, rfl⟩

theorem exists_parse_of_decode {payload : Bytes} {chunks : List Chunk}
    (hchunks : Chunk.parseAll payload = .ok chunks) (hlen : 3 ≤ chunks.length)
    {preceding : List Entry} {verify : Verifier (Except ε)} {found : Option IdentitySignature}
    (h : Returns (decode payload preceding verify) found) :
    ∃ sig, parse payload = .ok (some sig) := by
  obtain ⟨algorithm, address, signature, fields, rfl⟩ :
      ∃ a b c rest, chunks = a :: b :: c :: rest := by
    rcases chunks with _ | ⟨a, _ | ⟨b, _ | ⟨c, rest⟩⟩⟩
    · simp at hlen
    · simp at hlen
    · simp at hlen
    · exact ⟨a, b, c, rest, rfl⟩
  rw [decode, parse, hchunks] at h
  rw [parse, hchunks]
  dsimp only [ofChunks] at h ⊢
  cases hindexes : parseIndexes [] fields with
  | error e =>
    rw [hindexes] at h
    exact absurd h not_returns_throw
  | ok indexes => exact ⟨_, rfl⟩

end IdentitySignature

/-! ## Entries -/

/-- An entry that reads as an identity signature holds it with the verifier's verdict on the
entries before. -/
theorem Record.foundAt_identity_iff {setting : Record.Setting} {verify : Verifier (Except ε)}
    {index : Nat} {d : DecodedEntry} {sig : IdentitySignature}
    (htag : d.entry.tag = IdentitySignature.tag)
    (hparse : IdentitySignature.parse d.entry.payload = .ok (some sig)) :
    FoundAt setting verify index d ↔ ∃ valid,
      verify sig.address sig.signature
        (canonicalMessage (setting.entries.take index) sig.fieldIndexes) = .ok valid ∧
      d.record = some (.identity { sig with valid }) := by
  unfold FoundAt
  simp only [decode_identity htag, returns_bind_iff, returns_pure_iff,
    IdentitySignature.returns_decode_iff hparse]
  constructor
  · rintro ⟨after, _, ⟨valid, hvalid, rfl⟩, hpure⟩
    exact ⟨valid, hvalid, (Prod.mk.inj hpure).1.symm⟩
  · rintro ⟨valid, hvalid, hrecord⟩
    exact ⟨_, _, ⟨valid, hvalid, rfl⟩, by rw [hrecord]; rfl⟩

theorem Envelope.exists_identity {envelope : Envelope} {before after : List Entry} {entry : Entry}
    (hcontent : envelope.entries.map Entry.content = (before ++ entry :: after).map Entry.content)
    (htag : entry.tag = IdentitySignature.tag) {sig : IdentitySignature}
    (hparse : IdentitySignature.parse entry.payload = .ok (some sig))
    {tx : Option Transaction} {outputIndex : Int} {verify : Verifier (Except ε)}
    {decoded : List DecodedEntry} (h : Returns (envelope.decode tx outputIndex verify) decoded) :
    ∃ d valid, decoded[before.length]? = some d ∧
      verify sig.address sig.signature (canonicalMessage before sig.fieldIndexes) = .ok valid ∧
        d.record = some (.identity { sig with valid }) := by
  obtain ⟨d, hd, hsame, hbefore, hfound⟩ := envelope.exists_foundAt hcontent h
  obtain ⟨htag', hpayload⟩ := Prod.mk.inj hsame
  obtain ⟨valid, hvalid, hrecord⟩ :=
    (Record.foundAt_identity_iff (htag'.trans htag) (by rwa [hpayload])).mp hfound
  exact ⟨d, valid, hd, canonicalMessage_congr hbefore _ ▸ hvalid, hrecord⟩

end OpReturn
