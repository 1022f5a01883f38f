import OpReturn.Proofs.Record.Attestation
import OpReturn.Proofs.Record.Detached
import OpReturn.Record

/-!
# What stops a decoding

A verifier may have any effects, but it is expected to come to a verdict. Decoding then has two
failures of its own: an index of too many digits, and an outpoint that cannot be written. The second
does not happen in a transaction that was read from bytes. The first happens to numerals with many
leading zeros only, because those with many digits after the zeros are out of range unread.

One lemma for each level says that it fails exactly then: `Refuses` for what is parsed, from a
single index to the chunks of an attestation, and `Stops` for what is decoded, from a signature to
all entries of an envelope.

* `Entry.HasOverlongIndex`: reading the indexes of an entry gets to a numeral that is too long. This
  is decidable.
* `Envelope.decode_total`: decoding an envelope runs to its end unless it has such an entry.
-/

namespace OpReturn

/-! ## Indexes -/

/-- The numeral is too long to be read, and short enough without its leading zeros not to be
refused before. -/
def Overlong (data : Bytes) : Prop :=
  ∃ negative digits, signedDigits? data = some (negative, digits) ∧
    (digits.dropWhile (· = 0x30)).length ≤ 19 ∧ Decimal.maxDigits < digits.length

/-- Reading indexes gets to a numeral that is too long. -/
inductive ReachesOverlong : List Chunk → Prop
  | here {chunk : Chunk} {chunks : List Chunk} : Overlong chunk.data →
      ReachesOverlong (chunk :: chunks)
  | after {chunk : Chunk} {chunks : List Chunk} {index : Int} :
      parseIndex chunk.data = .ok (some index) → ReachesOverlong chunks →
      ReachesOverlong (chunk :: chunks)

/-- A reading that fails, on a numeral of too many digits, if and only if `overlong`. -/
structure Refuses {α : Type} (overlong : Prop) (x : Except Decimal.TooLong α) : Prop where
  ok : ¬ overlong → ∃ a, x = .ok a
  error : overlong → ∃ e, x = .error e ∧ Decimal.maxDigits < e.digits

theorem Refuses.of_not {α : Type} {overlong : Prop} (h : ¬ overlong) (a : α) :
    Refuses overlong (.ok a) :=
  ⟨fun _ => ⟨a, rfl⟩, fun hlong => absurd hlong h⟩

theorem Refuses.map {α β : Type} {overlong : Prop} {x : Except Decimal.TooLong α}
    (h : Refuses overlong x) (f : α → β) : Refuses overlong (x.map f) := by
  constructor
  · intro hshort
    obtain ⟨a, rfl⟩ := h.ok hshort
    exact ⟨f a, rfl⟩
  · intro hlong
    obtain ⟨e, rfl, hdigits⟩ := h.error hlong
    exact ⟨e, rfl, hdigits⟩

theorem Refuses.isNone_iff {α : Type} {overlong : Prop} {x : Except Decimal.TooLong α}
    (h : Refuses overlong x) : x.toOption.isNone = true ↔ overlong := by
  by_cases hlong : overlong
  · obtain ⟨e, rfl, -⟩ := h.error hlong
    exact iff_of_true rfl hlong
  · obtain ⟨a, rfl⟩ := h.ok hlong
    exact iff_of_false Bool.false_ne_true hlong

theorem refuses_parseIndex (data : Bytes) : Refuses (Overlong data) (parseIndex data) := by
  cases hdigits : signedDigits? data with
  | none =>
    rw [parseIndex, hdigits]
    exact .of_not (fun ⟨_, _, h, _⟩ => nomatch hdigits.symm.trans h) _
  | some numeral =>
    obtain ⟨negative, digits⟩ := numeral
    have hiff : Overlong data ↔ (digits.dropWhile (· = 0x30)).length ≤ 19 ∧
        Decimal.maxDigits < digits.length := by
      simp [Overlong, hdigits]
    rw [hiff, parseIndex, hdigits]
    dsimp only
    split_ifs with hlarge hlong
    · exact .of_not (fun h => absurd h.1 (Nat.not_le.mpr hlarge)) _
    · exact ⟨fun h => absurd ⟨Nat.le_of_not_lt hlarge, hlong⟩ h, fun _ => ⟨_, rfl, hlong⟩⟩
    · exact .of_not (fun h => hlong h.2) _
    · exact .of_not (fun h => hlong h.2) _

theorem refuses_parseIndexes (acc : List Int) (chunks : List Chunk) :
    Refuses (ReachesOverlong chunks) (parseIndexes acc chunks) := by
  induction chunks generalizing acc with
  | nil => exact .of_not (fun h => nomatch h) _
  | cons chunk chunks ih =>
    have hread := refuses_parseIndex chunk.data
    rw [parseIndexes]
    by_cases hlong : Overlong chunk.data
    · obtain ⟨e, he, hdigits⟩ := hread.error hlong
      rw [he]
      exact ⟨fun h => absurd (.here hlong) h, fun _ => ⟨e, rfl, hdigits⟩⟩
    · obtain ⟨index, hindex⟩ := hread.ok hlong
      rw [hindex]
      -- Only an index lets the reading go on.
      cases index with
      | none =>
        refine .of_not (fun h => ?_) _
        cases h with
        | here h => exact hlong h
        | after h _ => exact nomatch hindex.symm.trans h
      | some index =>
        refine ⟨fun h => (ih _).ok fun hrest => h (.after hindex hrest), fun h => ?_⟩
        cases h with
        | here h => exact absurd h hlong
        | after _ hrest => exact (ih _).error hrest

/-! ## Identity signatures -/

namespace IdentitySignature

/-- The payload of a signature has an index that is too long. -/
def HasOverlongIndex (payload : Bytes) : Prop :=
  ∃ chunks, Chunk.parseAll payload = .ok chunks ∧ ReachesOverlong (chunks.drop 3)

theorem refuses_ofChunks (chunks : List Chunk) :
    Refuses (ReachesOverlong (chunks.drop 3)) (ofChunks chunks) := by
  match chunks with
  | [] | [_] | [_, _] => exact .of_not (fun h => nomatch h) _
  | _ :: _ :: _ :: fields => exact (refuses_parseIndexes [] fields).map _

theorem refuses_parse (payload : Bytes) :
    Refuses (HasOverlongIndex payload) (parse payload) := by
  unfold parse HasOverlongIndex
  cases Chunk.parseAll payload with
  | error e => exact .of_not (fun ⟨_, h, _⟩ => nomatch h) _
  | ok chunks => simpa using refuses_ofChunks chunks

instance (payload : Bytes) : Decidable (HasOverlongIndex payload) :=
  decidable_of_iff _ (refuses_parse payload).isNone_iff

end IdentitySignature

/-! ## Attestations -/

namespace AttestationRecord

/-- The chunks of an attestation carry, behind the first separator after the third and a tag, a
signature with an index that is too long. -/
def CarriesOverlong (chunks : List Chunk) : Prop :=
  (∃ kind ∈ chunks.head?, (AttestationKind.ofText? (Utf8.decode kind.data)).isSome) ∧
    ReachesOverlong (((chunks.drop 3).dropWhile fun chunk => chunk.data ≠ Chunk.separator).drop 5)

/-- The payload of an attestation carries a signature with an index that is too long. -/
def HasOverlongIndex (payload : Bytes) : Prop :=
  ∃ chunks, Chunk.parseAll payload = .ok chunks ∧ CarriesOverlong chunks

theorem refuses_chainedPart (chunks : List (Nat × Chunk)) :
    Refuses (ReachesOverlong ((((chunks.map (·.2)).drop 3).dropWhile fun chunk =>
      chunk.data ≠ Chunk.separator).drop 5)) (chainedPart chunks) := by
  have htail : ((chunks.map (·.2)).drop 3).dropWhile (fun chunk => chunk.data ≠ Chunk.separator) =
      ((chunks.drop 3).dropWhile fun located =>
        located.2.data ≠ Chunk.separator).map (·.2) := by
    rw [← List.map_drop, List.dropWhile_map]
    rfl
  rw [htail]
  unfold chainedPart
  generalize (chunks.drop 3).dropWhile (fun located => located.2.data ≠ Chunk.separator) = tail
  match tail with
  | [] | [_] => exact .of_not (fun h => nomatch h) _
  | _ :: _ :: rest => exact (IdentitySignature.refuses_ofChunks (rest.map (·.2))).map _

theorem refuses_parseChunks (chunks : List (Nat × Chunk)) :
    Refuses (CarriesOverlong (chunks.map (·.2))) (parseChunks chunks) := by
  match chunks with
  | [] | [_] | [_, _] => exact .of_not (fun h => nomatch h.2) _
  | (p, kind) :: (q, key) :: (r, field) :: rest =>
    rw [parseChunks]
    cases hkind : AttestationKind.ofText? (Utf8.decode kind.data) with
    | none => exact .of_not (fun ⟨h, _⟩ => by simp [hkind] at h) _
    | some kind' =>
      have hiff : CarriesOverlong (((p, kind) :: (q, key) :: (r, field) :: rest).map (·.2)) ↔ _ :=
        and_iff_right ⟨kind, rfl, by rw [hkind]; rfl⟩
      rw [hiff]
      exact (refuses_chainedPart _).map _

theorem map_snd_locatedChunks (payload : Bytes) :
    (locatedChunks payload).map (·.2) = (Chunk.parseAll payload).toOption.getD [] := by
  have hiff : (walk payload).all (fun located => located.2.cut.isNone) = true ↔
      ∀ step ∈ steps payload, step.cut = none := by
    simp only [steps, List.forall_mem_map, List.all_eq_true, Option.isNone_iff_eq_none]
  rw [locatedChunks]
  split_ifs with hall
  · have hparse := parseAll_eq_ok_iff.mpr ⟨hiff.mp hall, rfl⟩
    rw [hparse, steps, List.map_map, List.map_map]
    rfl
  · cases hparse : Chunk.parseAll payload with
    | error e => rfl
    | ok chunks => exact absurd (hiff.mpr (parseAll_eq_ok_iff.mp hparse).1) hall

theorem refuses_parse (payload : Bytes) :
    Refuses (HasOverlongIndex payload) (parseChunks (locatedChunks payload)) := by
  have hiff : HasOverlongIndex payload ↔
      CarriesOverlong ((locatedChunks payload).map (·.2)) := by
    rw [map_snd_locatedChunks, HasOverlongIndex]
    cases Chunk.parseAll payload with
    | error e => exact ⟨fun ⟨_, h, _⟩ => (nomatch h), fun h => (nomatch h.2)⟩
    | ok chunks => simp [Except.toOption]
  rw [hiff]
  exact refuses_parseChunks _

instance (payload : Bytes) : Decidable (HasOverlongIndex payload) :=
  decidable_of_iff _ (refuses_parse payload).isNone_iff

end AttestationRecord

/-! ## Decodings -/

/-- The error is about a numeral of too many digits. -/
def DecodeError.IsOverlong : DecodeError → Prop
  | .index e => Decimal.maxDigits < e.digits
  | .outpoint _ => False

section Decodings

variable {m : Type → Type} [Monad m] {α β : Type}

/-- A decoding that fails, on a numeral of too many digits, if and only if `overlong`. -/
structure Stops (overlong : Prop) (x : Decoding m α) : Prop where
  runs : ¬ overlong → Runs x
  fails : overlong → Fails DecodeError.IsOverlong x

variable {overlong : Prop} {x : Decoding m α} {f : α → Decoding m β}

theorem Runs.stops (hx : Runs x) (h : ¬ overlong) : Stops overlong x :=
  ⟨fun _ => hx, fun hlong => absurd hlong h⟩

variable [LawfulMonad m]

theorem Stops.bind (hx : Stops overlong x) (hf : ∀ a, Runs (f a)) : Stops overlong (x >>= f) :=
  ⟨fun h => (hx.runs h).bind hf, fun h => (hx.fails h).bind f⟩

theorem Runs.bind_stops (hx : Runs x) (hf : ∀ a, Stops overlong (f a)) :
    Stops overlong (x >>= f) :=
  ⟨fun h => hx.bind fun a => (hf a).runs h, fun h => hx.bind_fails fun a => (hf a).fails h⟩

variable (preceding : List Entry) (verify : Verifier m)

theorem stops_decode_identity (payload : Bytes) :
    Stops (IdentitySignature.HasOverlongIndex payload)
      (IdentitySignature.decode payload preceding verify) := by
  have hparse := IdentitySignature.refuses_parse payload
  rw [IdentitySignature.decode]
  constructor
  · intro hshort
    obtain ⟨found, hfound⟩ := hparse.ok hshort
    rw [hfound]
    cases found with
    | none => exact runs_pure _
    | some sig => exact (runs_lift _).bind fun _ => runs_pure _
  · intro hlong
    obtain ⟨e, he, hdigits⟩ := hparse.error hlong
    rw [he]
    exact fails_throw hdigits

theorem stops_decode_attestation (payload : Bytes) :
    Stops (AttestationRecord.HasOverlongIndex payload)
      (AttestationRecord.decode payload preceding verify) := by
  have hparse := AttestationRecord.refuses_parse payload
  unfold AttestationRecord.decode
  dsimp only
  split_ifs with hfew
  · refine (runs_pure _).stops fun hlong => ?_
    obtain ⟨e, he, -⟩ := hparse.error hlong
    match hchunks : AttestationRecord.locatedChunks payload, hfew with
    | [], _ | [_], _ =>
      rw [hchunks] at he
      exact nomatch he
  · constructor
    · intro hshort
      obtain ⟨found, hfound⟩ := hparse.ok hshort
      rw [hfound]
      match found with
      | none | some (_, none) => exact runs_pure _
      | some (_, some _) => exact (runs_lift _).bind fun _ => runs_pure _
    · intro hlong
      obtain ⟨e, he, hdigits⟩ := hparse.error hlong
      rw [he]
      exact fails_throw hdigits

theorem runs_decodeDetached {setting : Record.Setting}
    (htx : ∀ tx ∈ setting.transaction, tx.WellFormed) (instances : Nat) (payload : Bytes) :
    Runs (Record.decodeDetached setting verify instances payload) := by
  refine (DetachedSignature.runs_decode verify payload).bind fun found => ?_
  cases found with
  | none => exact runs_pure _
  | some sig =>
    cases hset : setting.transaction with
    | none => exact runs_pure _
    | some tx => exact (sig.runs_placed (htx tx hset) _ _ verify).bind fun _ => runs_pure _

end Decodings

/-! ## Entries -/

/-- Reading the indexes of the entry, or of a signature it carries, gets to a numeral that is too
long. -/
def Entry.HasOverlongIndex (entry : Entry) : Prop :=
  (entry.tag = IdentitySignature.tag ∧ IdentitySignature.HasOverlongIndex entry.payload) ∨
    (entry.tag = AttestationRecord.tag ∧ AttestationRecord.HasOverlongIndex entry.payload)

instance (entry : Entry) : Decidable entry.HasOverlongIndex :=
  inferInstanceAs (Decidable (_ ∨ _))

theorem Entry.not_hasOverlongIndex {entry : Entry} (hidentity : entry.tag ≠ IdentitySignature.tag)
    (hattestation : entry.tag ≠ AttestationRecord.tag) : ¬ entry.HasOverlongIndex := by
  rintro (⟨h, -⟩ | ⟨h, -⟩)
  · exact hidentity h
  · exact hattestation h

theorem Entry.hasOverlongIndex_identity {entry : Entry} (h : entry.tag = IdentitySignature.tag) :
    entry.HasOverlongIndex ↔ IdentitySignature.HasOverlongIndex entry.payload := by
  have hne : IdentitySignature.tag ≠ AttestationRecord.tag := by decide
  simp [HasOverlongIndex, h, hne]

theorem Entry.hasOverlongIndex_attestation {entry : Entry}
    (h : entry.tag = AttestationRecord.tag) :
    entry.HasOverlongIndex ↔ AttestationRecord.HasOverlongIndex entry.payload := by
  have hne : AttestationRecord.tag ≠ IdentitySignature.tag := by decide
  simp [HasOverlongIndex, h, hne]

section Entries

variable {m : Type → Type} [Monad m] [LawfulMonad m] {setting : Record.Setting}

theorem stops_decode_record (htx : ∀ tx ∈ setting.transaction, tx.WellFormed)
    (verify : Verifier m) (index instances : Nat) (entry : Entry) :
    Stops entry.HasOverlongIndex (Record.decode setting verify index instances entry) := by
  unfold Record.decode
  split_ifs with hkeyed hattachment hidentity hattestation hdetached
  · refine (runs_pure _).stops (Entry.not_hasOverlongIndex ?_ ?_) <;> rw [hkeyed] <;> decide
  · refine (runs_pure _).stops (Entry.not_hasOverlongIndex ?_ ?_) <;> rw [hattachment] <;> decide
  · rw [Entry.hasOverlongIndex_identity hidentity]
    exact (stops_decode_identity _ verify _).bind fun _ => runs_pure _
  · rw [Entry.hasOverlongIndex_attestation hattestation]
    exact (stops_decode_attestation _ verify _).bind fun _ => runs_pure _
  · exact ((runs_decodeDetached verify htx _ _).bind fun _ => runs_pure _).stops
      (Entry.not_hasOverlongIndex hidentity hattestation)
  · exact (runs_pure _).stops (Entry.not_hasOverlongIndex hidentity hattestation)

/-- The entries are decoded one by one up to the first that has such an index. -/
theorem stops_decodeFrom (htx : ∀ tx ∈ setting.transaction, tx.WellFormed) (verify : Verifier m)
    (index instances : Nat) (acc : List DecodedEntry) (entries : List Entry) :
    Stops (∃ entry ∈ entries, entry.HasOverlongIndex)
      (DecodedEntry.decodeFrom setting verify index instances acc entries) := by
  induction entries generalizing index instances acc with
  | nil => exact (runs_pure _).stops (by simp)
  | cons entry entries ih =>
    have hentry := stops_decode_record htx verify index instances entry
    rw [DecodedEntry.decodeFrom]
    by_cases hlong : entry.HasOverlongIndex
    · exact ⟨fun h => absurd ⟨entry, List.mem_cons_self, hlong⟩ h,
        fun _ => (hentry.fails hlong).bind _⟩
    · have hiff : (∃ e ∈ entry :: entries, e.HasOverlongIndex) ↔
          ∃ e ∈ entries, e.HasOverlongIndex := by
        simp [hlong]
      rw [hiff]
      exact (hentry.runs hlong).bind_stops fun _ => ih ..

/-- **Nothing but an index that is too long stops the decoding of an envelope**, with any verifier
and in any transaction that was read, and such an index does stop it. -/
theorem Envelope.decode_total {tx : Option Transaction}
    (htx : ∀ t ∈ tx, ∃ raw, Transaction.ofBytes raw = .ok t) (envelope : Envelope)
    (outputIndex : Int) (verify : Verifier m) :
    ((∀ entry ∈ envelope.entries, ¬ entry.HasOverlongIndex) →
      Runs (envelope.decode tx outputIndex verify)) ∧
    ((∃ entry ∈ envelope.entries, entry.HasOverlongIndex) →
      Fails DecodeError.IsOverlong (envelope.decode tx outputIndex verify)) := by
  let setting : Record.Setting := ⟨envelope.entries, tx, outputIndex⟩
  have hformed : ∀ t ∈ setting.transaction, t.WellFormed := by
    intro t ht
    obtain ⟨raw, hraw⟩ := htx t ht
    exact Transaction.wellFormed_of_ofBytes hraw
  have hstops := stops_decodeFrom hformed verify 0 0 [] envelope.entries
  refine ⟨fun h => hstops.runs fun ⟨entry, hmem, hlong⟩ => h entry hmem hlong, hstops.fails⟩

end Entries

namespace Envelope

/-- An identity signature whose only index has the given digits, up to 65535 of them. -/
def indexed (digits : Bytes) : Envelope where
  entries := [⟨IdentitySignature.tag, [0x01, 0x41, 0x01, 0x61, 0x01, 0x73, 0x4D] ++
    Bytes.ofNatLE 2 digits.length ++ digits, 1⟩]

/-- The script of an envelope; empty if it has none. -/
def script (envelope : Envelope) : Bytes := envelope.toScript.toOption.getD []

/-- Never accepts. -/
def rejectsAll : Verifier (Except String) := fun _ _ _ => .ok false

/-- Zero can be written with so many digits that it is not read. -/
theorem decode_zeros : ∃ envelope,
    scan (indexed (List.replicate 4301 0x30)).script = some envelope ∧
      ¬ Runs (envelope.decode none 0 rejectsAll) := by
  have hrun : (scan (indexed (List.replicate 4301 0x30)).script).map
      (fun envelope => (envelope.decode none 0 rejectsAll).run) =
        some (.ok (.error (.index ⟨4301⟩))) := by
    decide +kernel
  obtain ⟨envelope, hscan, hfails⟩ := Option.map_eq_some_iff.mp hrun
  refine ⟨envelope, hscan, ?_⟩
  rintro ⟨result, hruns⟩
  rw [hfails] at hruns
  cases result with
  | error e => exact nomatch hruns
  | ok decoded => exact nomatch Except.ok.inj hruns

/-- A transaction of one input whose only output has such a signature. -/
def indexedTransaction : Transaction where
  inputs := [⟨String.ofList (List.replicate 64 'a'), 0, [], 0⟩]
  outputs := [⟨0, (indexed [0x31]).script⟩]

/-- In a transaction as many nines, being out of range, do not stop the decoding. -/
theorem decode_nines_zeros :
    (∃ raw, Transaction.ofBytes raw = .ok indexedTransaction) ∧
      Runs ((indexed (List.replicate 4301 0x39)).decode (some indexedTransaction) 0 rejectsAll) ∧
      Fails DecodeError.IsOverlong
        ((indexed (List.replicate 4301 0x30)).decode (some indexedTransaction) 0 rejectsAll) := by
  have hread : Transaction.ofBytes (indexedTransaction.serialize.toOption.getD []) =
      .ok indexedTransaction := by
    decide +kernel
  have htx : ∀ t ∈ some indexedTransaction, ∃ raw, Transaction.ofBytes raw = .ok t := by
    rintro t ⟨⟩
    exact ⟨_, hread⟩
  have hnines : ∀ entry ∈ (indexed (List.replicate 4301 0x39)).entries,
      ¬ entry.HasOverlongIndex := by
    decide +kernel
  have hzeros : ∃ entry ∈ (indexed (List.replicate 4301 0x30)).entries,
      entry.HasOverlongIndex := by
    decide +kernel
  exact ⟨⟨_, hread⟩, (decode_total htx _ 0 rejectsAll).1 hnines,
    (decode_total htx _ 0 rejectsAll).2 hzeros⟩

end Envelope

end OpReturn
