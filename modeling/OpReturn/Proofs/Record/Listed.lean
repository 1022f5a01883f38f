import OpReturn.Proofs.Record.Trace
import OpReturn.Proofs.Record.Verdict

/-!
# Two ways to the signatures of a transaction

The signatures of a transaction are listed by looking, in each output, at the entries with their tag
and numbering these. Decoding an output comes upon the same entries on its way through all of them,
and numbers them with the count that it carries along. Both skip entries that do not read as a
signature without skipping their numbers.

**Theorem (`ofTransaction_of_decode`).** If every output can be decoded, the signatures can be
listed, and the list holds the detached signatures of the outputs, one output after another.

The proof is an induction over the trace of a decoding: the count of the trace is the number that
the listing is at.
-/

namespace OpReturn

variable {m : Type → Type} [Monad m]

namespace DecodedEntry

/-- The detached signature that an entry was decoded as. -/
def detached? (d : DecodedEntry) : Option DetachedSignature :=
  match d.record with
  | some (.detached sig) => some sig
  | _ => none

/-- The decoded entries of an output, in its transaction. An output without an envelope has
none. -/
def ofOutput (tx : Transaction) (outputIndex : Nat) (output : TxOutput) (verify : Verifier m) :
    Decoding m (List DecodedEntry) :=
  match Envelope.scan output.script with
  | none => return []
  | some envelope => envelope.decode (some tx) outputIndex verify

end DecodedEntry

/-! ## One entry -/

section Entry

variable [LawfulMonad m] [Definite m] {setting : Record.Setting} {verify : Verifier m}
  {index instances after : Nat} {entry : Entry} {found : Option Record} {tx : Transaction} {o : Nat}

theorem detached?_of_tag_ne (htag : entry.tag ≠ DetachedSignature.tag)
    (h : Record.decode setting verify index instances entry = pure (found, after)) :
    DecodedEntry.detached? ⟨entry, found⟩ = none := by
  cases found with
  | none => rfl
  | some record =>
    have hsame := Record.tag_of_decode h
    cases record with
    | detached sig => exact absurd hsame.symm htag
    | _ => rfl

/-- **An entry with the tag is decoded as the signature that is listed for it**, under the number
that the decoding has come to. -/
theorem ofEntry_of_decode (htx : setting.transaction = some tx) (ho : setting.outputIndex = o)
    (htag : entry.tag = DetachedSignature.tag)
    (h : Record.decode setting verify index instances entry = pure (found, after)) :
    DetachedSignature.ofEntry tx o instances entry verify =
      pure (DecodedEntry.detached? ⟨entry, found⟩) := by
  rw [Record.decode_detached htag] at h
  obtain ⟨sig, hsig, hpure⟩ := bind_eq_pure_iff.mp h
  obtain ⟨hfound, -⟩ := Prod.mk.inj (pure_eq_pure_iff.mp hpure)
  have hresult : DecodedEntry.detached? ⟨entry, found⟩ = sig := by
    rw [← hfound]
    cases sig <;> rfl
  have hsame : Record.decodeDetached setting verify instances entry.payload =
      DetachedSignature.ofEntry tx o instances entry verify := by
    obtain ⟨entries, transaction, outputIndex⟩ := setting
    subst htx ho
    rfl
  rw [hresult, ← hsame, hsig]

end Entry

/-! ## One output -/

section Output

variable [LawfulMonad m] [Definite m] {setting : Record.Setting} {verify : Verifier m}
  {tx : Transaction} {o : Nat}

/-- The entries with the tag, numbered from the count of the trace on, are listed with what the
trace found for them. -/
theorem listed_of_trace (htx : setting.transaction = some tx) (ho : setting.outputIndex = o)
    {index instances : Nat} {entries : List Entry} {decoded : List DecodedEntry}
    (h : DecodedEntry.Trace setting verify index instances entries decoded) :
    List.Forall₂
      (fun numbered result =>
        DetachedSignature.ofEntry tx o numbered.2 numbered.1 verify = pure result)
      ((entries.filter (·.tag = DetachedSignature.tag)).zipIdx instances)
      ((decoded.filter (·.entry.tag = DetachedSignature.tag)).map DecodedEntry.detached?) := by
  induction h with
  | nil => exact .nil
  | @cons index instances after entry found entries decoded hfound htrace ih =>
    have hcount := Record.count_of_decode hfound
    by_cases htag : entry.tag = DetachedSignature.tag
    · rw [if_pos htag] at hcount
      subst hcount
      simp only [List.filter_cons, htag, decide_true, if_true, List.zipIdx_cons, List.map_cons]
      exact .cons (ofEntry_of_decode htx ho htag hfound) ih
    · rw [if_neg htag, Nat.add_zero] at hcount
      subst hcount
      simpa only [List.filter_cons, htag, decide_false, Bool.false_eq_true, if_false] using ih

theorem filterMap_of_trace {index instances : Nat} {entries : List Entry}
    {decoded : List DecodedEntry}
    (h : DecodedEntry.Trace setting verify index instances entries decoded) :
    ((decoded.filter (·.entry.tag = DetachedSignature.tag)).map DecodedEntry.detached?).filterMap
      id = decoded.filterMap DecodedEntry.detached? := by
  induction h with
  | nil => rfl
  | @cons index instances after entry found entries decoded hfound htrace ih =>
    by_cases htag : entry.tag = DetachedSignature.tag
    · rw [List.filter_cons_of_pos (by simpa using htag), List.map_cons, List.filterMap_cons,
        List.filterMap_cons, ih]
      rfl
    · have hnone := detached?_of_tag_ne htag hfound
      simp only [List.filter_cons, htag, decide_false, Bool.false_eq_true, if_false,
        List.filterMap_cons, hnone, ih]

/-- **An output lists the detached signatures that it is decoded to.** -/
theorem ofOutput_of_decode {output : TxOutput} {decoded : List DecodedEntry}
    (h : DecodedEntry.ofOutput tx o output verify = pure decoded) :
    DetachedSignature.ofOutput tx o output verify =
      pure (decoded.filterMap DecodedEntry.detached?) := by
  unfold DecodedEntry.ofOutput at h
  unfold DetachedSignature.ofOutput
  cases hscan : Envelope.scan output.script with
  | none =>
    rw [hscan] at h
    obtain rfl := pure_eq_pure_iff.mp h
    rfl
  | some envelope =>
    rw [hscan] at h
    have htrace := Envelope.decode_eq_pure_iff.mp h
    rw [← filterMap_of_trace htrace]
    exact bind_eq_pure_iff.mpr ⟨_, mapM_eq_pure_iff.mpr (listed_of_trace rfl rfl htrace), rfl⟩

end Output

/-! ## Transactions -/

namespace DetachedSignature

/-- **The signatures of a transaction are those that its outputs are decoded to**, in order and with
the same places and verdicts. Nothing is asked of the inputs: where an outpoint cannot be written
and a signature needs it, the output cannot be decoded. -/
theorem ofTransaction_of_decode {ε : Type} {tx : Transaction} {verify : Verifier (Except ε)}
    {decoded : Nat → List DecodedEntry}
    (h : ∀ (o : Nat) (output : TxOutput), tx.outputs[o]? = some output →
      Returns (DecodedEntry.ofOutput tx o output verify) (decoded o)) :
    Returns (ofTransaction tx verify)
      ((List.range tx.outputs.length).flatMap fun o =>
        (decoded o).filterMap DecodedEntry.detached?) := by
  have hlisted : List.Forall₂
      (fun numbered sigs => Returns (ofOutput tx numbered.2 numbered.1 verify) sigs)
      tx.outputs.zipIdx
      ((List.range tx.outputs.length).map fun o =>
        (decoded o).filterMap DecodedEntry.detached?) := by
    rw [List.forall₂_iff_get]
    refine ⟨by simp, fun o ho _ => ?_⟩
    have ho' : o < tx.outputs.length := by simpa using ho
    have hreturns := h o tx.outputs[o] (List.getElem?_eq_getElem ho')
    simpa [returns_iff] using ofOutput_of_decode (returns_iff.mp hreturns)
  refine returns_bind_iff.mpr ⟨_, returns_mapM_iff.mpr hlisted, returns_pure_iff.mpr ?_⟩
  rw [List.flatMap_def]

/-- The push of the tag. -/
def tagPush : Bytes := [0x05, 0x53, 0x49, 0x47, 0x4D, 0x41]

/-- A bound signature behind an entry that reads as none, an output without an envelope, and a
signature over a message between entries of other kinds. -/
def scatteredSignatures : Transaction where
  inputs := [⟨String.ofList (List.replicate 64 'a'), 0, [], 0⟩]
  outputs :=
    [⟨0, [0x6A] ++ tagPush ++ [0x51, 0x01, 0x7C] ++ tagPush ++
        [0x03, 0x42, 0x53, 0x4D, 0x01, 0x61, 0x01, 0x73]⟩,
      ⟨0, [0x51]⟩,
      ⟨0, [0x6A, 0x01, 0x61, 0x51, 0x01, 0x7C] ++ tagPush ++
        [0x03, 0x42, 0x53, 0x4D, 0x01, 0x61, 0x01, 0x73, 0x01, 0x6D, 0x01, 0x7C, 0x01, 0x62]⟩]

/-- What its outputs are decoded to. -/
def scatteredRecords : Nat → List DecodedEntry
  | 0 =>
    [⟨⟨tag, [0x51], 1⟩, none⟩,
      ⟨⟨tag, [0x03, 0x42, 0x53, 0x4D, 0x01, 0x61, 0x01, 0x73], 10⟩,
        some (.detached ⟨"BSM", "a", [0x73], none, none, 0, 0, 1, true⟩)⟩]
  | 2 =>
    [⟨⟨[0x61], [0x51], 1⟩, none⟩,
      ⟨⟨tag, [0x03, 0x42, 0x53, 0x4D, 0x01, 0x61, 0x01, 0x73, 0x01, 0x6D], 6⟩,
        some (.detached ⟨"BSM", "a", [0x73], some "m", none, 0, 2, 0, false⟩)⟩,
      ⟨⟨[0x62], [], 24⟩, none⟩]
  | _ => []

/-- The bound signature is the second with the tag in the first output, though the only one that
reads. -/
theorem ofTransaction_scattered :
    (∀ (o : Nat) (output : TxOutput), scatteredSignatures.outputs[o]? = some output →
      Returns (DecodedEntry.ofOutput scatteredSignatures o output Envelope.acceptsDigests)
        (scatteredRecords o)) ∧
      Returns (ofTransaction scatteredSignatures Envelope.acceptsDigests)
        [⟨"BSM", "a", [0x73], none, none, 0, 0, 1, true⟩,
          ⟨"BSM", "a", [0x73], some "m", none, 0, 2, 0, false⟩] := by
  have hall : ∀ numbered ∈ scatteredSignatures.outputs.zipIdx,
      (DecodedEntry.ofOutput scatteredSignatures numbered.2 numbered.1
        Envelope.acceptsDigests).run = .ok (.ok (scatteredRecords numbered.2)) := by
    decide +kernel
  have hdecoded (o : Nat) (output : TxOutput) (ho : scatteredSignatures.outputs[o]? = some output) :
      Returns (DecodedEntry.ofOutput scatteredSignatures o output Envelope.acceptsDigests)
        (scatteredRecords o) :=
    hall (output, o) (List.mk_mem_zipIdx_iff_getElem?.mpr ho)
  exact ⟨hdecoded, ofTransaction_of_decode hdecoded⟩

end DetachedSignature

end OpReturn
