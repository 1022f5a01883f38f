import OpReturn.Proofs.Record.Built
import OpReturn.Proofs.Record.Verdict

/-!
# What is written later

A script in an output can be continued behind a delimiter by any bytes, also by such that are cut
short or hold tags of signatures. The entries that were there are still found where they were, and
what a record of theirs depends on is the same: the entries before it, their number of detached
signatures, and the part of the script before its own marker or delimiter.

**Theorem (`decode_take_of_append`).** If the envelope of the longer script can be decoded, then its
first results are those that decoding the envelope of the shorter one returns, verdicts included.
-/

namespace OpReturn

variable {ε : Type}

/-! ## One entry -/

/-- The verdict within a transaction depends on the transaction only by the digests for the place
of the signature. -/
theorem DetachedSignature.placed_congr {m : Type → Type} [Monad m] {tx tx' : Transaction}
    {outputIndex instanceIndex : Int}
    (h : ∀ inputIndex, messageHash tx' outputIndex instanceIndex inputIndex =
      messageHash tx outputIndex instanceIndex inputIndex)
    (sig : DetachedSignature) (verify : Verifier m) :
    sig.placed tx' outputIndex instanceIndex verify =
      sig.placed tx outputIndex instanceIndex verify := by
  obtain ⟨_, _, _, message, _, _, _, _, _⟩ := sig
  cases message with
  | some message => rfl
  | none => simp only [placed, DetachedSignature.verify, h]

/-- What an entry holds depends on the entries before it and, if it is a detached signature, on the
digests for its place. -/
theorem Record.foundAt_congr {entries entries' : List Entry} {tx tx' : Transaction}
    {outputIndex : Int} {verify : Verifier (Except ε)} {index : Nat} {d : DecodedEntry}
    (htake : entries'.take index = entries.take index)
    (hdigest : d.entry.tag = DetachedSignature.tag → ∀ inputIndex,
      messageHash tx' outputIndex (instancesBefore entries index) inputIndex =
        messageHash tx outputIndex (instancesBefore entries index) inputIndex) :
    FoundAt ⟨entries', some tx', outputIndex⟩ verify index d ↔
      FoundAt ⟨entries, some tx, outputIndex⟩ verify index d := by
  have hcount : instancesBefore entries' index = instancesBefore entries index := by
    rw [instancesBefore, htake, instancesBefore]
  suffices h : decode ⟨entries', some tx', outputIndex⟩ verify index
      (instancesBefore entries index) d.entry = decode ⟨entries, some tx, outputIndex⟩ verify index
        (instancesBefore entries index) d.entry by
    rw [FoundAt, FoundAt, hcount, h]
  by_cases htag : d.entry.tag = DetachedSignature.tag
  · have hplaced (sig : DetachedSignature) :=
      DetachedSignature.placed_congr (hdigest htag) sig verify
    simp only [decode, htake, decodeDetached, hplaced]
  · simp only [decode, htake, if_neg htag]

/-! ## Covered parts -/

/-- A detached signature covers what was built before it, however the script goes on. -/
theorem Plain.covered_append {lead script : Bytes} {entries : List Entry} (h : Plain lead entries)
    (hbuild : Envelope.build lead entries = .ok script) {i : Nat} {entry : Entry}
    (hi : entries[i]? = some entry) (htag : entry.tag = DetachedSignature.tag) (t : Bytes) :
    covered (script ++ t) (Record.instancesBefore entries i) =
      covered script (Record.instancesBefore entries i) := by
  obtain ⟨hlt, rfl⟩ := List.getElem?_eq_some_iff.mp hi
  have hsplit : entries = entries.take i ++ entries[i] :: entries.drop (i + 1) := by
    rw [List.getElem_cons_drop, List.take_append_drop]
  obtain ⟨htags, -⟩ := (Envelope.build_eq_ok_iff (List.ne_nil_of_length_pos (by omega))).mp hbuild
  obtain ⟨front, hfront, hscript⟩ :=
    exists_build_append lead (List.cons_ne_nil entries[i] (entries.drop (i + 1))) (hsplit ▸ htags)
  rw [← hsplit] at hscript
  obtain rfl := Except.ok.inj (hbuild.symm.trans hscript)
  have htally : Tally front (Record.instancesBefore entries i) :=
    Plain.tally_of_build ⟨h.lead, fun e he => h.payloads e (List.mem_of_mem_take he)⟩ hfront
  obtain ⟨op, body, hpush, hread⟩ := read_pushBytes (htags _ (List.getElem_mem hlt))
  obtain ⟨rest, hjoined⟩ : ∃ rest,
      joined ((entries[i] :: entries.drop (i + 1)).map Entry.encoded) = op :: (body ++ rest) := by
    rw [List.map_cons, Entry.encoded, hpush]
    by_cases hnil : (entries.drop (i + 1)).map Entry.encoded = []
    · exact ⟨_, by rw [hnil, joined_singleton]; rfl⟩
    · rw [joined_cons _ hnil]
      simp only [List.cons_append, List.append_assoc]
      exact ⟨_, rfl⟩
  generalize (entries.take i).length = j at hjoined ⊢
  rw [hjoined]
  -- The tag is whole, so what stands before it is covered.
  have hall (t : Bytes) : covered (front ++ (markBefore j ++ op :: (body ++ rest)) ++ t)
      (Record.instancesBefore entries i) = front := by
    have hsplit' : front ++ (markBefore j ++ op :: (body ++ rest)) ++ t =
        front ++ (markBefore j ++ op :: (body ++ (rest ++ t))) := by simp
    refine (covered_eq_iff hsplit' htally.whole ?_ ?_ _).mpr htally
    · rw [hread]
    · rw [hread]
      exact htag
  rw [hall t, ← List.append_nil (front ++ _), hall []]

/-! ## All entries -/

/-- **What is written later behind a delimiter changes no earlier result.** If the envelope of the
longer script can be decoded, then decoding that of the shorter one returns the first of its
results. -/
theorem decode_take_of_append {lead : Bytes} {entries : List Entry} (hplain : Plain lead entries)
    (hne : entries ≠ []) {tx : Transaction} {o : Nat} {output : TxOutput}
    (ho : tx.outputs[o]? = some output)
    (hbuild : Envelope.build lead entries = .ok output.script) (t : Bytes) :
    ∃ envelope envelope', Envelope.scan output.script = some envelope ∧
      Envelope.scan (output.script ++ (Chunk.delimiter ++ t)) = some envelope' ∧
      ∀ (verify : Verifier (Except ε)) (decoded : List DecodedEntry),
        Returns (envelope'.decode
          (some (tx.withScript o (output.script ++ (Chunk.delimiter ++ t)))) o verify) decoded →
        Returns (envelope.decode (some tx) o verify) (decoded.take entries.length) := by
  have hscan := Envelope.scan_of_build hplain.lead.isMarker hne hplain.isDelimiter hbuild
  have hscan' :=
    Envelope.scan_of_build_append hplain.lead.isMarker hne hplain.isDelimiter hbuild t
  refine ⟨_, _, hscan, hscan', fun verify decoded h => ?_⟩
  obtain ⟨hmap, hall⟩ := Envelope.returns_decode_iff.mp h
  have hcontent := content_placed (lead.length + 1) entries
  dsimp only at hmap hall
  generalize placed (lead.length + 1) entries = found at hmap hall hcontent
  generalize Entry.scanFrom _ [] t = later at hmap hall
  have hlen : found.length = entries.length := by
    simpa using congrArg List.length hcontent
  refine Envelope.returns_decode_iff.mpr ⟨?_, fun i d hi => ?_⟩
  · rw [List.map_take, hmap, List.take_left' hlen]
  · obtain ⟨hlt, hi⟩ : i < entries.length ∧ decoded[i]? = some d := by
      rw [List.getElem?_take] at hi
      split_ifs at hi with hlt
      exact ⟨hlt, hi⟩
    refine (Record.foundAt_congr ?_ fun htag inputIndex => ?_).mp (hall i d hi)
    · rw [List.take_append_of_le_length (by omega)]
    · have hfound : (found ++ later)[i]? = some d.entry := by
        rw [← hmap, List.getElem?_map, hi, Option.map_some]
      rw [List.getElem?_append_left (by omega)] at hfound
      have hget : (entries.map Entry.content)[i]? = some d.entry.content := by
        rw [← hcontent, List.getElem?_map, hfound, Option.map_some]
      obtain ⟨entry, hentry, hsame⟩ := Option.map_eq_some_iff.mp (List.getElem?_map .. ▸ hget)
      have htag' : entry.tag = DetachedSignature.tag := (congrArg Prod.fst hsame).trans htag
      refine messageHash_withScript ho ?_ inputIndex
      rw [Record.instancesBefore_congr hcontent]
      exact hplain.covered_append hbuild hentry htag' _

/-- The only output of the mixed transaction. -/
def mixedOutput : TxOutput := ⟨0, Envelope.mixedSignatures.toScript.toOption.getD []⟩

/-- A signature bound to the transaction, then a marker and a push that is cut short. -/
def boundPayload : Bytes := [0x03, 0x42, 0x53, 0x4D, 0x01, 0x61, 0x01, 0x73, 0x6A, 0x4C]

/-- The script of that output goes on with that signature. -/
def laterScript : Bytes :=
  mixedOutput.script ++ (Chunk.delimiter ++ (pushBytes DetachedSignature.tag ++ boundPayload))

/-- The signature that is written later is held valid, and the verdicts before it stay. -/
theorem decode_take_mixedSignatures :
    ∃ envelope decoded, Envelope.scan laterScript = some envelope ∧
      Returns (envelope.decode (some (Envelope.mixedTransaction.withScript 0 laterScript)) 0
        Envelope.acceptsDigests) decoded ∧
      decoded.map (fun d => (d.record.map Record.verdicts).getD []) =
        [[], [true], [false], [true]] ∧
      Returns (Envelope.mixedSignatures.decode (some Envelope.mixedTransaction) 0
        Envelope.acceptsDigests) (decoded.take 3) := by
  have hplain : Plain [] Envelope.mixedSignatures.entries := by
    refine ⟨.nil, ?_⟩
    simp only [Envelope.mixedSignatures, List.forall_mem_cons]
    exact ⟨.cons rfl rfl .nil, .cons rfl rfl (.cons rfl rfl (.cons rfl rfl .nil)),
      .cons rfl rfl (.cons rfl rfl (.cons rfl rfl .nil)), by simp⟩
  have ho : Envelope.mixedTransaction.outputs[0]? = some mixedOutput := by decide +kernel
  have hbuild : Envelope.build [] Envelope.mixedSignatures.entries = .ok mixedOutput.script := by
    decide +kernel
  obtain ⟨envelope, envelope', hscan, hscan', htake⟩ := decode_take_of_append (ε := String) hplain
    (List.cons_ne_nil _ _) ho hbuild (pushBytes DetachedSignature.tag ++ boundPayload)
  have hfound : Envelope.scan mixedOutput.script = some Envelope.mixedSignatures := by
    decide +kernel
  have hfound' : Envelope.scan laterScript = some ⟨[], Envelope.mixedSignatures.entries ++
      [⟨DetachedSignature.tag, boundPayload, 69⟩]⟩ := by decide +kernel
  obtain rfl := Option.some.inj (hscan.symm.trans hfound)
  obtain rfl := Option.some.inj (hscan'.symm.trans hfound')
  have hrun : Returns (Envelope.decode
      ⟨[], Envelope.mixedSignatures.entries ++ [⟨DetachedSignature.tag, boundPayload, 69⟩]⟩
      (some (Envelope.mixedTransaction.withScript 0 laterScript)) 0 Envelope.acceptsDigests)
      [⟨⟨DetachedSignature.tag, [0x51], 1⟩, none⟩,
        ⟨⟨DetachedSignature.tag, [0x03, 0x42, 0x53, 0x4D, 0x01, 0x61, 0x01, 0x73], 10⟩,
          some (.detached ⟨"BSM", "a", [0x73], none, none, 0, 0, 1, true⟩)⟩,
        ⟨⟨IdentitySignature.tag, [0x01, 0x42, 0x01, 0x61, 0x01, 0x73], 26⟩,
          some (.identity ⟨"B", "a", [0x73], none, false⟩)⟩,
        ⟨⟨DetachedSignature.tag, boundPayload, 69⟩,
          some (.detached ⟨"BSM", "a", [0x73], none, none, 0, 0, 2, true⟩)⟩] := by
    unfold Returns
    decide +kernel
  exact ⟨_, _, hfound', hrun, rfl, htake Envelope.acceptsDigests _ hrun⟩

end OpReturn
