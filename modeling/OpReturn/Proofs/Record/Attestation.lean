import OpReturn.Proofs.Record.Verifier
import OpReturn.Proofs.Script.Walk
import OpReturn.Proofs.Success
import OpReturn.Record.Attestation

/-!
# Verdicts of identity signatures

An identity signature stands alone, or an attestation carries it. Either way its verdict is the
verifier's own: on the message of the entries before it, or of those and the attestation cut before
the pipe that the signature stands behind.

* `CutBeforePipe`: where an attestation is cut, told by its chunks alone; there is only one such
  place (`CutBeforePipe.unique`).
* `IdentitySignature.verify_of_decode`, `AttestationRecord.verify_of_decode`: whenever decoding
  returns a signature, the verifier gave its verdict.
-/

namespace OpReturn

variable {ε : Type}

/-! ## Identity signatures -/

namespace IdentitySignature

theorem verified_eq_ok_iff {sig sig' : IdentitySignature} {preceding : List Entry}
    {verify : Verifier (Except ε)} : sig.verified preceding verify = .ok sig' ↔ ∃ valid,
      verify sig.address sig.signature (canonicalMessage preceding sig.fieldIndexes) = .ok valid ∧
        sig' = { sig with valid } := by
  rw [verified, bind_eq_ok_iff]
  constructor
  · rintro ⟨valid, hvalid, hsig⟩
    exact ⟨valid, hvalid, (Except.ok.inj hsig).symm⟩
  · rintro ⟨valid, hvalid, rfl⟩
    exact ⟨valid, hvalid, rfl⟩

theorem verify_of_verified {sig sig' : IdentitySignature} {preceding : List Entry}
    {verify : Verifier (Except ε)} (h : sig.verified preceding verify = .ok sig') :
    verify sig'.address sig'.signature (canonicalMessage preceding sig'.fieldIndexes) =
      .ok sig'.valid := by
  obtain ⟨valid, hvalid, rfl⟩ := verified_eq_ok_iff.mp h
  exact hvalid

theorem verify_of_decode {payload : Bytes} {preceding : List Entry}
    {verify : Verifier (Except ε)} {sig : IdentitySignature}
    (h : Returns (decode payload preceding verify) (some sig)) :
    verify sig.address sig.signature (canonicalMessage preceding sig.fieldIndexes) =
      .ok sig.valid := by
  unfold decode at h
  cases hparse : parse payload with
  | error e =>
    rw [hparse] at h
    exact absurd h not_returns_throw
  | ok parsed =>
    rw [hparse] at h
    cases parsed with
    | none => exact nomatch returns_pure_iff.mp h
    | some unverified =>
      obtain ⟨verified, hverified, hpure⟩ := returns_bind_iff.mp h
      obtain rfl := Option.some.inj (returns_pure_iff.mp hpure)
      exact verify_of_verified (returns_lift_iff.mp hverified)

end IdentitySignature

/-! ## Attestations -/

/-- `fields` is what a payload has before its first separator after the third chunk. -/
def CutBeforePipe (payload fields : Bytes) : Prop :=
  ∃ chunks op s, payload = fields ++ op :: s ∧ Chunk.parseAll fields = .ok chunks ∧
    3 ≤ chunks.length ∧ (∀ chunk ∈ chunks.drop 3, chunk.data ≠ Chunk.separator) ∧
    (Step.read op s).chunk.data = Chunk.separator

theorem CutBeforePipe.unique {payload a b : Bytes} (ha : CutBeforePipe payload a)
    (hb : CutBeforePipe payload b) : a = b := by
  wlog hle : a.length ≤ b.length generalizing a b
  · exact (this hb ha (Nat.le_of_not_le hle)).symm
  obtain ⟨chunks, op, s, hpayload, hparse, hlen, -, hpipe⟩ := ha
  obtain ⟨chunks', op', s', hpayload', hparse', -, hclear, -⟩ := hb
  obtain ⟨c, rfl⟩ : a <+: b :=
    List.prefix_of_prefix_length_le ⟨_, hpayload.symm⟩ ⟨_, hpayload'.symm⟩ hle
  cases c with
  | nil => exact (List.append_nil a).symm
  | cons q c =>
    -- The longer one goes on with the chunk that ends the shorter one.
    have hsame : a ++ op :: s = a ++ q :: (c ++ op' :: s') := by
      rw [← hpayload, hpayload', List.append_assoc, List.cons_append]
    obtain ⟨rfl, rfl⟩ := List.cons.inj (List.append_cancel_left hsame)
    obtain ⟨_, hrest, rfl⟩ := (parseAll_append_iff hparse).mp hparse'
    obtain ⟨hcut, rest, -, rfl⟩ := parseAll_cons_iff.mp hrest
    rw [Step.read_append hcut] at hpipe
    refine absurd hpipe (hclear _ ?_)
    rw [List.drop_append_of_le_length hlen]
    exact List.mem_append_right _ List.mem_cons_self

namespace AttestationRecord

theorem locatedChunks_eq {payload : Bytes} (h : locatedChunks payload ≠ []) :
    locatedChunks payload = (walk payload).map fun located => (located.1, located.2.chunk) := by
  unfold locatedChunks at h ⊢
  dsimp only at h ⊢
  split_ifs at h ⊢ with hall
  · rfl
  · exact absurd rfl h

theorem chained_ofFields (kind : AttestationKind) (key field : String) :
    (ofFields kind key field).chained = none := by
  unfold ofFields
  split_ifs <;> rfl

theorem exists_ofFields_of_ofTextSearch {payload : Bytes} {record : AttestationRecord}
    (h : ofTextSearch payload = some record) :
    ∃ kind key field, record = { ofFields kind key field with fallback := true } := by
  unfold ofTextSearch at h
  dsimp only at h
  split at h
  · exact nomatch h
  · split at h
    · obtain rfl := Option.some.inj h
      exact ⟨_, _, _, rfl⟩
    · exact nomatch h

theorem exists_ofFields_of_parseChunks {chunks : List (Nat × Chunk)} {record : AttestationRecord}
    {part : Option (Nat × IdentitySignature)}
    (h : parseChunks chunks = .ok (some (record, part))) :
    (∃ kind key field, record = ofFields kind key field) ∧ chainedPart chunks = .ok part := by
  unfold parseChunks at h
  split at h
  · split at h
    · exact nomatch h
    · cases hpart : chainedPart _ with
      | error e =>
        rw [hpart] at h
        exact nomatch h
      | ok found =>
        rw [hpart] at h
        obtain ⟨rfl, rfl⟩ := Prod.mk.inj (Option.some.inj (Except.ok.inj h))
        exact ⟨⟨_, _, _, rfl⟩, rfl⟩
  · exact nomatch h

/-- The signature stands behind the first separator after the third chunk. -/
theorem exists_of_chainedPart {chunks : List (Nat × Chunk)} {offset : Nat}
    {sig : IdentitySignature} (h : chainedPart chunks = .ok (some (offset, sig))) :
    ∃ before pipe rest, chunks.drop 3 = before ++ (offset, pipe) :: rest ∧
      (∀ located ∈ before, located.2.data ≠ Chunk.separator) ∧
      pipe.data = Chunk.separator := by
  unfold chainedPart at h
  split at h
  · rename_i p pipe tag rest heq
    cases hsig : IdentitySignature.ofChunks (rest.map (·.2)) with
    | error e =>
      rw [hsig] at h
      exact nomatch h
    | ok found =>
      rw [hsig] at h
      obtain ⟨sig', rfl, hfound⟩ := Option.map_eq_some_iff.mp (Except.ok.inj h)
      obtain ⟨rfl, rfl⟩ := Prod.mk.inj hfound
      refine ⟨(chunks.drop 3).takeWhile (fun l => l.2.data ≠ Chunk.separator), pipe, tag :: rest,
        ?_, ?_, ?_⟩
      · rw [← heq, List.takeWhile_append_dropWhile]
      · intro located hmem
        simpa using List.all_eq_true.mp List.all_takeWhile located hmem
      · have hhead := List.head?_dropWhile_not (fun l : Nat × Chunk => l.2.data ≠ Chunk.separator)
          (chunks.drop 3)
        rw [heq] at hhead
        simpa using hhead
  · exact nomatch h

theorem exists_ofChunks_of_chainedPart {chunks : List (Nat × Chunk)} {offset : Nat}
    {sig : IdentitySignature} (h : chainedPart chunks = .ok (some (offset, sig))) :
    ∃ fields, IdentitySignature.ofChunks fields = .ok (some sig) := by
  unfold chainedPart at h
  split at h
  · obtain ⟨found, hfound, hsome⟩ := map_eq_ok_iff.mp h
    obtain ⟨sig', rfl, hsame⟩ := Option.map_eq_some_iff.mp hsome
    obtain ⟨-, rfl⟩ := Prod.mk.inj hsame
    exact ⟨_, hfound⟩
  · exact nomatch h

theorem cutBeforePipe_of_chainedPart {payload : Bytes} {offset : Nat} {sig : IdentitySignature}
    (h : chainedPart (locatedChunks payload) = .ok (some (offset, sig))) :
    CutBeforePipe payload (payload.take offset) := by
  obtain ⟨before, pipe, rest, hdrop, hbefore, hpipe⟩ := exists_of_chainedPart h
  have hne : locatedChunks payload ≠ [] := by
    intro hnil
    rw [hnil] at hdrop
    simp at hdrop
  have hlen : ((locatedChunks payload).take 3).length = 3 := by
    have := congrArg List.length hdrop
    simp only [List.length_drop, List.length_append, List.length_cons] at this
    rw [List.length_take]
    omega
  have hsplit : (walk payload).map (fun l => (l.1, l.2.chunk)) =
      ((locatedChunks payload).take 3 ++ before) ++ (offset, pipe) :: rest := by
    rw [← locatedChunks_eq hne, List.append_assoc, ← hdrop, List.take_append_drop]
  obtain ⟨walked, after, hwalk, hwalked, hafter⟩ := List.map_eq_append_iff.mp hsplit
  obtain ⟨⟨p, step⟩, after, rfl, hstep, -⟩ := List.map_eq_cons_iff.mp hafter
  obtain ⟨rfl, rfl⟩ := Prod.mk.inj hstep
  obtain ⟨fields, op, s, hpayload, hp, rfl, hparse, -⟩ := exists_of_walkFrom_eq hwalk
  have hfields : payload.take p = fields := by
    rw [hpayload, hp, Nat.zero_add, List.take_left]
  have hchunks : walked.map (·.2.chunk) =
      ((locatedChunks payload).take 3).map (·.2) ++ before.map (·.2) := by
    rw [← List.map_append, ← hwalked, List.map_map]
    rfl
  rw [hfields]
  refine ⟨_, op, s, hpayload, hparse, ?_, ?_, hpipe⟩
  · rw [hchunks, List.length_append, List.length_map, hlen]
    omega
  · rw [hchunks, List.drop_left' (by rw [List.length_map, hlen]), List.forall_mem_map]
    exact hbefore

/-- What decoding returns is the record of a kind and two fields: found by searching text, or read
from chunks, and then possibly with the signature that these carry and the verdict on it. -/
theorem exists_of_returns {payload : Bytes} {preceding : List Entry}
    {verify : Verifier (Except ε)} {record : AttestationRecord}
    (h : Returns (decode payload preceding verify) (some record)) :
    ∃ kind key field, record = { ofFields kind key field with fallback := true } ∨
      record = ofFields kind key field ∨
      ∃ offset sig valid, chainedPart (locatedChunks payload) = .ok (some (offset, sig)) ∧
        verify sig.address sig.signature
          (canonicalMessage (preceding ++ [⟨tag, payload.take offset, 0⟩]) sig.fieldIndexes) =
            .ok valid ∧
        record = { ofFields kind key field with chained := some { sig with valid } } := by
  unfold decode at h
  dsimp only at h
  split_ifs at h
  · obtain ⟨kind, key, field, hrecord⟩ :=
      exists_ofFields_of_ofTextSearch (returns_pure_iff.mp h)
    exact ⟨kind, key, field, Or.inl hrecord⟩
  · split at h
    · exact absurd h not_returns_throw
    · exact nomatch returns_pure_iff.mp h
    · rename_i hparse
      obtain rfl := Option.some.inj (returns_pure_iff.mp h)
      obtain ⟨⟨kind, key, field, hrecord⟩, -⟩ := exists_ofFields_of_parseChunks hparse
      exact ⟨kind, key, field, Or.inr (Or.inl hrecord)⟩
    · rename_i offset sig hparse
      obtain ⟨verified, hverified, hpure⟩ := returns_bind_iff.mp h
      obtain rfl := Option.some.inj (returns_pure_iff.mp hpure)
      obtain ⟨⟨kind, key, field, rfl⟩, hpart⟩ := exists_ofFields_of_parseChunks hparse
      obtain ⟨valid, hvalid, rfl⟩ :=
        IdentitySignature.verified_eq_ok_iff.mp (returns_lift_iff.mp hverified)
      exact ⟨kind, key, field, Or.inr (Or.inr ⟨offset, sig, valid, hpart, hvalid, rfl⟩)⟩

theorem verify_of_decode {payload : Bytes} {preceding : List Entry}
    {verify : Verifier (Except ε)} {record : AttestationRecord} {sig : IdentitySignature}
    (h : Returns (decode payload preceding verify) (some record))
    (hchained : record.chained = some sig) :
    ∃ fields, CutBeforePipe payload fields ∧
      verify sig.address sig.signature
        (canonicalMessage (preceding ++ [⟨tag, fields, 0⟩]) sig.fieldIndexes) =
          .ok sig.valid := by
  obtain ⟨kind, key, field, rfl | rfl | ⟨offset, found, valid, hpart, hvalid, rfl⟩⟩ :=
    exists_of_returns h
  · exact nomatch (chained_ofFields kind key field).symm.trans hchained
  · exact nomatch (chained_ofFields kind key field).symm.trans hchained
  · obtain rfl := Option.some.inj hchained
    exact ⟨_, cutBeforePipe_of_chainedPart hpart, hvalid⟩

end AttestationRecord

end OpReturn
