import Mathlib.Data.List.TakeWhile
import OpReturn.Proofs.Envelope.Extended
import OpReturn.Proofs.Record.Identity

/-!
# Two readings of a signed attestation

An attestation that carries a signature can be read in two ways. Its payload as a whole is searched
for a pipe, and what stands behind it is the signature. An envelope is split at the same pipe, as it
is a delimiter, so there the fields and the signature are two entries. Either way the signature
covers the entries before and the fields.

**Theorem (`decode_chained`).** Whatever decoding the envelope returns, reading the payload as a
whole returns the record of the first entry, with the signature of the second one chained.
-/

namespace OpReturn

variable {ε : Type}

namespace AttestationRecord

/-! ## Located chunks -/

/-- The chunks of a part that starts at an offset, each with its own offset. -/
def locatedFrom (offset : Nat) (s : Bytes) : List (Nat × Chunk) :=
  (walkFrom offset [] s).map fun l => (l.1, l.2.chunk)

theorem locatedChunks_of_whole {s : Bytes} (h : Whole s) : locatedChunks s = locatedFrom 0 s := by
  have hall : (walk s).all (fun l => l.2.cut.isNone) = true := by
    rw [List.all_eq_true]
    intro l hmem
    rw [whole_iff.mp h l.2 (List.mem_map_of_mem hmem)]
    rfl
  rw [locatedChunks, if_pos hall]
  rfl

theorem map_snd_locatedFrom {s : Bytes} {chunks : List Chunk} (h : Chunk.parseAll s = .ok chunks)
    (offset : Nat) : (locatedFrom offset s).map Prod.snd = chunks := by
  obtain ⟨-, rfl⟩ := parseAll_eq_ok_iff.mp h
  rw [locatedFrom, ← map_snd_walkFrom offset, List.map_map, List.map_map]
  rfl

theorem locatedFrom_append {a : Bytes} (h : Whole a) (offset : Nat) (b : Bytes) :
    locatedFrom offset (a ++ b) = locatedFrom offset a ++ locatedFrom (offset + a.length) b := by
  rw [locatedFrom, walkFrom_append h, List.map_append, List.map_map]
  rfl

theorem locatedFrom_cons (offset : Nat) (op : UInt8) (s : Bytes) :
    locatedFrom offset (op :: s) = (offset, (Step.read op s).chunk) ::
      locatedFrom (offset + (Step.read op s).size) (Step.read op s).rest := by
  rw [locatedFrom, walkFrom_cons]
  rfl

/-! ## Fields and what follows them -/

variable {located : List (Nat × Chunk)}

theorem chainedPart_of_clear (h : ∀ l ∈ located.drop 3, l.2.data ≠ Chunk.separator) :
    chainedPart located = .ok none := by
  have hnil : (located.drop 3).dropWhile (fun l => l.2.data ≠ Chunk.separator) = [] := by
    rw [List.dropWhile_eq_nil_iff]
    exact fun l hmem => decide_eq_true (h l hmem)
  rw [chainedPart, hnil]

/-- Behind the first pipe and a tag stand the chunks of the signature. -/
theorem chainedPart_append (hlen : 3 ≤ located.length)
    (h : ∀ l ∈ located.drop 3, l.2.data ≠ Chunk.separator) {offset : Nat} {pipe : Chunk}
    (hpipe : pipe.data = Chunk.separator) (tag : Nat × Chunk) (rest : List (Nat × Chunk)) :
    chainedPart (located ++ (offset, pipe) :: tag :: rest) =
      (IdentitySignature.ofChunks (rest.map Prod.snd)).map fun sig =>
        sig.map fun sig => (offset, sig) := by
  have hdrop : ((located ++ (offset, pipe) :: tag :: rest).drop 3).dropWhile
      (fun l => l.2.data ≠ Chunk.separator) = (offset, pipe) :: tag :: rest := by
    rw [List.drop_append_of_le_length hlen, List.dropWhile_append_of_pos fun l hmem =>
      decide_eq_true (h l hmem)]
    exact List.dropWhile_cons_of_neg (by simp [hpipe])
  rw [chainedPart, hdrop]

theorem parseChunks_append {kind key field : Chunk} {rest : List Chunk}
    (hchunks : located.map Prod.snd = kind :: key :: field :: rest) {kind' : AttestationKind}
    (hkind : AttestationKind.ofText? (Utf8.decode kind.data) = some kind')
    (more : List (Nat × Chunk)) :
    parseChunks (located ++ more) = (chainedPart (located ++ more)).map fun part =>
      some (ofFields kind' (Utf8.decode key.data) (Utf8.decode field.data), part) := by
  obtain ⟨⟨_, _⟩, second, rfl, rfl, hsecond⟩ := List.map_eq_cons_iff.mp hchunks
  obtain ⟨⟨_, _⟩, third, rfl, rfl, hthird⟩ := List.map_eq_cons_iff.mp hsecond
  obtain ⟨⟨_, _⟩, others, rfl, rfl, -⟩ := List.map_eq_cons_iff.mp hthird
  simp only [List.cons_append, parseChunks, hkind]

/-- Fields without a signature, and the record that they read as: their first three chunks tell it,
and no pipe stands behind these. -/
inductive ReadsAs : Bytes → AttestationRecord → Prop
  | mk {fields : Bytes} {kind key field : Chunk} {rest : List Chunk} {kind' : AttestationKind}
    (parse : Chunk.parseAll fields = .ok (kind :: key :: field :: rest))
    (text : AttestationKind.ofText? (Utf8.decode kind.data) = some kind')
    (clear : ∀ chunk ∈ rest, chunk.data ≠ Chunk.separator) :
    ReadsAs fields (ofFields kind' (Utf8.decode key.data) (Utf8.decode field.data))

/-- A kind and two fields at least, and no pipe among the chunks. -/
structure Unsigned (fields : Bytes) (chunks : List Chunk) : Prop where
  parse : Chunk.parseAll fields = .ok chunks
  length : 3 ≤ chunks.length
  kind : (chunks.head?.bind fun c => AttestationKind.ofText? (Utf8.decode c.data)).isSome
  clear : ∀ chunk ∈ chunks, chunk.data ≠ Chunk.separator

theorem Unsigned.exists_readsAs {fields : Bytes} {chunks : List Chunk}
    (h : Unsigned fields chunks) : ∃ record, ReadsAs fields record := by
  obtain ⟨hparse, hlen, hkind, hclear⟩ := h
  rcases chunks with _ | ⟨kind, _ | ⟨key, _ | ⟨field, rest⟩⟩⟩
  · simp at hlen
  · simp at hlen
  · simp at hlen
  · obtain ⟨kind', hkind⟩ := Option.isSome_iff_exists.mp hkind
    exact ⟨_, .mk hparse hkind fun chunk hmem => hclear chunk (by simp [hmem])⟩

/-- The payload that chains a signature to some fields. -/
def chain (fields signature : Bytes) : Bytes :=
  fields ++ (Chunk.delimiter ++ (pushBytes IdentitySignature.tag ++ signature))

theorem locatedChunks_chain {fields signature : Bytes} (hfields : Whole fields)
    (hsignature : Whole signature) :
    ∃ pipe tag offset, pipe.data = Chunk.separator ∧ locatedChunks (chain fields signature) =
      locatedFrom 0 fields ++ (fields.length, pipe) :: tag :: locatedFrom offset signature := by
  have htag : IdentitySignature.tag.length ≤ maxPush := by decide
  obtain ⟨op, body, hpush, hread⟩ := read_pushBytes htag
  have hwhole : Whole (chain fields signature) := by
    have hpipe : Whole Chunk.delimiter := ⟨[⟨0x01, Chunk.separator⟩], by decide +kernel⟩
    obtain ⟨chunk, hchunk, -⟩ := parseAll_pushBytes htag
    exact hfields.append (hpipe.append (Whole.append ⟨[chunk], hchunk⟩ hsignature))
  obtain ⟨tag, offset, htail⟩ : ∃ tag offset, locatedFrom fields.length
      (Chunk.delimiter ++ (pushBytes IdentitySignature.tag ++ signature)) =
        (fields.length, ⟨0x01, Chunk.separator⟩) :: tag :: locatedFrom offset signature := by
    show ∃ tag offset, locatedFrom _ (0x01 :: 0x7C :: (pushBytes _ ++ signature)) = _
    rw [locatedFrom_cons, Step.read_delimiter, hpush, List.cons_append]
    dsimp only
    rw [locatedFrom_cons, hread]
    exact ⟨_, _, rfl⟩
  refine ⟨⟨0x01, Chunk.separator⟩, tag, offset, rfl, ?_⟩
  rw [locatedChunks_of_whole hwhole, chain, locatedFrom_append hfields, Nat.zero_add, htail]

section ReadsAs

variable {fields : Bytes} {record : AttestationRecord} (h : ReadsAs fields record)

include h

theorem ReadsAs.exists_located : Whole fields ∧ 3 ≤ (locatedFrom 0 fields).length ∧
    (∀ l ∈ (locatedFrom 0 fields).drop 3, l.2.data ≠ Chunk.separator) ∧
    ∀ more, parseChunks (locatedFrom 0 fields ++ more) =
      (chainedPart (locatedFrom 0 fields ++ more)).map fun part => some (record, part) := by
  cases h with
  | mk hparse hkind hclear =>
    have hmap := map_snd_locatedFrom hparse 0
    refine ⟨⟨_, hparse⟩, ?_, ?_, parseChunks_append hmap hkind⟩
    · rw [← List.length_map (f := Prod.snd), hmap]
      simp
    · intro l hmem
      refine hclear l.2 ?_
      have hsnd := List.mem_map_of_mem (f := Prod.snd) hmem
      rwa [List.map_drop, hmap] at hsnd

theorem ReadsAs.decode (preceding : List Entry) (verify : Verifier (Except ε)) :
    decode fields preceding verify = pure (some record) := by
  obtain ⟨hwhole, hlen, hclear, hread⟩ := h.exists_located
  have hnone := hread []
  rw [List.append_nil, chainedPart_of_clear hclear] at hnone
  rw [AttestationRecord.decode, locatedChunks_of_whole hwhole]
  dsimp only
  rw [if_neg (by omega), hnone]
  rfl

/-- With a signature chained to them, they are read as the same record that carries it. -/
theorem ReadsAs.decode_chain {signature : Bytes} {sig : IdentitySignature}
    (hsig : IdentitySignature.parse signature = .ok (some sig)) (preceding : List Entry)
    (verify : Verifier (Except ε)) :
    AttestationRecord.decode (chain fields signature) preceding verify = (do
      let sig ← (sig.verified (preceding ++ [⟨tag, fields, 0⟩]) verify : Except ε _)
      return some { record with chained := some sig }) := by
  obtain ⟨hwhole, hlen, hclear, hread⟩ := h.exists_located
  obtain ⟨cs, hcs, hsig⟩ : ∃ cs, Chunk.parseAll signature = .ok cs ∧
      IdentitySignature.ofChunks cs = .ok (some sig) := by
    rw [IdentitySignature.parse] at hsig
    cases hcs : Chunk.parseAll signature with
    | error e =>
      rw [hcs] at hsig
      exact absurd hsig (by simp)
    | ok cs =>
      rw [hcs] at hsig
      exact ⟨cs, rfl, hsig⟩
  obtain ⟨pipe, tag', offset, hpipe, hlocated⟩ := locatedChunks_chain hwhole ⟨cs, hcs⟩
  have hsome := hread ((fields.length, pipe) :: tag' :: locatedFrom offset signature)
  rw [chainedPart_append hlen hclear hpipe, map_snd_locatedFrom hcs, hsig] at hsome
  have htake : (chain fields signature).take fields.length = fields := List.take_left
  rw [AttestationRecord.decode, hlocated]
  dsimp only
  rw [if_neg (by rw [List.length_append]; omega), hsome]
  dsimp only [Except.map, Option.map_some]
  rw [htake]

end ReadsAs

end AttestationRecord

/-! ## Both readings -/

open AttestationRecord (Unsigned chain)

/-- **A signed attestation is read alike as one payload and as two entries.** -/
theorem Envelope.decode_chained {lead : Bytes} (hlead : Clear Chunk.isMarker lead)
    {entries : List Entry}
    (hpayloads : ∀ entry ∈ entries, Clear Chunk.isDelimiter entry.payload) {fields : Bytes}
    {chunks : List Chunk} (hfields : Unsigned fields chunks) {signature : Bytes}
    {sigChunks : List Chunk} (hsignature : Chunk.parseAll signature = .ok sigChunks)
    (hlen : 3 ≤ sigChunks.length) (hclear : ∀ chunk ∈ sigChunks, chunk.isDelimiter = false)
    {script : Bytes} (hbuild : build lead
      (entries ++ [⟨AttestationRecord.tag, chain fields signature, 0⟩]) = .ok script) :
    ∃ envelope, scan script = some envelope ∧
      envelope.entries.map Entry.content = entries.map Entry.content ++
        [(AttestationRecord.tag, fields), (IdentitySignature.tag, signature)] ∧
      ∀ (tx : Option Transaction) (outputIndex : Int) (verify : Verifier (Except ε))
        (decoded : List DecodedEntry), Returns (envelope.decode tx outputIndex verify) decoded →
        ∃ record sig,
          decoded[entries.length]?.map (·.record) = some (some (.attestation record)) ∧
          decoded[entries.length + 1]?.map (·.record) = some (some (.identity sig)) ∧
          Returns (AttestationRecord.decode (chain fields signature) entries verify)
            (some { record with chained := some sig }) := by
  let first : Entry := ⟨AttestationRecord.tag, fields, 0⟩
  let second : Entry := ⟨IdentitySignature.tag, signature, 0⟩
  have hsplit : build lead (entries ++ [first, second]) = .ok script :=
    build_split (by decide) hbuild
  have hclears : ∀ entry ∈ entries ++ [first, second], Clear Chunk.isDelimiter entry.payload := by
    rw [List.forall_mem_append, List.forall_mem_cons, List.forall_mem_singleton]
    exact ⟨hpayloads, ⟨chunks, hfields.parse, fun chunk hmem => by
      simp [Chunk.isDelimiter, hfields.clear chunk hmem]⟩, ⟨sigChunks, hsignature, hclear⟩⟩
  obtain ⟨envelope, hscan, -, hcontent⟩ := exists_scan_of_build hlead (by simp) hclears hsplit
  refine ⟨envelope, hscan, hcontent.trans (by rw [List.map_append]; rfl), ?_⟩
  intro tx outputIndex verify decoded h
  obtain ⟨record, hrecord⟩ := hfields.exists_readsAs
  obtain ⟨d, hd, hfirst⟩ : ∃ d, decoded[entries.length]? = some d ∧
      d.record = some (.attestation record) := by
    obtain ⟨d, hd, hsame, -, after, hfound⟩ := exists_foundAt hcontent h
    obtain ⟨htag, hpayload⟩ := Prod.mk.inj hsame
    rw [Record.decode_attestation htag, hpayload, hrecord.decode _ verify, pure_bind] at hfound
    exact ⟨d, hd, (Prod.mk.inj (returns_pure_iff.mp hfound)).1.symm⟩
  have hcontent' := hcontent.trans
    (congrArg (List.map Entry.content) (List.append_cons entries first [second]))
  obtain ⟨unverified, hparse⟩ : ∃ sig, IdentitySignature.parse signature = .ok (some sig) := by
    obtain ⟨d, -, hsame, -, after, hfound⟩ := exists_foundAt hcontent' h
    obtain ⟨htag, hpayload⟩ := Prod.mk.inj hsame
    rw [Record.decode_identity htag, hpayload, returns_bind_iff] at hfound
    obtain ⟨_, hfound, -⟩ := hfound
    exact IdentitySignature.exists_parse_of_decode hsignature hlen hfound
  obtain ⟨d', valid, hd', hvalid, hsecond⟩ :=
    exists_identity hcontent' (rfl : second.tag = IdentitySignature.tag) hparse h
  rw [List.length_append, List.length_singleton] at hd'
  refine ⟨record, { unverified with valid }, by rw [hd, Option.map_some, hfirst],
    by rw [hd', Option.map_some, hsecond], ?_⟩
  rw [hrecord.decode_chain hparse entries verify, returns_bind_iff]
  exact ⟨_, returns_lift_iff.mpr (IdentitySignature.verified_eq_ok_iff.mpr ⟨valid, hvalid, rfl⟩),
    returns_pure_iff.mpr rfl⟩

/-- The fields of an identity, and a signature over the third chunk whose bytes are a pipe in a
longer push. -/
def signedIdentity : Bytes × Bytes :=
  ([0x02, 0x49, 0x44, 0x01, 0x6B, 0x01, 0x61],
    [0x01, 0x42, 0x01, 0x61, 0x4C, 0x01, 0x7C, 0x01, 0x32])

/-- Accepts messages that end in the field `k` and then what is not covered. -/
def acceptsKey : Verifier (Except String) := fun _ _ message =>
  .ok ([0x6B, 0x7C].isSuffixOf message)

/-- The entries that a reader finds. -/
def chainedEnvelope : Envelope where
  entries :=
    [⟨[0x61], [0x01, 0x41], 1⟩, ⟨AttestationRecord.tag, signedIdentity.1, 7⟩,
      ⟨IdentitySignature.tag, signedIdentity.2, 51⟩]

/-- The verifier accepts the signature in both readings. -/
theorem decode_chained_identity :
    ∃ script decoded record sig,
      Envelope.build [] ([⟨[0x61], [0x01, 0x41], 0⟩] ++
        [⟨AttestationRecord.tag, chain signedIdentity.1 signedIdentity.2, 0⟩]) = .ok script ∧
      Envelope.scan script = some chainedEnvelope ∧
      Returns (chainedEnvelope.decode none 0 acceptsKey) decoded ∧
      decoded.map (·.record) = [none, some (.attestation record), some (.identity sig)] ∧
      sig.valid = true ∧
      Returns (AttestationRecord.decode (chain signedIdentity.1 signedIdentity.2)
        [⟨[0x61], [0x01, 0x41], 0⟩] acceptsKey) (some { record with chained := some sig }) := by
  have hfields : Unsigned signedIdentity.1 [⟨0x02, [0x49, 0x44]⟩, ⟨0x01, [0x6B]⟩, ⟨0x01, [0x61]⟩] :=
    ⟨by decide +kernel, by decide, by decide +kernel, by decide⟩
  have hsignature : Chunk.parseAll signedIdentity.2 =
      .ok [⟨0x01, [0x42]⟩, ⟨0x01, [0x61]⟩, ⟨0x4C, [0x7C]⟩, ⟨0x01, [0x32]⟩] := by decide +kernel
  have hentries : ∀ entry ∈ [(⟨[0x61], [0x01, 0x41], 0⟩ : Entry)],
      Clear Chunk.isDelimiter entry.payload := by
    simpa using .cons rfl rfl .nil
  have hne : ([⟨[0x61], [0x01, 0x41], 0⟩] ++
      [⟨AttestationRecord.tag, chain signedIdentity.1 signedIdentity.2, 0⟩] : List Entry) ≠ [] := by
    simp
  have hbuild := Envelope.build_eq [] hne (by decide)
  obtain ⟨envelope, hscan, -, hread⟩ := Envelope.decode_chained (ε := String) .nil hentries
    hfields hsignature (by decide) (by decide) hbuild
  have hfound : envelope = chainedEnvelope :=
    Option.some.inj (hscan.symm.trans (by decide +kernel))
  subst hfound
  have hrun : Returns (chainedEnvelope.decode none 0 acceptsKey)
      [⟨⟨[0x61], [0x01, 0x41], 1⟩, none⟩,
        ⟨⟨AttestationRecord.tag, signedIdentity.1, 7⟩,
          some (.attestation { kind := .identity, keyOrTxid := "k", addressOrProfile := "a" })⟩,
        ⟨⟨IdentitySignature.tag, signedIdentity.2, 51⟩,
          some (.identity ⟨"B", "a", [0x7C], some [2], true⟩)⟩] := by
    unfold Returns
    decide +kernel
  obtain ⟨record, sig, hrecord, hsig, hchained⟩ := hread none 0 acceptsKey _ hrun
  obtain rfl := Record.attestation.inj (Option.some.inj (Option.some.inj hrecord))
  obtain rfl := Record.identity.inj (Option.some.inj (Option.some.inj hsig))
  exact ⟨_, _, _, _, hbuild, hscan, hrun, rfl, rfl, hchained⟩

end OpReturn
