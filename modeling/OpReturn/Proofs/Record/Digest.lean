import OpReturn.Proofs.Transaction.Outpoint

/-!
# What the digest of a bound signature binds

The digest of a bound signature is computed from two parts and nothing else: the outpoint of the
input that the signature is bound to, and the covered part of its script (`Parts`). Four strings
are hashed on the way: the two parts, their digests one after the other, and the digest of these.

**Theorem (`messageHash_binds`).** Take two computations that come to a digest. If they have the
same parts, they come to the same digest, whatever else the transactions hold. If they come to the
same digest, they have the same transaction id, index and covered part, or else one of the four
strings of the first and the same one of the second are two different strings with one digest.

That nobody finds two such strings is what a reader may believe of the hash. Here it is a case of
the conclusion and never assumed, and the case names the pair: that some pair exists would be no
more than counting strings.
-/

namespace OpReturn

/-! ## Collisions -/

/-- Two different strings have one digest. -/
def Collide (s t : Bytes) : Prop := s ≠ t ∧ sha256 s = sha256 t

theorem eq_or_collide {s t : Bytes} (h : sha256 s = sha256 t) : s = t ∨ Collide s t := by
  by_cases hsame : s = t
  · exact Or.inl hsame
  · exact Or.inr ⟨hsame, h⟩

/-! ## The parts of a digest -/

/-- What the digest of a bound signature is computed from. -/
structure Parts where
  outpoint : Bytes
  script : Bytes

namespace Parts

/-- The digests of the two parts. -/
def joined (parts : Parts) : Bytes := sha256 parts.outpoint ++ sha256 parts.script

/-- The strings that are hashed, the last of them to the digest. -/
def hashed (parts : Parts) : List Bytes :=
  [parts.outpoint, parts.script, parts.joined, sha256 parts.joined]

/-- The digest. -/
def digest (parts : Parts) : Bytes := sha256d parts.joined

/-- One of the strings hashed on one side and the same one on the other are different and have one
digest. -/
def Clash (parts parts' : Parts) : Prop :=
  ∃ pair ∈ parts.hashed.zip parts'.hashed, Collide pair.1 pair.2

/-- **Equal digests have equal parts, or the strings hashed for them clash.** -/
theorem eq_or_clash {parts parts' : Parts} (h : parts.digest = parts'.digest) :
    parts = parts' ∨ Clash parts parts' := by
  obtain ⟨outpoint, script⟩ := parts
  obtain ⟨outpoint', script'⟩ := parts'
  -- From the last hash inwards: each step goes on with equal strings, or has found the pair.
  rcases eq_or_collide h with hlast | hclash
  · rcases eq_or_collide hlast with hjoined | hclash
    · obtain ⟨hout, hscript⟩ := List.append_inj hjoined (by simp)
      rcases eq_or_collide hout with hout | hclash
      · rcases eq_or_collide hscript with hscript | hclash
        · dsimp only at hout hscript
          exact Or.inl (by rw [hout, hscript])
        · exact Or.inr ⟨(script, script'), by simp [hashed], hclash⟩
      · exact Or.inr ⟨(outpoint, outpoint'), by simp [hashed], hclash⟩
    · exact Or.inr ⟨(joined ⟨outpoint, script⟩, joined ⟨outpoint', script'⟩), by simp [hashed],
        hclash⟩
  · exact Or.inr ⟨(sha256 (joined ⟨outpoint, script⟩), sha256 (joined ⟨outpoint', script'⟩)),
      by simp [hashed], hclash⟩

/-- The parts of the digest for a signature in a transaction: the output with the index, the number
of the signature there, and the index of its input, which leads to the input. -/
structure Of (tx : Transaction) (outputIndex instanceIndex inputIndex : Int) (input : TxInput)
    (parts : Parts) : Prop where
  bound : boundInput? tx inputIndex outputIndex = some input
  outpoint : input.outpoint = .ok parts.outpoint
  script : ∃ output, atIndex? tx.outputs outputIndex = some output ∧
    parts.script = covered output.script instanceIndex

end Parts

/-! ## Digests of transactions -/

theorem messageHash_eq_some_iff {tx : Transaction} {outputIndex instanceIndex inputIndex : Int}
    {digest : Bytes} : messageHash tx outputIndex instanceIndex inputIndex = .ok (some digest) ↔
      ∃ input parts, Parts.Of tx outputIndex instanceIndex inputIndex input parts ∧
        digest = parts.digest := by
  constructor
  · intro h
    unfold messageHash at h
    cases houtput : atIndex? tx.outputs outputIndex with
    | none => simp [houtput] at h
    | some output =>
      rw [houtput] at h
      obtain ⟨hash, hhash, hdigest⟩ := map_eq_ok_iff.mp h
      unfold inputHash at hhash
      cases hinput : boundInput? tx inputIndex outputIndex with
      | none =>
        rw [hinput] at hhash
        obtain rfl := Except.ok.inj hhash
        exact nomatch hdigest
      | some input =>
        rw [hinput] at hhash
        obtain ⟨outpoint, hout, rfl⟩ := map_eq_ok_iff.mp hhash
        exact ⟨input, ⟨outpoint, covered output.script instanceIndex⟩,
          ⟨hinput, hout, output, houtput, rfl⟩, (Option.some.inj hdigest).symm⟩
  · rintro ⟨input, ⟨outpoint, script⟩, ⟨hinput, hout, output, houtput, hscript⟩, rfl⟩
    dsimp only at hout hscript
    rw [messageHash, houtput, inputHash, hinput]
    dsimp only
    rw [hout, hscript]
    rfl

/-- **A digest binds one outpoint and the covered part of the script, and nothing else.** -/
theorem messageHash_binds {tx tx' : Transaction}
    {outputIndex instanceIndex inputIndex outputIndex' instanceIndex' inputIndex' : Int}
    {digest digest' : Bytes}
    (h : messageHash tx outputIndex instanceIndex inputIndex = .ok (some digest))
    (h' : messageHash tx' outputIndex' instanceIndex' inputIndex' = .ok (some digest')) :
    ∃ input parts input' parts', Parts.Of tx outputIndex instanceIndex inputIndex input parts ∧
      Parts.Of tx' outputIndex' instanceIndex' inputIndex' input' parts' ∧
      (parts.outpoint = parts'.outpoint → parts.script = parts'.script → digest = digest') ∧
      (digest = digest' →
        (Hex.decode input.txid = Hex.decode input'.txid ∧ input.vout = input'.vout ∧
          parts.script = parts'.script) ∨ Parts.Clash parts parts') := by
  obtain ⟨input, parts, hparts, rfl⟩ := messageHash_eq_some_iff.mp h
  obtain ⟨input', parts', hparts', rfl⟩ := messageHash_eq_some_iff.mp h'
  refine ⟨input, parts, input', parts', hparts, hparts', ?_, ?_⟩
  · intro hout hscript
    rw [Parts.digest, Parts.digest, Parts.joined, Parts.joined, hout, hscript]
  · intro hdigest
    rcases Parts.eq_or_clash hdigest with rfl | hclash
    · obtain ⟨hid, hvout⟩ := TxInput.eq_of_outpoint_eq hparts.outpoint hparts'.outpoint
      exact Or.inl ⟨hid, hvout, rfl⟩
    · exact Or.inr hclash

/-- A transaction of one input. -/
def unsignedTransaction : Transaction where
  inputs := [⟨String.ofList (List.replicate 64 'a'), 7, [], 0⟩]
  outputs := [⟨546, [0x51]⟩]

/-- Another one that spends the same output, as its second input and with its id in capitals, and
has a marker and a tag behind the same script. -/
def signedTransaction : Transaction where
  inputs := [⟨String.ofList (List.replicate 64 'b'), 7, [], 0⟩,
    ⟨String.ofList (List.replicate 64 'A'), 7, [0x51], 1⟩]
  outputs := [⟨0, []⟩, ⟨1, [0x51, 0x6A, 0x05, 0x53, 0x49, 0x47, 0x4D, 0x41, 0x01, 0x42]⟩]
  version := 2

/-- The two have the same parts and so the same digest. The first is asked for an input that it
lacks, so the one with the index of the output takes its place. -/
theorem messageHash_sameParts : ∃ digest digest',
    messageHash unsignedTransaction 0 0 5 = .ok (some digest) ∧
      messageHash signedTransaction 1 0 1 = .ok (some digest') ∧ digest = digest' := by
  have hruns : (messageHash unsignedTransaction 0 0 5).toOption.any Option.isSome = true ∧
      (messageHash signedTransaction 1 0 1).toOption.any Option.isSome = true := by
    decide +kernel
  have hout : (boundInput? unsignedTransaction 5 0).map TxInput.outpoint =
      (boundInput? signedTransaction 1 1).map TxInput.outpoint := by
    decide +kernel
  have hscript : (atIndex? unsignedTransaction.outputs 0).map (covered ·.script 0) =
      (atIndex? signedTransaction.outputs 1).map (covered ·.script 0) := by
    decide +kernel
  obtain ⟨_, h, hsome⟩ := exists_ok_of_any hruns.1
  obtain ⟨_, h', hsome'⟩ := exists_ok_of_any hruns.2
  obtain ⟨digest, rfl⟩ := Option.isSome_iff_exists.mp hsome
  obtain ⟨digest', rfl⟩ := Option.isSome_iff_exists.mp hsome'
  obtain ⟨input, parts, input', parts', hparts, hparts', hsame, -⟩ := messageHash_binds h h'
  obtain ⟨output, houtput, hcovered⟩ := hparts.script
  obtain ⟨output', houtput', hcovered'⟩ := hparts'.script
  rw [hparts.bound, hparts'.bound, Option.map_some, Option.map_some, hparts.outpoint,
    hparts'.outpoint] at hout
  rw [houtput, houtput', Option.map_some, Option.map_some, ← hcovered, ← hcovered'] at hscript
  exact ⟨digest, digest', h, h',
    hsame (Except.ok.inj (Option.some.inj hout)) (Option.some.inj hscript)⟩

end OpReturn
