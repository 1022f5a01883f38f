import Mathlib.Data.List.Forall2
import OpReturn.Proofs.Script.Walk
import OpReturn.Record.Identity

/-!
# The message of an identity signature, chunk by chunk

The chunks of the payloads stand in one row through all entries (`chunksOf`), without those of
payloads that are cut short, and a selection is a set of places in this row. What two messages add
at every place decides whether they are the same (`messageFrom_eq`); all else follows from that.

* `canonicalMessage_append`: the message of two lists in a row is put together from theirs, with the
  selection shifted for the second, and only the places that a selection has in the row count.
* `IdentitySignature.decode_eq_of_agreeOn`: entries that differ only in what is not covered give the
  same verdict. At a place that is not covered the data is free, and so is the opcode as long as it
  does not show in the message.
-/

namespace OpReturn

/-! ## The chunks in a row -/

/-- The chunks of the payload of an entry; none if it is cut short. -/
def Entry.chunks (entry : Entry) : List Chunk :=
  (Chunk.parseAll entry.payload).toOption.getD []

/-- The chunks of the payloads of entries, in order. -/
def chunksOf (entries : List Entry) : List Chunk := entries.flatMap Entry.chunks

theorem Entry.chunks_eq {entry : Entry} {chunks : List Chunk}
    (h : Chunk.parseAll entry.payload = .ok chunks) : entry.chunks = chunks := by
  rw [Entry.chunks, h]
  rfl

theorem chunksOf_cons (entry : Entry) (entries : List Entry) :
    chunksOf (entry :: entries) = entry.chunks ++ chunksOf entries :=
  List.flatMap_cons

/-! ## What an entry adds -/

/-- What an entry adds to the message, its first chunk with the given number. -/
def Entry.part (entry : Entry) (selected : Option (List Int)) (index : Nat) : Bytes :=
  match Chunk.parseAll entry.payload with
  | .error _ => entry.tag
  | .ok chunks => entry.tag ++ contributions selected index chunks ++ Chunk.separator

theorem messageFrom_cons (selected : Option (List Int)) (index : Nat) (entry : Entry)
    (entries : List Entry) :
    messageFrom selected index (entry :: entries) =
      entry.part selected index ++ messageFrom selected (index + entry.chunks.length) entries := by
  rw [messageFrom, Entry.part]
  cases hparse : Chunk.parseAll entry.payload with
  | error e =>
    rw [Entry.chunks, hparse]
    rfl
  | ok chunks => rw [Entry.chunks_eq hparse]

theorem contributions_cons (selected : Option (List Int)) (index : Nat) (chunk : Chunk)
    (chunks : List Chunk) :
    contributions selected index (chunk :: chunks) =
      chunk.contribution (covers selected index) ++ contributions selected (index + 1) chunks := by
  rw [contributions, List.zipIdx_cons, List.flatMap_cons]
  rfl

theorem messageFrom_append (selected : Option (List Int)) (index : Nat) (a b : List Entry) :
    messageFrom selected index (a ++ b) =
      messageFrom selected index a ++ messageFrom selected (index + (chunksOf a).length) b := by
  induction a generalizing index with
  | nil => rfl
  | cons entry a ih =>
    rw [List.cons_append, messageFrom_cons, messageFrom_cons, ih, chunksOf_cons,
      List.length_append, List.append_assoc, Nat.add_assoc]

/-! ## Two messages place by place -/

/-- Two entries that have the same tag, and payloads of equally many chunks or both cut short. -/
structure Entry.Parallel (a b : Entry) : Prop where
  tag : a.tag = b.tag
  whole : Whole a.payload ↔ Whole b.payload
  length : a.chunks.length = b.chunks.length

instance (s : Bytes) : Decidable (Whole s) :=
  decidable_of_iff ((Chunk.parseAll s).toOption.isSome = true) (by
    cases h : Chunk.parseAll s <;> simp [Whole, h, Except.toOption])

instance (a b : Entry) : Decidable (a.Parallel b) :=
  decidable_of_iff (a.tag = b.tag ∧ (Whole a.payload ↔ Whole b.payload) ∧
    a.chunks.length = b.chunks.length)
    ⟨fun ⟨htag, hwhole, hlen⟩ => ⟨htag, hwhole, hlen⟩, fun h => ⟨h.tag, h.whole, h.length⟩⟩

theorem Entry.Parallel.refl (entry : Entry) : Entry.Parallel entry entry :=
  ⟨rfl, Iff.rfl, rfl⟩

section Places

variable {s t : Option (List Int)} {i j : Nat}

theorem contributions_eq {cs ds : List Chunk} (hlen : cs.length = ds.length)
    (h : ∀ (n : Nat) (c d : Chunk), cs[n]? = some c → ds[n]? = some d →
      c.contribution (covers s (i + n)) = d.contribution (covers t (j + n))) :
    contributions s i cs = contributions t j ds := by
  induction cs generalizing ds i j with
  | nil =>
    rw [List.length_eq_zero_iff.mp hlen.symm]
    rfl
  | cons c cs ih =>
    obtain ⟨d, ds, rfl⟩ := List.exists_cons_of_length_eq_add_one hlen.symm
    have hhead := h 0 c d rfl rfl
    have htail : contributions s (i + 1) cs = contributions t (j + 1) ds := by
      apply ih (Nat.succ.inj hlen)
      intro n c' d' hc hd
      have hnext := h (n + 1) c' d' hc hd
      rwa [Nat.add_right_comm, Nat.add_right_comm j]
    rw [contributions_cons, contributions_cons, htail]
    exact congrArg (· ++ _) hhead

theorem Entry.part_eq {a b : Entry} (hab : a.Parallel b)
    (h : ∀ (n : Nat) (c d : Chunk), a.chunks[n]? = some c → b.chunks[n]? = some d →
      c.contribution (covers s (i + n)) = d.contribution (covers t (j + n))) :
    a.part s i = b.part t j := by
  obtain ⟨htag, hwhole, hlen⟩ := hab
  cases ha : Chunk.parseAll a.payload with
  | error e =>
    cases hb : Chunk.parseAll b.payload with
    | error e' => rw [Entry.part, Entry.part, ha, hb, htag]
    | ok ds =>
      obtain ⟨cs, hcs⟩ := hwhole.mpr ⟨ds, hb⟩
      exact nomatch ha.symm.trans hcs
  | ok cs =>
    obtain ⟨ds, hb⟩ := hwhole.mp ⟨cs, ha⟩
    rw [Entry.chunks_eq ha, Entry.chunks_eq hb] at hlen h
    rw [Entry.part, Entry.part, ha, hb, htag]
    exact congrArg (_ ++ · ++ _) (contributions_eq hlen h)

/-- **Messages are the same if they add the same at every place.** -/
theorem messageFrom_eq {a b : List Entry} (hab : List.Forall₂ Entry.Parallel a b)
    (h : ∀ (n : Nat) (c d : Chunk), (chunksOf a)[n]? = some c → (chunksOf b)[n]? = some d →
      c.contribution (covers s (i + n)) = d.contribution (covers t (j + n))) :
    messageFrom s i a = messageFrom t j b := by
  induction hab generalizing i j with
  | nil => rfl
  | @cons x y a b hxy _ ih =>
    rw [chunksOf_cons, chunksOf_cons] at h
    have hpart : x.part s i = y.part t j := by
      apply Entry.part_eq hxy
      intro n c d hc hd
      apply h n c d
      · rw [List.getElem?_append_left (List.getElem?_eq_some_iff.mp hc).1, hc]
      · rw [List.getElem?_append_left (List.getElem?_eq_some_iff.mp hd).1, hd]
    have hrest : messageFrom s (i + x.chunks.length) a =
        messageFrom t (j + y.chunks.length) b := by
      apply ih
      intro n c d hc hd
      rw [Nat.add_assoc, Nat.add_assoc, ← hxy.length]
      apply h (x.chunks.length + n) c d
      · rw [List.getElem?_append_right (Nat.le_add_right _ _), Nat.add_sub_cancel_left, hc]
      · rw [hxy.length, List.getElem?_append_right (Nat.le_add_right _ _),
          Nat.add_sub_cancel_left, hd]
    rw [messageFrom_cons, messageFrom_cons, hpart, hrest]

end Places

/-- On the same entries only what two selections cover in the row counts. -/
theorem messageFrom_eq_of_covers {s t : Option (List Int)} {i j : Nat} (entries : List Entry)
    (h : ∀ n < (chunksOf entries).length, covers s (i + n) = covers t (j + n)) :
    messageFrom s i entries = messageFrom t j entries := by
  apply messageFrom_eq (List.forall₂_same.mpr fun entry _ => .refl entry)
  intro n c d hc hd
  obtain rfl := Option.some.inj (hc.symm.trans hd)
  rw [h n (List.getElem?_eq_some_iff.mp hc).1]

/-! ## Entries in a row -/

/-- A selection as it is for what stands behind the first `n` chunks. -/
def shifted (n : Nat) (selected : Option (List Int)) : Option (List Int) :=
  selected.map fun indexes => indexes.map (· - (n : Int))

theorem covers_some {indexes : List Int} {i : Nat} :
    covers (some indexes) i = true ↔ (i : Int) ∈ indexes := by
  rw [covers, List.contains_iff_mem]

theorem covers_shifted (n : Nat) (selected : Option (List Int)) (i : Nat) :
    covers (shifted n selected) i = covers selected (n + i) := by
  cases selected with
  | none => rfl
  | some indexes =>
    rw [Bool.eq_iff_iff, shifted, Option.map_some, covers_some, covers_some, List.mem_map]
    constructor
    · rintro ⟨v, hv, hi⟩
      rwa [show ((n + i : Nat) : Int) = v by omega]
    · intro h
      exact ⟨_, h, by omega⟩

/-- **The message is made of those of the parts.** The chunks of the first part shift the selection
for the second. Of a selection only the places in the row of chunks count, so one that has them all
is as good as none at all. -/
theorem canonicalMessage_append :
    (∀ (a b : List Entry) (selected : Option (List Int)), ∃ rest,
      canonicalMessage b (shifted (chunksOf a).length selected) = Opcode.opReturn :: rest ∧
        canonicalMessage (a ++ b) selected = canonicalMessage a selected ++ rest) ∧
    (∀ (entries : List Entry) (I J : List Int),
      (∀ n < (chunksOf entries).length, (n : Int) ∈ I ↔ (n : Int) ∈ J) →
        canonicalMessage entries (some I) = canonicalMessage entries (some J)) ∧
    ∀ (entries : List Entry) (I : List Int), (∀ n < (chunksOf entries).length, (n : Int) ∈ I) →
      canonicalMessage entries (some I) = canonicalMessage entries none := by
  refine ⟨fun a b selected => ⟨_, rfl, ?_⟩, fun entries I J h => ?_, fun entries I h => ?_⟩
  · rw [canonicalMessage, messageFrom_append, canonicalMessage, List.cons_append]
    congr 2
    apply messageFrom_eq_of_covers
    intro n _
    rw [covers_shifted, Nat.zero_add, Nat.zero_add]
  · rw [canonicalMessage, canonicalMessage, messageFrom_eq_of_covers]
    intro n hn
    rw [Nat.zero_add, Bool.eq_iff_iff, covers_some, covers_some]
    exact h n hn
  · rw [canonicalMessage, canonicalMessage, messageFrom_eq_of_covers]
    intro n hn
    rw [Nat.zero_add]
    exact covers_some.mpr (h n hn)

/-- Two entries with an entry between them that is cut short. -/
def cutBetween : List Entry :=
  [⟨[0x54], [0x01, 0x61, 0x61], 0⟩, ⟨[0x55], [0x02, 0x61], 0⟩, ⟨[0x56], [0x00, 0x01, 0x62], 0⟩]

theorem length_chunksOf_cutBetween : (chunksOf cutBetween).length = 4 := by decide +kernel

/-- A selection for these entries twice over, and selections with repeated, negative and missing
places. -/
theorem canonicalMessage_append_cutBetween :
    (∃ rest, canonicalMessage cutBetween (shifted (chunksOf cutBetween).length (some [7, 1])) =
        Opcode.opReturn :: rest ∧
      canonicalMessage (cutBetween ++ cutBetween) (some [7, 1]) =
        canonicalMessage cutBetween (some [7, 1]) ++ rest) ∧
    (∀ n < (chunksOf cutBetween).length, (n : Int) ∈ [3, 0, 0, -4, 9] ↔ (n : Int) ∈ [0, 3]) ∧
    canonicalMessage cutBetween (some [3, 0, 0, -4, 9]) =
      canonicalMessage cutBetween (some [0, 3]) ∧
    (∀ n < (chunksOf cutBetween).length, (n : Int) ∈ [3, 2, 1, 0]) ∧
    canonicalMessage cutBetween (some [3, 2, 1, 0]) = canonicalMessage cutBetween none := by
  have hsame : ∀ n < (chunksOf cutBetween).length,
      (n : Int) ∈ [3, 0, 0, -4, 9] ↔ (n : Int) ∈ [0, 3] := by
    rw [length_chunksOf_cutBetween]
    decide
  have hall : ∀ n < (chunksOf cutBetween).length, (n : Int) ∈ [3, 2, 1, 0] := by
    rw [length_chunksOf_cutBetween]
    decide
  obtain ⟨happend, hset, hnone⟩ := canonicalMessage_append
  exact ⟨happend cutBetween cutBetween (some [7, 1]), hsame, hset cutBetween _ _ hsame, hall,
    hnone cutBetween _ hall⟩

/-! ## Entries that agree on what is covered -/

/-- The opcode shows in the message if its chunk is not covered. -/
def Opcode.Shows (op : UInt8) : Prop := (0x44 ≤ op ∧ op ≤ 0x7E) ∨ (0xA1 ≤ op ∧ op ≠ 0xAD)

instance (op : UInt8) : Decidable (Opcode.Shows op) := inferInstanceAs (Decidable (_ ∨ _))

theorem Opcode.shows_iff {op : UInt8} :
    Opcode.Shows op ↔ (0x43 < op && isVisible op) = true := by
  simp only [Opcode.Shows, isVisible, Bool.and_eq_true, Bool.or_eq_true, decide_eq_true_eq,
    UInt8.le_iff_toNat_le, UInt8.lt_iff_toNat_lt]
  show (0x44 ≤ op.toNat ∧ op.toNat ≤ 0x7E) ∨ (0xA1 ≤ op.toNat ∧ op ≠ 0xAD) ↔
    0x43 < op.toNat ∧ ((0x20 ≤ op.toNat ∧ op.toNat ≤ 0x7E) ∨ (0xA1 ≤ op.toNat ∧ op ≠ 0xAD))
  constructor
  · rintro (⟨hlow, hhigh⟩ | ⟨hlow, hne⟩)
    · exact ⟨hlow, Or.inl ⟨by omega, hhigh⟩⟩
    · exact ⟨by omega, Or.inr ⟨hlow, hne⟩⟩
  · rintro ⟨hlow, ⟨-, hhigh⟩ | hhigh⟩
    · exact Or.inl ⟨hlow, hhigh⟩
    · exact Or.inr hhigh

theorem Chunk.contribution_false (chunk : Chunk) :
    chunk.contribution false = if Opcode.Shows chunk.op then [chunk.op] else [] := by
  simp only [Opcode.shows_iff]
  rfl

/-- Two chunks that a message cannot tell apart. If they are covered, they have the same data. If
they are not, neither opcode shows or both are the same one that does. -/
def Chunk.Alike (c d : Chunk) : (covered : Bool) → Prop
  | true => c.data = d.data
  | false => (¬ Opcode.Shows c.op ∧ ¬ Opcode.Shows d.op) ∨ (Opcode.Shows c.op ∧ c.op = d.op)

instance (c d : Chunk) : (covered : Bool) → Decidable (c.Alike d covered)
  | true => inferInstanceAs (Decidable (_ = _))
  | false => inferInstanceAs (Decidable (_ ∨ _))

theorem Chunk.contribution_eq_iff {c d : Chunk} {covered : Bool} :
    c.contribution covered = d.contribution covered ↔ c.Alike d covered := by
  cases covered with
  | true => exact Iff.rfl
  | false =>
    rw [contribution_false, contribution_false, Alike]
    by_cases hc : Opcode.Shows c.op
    · by_cases hd : Opcode.Shows d.op
      · simp [hc, hd]
      · have hne : c.op ≠ d.op := fun heq => hd (heq ▸ hc)
        simp [hc, hd, hne]
    · by_cases hd : Opcode.Shows d.op <;> simp [hc, hd]

/-- Entries that differ only in what a selection does not cover, and there in nothing that shows. -/
structure AgreeOn (selected : Option (List Int)) (a b : List Entry) : Prop where
  entries : List.Forall₂ Entry.Parallel a b
  chunks : ∀ (n : Nat) (c d : Chunk), (chunksOf a)[n]? = some c → (chunksOf b)[n]? = some d →
    c.Alike d (covers selected n)

theorem canonicalMessage_eq_of_agreeOn {selected : Option (List Int)} {a b : List Entry}
    (h : AgreeOn selected a b) : canonicalMessage a selected = canonicalMessage b selected := by
  rw [canonicalMessage, canonicalMessage, messageFrom_eq h.entries]
  intro n c d hc hd
  rw [Nat.zero_add]
  exact Chunk.contribution_eq_iff.mpr (h.chunks n c d hc hd)

namespace IdentitySignature

/-- **What a signature does not cover has no influence on its verdict**, whatever the effects of the
verifier. -/
theorem decode_eq_of_agreeOn {m : Type → Type} [Monad m] (payload : Bytes) (verify : Verifier m)
    {a b : List Entry}
    (h : ∀ sig, parse payload = .ok (some sig) → AgreeOn sig.fieldIndexes a b) :
    decode payload a verify = decode payload b verify ∧
      ∀ sig, parse payload = .ok (some sig) →
        canonicalMessage a sig.fieldIndexes = canonicalMessage b sig.fieldIndexes := by
  have hmessage : ∀ sig, parse payload = .ok (some sig) →
      canonicalMessage a sig.fieldIndexes = canonicalMessage b sig.fieldIndexes :=
    fun sig hsig => canonicalMessage_eq_of_agreeOn (h sig hsig)
  refine ⟨?_, hmessage⟩
  unfold decode
  cases hparse : parse payload with
  | error e => rfl
  | ok parsed =>
    cases parsed with
    | none => rfl
    | some sig =>
      dsimp only
      rw [verified, verified, hmessage sig hparse]

/-- A signature of the first chunk only. -/
def firstOnly : Bytes := [0x01, 0x41, 0x01, 0x61, 0x01, 0x73, 0x01, 0x30]

/-- Entries that another signer wrote. -/
def written : List Entry :=
  [⟨[0x54], [0x01, 0x61, 0x01, 0x62, 0x4C, 0x01, 0x63], 0⟩, ⟨[0x55], [0x01], 0⟩]

/-- The same with other data at the second and the third place and in the entry that is cut
short. -/
def rewritten : List Entry :=
  [⟨[0x54], [0x4C, 0x01, 0x61, 0x00, 0x4C, 0x02, 0x64, 0x65], 0⟩, ⟨[0x55], [0x05, 0x66], 0⟩]

/-- Accepts the one message that the signature covers. -/
def acceptsFirst : Verifier (Except String) := fun _ _ message =>
  .ok (message = [0x6A, 0x54, 0x61, 0x4C, 0x7C, 0x55])

theorem agreeOn_rewritten : AgreeOn (some [0]) written rewritten := by
  have hwritten : chunksOf written = [⟨0x01, [0x61]⟩, ⟨0x01, [0x62]⟩, ⟨0x4C, [0x63]⟩] := by
    decide +kernel
  have hrewritten : chunksOf rewritten = [⟨0x4C, [0x61]⟩, ⟨0x00, []⟩, ⟨0x4C, [0x64, 0x65]⟩] := by
    decide +kernel
  refine ⟨?_, ?_⟩
  · decide +kernel
  · intro n c d hc hd
    rw [hwritten] at hc
    rw [hrewritten] at hd
    rcases n with _ | _ | _ | n
    · obtain rfl := Option.some.inj hc
      obtain rfl := Option.some.inj hd
      decide
    · obtain rfl := Option.some.inj hc
      obtain rfl := Option.some.inj hd
      decide
    · obtain rfl := Option.some.inj hc
      obtain rfl := Option.some.inj hd
      decide
    · exact nomatch hc

/-- The signature is valid over either. -/
theorem decode_eq_of_agreeOn_rewritten :
    (∀ sig, parse firstOnly = .ok (some sig) → AgreeOn sig.fieldIndexes written rewritten) ∧
      decode firstOnly written acceptsFirst = decode firstOnly rewritten acceptsFirst ∧
      decode firstOnly written acceptsFirst = pure (some ⟨"A", "a", [0x73], some [0], true⟩) := by
  have hparse : parse firstOnly = .ok (some ⟨"A", "a", [0x73], some [0], false⟩) := by
    decide +kernel
  have hagree : ∀ sig, parse firstOnly = .ok (some sig) →
      AgreeOn sig.fieldIndexes written rewritten := by
    intro sig hsig
    obtain rfl := Option.some.inj (Except.ok.inj (hparse.symm.trans hsig))
    exact agreeOn_rewritten
  refine ⟨hagree, (decode_eq_of_agreeOn firstOnly acceptsFirst hagree).1, ?_⟩
  have hmessage : canonicalMessage written (some [0]) = [0x6A, 0x54, 0x61, 0x4C, 0x7C, 0x55] := by
    decide +kernel
  rw [decode, hparse]
  dsimp only
  rw [verified, hmessage]
  rfl

end IdentitySignature
end OpReturn
