import OpReturn.Proofs.Envelope.RoundTrip
import OpReturn.Proofs.Record.Verifier
import OpReturn.Record

/-!
# Decoding entry by entry

Decoding carries two numbers through the entries of an envelope: the index of the next entry and
how many entries before it have the tag of detached signatures, readable or not. Both can be told
from the envelope alone, so what an entry holds does not depend on how the others were decoded.

**The judgement (`FoundAt`).** Decoding the entry at an index, with the number computed from the
envelope, returns the record.

* `Envelope.returns_decode_iff`: decoding an envelope returns results exactly if they are those of
  its entries, each found at its index.
-/

namespace OpReturn

variable {ε : Type}

namespace Record

/-! ## One entry -/

theorem tag_ne_detached : KeyedRecord.tag ≠ DetachedSignature.tag ∧
    AttachmentRecord.tag ≠ DetachedSignature.tag ∧
    IdentitySignature.tag ≠ DetachedSignature.tag ∧
    AttestationRecord.tag ≠ DetachedSignature.tag := by
  decide

section Kinds

variable {m : Type → Type} [Monad m] {setting : Setting} {verify : Verifier m}
  {index instances : Nat} {entry : Entry}

theorem decode_keyed (h : entry.tag = KeyedRecord.tag) :
    decode setting verify index instances entry =
      pure ((KeyedRecord.decode entry.payload).map .keyed, instances) := by
  rw [decode, if_pos h]

theorem decode_attachment (h : entry.tag = AttachmentRecord.tag) :
    decode setting verify index instances entry =
      pure ((AttachmentRecord.decode entry.payload).map .attachment, instances) := by
  rw [decode, h, if_neg (by decide), if_pos rfl]

theorem decode_identity (h : entry.tag = IdentitySignature.tag) :
    decode setting verify index instances entry = do
      let sig ← IdentitySignature.decode entry.payload (setting.entries.take index) verify
      return (sig.map .identity, instances) := by
  rw [decode, h, if_neg (by decide), if_neg (by decide), if_pos rfl]

theorem decode_attestation (h : entry.tag = AttestationRecord.tag) :
    decode setting verify index instances entry = do
      let record ← AttestationRecord.decode entry.payload (setting.entries.take index) verify
      return (record.map .attestation, instances) := by
  rw [decode, h, if_neg (by decide), if_neg (by decide), if_neg (by decide), if_pos rfl]

theorem decode_detached (h : entry.tag = DetachedSignature.tag) :
    decode setting verify index instances entry = do
      let sig ← decodeDetached setting verify instances entry.payload
      return (sig.map .detached, instances + 1) := by
  rw [decode, h, if_neg (by decide), if_neg (by decide), if_neg (by decide), if_neg (by decide),
    if_pos rfl]

end Kinds

/-- How many of the first entries have the tag of detached signatures, readable or not. -/
def instancesBefore (entries : List Entry) (index : Nat) : Nat :=
  (entries.take index).countP (·.tag = DetachedSignature.tag)

theorem instancesBefore_succ {done entries : List Entry} {entry : Entry} :
    instancesBefore (done ++ entry :: entries) (done.length + 1) =
      instancesBefore (done ++ entry :: entries) done.length +
        if entry.tag = DetachedSignature.tag then 1 else 0 := by
  have htake : (done ++ entry :: entries).take (done.length + 1) = done ++ [entry] := by
    rw [List.append_cons, List.take_left' (by simp)]
  unfold instancesBefore
  rw [htake, List.take_left, List.countP_append, List.countP_singleton]
  simp

theorem instancesBefore_congr {a b : List Entry} (h : a.map Entry.content = b.map Entry.content)
    (index : Nat) : instancesBefore a index = instancesBefore b index := by
  have hcount (entries : List Entry) : instancesBefore entries index =
      ((entries.map Entry.content).take index).countP (·.1 = DetachedSignature.tag) := by
    rw [← List.map_take, List.countP_map]
    rfl
  rw [hcount, hcount, h]

/-- The count goes on by one at an entry with the tag, and only there. -/
theorem count_of_decode {m : Type → Type} [Monad m] [LawfulMonad m] [Definite m]
    {setting : Setting} {verify : Verifier m} {index instances after : Nat} {entry : Entry}
    {found : Option Record}
    (h : decode setting verify index instances entry = pure (found, after)) :
    after = instances + if entry.tag = DetachedSignature.tag then 1 else 0 := by
  obtain ⟨hkeyed, hattachment, hidentity, hattestation⟩ := tag_ne_detached
  unfold decode at h
  split_ifs at h with h1 h2 h3 h4 h5
  · obtain ⟨-, rfl⟩ := Prod.mk.inj (pure_eq_pure_iff.mp h)
    simp [h1, hkeyed]
  · obtain ⟨-, rfl⟩ := Prod.mk.inj (pure_eq_pure_iff.mp h)
    simp [h2, hattachment]
  · obtain ⟨sig, -, hpure⟩ := bind_eq_pure_iff.mp h
    obtain ⟨-, rfl⟩ := Prod.mk.inj (pure_eq_pure_iff.mp hpure)
    simp [h3, hidentity]
  · obtain ⟨attestation, -, hpure⟩ := bind_eq_pure_iff.mp h
    obtain ⟨-, rfl⟩ := Prod.mk.inj (pure_eq_pure_iff.mp hpure)
    simp [h4, hattestation]
  · obtain ⟨sig, -, hpure⟩ := bind_eq_pure_iff.mp h
    obtain ⟨-, rfl⟩ := Prod.mk.inj (pure_eq_pure_iff.mp hpure)
    simp [h5]
  · obtain ⟨-, rfl⟩ := Prod.mk.inj (pure_eq_pure_iff.mp h)
    simp [h5]

/-- Decoding the entry at the index finds the record. -/
def FoundAt (setting : Setting) (verify : Verifier (Except ε)) (index : Nat)
    (d : DecodedEntry) : Prop :=
  ∃ after, Returns (decode setting verify index (instancesBefore setting.entries index) d.entry)
    (d.record, after)

theorem foundAt_unknown {setting : Setting} {verify : Verifier (Except ε)} {index : Nat}
    {entry : Entry} (h : entry.tag ∉ [KeyedRecord.tag, AttachmentRecord.tag, IdentitySignature.tag,
      AttestationRecord.tag, DetachedSignature.tag]) :
    FoundAt setting verify index ⟨entry, none⟩ := by
  simp only [List.mem_cons, List.not_mem_nil, or_false, not_or] at h
  obtain ⟨h1, h2, h3, h4, h5⟩ := h
  refine ⟨instancesBefore setting.entries index, ?_⟩
  rw [decode, if_neg h1, if_neg h2, if_neg h3, if_neg h4, if_neg h5]
  exact returns_pure_iff.mpr rfl

end Record

/-! ## All entries -/

/-- From any entry on: the results are those of the entries, each found at its index. -/
theorem DecodedEntry.returns_decodeFrom_iff {setting : Record.Setting}
    {verify : Verifier (Except ε)} {done entries : List Entry} {decoded : List DecodedEntry}
    (hentries : setting.entries = done ++ entries) (acc : List DecodedEntry) :
    Returns (decodeFrom setting verify done.length
      (Record.instancesBefore setting.entries done.length) acc entries) decoded ↔
      ∃ rest, decoded = acc.reverse ++ rest ∧ rest.map (·.entry) = entries ∧
        ∀ (i : Nat) (d : DecodedEntry), rest[i]? = some d →
          Record.FoundAt setting verify (done.length + i) d := by
  induction entries generalizing done acc with
  | nil =>
    rw [decodeFrom, returns_pure_iff]
    constructor
    · rintro rfl
      exact ⟨[], by simp, rfl, by simp⟩
    · rintro ⟨rest, rfl, hmap, -⟩
      rw [List.map_eq_nil_iff.mp hmap, List.append_nil]
  | cons entry entries ih =>
    have hentries' : setting.entries = (done ++ [entry]) ++ entries := by
      rw [hentries, List.append_assoc, List.singleton_append]
    have hlen : (done ++ [entry]).length = done.length + 1 := by simp
    have hcount : Record.instancesBefore setting.entries (done.length + 1) =
        Record.instancesBefore setting.entries done.length +
          if entry.tag = DetachedSignature.tag then 1 else 0 := by
      rw [hentries, Record.instancesBefore_succ]
    -- The rest is decoded with the numbers that the envelope gives for it.
    have hrest (found : Option Record) := ih hentries' (⟨entry, found⟩ :: acc)
    rw [hlen, hcount] at hrest
    rw [decodeFrom, returns_bind_iff]
    constructor
    · rintro ⟨⟨found, after⟩, hfound, h⟩
      obtain rfl := Record.count_of_decode (returns_iff.mp hfound)
      obtain ⟨rest, rfl, rfl, hall⟩ := (hrest found).mp h
      refine ⟨⟨entry, found⟩ :: rest, by simp, rfl, fun i d hi => ?_⟩
      cases i with
      | zero =>
        obtain rfl := Option.some.inj hi
        exact ⟨_, hfound⟩
      | succ i =>
        have := hall i d hi
        rwa [Nat.add_right_comm] at this
    · rintro ⟨rest, rfl, hmap, hall⟩
      obtain ⟨⟨_, found⟩, rest, rfl, rfl, htail⟩ := List.map_eq_cons_iff.mp hmap
      obtain ⟨after, hfound⟩ := hall 0 _ rfl
      obtain rfl := Record.count_of_decode (returns_iff.mp hfound)
      refine ⟨_, hfound, (hrest found).mpr ⟨rest, by simp, htail, fun i d hi => ?_⟩⟩
      have := hall (i + 1) d hi
      rwa [Nat.add_right_comm]

namespace Envelope

/-- **Decoding an envelope returns results exactly if they are those of its entries, each found at
its index.** -/
theorem returns_decode_iff {envelope : Envelope} {tx : Option Transaction} {outputIndex : Int}
    {verify : Verifier (Except ε)} {decoded : List DecodedEntry} :
    Returns (envelope.decode tx outputIndex verify) decoded ↔
      decoded.map (·.entry) = envelope.entries ∧
        ∀ (i : Nat) (d : DecodedEntry), decoded[i]? = some d →
          Record.FoundAt ⟨envelope.entries, tx, outputIndex⟩ verify i d := by
  have hentries : (⟨envelope.entries, tx, outputIndex⟩ : Record.Setting).entries =
      [] ++ envelope.entries := rfl
  refine (DecodedEntry.returns_decodeFrom_iff hentries []).trans ?_
  simp only [List.reverse_nil, List.nil_append, exists_eq_left', List.length_nil, Nat.zero_add]

theorem exists_decode {envelope : Envelope} {tx : Option Transaction} {outputIndex : Int}
    {verify : Verifier (Except ε)}
    (h : ∀ (i : Nat) (entry : Entry), envelope.entries[i]? = some entry → ∃ record,
      Record.FoundAt ⟨envelope.entries, tx, outputIndex⟩ verify i ⟨entry, record⟩) :
    ∃ decoded, Returns (envelope.decode tx outputIndex verify) decoded := by
  have hrecord (i : Fin envelope.entries.length) := h i _ (List.getElem?_eq_getElem i.isLt)
  choose record hfound using hrecord
  refine ⟨List.ofFn fun i => ⟨envelope.entries[i], record i⟩, returns_decode_iff.mpr ⟨?_, ?_⟩⟩
  · rw [List.map_ofFn]
    exact List.ofFn_getElem
  · intro i d hd
    obtain ⟨hi, rfl⟩ := List.getElem?_eq_some_iff.mp hd
    rw [List.length_ofFn] at hi
    rw [List.getElem_ofFn]
    exact hfound ⟨i, hi⟩

theorem exists_foundAt {envelope : Envelope} {before after : List Entry} {entry : Entry}
    (hcontent : envelope.entries.map Entry.content = (before ++ entry :: after).map Entry.content)
    {tx : Option Transaction} {outputIndex : Int} {verify : Verifier (Except ε)}
    {decoded : List DecodedEntry} (h : Returns (envelope.decode tx outputIndex verify) decoded) :
    ∃ d, decoded[before.length]? = some d ∧ d.entry.content = entry.content ∧
      (envelope.entries.take before.length).map Entry.content = before.map Entry.content ∧
      Record.FoundAt ⟨envelope.entries, tx, outputIndex⟩ verify before.length d := by
  obtain ⟨hmap, hall⟩ := returns_decode_iff.mp h
  have hget : ((decoded.map (·.entry)).map Entry.content)[before.length]? =
      some entry.content := by
    rw [hmap, hcontent, List.map_append, List.map_cons,
      List.getElem?_append_right (by simp), List.length_map, Nat.sub_self]
    rfl
  rw [List.getElem?_map, List.getElem?_map, Option.map_eq_some_iff] at hget
  obtain ⟨found, hfound, hsame⟩ := hget
  obtain ⟨d, hd, rfl⟩ := Option.map_eq_some_iff.mp hfound
  refine ⟨d, hd, hsame, ?_, hall _ d hd⟩
  rw [List.map_take, hcontent, List.map_append, List.take_left' (List.length_map _)]

end Envelope

end OpReturn
