import OpReturn.Proofs.Record.EntryByEntry

/-!
# Traces of a decoding

Decoding goes through the entries of an envelope with two numbers, the index of the next entry and
how many entries with the tag of detached signatures stand before it. A **trace** (`Trace`) tells
such a run entry by entry, with the numbers that each entry was decoded with. What a second pass
over the same entries finds is then compared with it by induction over the trace, one entry at a
time.

* `decodeFrom_eq_pure_iff`: decoding returns exactly the results that a trace tells.
* `tag_of_decode`: a record has the tag of its entry.
-/

namespace OpReturn

variable {m : Type → Type} [Monad m] {setting : Record.Setting} {verify : Verifier m}
  {index instances : Nat}

/-! ## One entry -/

section Definite

variable [LawfulMonad m] [Definite m]

/-- A record that is returned has the kind that its payload was read for. -/
theorem Record.exists_of_pure_map {κ : Type} {kind : κ → Record} {read : Option κ}
    {count after : Nat} {record : Record}
    (h : (pure (read.map kind, count) : Decoding m (Option Record × Nat)) =
      pure (some record, after)) : ∃ r, kind r = record := by
  obtain ⟨hrecord, -⟩ := Prod.mk.inj (pure_eq_pure_iff.mp h)
  obtain ⟨r, -, hr⟩ := Option.map_eq_some_iff.mp hrecord
  exact ⟨r, hr⟩

theorem Record.tag_of_decode {after : Nat} {entry : Entry} {record : Record}
    (h : decode setting verify index instances entry = pure (some record, after)) :
    record.tag = entry.tag := by
  unfold decode at h
  split_ifs at h with h1 h2 h3 h4 h5
  · obtain ⟨keyed, rfl⟩ := exists_of_pure_map h
    exact h1.symm
  · obtain ⟨attachment, rfl⟩ := exists_of_pure_map h
    exact h2.symm
  · obtain ⟨read, -, hpure⟩ := bind_eq_pure_iff.mp h
    obtain ⟨sig, rfl⟩ := exists_of_pure_map hpure
    exact h3.symm
  · obtain ⟨read, -, hpure⟩ := bind_eq_pure_iff.mp h
    obtain ⟨attestation, rfl⟩ := exists_of_pure_map hpure
    exact h4.symm
  · obtain ⟨read, -, hpure⟩ := bind_eq_pure_iff.mp h
    obtain ⟨sig, rfl⟩ := exists_of_pure_map hpure
    exact h5.symm
  · exact nomatch (Prod.mk.inj (pure_eq_pure_iff.mp h)).1

end Definite

/-! ## All entries -/

namespace DecodedEntry

/-- Decoding the entries in order, the first of them with the given index and count, finds the
records. Each entry hands the count on to the next. -/
inductive Trace (setting : Record.Setting) (verify : Verifier m) :
    Nat → Nat → List Entry → List DecodedEntry → Prop
  | nil (index instances : Nat) : Trace setting verify index instances [] []
  | cons {index instances after : Nat} {entry : Entry} {found : Option Record}
      {entries : List Entry} {decoded : List DecodedEntry} :
      Record.decode setting verify index instances entry = pure (found, after) →
      Trace setting verify (index + 1) after entries decoded →
      Trace setting verify index instances (entry :: entries) (⟨entry, found⟩ :: decoded)

variable [LawfulMonad m] [Definite m]

/-- **Decoding returns exactly the results that a trace tells.** -/
theorem decodeFrom_eq_pure_iff {entries : List Entry} {acc decoded : List DecodedEntry} :
    decodeFrom setting verify index instances acc entries = pure decoded ↔ ∃ rest,
      decoded = acc.reverse ++ rest ∧ Trace setting verify index instances entries rest := by
  induction entries generalizing index instances acc with
  | nil =>
    rw [decodeFrom, pure_eq_pure_iff]
    constructor
    · rintro rfl
      exact ⟨[], by simp, .nil index instances⟩
    · rintro ⟨rest, rfl, htrace⟩
      cases htrace
      simp
  | cons entry entries ih =>
    rw [decodeFrom, bind_eq_pure_iff]
    constructor
    · rintro ⟨⟨found, after⟩, hfound, h⟩
      obtain ⟨rest, rfl, htrace⟩ := ih.mp h
      exact ⟨⟨entry, found⟩ :: rest, by simp, .cons hfound htrace⟩
    · rintro ⟨rest, rfl, htrace⟩
      cases htrace with
      | @cons _ _ after _ found _ decoded hfound hrest =>
        exact ⟨(found, after), hfound, ih.mpr ⟨decoded, by simp, hrest⟩⟩

end DecodedEntry

theorem Envelope.decode_eq_pure_iff [LawfulMonad m] [Definite m] {envelope : Envelope}
    {tx : Option Transaction} {outputIndex : Int} {decoded : List DecodedEntry} :
    envelope.decode tx outputIndex verify = pure decoded ↔
      DecodedEntry.Trace ⟨envelope.entries, tx, outputIndex⟩ verify 0 0 envelope.entries
        decoded := by
  rw [Envelope.decode, DecodedEntry.decodeFrom_eq_pure_iff]
  simp

end OpReturn
