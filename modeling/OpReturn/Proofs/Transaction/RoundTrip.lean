import OpReturn.Proofs.Transaction.Layout

/-!
# Transactions read back

What a transaction is written as, the strict reader takes whole and gives the transaction back, its
ids in lower case.

**Theorem (`ofBytes_serialize_inverse`).** Writing and reading are inverse to each other. Bytes can
be read if and only if some transaction is written as them, and then neither a proper part of them
from the front nor anything that goes on after them can be read, nor the same layout with a longer
form of a count or a length (`LaidOut`).
-/

namespace OpReturn.Transaction

open TxReader

theorem readFront_of_laidOut {tx : Transaction} {raw : Bytes} (h : tx.LaidOut raw) :
    readFront raw = .ok tx.lowered := by
  have hread := takes_transaction h []
  rw [List.append_nil] at hread
  rw [readFront, hread]

theorem ofBytes_eq_ok_iff {tx : Transaction} {raw : Bytes} :
    ofBytes raw = .ok tx ↔ readFront raw = .ok tx ∧ tx.serialize = .ok raw := by
  unfold ofBytes
  constructor
  · intro h
    split at h
    · exact nomatch h
    · exact nomatch h
    · rename_i hread
      split at h
      · exact nomatch h
      · rename_i written hwritten
        split_ifs at h with hsame
        obtain rfl := Except.ok.inj h
        exact ⟨hread, by rw [hwritten, hsame]⟩
  · rintro ⟨hread, hwritten⟩
    rw [hread]
    dsimp only
    rw [hwritten]
    exact if_pos rfl

theorem ofBytes_of_serialize {tx : Transaction} {raw : Bytes} (h : tx.serialize = .ok raw) :
    ofBytes raw = .ok tx.lowered :=
  ofBytes_eq_ok_iff.mpr ⟨readFront_of_laidOut (laidOut_of_serialize h), serialize_lowered h⟩

theorem append_nil_of_serialize {tx tx' : Transaction} {raw t : Bytes}
    (h : tx.serialize = .ok raw) (h' : tx'.serialize = .ok (raw ++ t)) : t = [] :=
  ((takes_transaction (laidOut_of_serialize h)).unique
    (takes_transaction (laidOut_of_serialize h'))).1

theorem eq_lowered_of_ofBytes {tx tx' : Transaction} {raw : Bytes} (hlaid : tx.LaidOut raw)
    (h : ofBytes raw = .ok tx') : tx' = tx.lowered := by
  have hread := (ofBytes_eq_ok_iff.mp h).1
  rw [readFront_of_laidOut hlaid] at hread
  exact (Except.ok.inj hread).symm

/-- No transaction can be read from the bytes. -/
def Refused (raw : Bytes) : Prop := ∀ tx, ofBytes raw ≠ .ok tx

/-- **Writing and reading are inverse to each other, and nothing else can be read**: no part of
what is written from the front, nothing that goes on after it, and no longer form of a count or a
length in it. -/
theorem ofBytes_serialize_inverse :
    (∀ tx raw, serialize tx = .ok raw → ofBytes raw = .ok tx.lowered) ∧
    (∀ tx raw, ofBytes raw = .ok tx → serialize tx = .ok raw) ∧
    (∀ tx raw t, serialize tx = .ok (raw ++ t) → t ≠ [] → Refused raw) ∧
    (∀ tx raw t, serialize tx = .ok raw → t ≠ [] → Refused (raw ++ t)) ∧
    (∀ tx raw raw', serialize tx = .ok raw → tx.LaidOut raw' → raw' ≠ raw → Refused raw') := by
  refine ⟨fun _ _ => ofBytes_of_serialize, fun _ _ h => (ofBytes_eq_ok_iff.mp h).2, ?_, ?_, ?_⟩
  · intro tx raw t h hne tx' hread
    exact hne (append_nil_of_serialize (ofBytes_eq_ok_iff.mp hread).2 h)
  · intro tx raw t h hne tx' hread
    exact hne (append_nil_of_serialize h (ofBytes_eq_ok_iff.mp hread).2)
  · intro tx raw raw' h hlaid hne tx' hread
    obtain rfl := eq_lowered_of_ofBytes hlaid hread
    have hsame := (ofBytes_eq_ok_iff.mp hread).2.symm.trans (serialize_lowered h)
    exact hne (Except.ok.inj hsame)

/-- An id in upper case reads back in lower case; a byte more, a byte less and a longer count of
the inputs are refused. -/
theorem ofBytes_serialize_upperCase :
    ∃ tx raw raw', serialize tx = .ok raw ∧ tx.lowered ≠ tx ∧ ofBytes raw = .ok tx.lowered ∧
      serialize tx.lowered = .ok raw ∧ Refused raw.dropLast ∧ Refused (raw ++ [0x00]) ∧
      tx.LaidOut raw' ∧ raw'.length = raw.length + 2 ∧ Refused raw' := by
  let tx : Transaction :=
    { inputs := [⟨String.ofList (List.replicate 64 'A'), 1, [0x51], 0xFFFFFFFF⟩]
      outputs := [⟨1, [0x6A]⟩] }
  let inputs : Bytes := List.replicate 32 0xAA ++ [1, 0, 0, 0, 1, 0x51, 0xFF, 0xFF, 0xFF, 0xFF]
  let outputs : Bytes := [1, 0, 0, 0, 0, 0, 0, 0, 1, 0x6A]
  let raw : Bytes := [1, 0, 0, 0, 1] ++ inputs ++ [1] ++ outputs ++ [0, 0, 0, 0]
  let raw' : Bytes := [1, 0, 0, 0, 0xFD, 1, 0] ++ inputs ++ [1] ++ outputs ++ [0, 0, 0, 0]
  have hwritten : serialize tx = .ok raw := by decide +kernel
  have hlast : serialize tx = .ok (raw.dropLast ++ [0x00]) := hwritten
  have hwidth : Varint.width? 0xFD = some 2 := by decide
  have hcount : VarintForm tx.inputs.length [0xFD, 1, 0] := .long (n := 1) hwidth (by decide)
  have hlaid : tx.LaidOut raw' :=
    ⟨[1, 0, 0, 0], [0, 0, 0, 0], _, [1], [inputs], [outputs], by decide, by decide, hcount,
      .cons (TxInput.laidOut_of_serialize (by decide +kernel)) .nil, .short (by decide),
      .cons (TxOutput.laidOut_of_serialize (by decide +kernel)) .nil, by decide⟩
  obtain ⟨hread, hback, hshort, hlong, hloose⟩ := ofBytes_serialize_inverse
  exact ⟨tx, raw, raw', hwritten, by decide +kernel, hread tx raw hwritten,
    hback tx.lowered raw (hread tx raw hwritten), hshort tx _ _ hlast (by decide),
    hlong tx raw _ hwritten (by decide), hlaid, by decide, hloose tx raw raw' hwritten hlaid
    (by decide)⟩

end OpReturn.Transaction
