import OpReturn.Proofs.Transaction.RoundTrip

/-!
# What reading a transaction can end in

Reading any bytes gives a transaction or one of three errors. What is read can always be written, in
either mode (`Yields`), so no error of writing is among them. Of the three, one is unlike the
others: the lenient reading meets a script whose length no index can be.

**Theorem (`ofBytes_outcome`).** Reading ends in a transaction if one is written as the bytes, and
else in nothing, in bytes other than those that what stands at the front is written as, or in a
length that is too large. The last happens if and only if the bytes begin as a transaction up to
such a length (`Overflows`) and the strict reading, which comes first, finds no whole transaction at
their front. Fewer bytes than such a length never hold both.
-/

namespace OpReturn

open TxReader

/-! ## Values that are read -/

namespace TxReader

variable {α β : Type} {mode : Mode}

/-- What the reader gives has the property. -/
def Yields (Q : α → Prop) (reader : TxReader α) : Prop :=
  ∀ s a t, reader s = .ok (a, t) → Q a

variable {Q : α → Prop} {reader : TxReader α}

theorem yields_pure {a : α} (h : Q a) : Yields Q (pure a : TxReader α) := by
  intro s b t hread
  obtain ⟨rfl, -⟩ := Prod.mk.inj (Except.ok.inj hread)
  exact h

theorem Yields.bind {next : α → TxReader β} {R : β → Prop} (h : Yields Q reader)
    (hnext : ∀ a, Q a → Yields R (next a)) : Yields R (reader >>= next) := by
  intro s b u hread
  obtain ⟨⟨a, t⟩, hfirst, hsecond⟩ := bind_eq_ok_iff.mp hread
  exact hnext a (h s a t hfirst) t b u hsecond

theorem yields_take (size : Nat) : Yields (fun s => s.length = size) (take size) := by
  intro s a t hread
  have hreads : Reads .strict _ _ (take size) := reads_take size
  rcases hreads.splits hread with ⟨_, -, rfl, hlen⟩ | ⟨hmode, -⟩
  · exact hlen
  · exact nomatch hmode

theorem yields_upTo (size : Nat) : Yields (fun s => s.length ≤ size) (upTo mode size) := by
  intro s a t hread
  cases mode with
  | strict => exact Nat.le_of_eq (yields_take size s a t hread)
  | lenient =>
    obtain ⟨rfl, -⟩ := Prod.mk.inj (Except.ok.inj hread)
    rw [List.length_take]
    omega

theorem yields_integer (width : Nat) : Yields (· < Bytes.room width) (integer mode width) :=
  fun _ _ _ hread => Nat.lt_of_lt_of_le (integer_lt hread) (room_le_room (by omega))

theorem yields_varint : Yields (· < 0x10000000000000000) (varint mode) := by
  refine (yields_integer 1).bind fun first hfirst => ?_
  cases hwidth : Varint.width? (UInt8.ofNat first) with
  | none => exact yields_pure (Nat.lt_trans hfirst (by decide))
  | some width =>
    have hroom : Bytes.room width ≤ Bytes.room 8 := room_le_room (width_le_of_some hwidth).2
    exact fun s n t hread => Nat.lt_of_lt_of_le (yields_integer width s n t hread) hroom

theorem yields_scriptLength : Yields (· < 0x10000000000000000) (scriptLength mode) := by
  intro s n t hread
  rw [scriptLength_eq] at hread
  obtain ⟨read, hvarint, hcheck⟩ := bind_eq_ok_iff.mp hread
  split_ifs at hcheck
  obtain rfl := Except.ok.inj hcheck
  exact yields_varint s _ _ hvarint

theorem yields_manyFrom {item : TxReader α} (h : Yields Q item) {fuel count : Nat} {acc : List α}
    (hacc : ∀ a ∈ acc, Q a) :
    Yields (fun values => values.length = acc.length + count ∧ ∀ a ∈ values, Q a)
      (manyFrom item fuel count acc) := by
  induction count generalizing fuel acc with
  | zero =>
    rw [manyFrom]
    exact yields_pure ⟨List.length_reverse, fun a ha => hacc a (List.mem_reverse.mp ha)⟩
  | succ count ih =>
    cases fuel with
    | zero =>
      intro s values t hread
      cases hread
    | succ fuel =>
      rw [manyFrom]
      refine h.bind fun a ha => ?_
      have hcount : acc.length + (count + 1) = (a :: acc).length + count := by
        rw [List.length_cons]
        omega
      rw [hcount]
      exact ih (List.forall_mem_cons.mpr ⟨ha, hacc⟩)

theorem yields_many {item : TxReader α} (h : Yields Q item) (count : Nat) :
    Yields (fun values => values.length = count ∧ ∀ a ∈ values, Q a) (many item count) := by
  intro s values t hread
  obtain ⟨hlen, hall⟩ := yields_manyFrom h (List.forall_mem_nil Q) s values t hread
  exact ⟨by rwa [List.length_nil, Nat.zero_add] at hlen, hall⟩

/-! ## Everything read can be written -/

theorem yields_input : Yields (fun txin => ∃ s, txin.serialize = .ok s) (input mode) := by
  refine (yields_take 32).bind fun id hid => (yields_integer 4).bind fun vout hvout =>
    yields_scriptLength.bind fun size hsize => (yields_take size).bind fun script hscript =>
    (yields_integer 4).bind fun sequence hsequence => yields_pure ?_
  have hlen : script.length < 0x10000000000000000 := hscript ▸ hsize
  exact ⟨_, TxInput.serialize_eq_ok_iff.mpr ⟨id, _, _, txidField_encode hid, field32_natCast hvout,
    hlen, field32_natCast hsequence, rfl⟩⟩

theorem yields_output : Yields (fun txout => ∃ s, txout.serialize = .ok s) (output mode) := by
  rw [output_eq]
  refine (yields_integer 8).bind fun satoshis hsatoshis => yields_scriptLength.bind
    fun size hsize => (yields_upTo size).bind fun script hscript => yields_pure ?_
  exact ⟨_, TxOutput.serialize_eq_ok_iff.mpr ⟨satoshis, rfl, hsatoshis,
    Nat.lt_of_le_of_lt hscript hsize, rfl⟩⟩

theorem yields_transaction : Yields (fun tx => ∃ s, tx.serialize = .ok s) (transaction mode) := by
  refine (yields_integer 4).bind fun version hversion => yields_varint.bind
    fun inputCount hin => (yields_many yields_input inputCount).bind fun inputs hinputs =>
    yields_varint.bind fun outputCount hout => (yields_many yields_output outputCount).bind
    fun outputs houtputs => (yields_integer 4).bind fun locktime hlocktime => yields_pure ?_
  obtain ⟨rfl, hinputs⟩ := hinputs
  obtain ⟨rfl, houtputs⟩ := houtputs
  obtain ⟨parts, hparts⟩ := exists_forall₂ hinputs
  obtain ⟨parts', hparts'⟩ := exists_forall₂ houtputs
  have hfits : ∀ input ∈ inputs, fits32 input.vout = true := by
    intro input hmem
    obtain ⟨s, hs⟩ := hinputs input hmem
    obtain ⟨_, _, _, -, hvout, -⟩ := TxInput.serialize_eq_ok_iff.mp hs
    exact (field32_eq_ok_iff.mp hvout).1
  exact ⟨_, Transaction.serialize_eq_ok_iff.mpr ⟨_, _, parts, parts', hfits,
    field32_natCast hversion, field32_natCast hlocktime, hin, hparts, hout, hparts', rfl⟩⟩

end TxReader

namespace Transaction

theorem exists_serialize_of_readFront {raw : Bytes} {tx : Transaction}
    (h : readFront raw = .ok tx) : ∃ s, tx.serialize = .ok s := by
  unfold readFront at h
  split at h
  · rename_i tx' t hread
    obtain rfl := Except.ok.inj h
    exact yields_transaction raw _ t hread
  · obtain ⟨⟨tx', t⟩, hread, rfl⟩ := map_eq_ok_iff.mp h
    exact yields_transaction raw tx' t hread

/-! ## Lengths that are too large -/

theorem exists_strict_iff {raw : Bytes} :
    (∃ read, transaction .strict raw = .ok read) ↔
      ∃ tx front rest, LaidOut tx front ∧ raw = front ++ rest := by
  constructor
  · rintro ⟨⟨tx, rest⟩, hread⟩
    rcases reads_transaction.splits hread with ⟨front, hraw, hfront⟩ | ⟨hmode, -⟩
    · exact ⟨tx, front, rest, hfront.laidOut, hraw⟩
    · exact nomatch hmode
  · rintro ⟨tx, front, rest, hlaid, rfl⟩
    exact ⟨_, takes_transaction hlaid rest⟩

theorem lenient_eq_lengthOverflow_iff {raw : Bytes} :
    transaction .lenient raw = .error .lengthOverflow ↔ Overflows raw := by
  rw [reads_transaction.overflow_iff]
  exact and_iff_right rfl

theorem readFront_eq_lengthOverflow_iff {raw : Bytes} :
    readFront raw = .error .lengthOverflow ↔
      Overflows raw ∧ ∀ tx front rest, LaidOut tx front → raw ≠ front ++ rest := by
  have hstrict : (∀ tx front rest, LaidOut tx front → raw ≠ front ++ rest) ↔
      ¬ ∃ read, transaction .strict raw = .ok read := by
    rw [exists_strict_iff]
    push Not
    rfl
  rw [hstrict, readFront, ← lenient_eq_lengthOverflow_iff]
  cases hread : transaction .strict raw with
  | ok read => simp
  | error e => simp [map_eq_error_iff]

/-- In bytes that begin with too large a length no transaction is laid out, unless they are as long
as it says. -/
theorem Overflows.not_laidOut {raw : Bytes} (h : Overflows raw) (hlen : raw.length < lengthLimit)
    (tx : Transaction) (front rest : Bytes) (hlaid : tx.LaidOut front) : raw ≠ front ++ rest := by
  rintro rfl
  rw [List.length_append] at hlen
  have htakes : Takes (transaction .lenient) front tx.lowered :=
    reads_transaction.takes (hlaid.readAs_lowered fun _ => by omega)
  exact nomatch (lenient_eq_lengthOverflow_iff.mpr h).symm.trans (htakes rest)

/-! ## Every outcome -/

/-- How the outcome follows from what stands at the front. -/
theorem ofBytes_cases (raw : Bytes) :
    readFront raw = .error .ended ∧ ofBytes raw = .error .nothingRead ∨
      readFront raw = .error .lengthOverflow ∧ ofBytes raw = .error .lengthOverflow ∨
      ∃ tx, readFront raw = .ok tx ∧
        (ofBytes raw = .ok tx ∨ ofBytes raw = .error .notCanonical) := by
  unfold ofBytes
  cases hread : readFront raw with
  | error e =>
    cases e with
    | ended => exact .inl ⟨rfl, rfl⟩
    | lengthOverflow => exact .inr (.inl ⟨rfl, rfl⟩)
  | ok tx =>
    obtain ⟨written, hwritten⟩ := exists_serialize_of_readFront hread
    refine .inr (.inr ⟨tx, rfl, ?_⟩)
    by_cases hsame : written = raw
    · exact .inl (by simp [hwritten, hsame])
    · exact .inr (by simp [hwritten, hsame])

theorem ofBytes_eq_lengthOverflow_iff {raw : Bytes} :
    ofBytes raw = .error .lengthOverflow ↔
      Overflows raw ∧ ∀ tx front rest, LaidOut tx front → raw ≠ front ++ rest := by
  rw [← readFront_eq_lengthOverflow_iff]
  rcases ofBytes_cases raw with ⟨hread, h⟩ | ⟨hread, h⟩ | ⟨tx, hread, h | h⟩ <;> simp [hread, h]

/-- **Reading gives a transaction or one of three errors**: a transaction exactly if one is written
as the bytes, and the error of a length that is too large exactly if the bytes begin as a
transaction up to such a length, and not as a whole one. -/
theorem ofBytes_outcome (raw : Bytes) :
    ((∃ tx, ofBytes raw = .ok tx) ∨ ofBytes raw = .error .nothingRead ∨
      ofBytes raw = .error .notCanonical ∨ ofBytes raw = .error .lengthOverflow) ∧
    ((∃ tx, ofBytes raw = .ok tx) ↔ ∃ tx, serialize tx = .ok raw) ∧
    (ofBytes raw = .error .lengthOverflow ↔
      Overflows raw ∧ ∀ tx front rest, LaidOut tx front → raw ≠ front ++ rest) ∧
    (raw.length < lengthLimit → (ofBytes raw = .error .lengthOverflow ↔ Overflows raw)) := by
  refine ⟨?_, ⟨?_, ?_⟩, ofBytes_eq_lengthOverflow_iff, fun hlen => ?_⟩
  · rcases ofBytes_cases raw with ⟨-, h⟩ | ⟨-, h⟩ | ⟨tx, -, h | h⟩
    · exact .inr (.inl h)
    · exact .inr (.inr (.inr h))
    · exact .inl ⟨tx, h⟩
    · exact .inr (.inr (.inl h))
  · rintro ⟨tx, h⟩
    exact ⟨tx, (ofBytes_eq_ok_iff.mp h).2⟩
  · rintro ⟨tx, h⟩
    exact ⟨tx.lowered, ofBytes_of_serialize h⟩
  · rw [ofBytes_eq_lengthOverflow_iff]
    exact and_iff_left_of_imp fun h => h.not_laidOut hlen

/-- An output whose script should have all the bytes that eight bytes can count, and has none, is
not refused as other bytes are. -/
theorem ofBytes_hugeScript :
    ¬ ∀ raw, (∃ tx, ofBytes raw = .ok tx) ∨ ofBytes raw = .error .nothingRead ∨
      (∃ e, ofBytes raw = .error (.unwritable e)) ∨ ofBytes raw = .error .notCanonical := by
  intro hall
  let raw : Bytes := [1, 0, 0, 0, 0, 1] ++ [1, 0, 0, 0, 0, 0, 0, 0] ++ List.replicate 9 0xFF
  have hread : ofBytes raw = .error .lengthOverflow := by decide +kernel
  simpa [hread] using hall raw

end Transaction
end OpReturn
