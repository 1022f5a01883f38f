import Mathlib.Data.List.Forall2
import Mathlib.Tactic.Common
import OpReturn.Proofs.Success
import OpReturn.Transaction.Reader

/-!
# What a reader takes

`Takes reader s a` says that a reader takes exactly the bytes `s` off whatever begins with them,
and gives the value `a`. A reader is known when it is known which bytes those are, and from which
bytes it overflows (`Reads`): whatever else it reads, the bytes ended too early for it. Readers in a
row read bytes in a row (`Reads.bind`), so each part of a transaction has one lemma, in both modes.

* `reads_integer`: numbers of a fixed width.
* `reads_varint`: numbers in any of their variable-length forms.
* `reads_scriptLength`: the one reader that overflows.
* `reads_many`: as many values as there are, each of at least one byte.
* `Takes.unique`: a reader takes no more and no less than the bytes, so no two readable byte
  strings are such that one goes on where the other ends.
-/

namespace OpReturn.TxReader

variable {α β : Type} {mode : Mode}

/-- The reader takes exactly these bytes off the front, whatever follows, and gives the value. -/
def Takes (reader : TxReader α) (s : Bytes) (a : α) : Prop :=
  ∀ t, reader (s ++ t) = .ok (a, t)

theorem Takes.unique {reader : TxReader α} {s t : Bytes} {a b : α} (h : Takes reader s a)
    (h' : Takes reader (s ++ t) b) : t = [] ∧ b = a := by
  have hsame : (Except.ok (b, []) : Except TxFault (α × Bytes)) = .ok (a, t) := by
    rw [← h' [], ← h t, List.append_nil]
  obtain ⟨rfl, ht⟩ := Prod.mk.inj (Except.ok.inj hsame)
  exact ⟨ht.symm, rfl⟩

/-! ## Readers in a row -/

/-- A reader, by the bytes that it takes for each value and by the bytes that it overflows on. -/
structure Reads (mode : Mode) (layout : α → Bytes → Prop) (huge : Bytes → Prop)
    (reader : TxReader α) : Prop where
  takes {a : α} {s : Bytes} : layout a s → Takes reader s a
  /-- What it reads otherwise is read to the end, leniently. -/
  splits {a : α} {s t : Bytes} : reader s = .ok (a, t) →
    (∃ front, s = front ++ t ∧ layout a front) ∨ mode = .lenient ∧ t = []
  overflow_iff {s : Bytes} : reader s = .error .lengthOverflow ↔ huge s
  not_huge_nil : ¬ huge []

variable {layout layout' : α → Bytes → Prop} {huge huge' : Bytes → Prop} {reader : TxReader α}

theorem Reads.congr (h : Reads mode layout huge reader) (hlayout : ∀ a s, layout a s ↔ layout' a s)
    (hhuge : ∀ s, huge s ↔ huge' s) : Reads mode layout' huge' reader := by
  obtain rfl : layout = layout' := funext₂ fun a s => propext (hlayout a s)
  obtain rfl : huge = huge' := funext fun s => propext (hhuge s)
  exact h

theorem reads_pure (a : α) :
    Reads mode (fun b s => b = a ∧ s = []) (fun _ => False) (pure a : TxReader α) where
  takes := by
    rintro _ _ ⟨rfl, rfl⟩ t
    rfl
  splits {b s t} h := by
    obtain ⟨rfl, rfl⟩ := Prod.mk.inj (Except.ok.inj h)
    exact .inl ⟨[], rfl, rfl, rfl⟩
  overflow_iff := ⟨nofun, nofun⟩
  not_huge_nil := id

theorem Reads.bind {next : α → TxReader β} {layout' : α → β → Bytes → Prop}
    {huge' : α → Bytes → Prop} (h : Reads mode layout huge reader)
    (hnext : ∀ a, Reads mode (layout' a) (huge' a) (next a)) :
    Reads mode
      (fun b s => ∃ a front back, layout a front ∧ layout' a b back ∧ s = front ++ back)
      (fun s => huge s ∨ ∃ a front back, layout a front ∧ huge' a back ∧ s = front ++ back)
      (reader >>= next) := by
  have hrun (s : Bytes) : (reader >>= next) s = reader s >>= fun read => next read.1 read.2 := rfl
  refine ⟨?_, ?_, ?_, ?_⟩
  · rintro b _ ⟨a, front, back, hfront, hback, rfl⟩ t
    rw [hrun, List.append_assoc, h.takes hfront]
    exact (hnext a).takes hback t
  · intro b s u hread
    rw [hrun] at hread
    obtain ⟨⟨a, t⟩, hfirst, hsecond⟩ := bind_eq_ok_iff.mp hread
    rcases (hnext a).splits hsecond with ⟨back, rfl, hback⟩ | hcut
    · rcases h.splits hfirst with ⟨front, rfl, hfront⟩ | ⟨hmode, ht⟩
      · exact .inl ⟨front ++ back, (List.append_assoc ..).symm, a, front, back, hfront, hback, rfl⟩
      · exact .inr ⟨hmode, (List.append_eq_nil_iff.mp ht).2⟩
    · exact .inr hcut
  · intro s
    constructor
    · intro hread
      rw [hrun] at hread
      cases hfirst : reader s with
      | error e =>
        rw [hfirst] at hread
        obtain rfl : e = .lengthOverflow := Except.error.inj hread
        exact .inl (h.overflow_iff.mp hfirst)
      | ok read =>
        obtain ⟨a, t⟩ := read
        rw [hfirst] at hread
        have hback := (hnext a).overflow_iff.mp hread
        rcases h.splits hfirst with ⟨front, rfl, hfront⟩ | ⟨-, rfl⟩
        · exact .inr ⟨a, front, t, hfront, hback, rfl⟩
        · exact absurd hback (hnext a).not_huge_nil
    · rintro (hs | ⟨a, front, back, hfront, hback, rfl⟩)
      · rw [hrun, h.overflow_iff.mpr hs]
        rfl
      · rw [hrun, h.takes hfront]
        exact (hnext a).overflow_iff.mpr hback
  · rintro (hs | ⟨a, front, back, -, hback, hnil⟩)
    · exact h.not_huge_nil hs
    · obtain ⟨rfl, rfl⟩ := List.append_eq_nil_iff.mp hnil.symm
      exact (hnext a).not_huge_nil hback

/-! ## Bytes and numbers -/

theorem reads_take (size : Nat) :
    Reads mode (fun a s => a = s ∧ s.length = size) (fun _ => False) (take size) where
  takes := by
    rintro a _ ⟨rfl, rfl⟩ t
    rw [take, List.take_left, List.drop_left]
    simp
  splits {a s t} h := by
    rw [take] at h
    split_ifs at h with hlen
    obtain ⟨rfl, rfl⟩ := Prod.mk.inj (Except.ok.inj h)
    have hsize : (s.take size).length = size := by
      rw [List.length_take] at hlen ⊢
      omega
    exact .inl ⟨s.take size, (List.take_append_drop size s).symm, rfl, hsize⟩
  overflow_iff {s} := by
    refine ⟨fun h => ?_, False.elim⟩
    rw [take] at h
    split_ifs at h
    exact nomatch h
  not_huge_nil := id

/-- The next `size` bytes, or leniently what there is of them. -/
def upTo : (mode : Mode) → (size : Nat) → TxReader Bytes
  | .strict, size => take size
  | .lenient, size => fun s => .ok (s.take size, s.drop size)

theorem reads_upTo (size : Nat) :
    Reads mode (fun a s => a = s ∧ s.length = size) (fun _ => False) (upTo mode size) := by
  cases mode with
  | strict => exact reads_take size
  | lenient =>
    refine ⟨?_, fun {a s t} h => ?_, ⟨nofun, False.elim⟩, id⟩
    · rintro a _ ⟨rfl, rfl⟩ t
      simp only [upTo, List.take_left, List.drop_left]
    · obtain ⟨rfl, rfl⟩ := Prod.mk.inj (Except.ok.inj h)
      by_cases hlen : size ≤ s.length
      · exact .inl ⟨s.take size, (List.take_append_drop size s).symm, rfl,
          by rw [List.length_take, Nat.min_eq_left hlen]⟩
      · exact .inr ⟨rfl, List.drop_eq_nil_of_le (by omega)⟩

theorem exists_ofNatLE {width : Nat} {s : Bytes} (h : s.length = width) :
    ∃ n, n < Bytes.room width ∧ s = Bytes.ofNatLE width n := by
  obtain rfl := h
  exact ⟨Bytes.toNatLE s, Bytes.toNatLE_lt s, (Bytes.ofNatLE_toNatLE s).symm⟩

theorem integer_eq {width : Nat} {s : Bytes} :
    integer mode width s =
      if (mode = .strict → width ≤ min width s.length) ∧
          (mode = .lenient → 0 < min width s.length) then
        .ok (Bytes.toNatLE (s.take width), s.drop width)
      else .error .ended := by
  cases mode <;> simp [integer]

/-- An integer is what there is of its bytes, which are all of them except at the end of a lenient
reading. -/
theorem eq_of_integer {width n : Nat} {s t : Bytes} (h : integer mode width s = .ok (n, t)) :
    n = Bytes.toNatLE (s.take width) ∧ t = s.drop width ∧ (width ≤ s.length ∨ mode = .lenient) := by
  rw [integer_eq] at h
  split_ifs at h with henough
  obtain ⟨rfl, rfl⟩ := Prod.mk.inj (Except.ok.inj h)
  refine ⟨rfl, rfl, ?_⟩
  cases mode with
  | lenient => exact .inr rfl
  | strict => exact .inl (Nat.le_trans (henough.1 rfl) (Nat.min_le_right ..))

theorem room_le_room {width width' : Nat} (h : width ≤ width') :
    Bytes.room width ≤ Bytes.room width' := by
  induction h with
  | refl => exact Nat.le_refl _
  | step _ ih =>
    rw [Bytes.room]
    omega

theorem integer_lt {width n : Nat} {s t : Bytes} (h : integer mode width s = .ok (n, t)) :
    n < Bytes.room (min width s.length) := by
  obtain ⟨rfl, -, -⟩ := eq_of_integer h
  rw [← List.length_take]
  exact Bytes.toNatLE_lt _

theorem integer_of_le {width n : Nat} {s t : Bytes} (h : integer mode width s = .ok (n, t))
    (hlen : width ≤ s.length) : n < Bytes.room width ∧ s = Bytes.ofNatLE width n ++ t := by
  obtain ⟨rfl, rfl, -⟩ := eq_of_integer h
  have hwidth : (s.take width).length = width := by rw [List.length_take, Nat.min_eq_left hlen]
  obtain ⟨n, hn, hbytes⟩ := exists_ofNatLE hwidth
  have hvalue : Bytes.toNatLE (s.take width) = n := by rw [hbytes, Bytes.toNatLE_ofNatLE hn]
  rw [hvalue, ← hbytes, List.take_append_drop]
  exact ⟨hn, rfl⟩

theorem integer_ne_lengthOverflow {width : Nat} {s : Bytes} :
    integer mode width s ≠ .error .lengthOverflow := by
  intro h
  rw [integer_eq] at h
  split_ifs at h
  exact nomatch h

theorem reads_integer {width : Nat} (hwidth : 0 < width) :
    Reads mode (fun n s => n < Bytes.room width ∧ s = Bytes.ofNatLE width n) (fun _ => False)
      (integer mode width) where
  takes := by
    rintro n _ ⟨hn, rfl⟩ t
    have hlen := Bytes.length_ofNatLE width n
    have hle : width ≤ (Bytes.ofNatLE width n ++ t).length := by
      rw [List.length_append]
      omega
    rw [integer_eq, List.take_left' hlen, List.drop_left' hlen, Bytes.toNatLE_ofNatLE hn]
    exact if_pos ⟨fun _ => by omega, fun _ => by omega⟩
  splits {n s t} h := by
    by_cases hlen : width ≤ s.length
    · obtain ⟨hn, hs⟩ := integer_of_le h hlen
      exact .inl ⟨_, hs, hn, rfl⟩
    · obtain ⟨-, rfl, hmode⟩ := eq_of_integer h
      exact .inr ⟨hmode.resolve_left hlen, List.drop_eq_nil_of_le (by omega)⟩
  overflow_iff := ⟨integer_ne_lengthOverflow, False.elim⟩
  not_huge_nil := id

/-! ## Variable-length numbers -/

/-- The forms that a number can take, of which the first that has room is the shortest. -/
inductive VarintForm (n : Nat) : Bytes → Prop
  /-- The number is its own first byte. -/
  | short (h : n < 0xFD) : VarintForm n (Bytes.ofNatLE 1 n)
  /-- A first byte tells the width of the number. -/
  | long {first : UInt8} {width : Nat} (hwidth : Varint.width? first = some width)
      (h : n < Bytes.room width) : VarintForm n (first :: Bytes.ofNatLE width n)

theorem varintForm_encode {n : Nat} (h : n < 0x10000000000000000) :
    VarintForm n (Varint.encode n) := by
  unfold Varint.encode
  split_ifs with h1 h2 h4
  · exact .short h1
  · exact .long (by decide) h2
  · exact .long (by decide) h4
  · exact .long (by decide) h

theorem VarintForm.ne_nil {n : Nat} {form : Bytes} (h : VarintForm n form) : form ≠ [] := by
  cases h <;> exact List.cons_ne_nil _ _

theorem width_le_of_some {first : UInt8} {width : Nat} (h : Varint.width? first = some width) :
    0 < width ∧ width ≤ 8 := by
  unfold Varint.width? at h
  split_ifs at h <;> cases h <;> decide

theorem width?_eq_none_iff {first : Nat} (h : first < Bytes.room 1) :
    Varint.width? (UInt8.ofNat first) = none ↔ first < 0xFD := by
  have hroom : Bytes.room 1 = 256 := rfl
  have hfirst : (UInt8.ofNat first).toNat = first := by
    rw [UInt8.toNat_ofNat']
    omega
  have hlt : UInt8.ofNat first < 0xFD ↔ first < 0xFD := by
    rw [UInt8.lt_iff_toNat_lt, hfirst]
    rfl
  rw [← hlt]
  unfold Varint.width?
  split_ifs with hsmall <;> simp [hsmall]

/-- What follows the first byte of a number. -/
def VarintRest (first n : Nat) (s : Bytes) : Prop :=
  match Varint.width? (UInt8.ofNat first) with
  | none => n = first ∧ s = []
  | some width => n < Bytes.room width ∧ s = Bytes.ofNatLE width n

theorem varintForm_iff {n : Nat} {form : Bytes} :
    VarintForm n form ↔ ∃ (first : Nat) (front back : Bytes),
      (first < Bytes.room 1 ∧ front = Bytes.ofNatLE 1 first) ∧ VarintRest first n back ∧
      form = front ++ back := by
  unfold VarintRest
  constructor
  · intro h
    cases h with
    | short h =>
      have hroom : n < Bytes.room 1 := Nat.lt_trans h (by decide)
      refine ⟨n, _, [], ⟨hroom, rfl⟩, ?_, (List.append_nil _).symm⟩
      rw [(width?_eq_none_iff hroom).mpr h]
      exact ⟨rfl, rfl⟩
    | @long first width hwidth h =>
      refine ⟨first.toNat, [first], _, ⟨first.toNat_lt, by simp [Bytes.ofNatLE]⟩, ?_, rfl⟩
      rw [UInt8.ofNat_toNat, hwidth]
      exact ⟨h, rfl⟩
  · rintro ⟨first, front, back, ⟨hfirst, rfl⟩, hback, rfl⟩
    cases hwidth : Varint.width? (UInt8.ofNat first) with
    | none =>
      rw [hwidth] at hback
      obtain ⟨rfl, rfl⟩ := hback
      rw [List.append_nil]
      exact .short ((width?_eq_none_iff hfirst).mp hwidth)
    | some width =>
      rw [hwidth] at hback
      obtain ⟨hn, rfl⟩ := hback
      exact .long hwidth hn

theorem reads_varint : Reads mode VarintForm (fun _ => False) (varint mode) := by
  have hnext (first : Nat) : Reads mode (VarintRest first) (fun _ => False)
      (match Varint.width? (UInt8.ofNat first) with
        | none => pure first
        | some width => integer mode width) := by
    unfold VarintRest
    cases hwidth : Varint.width? (UInt8.ofNat first) with
    | none => exact reads_pure first
    | some width => exact reads_integer (width_le_of_some hwidth).1
  refine ((reads_integer Nat.one_pos).bind hnext).congr (fun n s => varintForm_iff.symm) ?_
  simp

/-- A number that seven bytes cannot hold is read with all its bytes. -/
theorem form_of_varint {n : Nat} {s t : Bytes} (h : varint mode s = .ok (n, t))
    (hn : Bytes.room 7 ≤ n) : ∃ form, s = form ++ t ∧ VarintForm n form := by
  obtain ⟨⟨first, u⟩, hfirst, hrest⟩ := bind_eq_ok_iff.mp h
  cases hwidth : Varint.width? (UInt8.ofNat first) with
  | none =>
    simp only [hwidth] at hrest
    obtain ⟨rfl, -⟩ := Prod.mk.inj (Except.ok.inj hrest)
    have hroom : Bytes.room (min 1 s.length) ≤ Bytes.room 7 := room_le_room (by omega)
    exact absurd (integer_lt hfirst) (Nat.not_lt_of_le (Nat.le_trans hroom hn))
  | some width =>
    simp only [hwidth] at hrest
    obtain ⟨hpos, hle⟩ := width_le_of_some hwidth
    have hall : width ≤ u.length := by
      by_contra hshort
      have hroom : Bytes.room (min width u.length) ≤ Bytes.room 7 := room_le_room (by omega)
      exact absurd (integer_lt hrest) (Nat.not_lt_of_le (Nat.le_trans hroom hn))
    have hone : 1 ≤ s.length := by
      by_contra hshort
      obtain ⟨-, rfl, -⟩ := eq_of_integer hfirst
      rw [List.length_drop] at hall
      omega
    obtain ⟨hlt, rfl⟩ := integer_of_le hrest hall
    obtain ⟨hfit, rfl⟩ := integer_of_le hfirst hone
    refine ⟨_, (List.append_assoc ..).symm, varintForm_iff.mpr ⟨first, _, _, ⟨hfit, rfl⟩, ?_, rfl⟩⟩
    rw [VarintRest, hwidth]
    exact ⟨hlt, rfl⟩

/-! ## Lengths of scripts -/

/-- The lengths that an index can be are below this. -/
abbrev lengthLimit : Nat := 0x8000000000000000

/-- The bytes begin with a length, in any of its forms, that no index can be. -/
def HugeLength (s : Bytes) : Prop :=
  ∃ n form rest, VarintForm n form ∧ lengthLimit ≤ n ∧ s = form ++ rest

theorem scriptLength_eq {s : Bytes} :
    scriptLength mode s = varint mode s >>= fun read =>
      if mode = .lenient ∧ lengthLimit ≤ read.1 then .error .lengthOverflow else .ok read := by
  show (varint mode s >>= _) = _
  congr
  funext ⟨n, t⟩
  dsimp only
  split_ifs <;> rfl

/-- A length is a number; a lenient reading overflows if it is too large. -/
theorem reads_scriptLength :
    Reads mode (fun n s => VarintForm n s ∧ (mode = .lenient → n < lengthLimit))
      (fun s => mode = .lenient ∧ HugeLength s) (scriptLength mode) where
  takes := by
    rintro n s ⟨hform, hsmall⟩ t
    rw [scriptLength_eq, reads_varint.takes hform t]
    exact if_neg fun hhuge => Nat.not_lt_of_le hhuge.2 (hsmall hhuge.1)
  splits {n s t} h := by
    rw [scriptLength_eq] at h
    obtain ⟨read, hread, hcheck⟩ := bind_eq_ok_iff.mp h
    split_ifs at hcheck with hhuge
    obtain rfl := Except.ok.inj hcheck
    refine (reads_varint.splits hread).imp_left ?_
    rintro ⟨form, hs, hform⟩
    exact ⟨form, hs, hform, fun hmode => Nat.lt_of_not_le fun hlarge => hhuge ⟨hmode, hlarge⟩⟩
  overflow_iff {s} := by
    rw [scriptLength_eq]
    constructor
    · intro h
      cases hread : varint mode s with
      | error e =>
        rw [hread] at h
        obtain rfl : e = .lengthOverflow := Except.error.inj h
        exact absurd (reads_varint.overflow_iff.mp hread) id
      | ok read =>
        obtain ⟨n, t⟩ := read
        rw [hread] at h
        have hhuge : mode = .lenient ∧ lengthLimit ≤ n := by
          by_contra hsmall
          exact nomatch (if_neg hsmall).symm.trans h
        have hroom : Bytes.room 7 ≤ n := Nat.le_trans (by decide) hhuge.2
        obtain ⟨form, rfl, hform⟩ := form_of_varint hread hroom
        exact ⟨hhuge.1, n, form, t, hform, hhuge.2, rfl⟩
    · rintro ⟨hmode, n, form, rest, hform, hlarge, rfl⟩
      rw [reads_varint.takes hform rest]
      exact if_pos ⟨hmode, hlarge⟩
  not_huge_nil := by
    rintro ⟨-, n, form, rest, hform, -, hnil⟩
    exact hform.ne_nil (List.append_eq_nil_iff.mp hnil.symm).1

/-! ## Lists -/

variable {item : TxReader α}

/-- As every value takes some bytes, the fuel does not matter. -/
theorem manyFrom_eq_many (hless : ∀ {s a t}, item s = .ok (a, t) → t.length < s.length)
    {fuel count : Nat} {acc : List α} {s : Bytes} (hfuel : s.length < fuel) :
    manyFrom item fuel count acc s =
      (many item count s).map fun read => (acc.reverse ++ read.1, read.2) := by
  induction count generalizing fuel acc s with
  | zero =>
    rw [many, manyFrom, manyFrom]
    show Except.ok (acc.reverse, s) = .ok (acc.reverse ++ [], s)
    rw [List.append_nil]
  | succ count ih =>
    obtain ⟨fuel, rfl⟩ : ∃ n, fuel = n + 1 := ⟨fuel - 1, by omega⟩
    show (item s >>= fun read => manyFrom item fuel count (read.1 :: acc) read.2) =
      (item s >>= fun read => manyFrom item s.length count [read.1] read.2).map _
    cases hread : item s with
    | error e => rfl
    | ok read =>
      have hleft := hless hread
      show manyFrom item fuel count (read.1 :: acc) read.2 =
        (manyFrom item s.length count [read.1] read.2).map _
      rw [ih (by omega), ih hleft]
      cases many item count read.2 with
      | error e => rfl
      | ok rest => simp [Except.map]

theorem many_zero : many item 0 = pure [] := rfl

theorem many_succ (hless : ∀ {s a t}, item s = .ok (a, t) → t.length < s.length) (count : Nat) :
    many item (count + 1) = item >>= fun a => many item count >>= fun rest => pure (a :: rest) := by
  funext s
  show (item s >>= fun read => manyFrom item s.length count [read.1] read.2) =
    (item s >>= fun read => many item count read.2 >>= fun rest => .ok (read.1 :: rest.1, rest.2))
  cases hread : item s with
  | error e => rfl
  | ok read =>
    show manyFrom item s.length count [read.1] read.2 = _
    rw [manyFrom_eq_many hless (hless hread)]
    rfl

/-- A reader that finds nothing in no bytes takes at least one. -/
theorem Reads.length_lt {e : TxFault} (h : Reads mode layout huge item)
    (hempty : item [] = .error e) {a : α} {s t : Bytes} (hread : item s = .ok (a, t)) :
    t.length < s.length := by
  rcases h.splits hread with ⟨front, rfl, hfront⟩ | ⟨-, rfl⟩
  · have hne : front ≠ [] := by
      rintro rfl
      exact nomatch hempty.symm.trans (h.takes hfront [])
    rw [List.length_append]
    exact Nat.lt_add_of_pos_left (List.length_pos_iff.mpr hne)
  · refine List.length_pos_iff.mpr ?_
    rintro rfl
    exact nomatch hempty.symm.trans hread

theorem reads_many {e : TxFault} (h : Reads mode layout huge item) (hempty : item [] = .error e)
    (count : Nat) :
    Reads mode
      (fun values s => ∃ parts, values.length = count ∧ List.Forall₂ layout values parts ∧
        s = parts.flatten)
      (fun s => ∃ values parts rest, values.length < count ∧ List.Forall₂ layout values parts ∧
        huge rest ∧ s = parts.flatten ++ rest)
      (many item count) := by
  induction count with
  | zero =>
    rw [many_zero]
    refine (reads_pure []).congr (fun values s => ?_) fun s => ?_
    · constructor
      · rintro ⟨rfl, rfl⟩
        exact ⟨[], rfl, .nil, rfl⟩
      · rintro ⟨parts, hlen, hparts, rfl⟩
        obtain rfl := List.length_eq_zero_iff.mp hlen
        cases hparts
        exact ⟨rfl, rfl⟩
    · simp
  | succ count ih =>
    rw [many_succ (h.length_lt hempty)]
    refine (h.bind fun a => ih.bind fun rest => reads_pure (a :: rest)).congr ?_ ?_
    · intro values s
      constructor
      · rintro ⟨a, front, _, hfront, ⟨rest, _, _, ⟨parts, rfl, hparts, rfl⟩, ⟨rfl, rfl⟩, rfl⟩, rfl⟩
        exact ⟨front :: parts, rfl, .cons hfront hparts, by rw [List.append_nil, List.flatten_cons]⟩
      · rintro ⟨_, hlen, _ | ⟨hfront, hparts⟩, rfl⟩
        · cases hlen
        · exact ⟨_, _, _, hfront, ⟨_, _, [], ⟨_, Nat.succ.inj hlen, hparts, rfl⟩, ⟨rfl, rfl⟩,
            (List.append_nil _).symm⟩, rfl⟩
    · intro s
      constructor
      · rintro (hs | ⟨a, front, _, hfront, ⟨rest, parts, t, hlen, hparts, ht, rfl⟩ | hnone, rfl⟩)
        · exact ⟨[], [], s, Nat.succ_pos _, .nil, hs, rfl⟩
        · exact ⟨a :: rest, front :: parts, t, Nat.succ_lt_succ hlen, .cons hfront hparts, ht, by
            rw [List.flatten_cons, List.append_assoc]⟩
        · obtain ⟨_, _, _, _, hfalse, -⟩ := hnone
          exact hfalse.elim
      · rintro ⟨_, _, t, hlen, _ | ⟨hfront, hparts⟩, ht, rfl⟩
        · exact .inl ht
        · exact .inr ⟨_, _, _, hfront, .inl ⟨_, _, t, Nat.lt_of_succ_lt_succ hlen, hparts, ht, rfl⟩,
            by rw [List.flatten_cons, List.append_assoc]⟩

end OpReturn.TxReader
