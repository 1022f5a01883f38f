import Mathlib.Tactic.IntervalCases
import OpReturn.Text.Hex

/-!
# Hexadecimal text read back

Reading gives back the bytes that a text was written from (`decode_encode`). A text that consists
of an even number of digits and nothing else can be read, and it differs from the text of the bytes
that were read by nothing but the case of its digits (`exists_decode_of_digits`).
-/

namespace OpReturn.Hex

/-! ## Digits -/

/-- The digits of either case. -/
def digits : List Char := "0123456789abcdefABCDEF".toList

theorem digit?_digit {n : Nat} (h : n < 16) : digit? (digit n) = some n := by
  interval_cases n <;> rfl

theorem toLower_digit {n : Nat} (h : n < 16) : (digit n).toLower = digit n := by
  interval_cases n <;> rfl

theorem mem_digits {c : Char} {n : Nat} (h : digit? c = some n) : c ∈ digits := by
  have hrange : (48 ≤ c.toNat ∧ c.toNat ≤ 57) ∨ (97 ≤ c.toNat ∧ c.toNat ≤ 102) ∨
      (65 ≤ c.toNat ∧ c.toNat ≤ 70) := by
    unfold digit? at h
    split_ifs at h with hdecimal hlower hupper
    · exact Or.inl hdecimal
    · exact Or.inr (Or.inl hlower)
    · exact Or.inr (Or.inr hupper)
  rw [← Char.ofNat_toNat c]
  generalize c.toNat = k at hrange
  rcases hrange with ⟨hlow, hhigh⟩ | ⟨hlow, hhigh⟩ | ⟨hlow, hhigh⟩ <;> interval_cases k <;> decide

/-- What the table of all digits is tested for holds of any digit. -/
theorem of_digit {test : Char → Bool} (hall : digits.all test = true) {c : Char} {n : Nat}
    (h : digit? c = some n) : test c = true := List.all_eq_true.mp hall c (mem_digits h)

theorem isGap_of_digit {c : Char} {n : Nat} (h : digit? c = some n) : isGap c = false := by
  have hall : digits.all (fun c => !isGap c) = true := by decide
  simpa using of_digit hall h

theorem toNat_le_of_digit {c : Char} {n : Nat} (h : digit? c = some n) : c.toNat ≤ 127 := by
  have hall : digits.all (fun c => c.toNat ≤ 127) = true := by decide
  exact of_decide_eq_true (of_digit hall h)

theorem digit_of_digit? {c : Char} {n : Nat} (h : digit? c = some n) :
    n < 16 ∧ digit n = c.toLower := by
  have hall : digits.all (fun c => (digit? c).all fun n => n < 16 && digit n = c.toLower) = true :=
    by decide
  simpa [h] using of_digit hall h

/-! ## Reading -/

theorem decodeFrom_pair {c d : Char} {h l : Nat} (hc : digit? c = some h) (hd : digit? d = some l)
    (i : Nat) (acc : Bytes) (cs : List Char) :
    decodeFrom i acc (c :: d :: cs) = decodeFrom (i + 2) (UInt8.ofNat (16 * h + l) :: acc) cs := by
  have hgap : ¬ isGap c = true := by simp [isGap_of_digit hc]
  rw [decodeFrom.eq_4 i acc c h d cs hc, if_neg hgap, hd]

theorem byte_of_halves (b : UInt8) : UInt8.ofNat (16 * (b.toNat / 16) + b.toNat % 16) = b := by
  rw [Nat.div_add_mod, UInt8.ofNat_toNat]

theorem decodeFrom_pairs (s : Bytes) (i : Nat) (acc : Bytes) :
    decodeFrom i acc (s.flatMap pair) = .ok (acc.reverse ++ s) := by
  induction s generalizing i acc with
  | nil => simp [decodeFrom]
  | cons b s ih =>
    have hb : b.toNat < 256 := b.toNat_lt
    have hhigh := digit?_digit (n := b.toNat / 16) (by omega)
    have hlow := digit?_digit (n := b.toNat % 16) (by omega)
    rw [List.flatMap_cons, pair, List.cons_append, List.cons_append, List.nil_append,
      decodeFrom_pair hhigh hlow, byte_of_halves, ih]
    simp

theorem pair_of_digits {c d : Char} {h l : Nat} (hc : digit? c = some h) (hd : digit? d = some l) :
    pair (UInt8.ofNat (16 * h + l)) = [c.toLower, d.toLower] := by
  obtain ⟨hh, hhigh⟩ := digit_of_digit? hc
  obtain ⟨hl, hlow⟩ := digit_of_digit? hd
  have hb : (UInt8.ofNat (16 * h + l)).toNat = 16 * h + l := by
    rw [UInt8.toNat_ofNat']
    omega
  have hdiv : (16 * h + l) / 16 = h := by omega
  have hmod : (16 * h + l) % 16 = l := by omega
  rw [pair, hb, hdiv, hmod, hhigh, hlow]

/-- Digits read two by two as bytes, whose own digits are those in lower case. -/
theorem exists_decodeFrom {n : Nat} {cs : List Char} (hlen : cs.length = 2 * n)
    (hdigits : ∀ c ∈ cs, (digit? c).isSome) (i : Nat) (acc : Bytes) :
    ∃ s, decodeFrom i acc cs = .ok (acc.reverse ++ s) ∧ s.length = n ∧
      s.flatMap pair = cs.map Char.toLower := by
  induction n generalizing cs i acc with
  | zero =>
    obtain rfl := List.length_eq_zero_iff.mp hlen
    exact ⟨[], by simp [decodeFrom], rfl, rfl⟩
  | succ n ih =>
    match cs, hlen with
    | c :: d :: cs, hlen =>
      obtain ⟨hc, hd, hcs⟩ : (digit? c).isSome ∧ (digit? d).isSome ∧
          ∀ c ∈ cs, (digit? c).isSome := by
        simpa using hdigits
      obtain ⟨h, hc⟩ := Option.isSome_iff_exists.mp hc
      obtain ⟨l, hd⟩ := Option.isSome_iff_exists.mp hd
      have hlen' : cs.length = 2 * n := by
        simp only [List.length_cons] at hlen
        omega
      obtain ⟨s, hread, hs, hpairs⟩ :=
        ih hlen' hcs (i + 2) (UInt8.ofNat (16 * h + l) :: acc)
      refine ⟨UInt8.ofNat (16 * h + l) :: s, ?_, by rw [List.length_cons, hs], ?_⟩
      · rw [decodeFrom_pair hc hd, hread]
        simp
      · rw [List.flatMap_cons, pair_of_digits hc hd, hpairs]
        rfl

theorem decode_of_ascii {text : String} (h : ∀ c ∈ text.toList, c.toNat ≤ 127) :
    decode text = decodeFrom 0 [] text.toList := by
  have hnone : text.toList.findIdx? (fun c => 127 < c.toNat) = none := by
    rw [List.findIdx?_eq_none_iff]
    intro c hc
    simpa using h c hc
  rw [decode, hnone]

theorem toList_encode (s : Bytes) : (encode s).toList = s.flatMap pair := String.toList_ofList

theorem isSome_of_mem_encode {s : Bytes} {c : Char} (h : c ∈ (encode s).toList) :
    (digit? c).isSome := by
  rw [toList_encode, List.mem_flatMap] at h
  obtain ⟨b, -, hc⟩ := h
  have hb : b.toNat < 256 := b.toNat_lt
  obtain rfl | rfl : c = digit (b.toNat / 16) ∨ c = digit (b.toNat % 16) := by simpa [pair] using hc
  · rw [digit?_digit (by omega)]
    rfl
  · rw [digit?_digit (by omega)]
    rfl

theorem length_encode (s : Bytes) : (encode s).length = 2 * s.length := by
  rw [← String.length_toList, toList_encode]
  induction s with
  | nil => rfl
  | cons b s ih =>
    rw [List.flatMap_cons, List.length_append, ih, List.length_cons]
    show 2 + _ = _
    omega

theorem toList_toLower (text : String) : text.toLower.toList = text.toList.map Char.toLower :=
  String.toList_map

theorem toLower_encode (s : Bytes) : (encode s).toLower = encode s := by
  rw [← String.toList_inj, toList_toLower, toList_encode, List.map_flatMap]
  refine congrArg (List.flatMap · s) (funext fun b => ?_)
  have hb : b.toNat < 256 := b.toNat_lt
  rw [pair, List.map_cons, List.map_singleton, toLower_digit (by omega), toLower_digit (by omega)]

/-- **Reading gives back what was written.** -/
theorem decode_encode (s : Bytes) : decode (encode s) = .ok s := by
  have hascii : ∀ c ∈ (encode s).toList, c.toNat ≤ 127 := fun c hc =>
    toNat_le_of_digit (Option.isSome_iff_exists.mp (isSome_of_mem_encode hc)).choose_spec
  rw [decode_of_ascii hascii, toList_encode, decodeFrom_pairs]
  rfl

theorem encode_inj {s t : Bytes} : encode s = encode t ↔ s = t := by
  refine ⟨fun h => ?_, congrArg encode⟩
  have := decode_encode s
  rw [h, decode_encode] at this
  exact (Except.ok.inj this).symm

/-- A text of digits alone reads as the bytes that are written as that text in lower case. -/
theorem exists_decode_of_digits {text : String} {n : Nat} (hlen : text.length = 2 * n)
    (hdigits : ∀ c ∈ text.toList, (digit? c).isSome) :
    ∃ s, decode text = .ok s ∧ s.length = n ∧ encode s = text.toLower := by
  have hascii : ∀ c ∈ text.toList, c.toNat ≤ 127 := fun c hc =>
    toNat_le_of_digit (Option.isSome_iff_exists.mp (hdigits c hc)).choose_spec
  rw [← String.length_toList] at hlen
  obtain ⟨s, hread, hs, hpairs⟩ := exists_decodeFrom hlen hdigits 0 []
  refine ⟨s, (decode_of_ascii hascii).trans hread, hs, ?_⟩
  rw [← String.toList_inj, toList_encode, hpairs, toList_toLower]

end OpReturn.Hex
