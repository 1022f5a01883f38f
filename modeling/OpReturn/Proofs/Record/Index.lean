import Mathlib.Data.Nat.Digits.Lemmas
import OpReturn.Proofs.Record.Identity

/-!
# Fields that are indexes

A field of an identity signature is an index if it is the decimal numeral of a 64-bit integer, with
or without a sign and with any zeros in front. Before a numeral is read, the digits behind its
leading zeros are counted, and a numeral with more than nineteen of them is refused unread.

**Theorem (`parseIndex_numeral`).** A field of at most 4300 digits is read, and it is an index
exactly if it is such a numeral. The plain numeral of every 64-bit integer is one, and counting
refuses none, however many zeros it has.

A number below `10 ^ k` leaves at most `k` digits behind the leading zeros of its numerals
(`Decimal.length_significant_le`), because the first of those digits counts at least `10 ^ (k - 1)`
times one.

* `IsNumeral`: which integer a field stands for.
-/

namespace OpReturn

/-! ## Digits -/

namespace Decimal

/-- The bytes are ASCII digits, at least one, that stand for the number `n`. -/
structure Digits (digits : Bytes) (n : Nat) : Prop where
  ne_nil : digits ≠ []
  bounds : ∀ b ∈ digits, 0x30 ≤ b ∧ b ≤ 0x39
  value : Nat.ofDigits 10 (digits.reverse.map fun b => b.toNat - 0x30) = n

theorem value_eq_ofDigits (digits : Bytes) :
    value digits = Nat.ofDigits 10 (digits.reverse.map fun b => b.toNat - 0x30) := by
  induction digits using List.reverseRecOn with
  | nil => rfl
  | append_singleton digits b ih =>
    rw [value_concat, ih, List.reverse_concat, List.map_cons, Nat.ofDigits_cons, Nat.add_comm]

theorem digits_iff {digits : Bytes} {n : Nat} :
    Digits digits n ↔ digits ≠ [] ∧ digits.all isDigit = true ∧ value digits = n := by
  have hall : digits.all isDigit = true ↔ ∀ b ∈ digits, 0x30 ≤ b ∧ b ≤ 0x39 := by
    simp [isDigit]
  rw [hall, value_eq_ofDigits]
  constructor
  · intro h
    exact ⟨h.ne_nil, h.bounds, h.value⟩
  · rintro ⟨hnil, hbounds, hvalue⟩
    exact ⟨hnil, hbounds, hvalue⟩

theorem value_dropWhile (digits : Bytes) : value (digits.dropWhile (· = 0x30)) = value digits := by
  induction digits with
  | nil => rfl
  | cons b digits ih =>
    by_cases hb : b = 0x30
    · subst hb
      exact ih
    · rw [List.dropWhile_cons_of_neg (by simpa using hb)]

/-- **A small number has few digits behind the leading zeros.** -/
theorem length_significant_le {digits : Bytes} {k : Nat} (hdigits : ∀ b ∈ digits, isDigit b = true)
    (h : value digits < 10 ^ k) : (digits.dropWhile (· = 0x30)).length ≤ k := by
  rw [← value_dropWhile, value_eq_ofDigits] at h
  cases hsig : digits.dropWhile (· = 0x30) with
  | nil => exact Nat.zero_le k
  | cons b rest =>
    have hmem : b ∈ digits := (List.dropWhile_suffix _).mem (hsig ▸ List.mem_cons_self)
    have hzero : b ≠ 0x30 := by
      have hhead := List.head?_dropWhile_not (· = 0x30) digits
      simpa [hsig] using hhead
    obtain ⟨d, hd, rfl⟩ := exists_of_isDigit (hdigits b hmem)
    have hpos : (UInt8.ofNat (0x30 + d)).toNat - 0x30 ≠ 0 := by
      rw [(isDigit_digit hd).2]
      rintro rfl
      exact hzero rfl
    rw [hsig] at h
    have hpow := Nat.pow_length_le_mul_ofDigits (b := 8)
      (l := (UInt8.ofNat (0x30 + d) :: rest).reverse.map fun b => b.toNat - 0x30)
      (by simp) (by simpa only [List.reverse_cons, List.map_append, List.map_cons, List.map_nil,
        List.getLast_append_singleton] using hpos)
    have hlt : 10 ^ (rest.length + 1) < 10 ^ (k + 1) := by
      rw [List.length_map, List.length_reverse, List.length_cons] at hpow
      rw [Nat.pow_succ' (n := k)]
      exact Nat.lt_of_le_of_lt hpow (Nat.mul_lt_mul_of_pos_left h (by decide))
    exact Nat.lt_succ_iff.mp ((Nat.pow_lt_pow_iff_right (by decide)).mp hlt)

end Decimal

/-! ## Numerals of integers -/

/-- The bytes stand for an integer: digits behind a sign or none. -/
inductive IsNumeral : Bytes → Int → Prop
  | plain {digits : Bytes} {n : Nat} : Decimal.Digits digits n → IsNumeral digits n
  | plus {digits : Bytes} {n : Nat} : Decimal.Digits digits n → IsNumeral (0x2B :: digits) n
  | minus {digits : Bytes} {n : Nat} : Decimal.Digits digits n → IsNumeral (0x2D :: digits) (-n)

theorem isNumeral_iff {data : Bytes} {v : Int} :
    IsNumeral data v ↔ ∃ negative digits, signedDigits? data = some (negative, digits) ∧
      signedInt negative (Decimal.value digits) = v := by
  simp only [signedDigits?_eq_some_iff]
  constructor
  · intro h
    cases h with
    | plain h =>
      obtain ⟨hnil, hall, rfl⟩ := Decimal.digits_iff.mp h
      exact ⟨false, _, ⟨⟨hnil, hall⟩, Or.inl ⟨rfl, Or.inl rfl⟩⟩, rfl⟩
    | plus h =>
      obtain ⟨hnil, hall, rfl⟩ := Decimal.digits_iff.mp h
      exact ⟨false, _, ⟨⟨hnil, hall⟩, Or.inl ⟨rfl, Or.inr rfl⟩⟩, rfl⟩
    | minus h =>
      obtain ⟨hnil, hall, rfl⟩ := Decimal.digits_iff.mp h
      exact ⟨true, _, ⟨⟨hnil, hall⟩, Or.inr ⟨rfl, rfl⟩⟩, rfl⟩
  · rintro ⟨_, digits, ⟨⟨hnil, hall⟩, ⟨rfl, rfl | rfl⟩ | ⟨rfl, rfl⟩⟩, rfl⟩
    · exact .plain (Decimal.digits_iff.mpr ⟨hnil, hall, rfl⟩)
    · exact .plus (Decimal.digits_iff.mpr ⟨hnil, hall, rfl⟩)
    · exact .minus (Decimal.digits_iff.mpr ⟨hnil, hall, rfl⟩)

theorem IsNumeral.unique {data : Bytes} {v w : Int} (hv : IsNumeral data v)
    (hw : IsNumeral data w) : v = w := by
  obtain ⟨negative, digits, hdigits, rfl⟩ := isNumeral_iff.mp hv
  obtain ⟨negative', digits', hdigits', rfl⟩ := isNumeral_iff.mp hw
  obtain ⟨rfl, rfl⟩ := Prod.mk.inj (Option.some.inj (hdigits.symm.trans hdigits'))
  rfl

/-- The digits of a numeral are all behind its sign. -/
theorem countP_eq_length {data digits : Bytes} {negative : Bool}
    (h : signedDigits? data = some (negative, digits)) :
    data.countP Decimal.isDigit = digits.length := by
  obtain ⟨⟨-, hall⟩, hdata⟩ := signedDigits?_eq_some_iff.mp h
  have hcount : digits.countP Decimal.isDigit = digits.length :=
    List.countP_eq_length.mpr (List.all_eq_true.mp hall)
  rcases hdata with ⟨-, rfl | rfl⟩ | ⟨-, rfl⟩
  · exact hcount
  · rw [List.countP_cons_of_neg (by decide), hcount]
  · rw [List.countP_cons_of_neg (by decide), hcount]

/-! ## Indexes -/

/-- What is left of a field behind the signs and the zeros in front. -/
def significant (data : Bytes) : Bytes :=
  (data.dropWhile fun b => b = 0x2B ∨ b = 0x2D).dropWhile (· = 0x30)

theorem significant_eq {data digits : Bytes} {negative : Bool}
    (h : signedDigits? data = some (negative, digits)) :
    significant data = digits.dropWhile (· = 0x30) := by
  obtain ⟨⟨hnil, hall⟩, hdata⟩ := signedDigits?_eq_some_iff.mp h
  -- A numeral has one sign, and dropping signs stops at the first digit.
  have hsign : (digits.dropWhile fun b => b = 0x2B ∨ b = 0x2D) = digits := by
    obtain ⟨b, rest, rfl⟩ := List.exists_cons_of_ne_nil hnil
    refine List.dropWhile_cons_of_neg fun hb => ?_
    rcases of_decide_eq_true hb with rfl | rfl <;> simp [Decimal.isDigit] at hall
  rcases hdata with ⟨-, rfl | rfl⟩ | ⟨-, rfl⟩
  · rw [significant, hsign]
  · rw [significant, List.dropWhile_cons_of_pos rfl, hsign]
  · rw [significant, List.dropWhile_cons_of_pos rfl, hsign]

theorem length_significant_le {data : Bytes} {v : Int} (h : IsNumeral data v) (hv : IsIndex v) :
    (significant data).length ≤ 19 := by
  obtain ⟨negative, digits, hdigits, rfl⟩ := isNumeral_iff.mp h
  have hall := (signedDigits?_eq_some_iff.mp hdigits).1.2
  have hsize : Decimal.value digits < 10 ^ 19 := by
    unfold IsIndex signedInt at hv
    split_ifs at hv <;> omega
  rw [significant_eq hdigits]
  exact Decimal.length_significant_le (List.all_eq_true.mp hall) hsize

theorem parseIndex_of_isIndex {data : Bytes} {v : Int} (h : IsNumeral data v) (hv : IsIndex v) :
    parseIndex data = if Decimal.maxDigits < data.countP Decimal.isDigit
      then .error ⟨data.countP Decimal.isDigit⟩ else .ok (some v) := by
  have hfew := length_significant_le h hv
  obtain ⟨negative, digits, hdigits, rfl⟩ := isNumeral_iff.mp h
  rw [significant_eq hdigits] at hfew
  rw [parseIndex, hdigits, countP_eq_length hdigits]
  dsimp only
  rw [if_neg (Nat.not_lt.mpr hfew)]
  exact if_congr Iff.rfl rfl (congrArg Except.ok (if_pos hv))

theorem parseIndex_of_not_isIndex {data : Bytes} (h : ∀ v, IsNumeral data v → ¬ IsIndex v)
    (hcount : data.countP Decimal.isDigit ≤ Decimal.maxDigits) : parseIndex data = .ok none := by
  unfold parseIndex
  cases hdigits : signedDigits? data with
  | none => rfl
  | some numeral =>
    obtain ⟨negative, digits⟩ := numeral
    have hout := h _ (isNumeral_iff.mpr ⟨negative, digits, hdigits, rfl⟩)
    rw [countP_eq_length hdigits] at hcount
    dsimp only
    rw [if_neg (Nat.not_lt.mpr hcount)]
    split_ifs with hmany hrange
    · rfl
    · exact absurd hrange hout
    · rfl

/-- **The fields that are indexes are the numerals of 64-bit integers.** A field of at most 4300
digits is always read; the plain numerals are among them; and counting digits refuses none, of
whatever length. -/
theorem parseIndex_numeral :
    (∀ data : Bytes, data.countP Decimal.isDigit ≤ Decimal.maxDigits →
      ∃ found, parseIndex data = .ok found ∧
        ∀ v, found = some v ↔ IsNumeral data v ∧ IsIndex v) ∧
    (∀ v, IsIndex v → parseIndex (Decimal.ofInt v) = .ok (some v)) ∧
    (∀ data v, IsNumeral data v → IsIndex v →
      (significant data).length ≤ 19 ∧ parseIndex data ≠ .ok none) := by
  refine ⟨fun data hcount => ?_, fun v hv => parseIndex_ofInt hv, fun data v h hv => ?_⟩
  · by_cases hindex : ∃ v, IsNumeral data v ∧ IsIndex v
    · obtain ⟨v, h, hv⟩ := hindex
      refine ⟨some v, ?_, fun w => ?_⟩
      · rw [parseIndex_of_isIndex h hv, if_neg (Nat.not_lt.mpr hcount)]
      · constructor
        · rintro ⟨⟩
          exact ⟨h, hv⟩
        · rintro ⟨h', -⟩
          exact congrArg some (h.unique h')
    · refine ⟨none, parseIndex_of_not_isIndex ?_ hcount, fun v => ?_⟩
      · exact fun v h hv => hindex ⟨v, h, hv⟩
      · exact iff_of_false (fun h => nomatch h) fun h => hindex ⟨v, h⟩
  · refine ⟨length_significant_le h hv, ?_⟩
    rw [parseIndex_of_isIndex h hv]
    split_ifs <;> simp

/-- The least index behind thirty zeros. -/
def paddedLeast : Bytes := 0x2D :: (List.replicate 30 0x30 ++ Decimal.ofNat 0x8000000000000000)

/-- The zeros in front of the least index do not keep it from being read. -/
theorem parseIndex_numeral_padded :
    paddedLeast.countP Decimal.isDigit ≤ Decimal.maxDigits ∧
      IsNumeral paddedLeast (-0x8000000000000000) ∧ IsIndex (-0x8000000000000000) ∧
      parseIndex paddedLeast = .ok (some (-0x8000000000000000)) ∧
      parseIndex (Decimal.ofInt (-0x8000000000000000)) = .ok (some (-0x8000000000000000)) ∧
      (significant paddedLeast).length ≤ 19 := by
  have hcount : paddedLeast.countP Decimal.isDigit ≤ Decimal.maxDigits := by decide +kernel
  have hnumeral : IsNumeral paddedLeast (-0x8000000000000000) :=
    .minus ⟨by decide +kernel, by decide +kernel, by decide +kernel⟩
  have hindex : IsIndex (-0x8000000000000000) := by decide
  obtain ⟨hread, hplain, hfew⟩ := parseIndex_numeral
  obtain ⟨found, hfound, hiff⟩ := hread _ hcount
  obtain rfl := (hiff _).mpr ⟨hnumeral, hindex⟩
  exact ⟨hcount, hnumeral, hindex, hfound, hplain _ hindex, (hfew _ _ hnumeral hindex).1⟩

end OpReturn
