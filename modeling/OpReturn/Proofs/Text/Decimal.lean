import Mathlib.Algebra.Ring.Nat
import Mathlib.Tactic.Common
import OpReturn.Text.Decimal

/-!
# Numerals read back

The numeral of a number consists of digits, at least one, and its value is the number
(`value_ofNat`). A number below `10 ^ k` has at most `k` digits (`length_ofNat_le`), so it can be
shown if `k` is small enough (`isShowable_of_lt`).
-/

namespace OpReturn.Decimal

theorem isDigit_digit {d : Nat} (h : d < 10) :
    isDigit (UInt8.ofNat (0x30 + d)) = true ∧ (UInt8.ofNat (0x30 + d)).toNat - 0x30 = d :=
  (by decide : ∀ d < 10, isDigit (UInt8.ofNat (0x30 + d)) = true ∧
    (UInt8.ofNat (0x30 + d)).toNat - 0x30 = d) d h

theorem exists_of_isDigit {b : UInt8} (h : isDigit b = true) :
    ∃ d < 10, b = UInt8.ofNat (0x30 + d) := by
  obtain ⟨hlow, hhigh⟩ : 0x30 ≤ b ∧ b ≤ 0x39 := by simpa [isDigit] using h
  rw [UInt8.le_iff_toNat_le] at hlow hhigh
  change 0x30 ≤ b.toNat at hlow
  change b.toNat ≤ 0x39 at hhigh
  refine ⟨b.toNat - 0x30, by omega, ?_⟩
  rw [Nat.add_sub_cancel' hlow, UInt8.ofNat_toNat]

theorem isDigit_of_mem_ofNat {n : Nat} {b : UInt8} (h : b ∈ ofNat n) : isDigit b = true := by
  induction n using ofNat.induct with
  | case1 n hn =>
    rw [ofNat, if_pos hn] at h
    obtain rfl := List.mem_singleton.mp h
    exact (isDigit_digit hn).1
  | case2 n hn ih =>
    rw [ofNat, if_neg hn] at h
    rcases List.mem_append.mp h with h | h
    · exact ih h
    · obtain rfl := List.mem_singleton.mp h
      exact (isDigit_digit (Nat.mod_lt n (by decide))).1

theorem ofNat_ne_nil (n : Nat) : ofNat n ≠ [] := by
  rw [ofNat]
  split_ifs <;> simp

theorem value_concat (digits : Bytes) (b : UInt8) :
    value (digits ++ [b]) = 10 * value digits + (b.toNat - 0x30) := by
  rw [value, List.foldl_append]
  rfl

/-- **The value of a numeral is the number it was written for.** -/
theorem value_ofNat (n : Nat) : value (ofNat n) = n := by
  induction n using ofNat.induct with
  | case1 n hn =>
    have hdigit := (isDigit_digit hn).2
    rw [ofNat, if_pos hn]
    show 10 * 0 + ((UInt8.ofNat (0x30 + n)).toNat - 0x30) = n
    rw [hdigit, Nat.mul_zero, Nat.zero_add]
  | case2 n hn ih =>
    rw [ofNat, if_neg hn, value_concat, ih, (isDigit_digit (Nat.mod_lt n (by decide))).2]
    exact Nat.div_add_mod n 10

theorem length_ofNat_le {n k : Nat} (hk : 0 < k) (h : n < 10 ^ k) : (ofNat n).length ≤ k := by
  induction k generalizing n with
  | zero => exact absurd hk (Nat.lt_irrefl 0)
  | succ k ih =>
    rw [ofNat]
    split_ifs with hn
    · simp
    · have hkpos : 0 < k := by
        rcases Nat.eq_zero_or_pos k with rfl | hpos
        · exact absurd h hn
        · exact hpos
      have hdiv : n / 10 < 10 ^ k := Nat.div_lt_of_lt_mul (by rwa [Nat.pow_succ'] at h)
      rw [List.length_append]
      exact Nat.succ_le_succ (ih hkpos hdiv)

/-! ## Integers -/

theorem isDigit_of_mem_ofInt {v : Int} {b : UInt8} (h : b ∈ ofInt v) :
    isDigit b = true ∨ b = 0x2D := by
  cases v with
  | ofNat n => exact Or.inl (isDigit_of_mem_ofNat h)
  | negSucc n =>
    rcases List.mem_cons.mp h with rfl | h
    · exact Or.inr rfl
    · exact Or.inl (isDigit_of_mem_ofNat h)

theorem two_le_length_ofInt {v : Int} (h : ¬ (0 ≤ v ∧ v < 10)) : 2 ≤ (ofInt v).length := by
  cases v with
  | ofNat n =>
    have hn : ¬ n < 10 := by
      intro hn
      exact h ⟨Int.natCast_nonneg n, Int.ofNat_lt.mpr hn⟩
    have hpos := List.length_pos_iff.mpr (ofNat_ne_nil (n / 10))
    show 2 ≤ (ofNat n).length
    rw [ofNat, if_neg hn, List.length_append]
    exact Nat.succ_le_succ hpos
  | negSucc n =>
    have hpos := List.length_pos_iff.mpr (ofNat_ne_nil (n + 1))
    exact Nat.succ_le_succ hpos

theorem length_ofInt_le {v : Int} {k : Nat} (hk : 0 < k) (h : v.natAbs < 10 ^ k) :
    (ofInt v).length ≤ k + 1 := by
  cases v with
  | ofNat n => exact Nat.le_succ_of_le (length_ofNat_le hk h)
  | negSucc n => exact Nat.succ_le_succ (length_ofNat_le hk h)

theorem isShowable_of_lt {v : Int} {k : Nat} (hk : k ≤ maxDigits) (h : v.natAbs < 10 ^ k) :
    isShowable v = true := by
  -- The bound is a number that nothing should compute.
  unfold isShowable
  generalize maxDigits = most at hk
  exact decide_eq_true (Nat.lt_of_lt_of_le h (Nat.pow_le_pow_right (by decide) hk))

end OpReturn.Decimal
