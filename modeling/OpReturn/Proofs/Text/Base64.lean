import Mathlib.Tactic.Common
import OpReturn.Text.Base64

/-!
# Base64 read back

Reading takes one digit at a time and writes a byte as soon as its eight bits are there. Four
digits that stand for three bytes leave the reading as it was before them, but for these bytes
(`run_group`), so the whole text is read back by induction over its groups.

* `decode_encode`: reading gives back the bytes that were written.
* `length_encode`: the text has four digits for every three bytes begun.
-/

namespace OpReturn.Base64

/-! ## Digits -/

theorem digit?_digit {n : Nat} (h : n < 64) : digit? (digit n) = some n :=
  (by decide : ∀ n < 64, digit? (digit n) = some n) n h

theorem digit_ne_padding {n : Nat} (h : n < 64) : digit n ≠ 0x3D :=
  (by decide : ∀ n < 64, digit n ≠ 0x3D) n h

theorem run_digit {r : Reading} (hr : r.padded = false) {n : Nat} (h : n < 64) (s : Bytes) :
    r.run (digit n :: s) = (r.push n).run s := by
  rw [Reading.run, if_neg (digit_ne_padding h), digit?_digit h]
  dsimp only
  rw [hr, if_neg Bool.false_ne_true]

/-! ## Groups -/

/-- The first two digits of a group give its first byte. -/
theorem run_first (out : Bytes) (a : UInt8) {n : Nat} (hn : n < 16) (s : Bytes) :
    Reading.run { out } (digit (a.toNat / 4) :: digit (a.toNat % 4 * 16 + n) :: s) =
      Reading.run { place := 2, spare := n, out := a :: out } s := by
  have ha := a.toNat_lt
  have hbyte : a.toNat / 4 * 4 + (a.toNat % 4 * 16 + n) / 16 = a.toNat := by omega
  have hspare : (a.toNat % 4 * 16 + n) % 16 = n := by omega
  rw [run_digit rfl (by omega), run_digit rfl (by omega)]
  simp only [Reading.push, hbyte, hspare, UInt8.ofNat_toNat]

theorem run_second (out : Bytes) (b : UInt8) {n : Nat} (hn : n < 4) (s : Bytes) :
    Reading.run { place := 2, spare := b.toNat / 16, out } (digit (b.toNat % 16 * 4 + n) :: s) =
      Reading.run { place := 3, spare := n, out := b :: out } s := by
  have hb := b.toNat_lt
  have hbyte : b.toNat / 16 * 16 + (b.toNat % 16 * 4 + n) / 4 = b.toNat := by omega
  have hspare : (b.toNat % 16 * 4 + n) % 4 = n := by omega
  rw [run_digit rfl (by omega)]
  simp only [Reading.push, hbyte, hspare, UInt8.ofNat_toNat]

/-- **A whole group gives its three bytes**, and the reading goes on as it began. -/
theorem run_group (out : Bytes) (a b c : UInt8) (s : Bytes) :
    Reading.run { out } (digit (a.toNat / 4) :: digit (a.toNat % 4 * 16 + b.toNat / 16)
      :: digit (b.toNat % 16 * 4 + c.toNat / 64) :: digit (c.toNat % 64) :: s) =
      Reading.run { out := c :: b :: a :: out } s := by
  have hb := b.toNat_lt
  have hc := c.toNat_lt
  have hbyte : c.toNat / 64 * 64 + c.toNat % 64 = c.toNat := by omega
  rw [run_first out a (by omega), run_second _ b (by omega), run_digit rfl (by omega)]
  simp only [Reading.push, hbyte, UInt8.ofNat_toNat]

/-! ## Texts -/

theorem run_encode (out s : Bytes) : Reading.run { out } (encode s) = .ok (out.reverse ++ s) := by
  induction s using encode.induct generalizing out with
  | case1 =>
    rw [List.append_nil]
    rfl
  | case2 a =>
    have hfirst := run_first out a (n := 0) (by decide) [0x3D, 0x3D]
    rw [Nat.add_zero] at hfirst
    rw [encode, hfirst]
    simp [Reading.run]
  | case3 a b =>
    have hb := b.toNat_lt
    have hsecond := run_second (a :: out) b (n := 0) (by decide) [0x3D]
    rw [Nat.add_zero] at hsecond
    rw [encode, run_first out a (by omega), hsecond]
    simp [Reading.run]
  | case4 a b c s ih =>
    rw [encode, run_group, ih]
    simp

theorem head?_encode_ne_padding (s : Bytes) : (encode s).head? ≠ some 0x3D := by
  have hdigit (a : UInt8) : digit (a.toNat / 4) ≠ 0x3D := by
    have ha := a.toNat_lt
    exact digit_ne_padding (by omega)
  cases s using encode.fun_cases with
  | case1 => simp [encode]
  | case2 a => simpa [encode] using hdigit a
  | case3 a b => simpa [encode] using hdigit a
  | case4 a b c s => simpa [encode] using hdigit a

/-- A text that does not begin with padding is read from its first byte on. -/
theorem decode_eq_run {text : Bytes} (h : text.head? ≠ some 0x3D) :
    decode text = Reading.run {} text := by
  unfold decode
  split
  · exact absurd rfl h
  · rfl

/-- **Reading gives back the bytes that were written.** -/
theorem decode_encode (s : Bytes) : decode (encode s) = .ok s := by
  rw [decode_eq_run (head?_encode_ne_padding s), run_encode, List.reverse_nil, List.nil_append]

theorem length_encode (s : Bytes) : (encode s).length = (s.length + 2) / 3 * 4 := by
  induction s using encode.induct with
  | case1 => simp [encode]
  | case2 a => simp [encode]
  | case3 a b => simp [encode]
  | case4 a b c s ih =>
    rw [encode]
    simp only [List.length_cons, ih]
    omega

end OpReturn.Base64
