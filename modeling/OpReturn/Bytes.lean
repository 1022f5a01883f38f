/-!
# Byte strings

Scripts, payloads, digests and signatures are byte strings, held as lists. Integers are written
into them with a fixed width, least significant byte first (`ofNatLE`) or last (`ofNatBE`).

* `toNatLE_ofNatLE`, `toNatBE_ofNatBE`: reading back a number that fits its width gives the number.
* `ofNatLE_toNatLE`, `ofNatBE_toNatBE`: writing back what was read gives the bytes.

Counts and lengths are written in one byte below `0xfd`; a larger one takes two, four or eight bytes
after a byte that tells which (`Varint`).

Bytes can end before what they announce is complete. A lenient reader goes on with what is there, a
strict one stops (`Mode`).
-/

namespace OpReturn

/-- A byte string. -/
abbrev Bytes := List UInt8

namespace Bytes

/-! ## Least significant byte first -/

/-- The `width` low bytes of `n`, least significant first. -/
def ofNatLE : (width : Nat) → (n : Nat) → Bytes
  | 0, _ => []
  | width + 1, n => UInt8.ofNat n :: ofNatLE width (n / 256)

/-- The number whose bytes, least significant first, are the given ones. -/
def toNatLE : Bytes → Nat
  | [] => 0
  | b :: s => b.toNat + 256 * toNatLE s

/-- How many numbers fit in `width` bytes. -/
def room : (width : Nat) → Nat
  | 0 => 1
  | width + 1 => 256 * room width

@[simp] theorem length_ofNatLE (width n : Nat) : (ofNatLE width n).length = width := by
  induction width generalizing n with
  | zero => rfl
  | succ width ih => simp [ofNatLE, ih]

theorem toNatLE_ofNatLE {width n : Nat} (h : n < room width) :
    toNatLE (ofNatLE width n) = n := by
  induction width generalizing n with
  | zero => simp only [room] at h; simp only [ofNatLE, toNatLE]; omega
  | succ width ih =>
    have hn : n / 256 < room width := Nat.div_lt_of_lt_mul h
    have hb : (UInt8.ofNat n).toNat = n % 256 := by simp
    simp only [ofNatLE, toNatLE, ih hn, hb]
    omega

theorem ofNatLE_toNatLE (s : Bytes) : ofNatLE s.length (toNatLE s) = s := by
  induction s with
  | nil => rfl
  | cons b s ih =>
    have hb : b.toNat < 256 := b.toNat_lt
    have hq : (b.toNat + 256 * toNatLE s) / 256 = toNatLE s := by omega
    have hr : UInt8.ofNat (b.toNat + 256 * toNatLE s) = b := by
      apply UInt8.toNat_inj.mp
      simp
    simp [ofNatLE, toNatLE, hq, hr, ih]

theorem toNatLE_lt (s : Bytes) : toNatLE s < room s.length := by
  induction s with
  | nil => exact Nat.one_pos
  | cons b s ih =>
    have hb : b.toNat < 256 := b.toNat_lt
    simp only [toNatLE, List.length_cons, room]
    omega

/-! ## Most significant byte first -/

/-- The `width` low bytes of `n`, most significant first. -/
def ofNatBE (width n : Nat) : Bytes := (ofNatLE width n).reverse

/-- The number whose bytes, most significant first, are the given ones. -/
def toNatBE (s : Bytes) : Nat := toNatLE s.reverse

@[simp] theorem length_ofNatBE (width n : Nat) : (ofNatBE width n).length = width := by
  simp [ofNatBE]

theorem toNatBE_ofNatBE {width n : Nat} (h : n < room width) :
    toNatBE (ofNatBE width n) = n := by
  simp [toNatBE, ofNatBE, toNatLE_ofNatLE h]

theorem ofNatBE_toNatBE (s : Bytes) : ofNatBE s.length (toNatBE s) = s := by
  rw [ofNatBE, toNatBE, ← List.length_reverse, ofNatLE_toNatLE, List.reverse_reverse]

end Bytes

/-! ## Variable-length integers -/

namespace Varint

/-- The shortest form of a number below `2 ^ 64`. -/
def encode (n : Nat) : Bytes :=
  if n < 0xFD then Bytes.ofNatLE 1 n
  else if n < 0x10000 then 0xFD :: Bytes.ofNatLE 2 n
  else if n < 0x100000000 then 0xFE :: Bytes.ofNatLE 4 n
  else 0xFF :: Bytes.ofNatLE 8 n

/-- How many bytes hold the number after the given first byte; `none` if the byte is itself the
number. -/
def width? (first : UInt8) : Option Nat :=
  if first < 0xFD then none
  else if first = 0xFD then some 2
  else if first = 0xFE then some 4
  else some 8

end Varint

/-! ## Reading modes -/

/-- What a reader does with a part that the bytes cut short. -/
inductive Mode where
  /-- It takes what is there. -/
  | lenient
  /-- It is an error. -/
  | strict
deriving DecidableEq, Repr

end OpReturn
