import Mathlib.Data.List.Basic
import OpReturn.Proofs.Text.Base64

/-!
# The texts of a byte string

A base64 text that can be read is digits and then padding, and every four digits are those of three
bytes. So a text without padding is the text of some bytes. Where one sign of padding closes the
text, the digit before it has two bits to spare: of its six bits the first four are read.

**Theorem (`decode_eq_ok_iff`).** Of the texts of one length, four are read as given bytes that
leave two behind the last group of three: the one that is written for them and those with another
last digit of the same leading bits.

* `exists_digits_of_run`, `bits_foldl_push`: what can be read, and how many bytes it gives.
* `exists_encode`: digits in groups of four are the text of some bytes.
-/

namespace OpReturn.Base64

/-! ## Digits -/

theorem digit?_eq_some_iff {b : UInt8} {v : Nat} : digit? b = some v ↔ v < 64 ∧ b = digit v := by
  constructor
  · have hall : ∀ k < 256, ∀ v ∈ digit? (UInt8.ofNat k), v < 64 ∧ UInt8.ofNat k = digit v := by
      decide +kernel
    intro h
    have hb := hall b.toNat b.toNat_lt
    rw [UInt8.ofNat_toNat] at hb
    exact hb v h
  · rintro ⟨hv, rfl⟩
    exact digit?_digit hv

/-- The first four bits of a digit. -/
def leadingBits? (b : UInt8) : Option Nat := (digit? b).map (· / 4)

theorem leadingBits?_digit {v : Nat} (h : v < 64) : leadingBits? (digit v) = some (v / 4) := by
  rw [leadingBits?, digit?_digit h, Option.map_some]

theorem leadingBits?_eq_some_iff {b : UInt8} {q : Nat} :
    leadingBits? b = some q ↔ ∃ v < 64, v / 4 = q ∧ b = digit v := by
  simp only [leadingBits?, Option.map_eq_some_iff, digit?_eq_some_iff]
  constructor
  · rintro ⟨v, ⟨hv, rfl⟩, rfl⟩
    exact ⟨v, hv, rfl, rfl⟩
  · rintro ⟨v, hv, rfl, rfl⟩
    exact ⟨v, ⟨hv, rfl⟩, rfl⟩

/-! ## What can be read -/

/-- **A text that can be read is digits and then padding**, and the bytes are those of the digits.
After padding there are no more digits. -/
theorem exists_digits_of_run {r : Reading} {text out : Bytes} (h : r.run text = .ok out) :
    ∃ (values : List Nat) (pads : Nat), (∀ v ∈ values, v < 64) ∧
      (r.padded = true → values = []) ∧
      text = values.map digit ++ List.replicate pads 0x3D ∧
      (values.foldl Reading.push r).out.reverse = out := by
  induction text generalizing r with
  | nil =>
    refine ⟨[], 0, by simp, fun _ => rfl, rfl, ?_⟩
    rw [Reading.run, Reading.finish] at h
    split at h
    · exact Except.ok.inj h
    · cases h
    · cases h
  | cons b text ih =>
    rw [Reading.run] at h
    split_ifs at h with hpad hclose hempty
    · obtain rfl := List.isEmpty_iff.mp hempty
      exact ⟨[], 1, by simp, fun _ => rfl, by rw [hpad]; rfl, Except.ok.inj h⟩
    · obtain ⟨values, pads, -, hnil, rfl, hout⟩ := ih h
      obtain rfl := hnil rfl
      exact ⟨[], pads + 1, by simp, fun _ => rfl, by rw [hpad]; rfl, hout⟩
    · obtain ⟨values, pads, -, hnil, rfl, hout⟩ := ih h
      obtain rfl := hnil rfl
      exact ⟨[], pads + 1, by simp, fun _ => rfl, by rw [hpad]; rfl, hout⟩
    · split at h <;> cases h
    · rename_i hpadded
      split at h
      · cases h
      · rename_i v hv
        obtain ⟨hlt, rfl⟩ := digit?_eq_some_iff.mp hv
        obtain ⟨values, pads, hvalues, -, rfl, hout⟩ := ih h
        exact ⟨v :: values, pads, List.forall_mem_cons.mpr ⟨hlt, hvalues⟩,
          fun hr => absurd hr hpadded, rfl, hout⟩

/-- How many bits are read: those of the bytes so far and those to spare. -/
def Reading.bits (r : Reading) : Nat := 8 * r.out.length + (8 - 2 * r.place) % 8

theorem push_bits {r : Reading} (h : r.place < 4) (v : Nat) :
    (r.push v).place < 4 ∧ (r.push v).bits = r.bits + 6 := by
  obtain ⟨place, spare, pads, padded, out⟩ := r
  dsimp only at h
  obtain rfl | rfl | rfl | rfl : place = 0 ∨ place = 1 ∨ place = 2 ∨ place = 3 := by omega
  · simp [Reading.push, Reading.bits]
  all_goals
    simp only [Reading.push, Reading.bits, List.length_cons]
    omega

theorem bits_foldl_push {r : Reading} (h : r.place < 4) (values : List Nat) :
    (values.foldl Reading.push r).bits = r.bits + 6 * values.length := by
  induction values generalizing r with
  | nil => rfl
  | cons v values ih =>
    obtain ⟨hplace, hbits⟩ := push_bits h v
    rw [List.foldl_cons, ih hplace, hbits, List.length_cons]
    omega

/-! ## Groups -/

theorem encode_append {s : Bytes} (h : 3 ∣ s.length) (t : Bytes) :
    encode (s ++ t) = encode s ++ encode t := by
  induction s using encode.induct with
  | case1 => rfl
  | case2 a => simp at h
  | case3 a b => simp at h
  | case4 a b c s ih =>
    have hs : 3 ∣ s.length := by
      simp only [List.length_cons] at h
      omega
    simp only [List.cons_append, encode, ih hs]

theorem run_encode_append {s : Bytes} (h : 3 ∣ s.length) (out t : Bytes) :
    Reading.run { out } (encode s ++ t) = Reading.run { out := s.reverse ++ out } t := by
  induction s using encode.induct generalizing out with
  | case1 => rfl
  | case2 a => simp at h
  | case3 a b => simp at h
  | case4 a b c s ih =>
    have hs : 3 ∣ s.length := by
      simp only [List.length_cons] at h
      omega
    simp only [encode, List.cons_append, run_group, ih hs, List.reverse_cons, List.append_assoc,
      List.nil_append]

theorem encode_injective : Function.Injective encode := by
  intro s t h
  exact Except.ok.inj ((decode_encode s).symm.trans ((congrArg decode h).trans (decode_encode t)))

/-- **Digits in groups of four are the text of some bytes.** -/
theorem exists_encode {k : Nat} {values : List Nat} (h : ∀ v ∈ values, v < 64)
    (hlen : values.length = 4 * k) : ∃ s, s.length = 3 * k ∧ encode s = values.map digit := by
  induction k generalizing values with
  | zero =>
    obtain rfl := List.length_eq_zero_iff.mp hlen
    exact ⟨[], rfl, rfl⟩
  | succ k ih =>
    match values, hlen with
    | a :: b :: c :: d :: values, hlen =>
      simp only [List.forall_mem_cons] at h
      obtain ⟨ha, hb, hc, hd, hvalues⟩ := h
      obtain ⟨s, hs, hencode⟩ := ih hvalues (by simpa [Nat.mul_succ] using hlen)
      refine ⟨UInt8.ofNat (a * 4 + b / 16) :: UInt8.ofNat (b % 16 * 16 + c / 4)
        :: UInt8.ofNat (c % 4 * 64 + d) :: s, by simp [hs, Nat.mul_succ], ?_⟩
      simp only [encode, UInt8.toNat_ofNat', hencode, List.map_cons, List.cons.injEq, and_true]
      refine ⟨?_, ?_, ?_, ?_⟩ <;> congr 1 <;> omega

/-! ## The last group -/

section Last

variable {k : Nat} {s : Bytes}

/-- The text of bytes that leave two behind the last group of three. -/
theorem encode_last (hs : s.length = 3 * k) (a b : UInt8) : encode (s ++ [a, b]) = encode s ++
    [digit (a.toNat / 4), digit (a.toNat % 4 * 16 + b.toNat / 16), digit (b.toNat % 16 * 4),
      0x3D] := by
  rw [encode_append ⟨k, hs⟩, encode]

/-- The last two bits of its last digit are not looked at. -/
theorem decode_last (hs : s.length = 3 * k) (a b : UInt8) {spare : Nat} (h : spare < 4) :
    decode (encode s ++ [digit (a.toNat / 4), digit (a.toNat % 4 * 16 + b.toNat / 16),
      digit (b.toNat % 16 * 4 + spare), 0x3D]) = .ok (s ++ [a, b]) := by
  have ha := a.toNat_lt
  have hb := b.toNat_lt
  have hhead : (encode s ++ [digit (a.toNat / 4), digit (a.toNat % 4 * 16 + b.toNat / 16),
      digit (b.toNat % 16 * 4 + spare), 0x3D]).head? ≠ some 0x3D := by
    cases hencode : encode s with
    | nil => simpa using digit_ne_padding (n := a.toNat / 4) (by omega)
    | cons c t =>
      have hs := head?_encode_ne_padding s
      rwa [hencode] at hs
  rw [decode_eq_run hhead, run_encode_append ⟨k, hs⟩, run_first _ a (by omega),
    run_second _ b h]
  simp [Reading.run]

theorem length_encode_groups (hs : s.length = 3 * k) : (encode s).length = 4 * k := by
  rw [length_encode, hs]
  omega

theorem getElem?_encode_last (hs : s.length = 3 * k) (a b : UInt8) :
    (encode (s ++ [a, b]))[4 * k + 2]? = some (digit (b.toNat % 16 * 4)) := by
  have hlen := length_encode_groups hs
  rw [encode_last hs, List.getElem?_append_right (by omega), hlen, Nat.add_sub_cancel_left]
  rfl

theorem set_encode_last (hs : s.length = 3 * k) (a b c : UInt8) :
    (encode (s ++ [a, b])).set (4 * k + 2) c = encode s ++
      [digit (a.toNat / 4), digit (a.toNat % 4 * 16 + b.toNat / 16), c, 0x3D] := by
  have hlen := length_encode_groups hs
  rw [encode_last hs, List.set_append_right _ _ (by omega), hlen, Nat.add_sub_cancel_left]
  rfl

/-- What can be read as so many bytes has one sign of padding, behind the digits. -/
theorem exists_values_of_decode {text : Bytes} (htext : text.length = 4 * k + 4)
    (hs : s.length = 3 * k + 2) (h : decode text = .ok s) : ∃ values : List Nat,
      (∀ v ∈ values, v < 64) ∧ values.length = 4 * k + 3 ∧ text = values.map digit ++ [0x3D] := by
  have hhead : text.head? ≠ some 0x3D := by
    intro hpad
    obtain ⟨rest, rfl⟩ := List.head?_eq_some_iff.mp hpad
    exact nomatch h
  rw [decode_eq_run hhead] at h
  obtain ⟨values, pads, hvalues, -, rfl, hout⟩ := exists_digits_of_run h
  have hbits := bits_foldl_push (r := {}) (by decide) values
  have hbytes := congrArg List.length hout
  rw [List.length_reverse, hs] at hbytes
  simp only [List.length_append, List.length_map, List.length_replicate] at htext
  have hlen : values.length = 4 * k + 3 := by
    simp only [Reading.bits, hbytes, List.length_nil] at hbits
    omega
  obtain rfl : pads = 1 := by omega
  exact ⟨values, hvalues, hlen, rfl⟩

/-- **The texts of bytes that leave two behind the last group of three** differ in the digit before
the padding, and agree in its leading bits. -/
theorem decode_eq_ok_iff {text : Bytes} (htext : text.length = 4 * k + 4) (hs : s.length = 3 * k)
    (a b : UInt8) : decode text = .ok (s ++ [a, b]) ↔ ∃ c,
      leadingBits? c = some (b.toNat % 16) ∧ text = (encode (s ++ [a, b])).set (4 * k + 2) c := by
  have hb := b.toNat_lt
  constructor
  · intro h
    obtain ⟨values, hvalues, hlen, rfl⟩ := exists_values_of_decode htext (by simp [hs]) h
    obtain ⟨front, u, v, w, rfl, hfront⟩ : ∃ front u v w, values = front ++ [u, v, w] ∧
        front.length = 4 * k := by
      have hlast : (values.drop (4 * k)).length = 3 := by
        rw [List.length_drop, hlen, Nat.add_sub_cancel_left]
      obtain ⟨u, v, w, hlast⟩ := List.length_eq_three.mp hlast
      exact ⟨values.take (4 * k), u, v, w, by rw [← hlast, List.take_append_drop],
        List.length_take_of_le (by omega)⟩
    simp only [List.forall_mem_append, List.forall_mem_cons] at hvalues
    obtain ⟨hvalues, hu, hv, hw, -⟩ := hvalues
    -- The digits before the last three are the text of some bytes, the last three give two more.
    obtain ⟨t, ht, hfront⟩ := exists_encode hvalues hfront
    have hx : (UInt8.ofNat (u * 4 + v / 16)).toNat = u * 4 + v / 16 := by
      rw [UInt8.toNat_ofNat', Nat.mod_eq_of_lt (by omega)]
    have hy : (UInt8.ofNat (v % 16 * 16 + w / 4)).toNat = v % 16 * 16 + w / 4 := by
      rw [UInt8.toNat_ofNat', Nat.mod_eq_of_lt (by omega)]
    generalize UInt8.ofNat (u * 4 + v / 16) = x at hx
    generalize UInt8.ofNat (v % 16 * 16 + w / 4) = y at hy
    have htext : (front ++ [u, v, w]).map digit ++ [0x3D] = encode t ++
        [digit (x.toNat / 4), digit (x.toNat % 4 * 16 + y.toNat / 16),
          digit (y.toNat % 16 * 4 + w % 4), 0x3D] := by
      have hu' : x.toNat / 4 = u := by omega
      have hv' : x.toNat % 4 * 16 + y.toNat / 16 = v := by omega
      have hw' : y.toNat % 16 * 4 + w % 4 = w := by omega
      rw [hu', hv', hw', hfront, List.map_append, List.append_assoc]
      rfl
    rw [htext, decode_last ht x y (Nat.mod_lt w (by decide))] at h
    obtain ⟨rfl, hxy⟩ := List.append_inj (Except.ok.inj h) (ht.trans hs.symm)
    obtain ⟨rfl, rfl⟩ : x = a ∧ y = b := by simpa using hxy
    refine ⟨digit (y.toNat % 16 * 4 + w % 4), ?_, ?_⟩
    · rw [leadingBits?_digit (by omega)]
      exact congrArg some (by omega)
    · rw [htext, set_encode_last hs]
  · rintro ⟨c, hc, rfl⟩
    obtain ⟨w, hw, hlead, rfl⟩ := leadingBits?_eq_some_iff.mp hc
    have hspare : w = b.toNat % 16 * 4 + w % 4 := by omega
    rw [set_encode_last hs, hspare, decode_last hs a b (Nat.mod_lt _ (by decide))]

end Last

end OpReturn.Base64
