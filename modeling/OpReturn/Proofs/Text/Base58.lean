import Mathlib.Data.Nat.Digits.Lemmas
import OpReturn.Text.Base58

/-!
# Base58Check read back

Text and bytes are the digits of one number, in base 58 and in base 256, each with as many zeros in
front. Zeros apart, the digits of a number are unique, so reading gives back the bytes that a text
was written from (`decode_encode`), and with the checksum that was put behind them
(`decodeCheck_encodeCheck`). For the same reason no other text is read as these bytes
(`decode_eq_some_iff`, `decodeCheck_eq_some_iff`).
-/

namespace OpReturn

/-! ## Bytes as digits -/

theorem Bytes.toNatLE_eq_ofDigits (s : Bytes) :
    toNatLE s = Nat.ofDigits 256 (s.map UInt8.toNat) := by
  induction s with
  | nil => rfl
  | cons b s ih => rw [List.map_cons, Nat.ofDigits_cons, toNatLE, ih]

theorem Bytes.toNatBE_zeros (z : Nat) (s : Bytes) :
    toNatBE (List.replicate z 0 ++ s) = toNatBE s := by
  induction z with
  | zero => rfl
  | succ z ih =>
    rw [List.replicate_succ, List.cons_append, toNatBE, List.reverse_cons, toNatLE_eq_ofDigits,
      List.map_append, Nat.ofDigits_append, ← toNatLE_eq_ofDigits]
    simpa [toNatBE] using ih

theorem Bytes.toNatBE_cons (b : UInt8) (s : Bytes) :
    toNatBE (b :: s) = toNatBE s + 256 ^ s.length * b.toNat := by
  rw [toNatBE, List.reverse_cons, toNatLE_eq_ofDigits, List.map_append, Nat.ofDigits_append,
    ← toNatLE_eq_ofDigits, List.length_map, List.length_reverse, toNatBE]
  simp

theorem Bytes.toNatBE_lt (s : Bytes) : toNatBE s < 256 ^ s.length := by
  have hlt := Nat.ofDigits_lt_base_pow_length (b := 256) (l := s.reverse.map UInt8.toNat)
    (by decide) (by simp only [List.forall_mem_map]; exact fun b _ => b.toNat_lt)
  rwa [← toNatLE_eq_ofDigits, List.length_map, List.length_reverse] at hlt

namespace Base58

/-! ## Zeros in front -/

theorem exists_zeros {α : Type} [DecidableEq α] (zero : α) (items : List α) :
    ∃ z rest, items = List.replicate z zero ++ rest ∧ rest.head? ≠ some zero := by
  induction items with
  | nil => exact ⟨0, [], rfl, nofun⟩
  | cons item items ih =>
    by_cases h : item = zero
    · obtain ⟨z, rest, rfl, hrest⟩ := ih
      exact ⟨z + 1, rest, by rw [h, List.replicate_succ, List.cons_append], hrest⟩
    · exact ⟨0, item :: items, rfl, fun e => h (Option.some.inj e)⟩

theorem length_takeWhile_zeros {α : Type} [DecidableEq α] {zero : α} {rest : List α}
    (h : rest.head? ≠ some zero) (z : Nat) :
    ((List.replicate z zero ++ rest).takeWhile (· = zero)).length = z := by
  induction z with
  | zero =>
    cases rest with
    | nil => rfl
    | cons item rest =>
      have hne : ¬ item = zero := fun e => h (by rw [e]; rfl)
      simp [hne]
  | succ z ih =>
    rw [List.replicate_succ, List.cons_append, List.takeWhile_cons_of_pos (by simp),
      List.length_cons, ih]

/-! ## Digits -/

/-- The digit with a value below 58. -/
def symbol (v : Nat) : Char := alphabet.getD v '1'

theorem digit?_symbol {v : Nat} (h : v < 58) : digit? (symbol v) = some v :=
  (by decide : ∀ v < 58, digit? (symbol v) = some v) v h

theorem digitsFrom_eq (acc : List Char) (n : Nat) :
    digitsFrom acc n = ((Nat.digits 58 n).map symbol).reverse ++ acc := by
  induction n using Nat.strongRecOn generalizing acc with
  | ind n ih =>
    rw [digitsFrom]
    split_ifs with h
    · rw [h]
      rfl
    · rw [ih (n / 58) (by omega), Nat.digits_def' (by decide) (Nat.pos_of_ne_zero h)]
      simp [symbol]

theorem bytesFrom_eq (acc : Bytes) (n : Nat) :
    bytesFrom acc n = ((Nat.digits 256 n).map UInt8.ofNat).reverse ++ acc := by
  induction n using Nat.strongRecOn generalizing acc with
  | ind n ih =>
    rw [bytesFrom]
    split_ifs with h
    · rw [h]
      rfl
    · rw [ih (n / 256) (by omega), Nat.digits_def' (by decide) (Nat.pos_of_ne_zero h)]
      have hmod : UInt8.ofNat (n % 256) = UInt8.ofNat n := by
        apply UInt8.toNat_inj.mp
        simp
      simp [hmod]

theorem digits_toNatBE {s : Bytes} (h : s.head? ≠ some 0) :
    Nat.digits 256 (Bytes.toNatBE s) = s.reverse.map UInt8.toNat := by
  have hlast : ∀ hne : s.reverse.map UInt8.toNat ≠ [],
      (s.reverse.map UInt8.toNat).getLast hne ≠ 0 := by
    intro hne
    rw [List.getLast_map, List.getLast_reverse]
    intro hzero
    exact h (List.head?_eq_some_head _ ▸ congrArg some (UInt8.toNat_inj.mp hzero))
  have hlt : ∀ d ∈ s.reverse.map UInt8.toNat, d < 256 := by
    simp only [List.forall_mem_map]
    exact fun b _ => b.toNat_lt
  rw [Bytes.toNatBE, Bytes.toNatLE_eq_ofDigits,
    Nat.digits_ofDigits 256 (by decide) _ hlt hlast]

theorem bytesFrom_toNatBE {s : Bytes} (h : s.head? ≠ some 0) :
    bytesFrom [] (Bytes.toNatBE s) = s := by
  rw [bytesFrom_eq, List.append_nil, digits_toNatBE h, List.map_map]
  simp [Function.comp_def]

theorem lt_of_mem_zeros {z : Nat} {digits : List Nat} (h : ∀ d ∈ digits, d < 58) {v : Nat}
    (hv : v ∈ List.replicate z 0 ++ digits.reverse) : v < 58 := by
  obtain hv | hv := List.mem_append.mp hv
  · rw [List.eq_of_mem_replicate hv]
    decide
  · exact h v (List.mem_reverse.mp hv)

theorem mapM_digit? {values : List Nat} (h : ∀ v ∈ values, v < 58) :
    (values.map symbol).mapM digit? = some values := by
  induction values with
  | nil => rfl
  | cons v values ih =>
    obtain ⟨hv, hvalues⟩ := List.forall_mem_cons.mp h
    rw [List.map_cons, List.mapM_cons, digit?_symbol hv, ih hvalues]
    rfl

theorem foldl_value (z : Nat) (digits : List Nat) :
    (List.replicate z 0 ++ digits.reverse).foldl (fun n v => 58 * n + v) 0 =
      Nat.ofDigits 58 digits := by
  induction z with
  | zero =>
    rw [List.replicate_zero, List.nil_append, List.foldl_reverse, Nat.ofDigits_eq_foldr]
    simp only [Nat.cast_id, Nat.add_comm]
  | succ z ih =>
    rw [List.replicate_succ, List.cons_append, List.foldl_cons]
    exact ih

/-! ## Texts -/

/-- The text of bytes: a `1` for each zero in front and the digits of the number. -/
theorem encode_zeros {s : Bytes} (h : s.head? ≠ some 0) (z : Nat) :
    (encode (List.replicate z 0 ++ s)).toList =
      (List.replicate z 0 ++ (Nat.digits 58 (Bytes.toNatBE s)).reverse).map symbol := by
  have hone : symbol 0 = '1' := rfl
  rw [encode, length_takeWhile_zeros h, Bytes.toNatBE_zeros, digitsFrom_eq, List.append_nil,
    String.toList_ofList, List.map_append, List.map_replicate, hone, List.map_reverse]

theorem isSome_of_mem_encode {s : Bytes} {c : Char} (h : c ∈ (encode s).toList) :
    (digit? c).isSome := by
  obtain ⟨z, rest, rfl, hrest⟩ := exists_zeros 0 s
  rw [encode_zeros hrest] at h
  obtain ⟨v, hv, rfl⟩ := List.mem_map.mp h
  rw [digit?_symbol (lt_of_mem_zeros (fun d hd => Nat.digits_lt_base (by decide) hd) hv)]
  rfl

theorem decode_digits {text : String} {z : Nat} {digits : List Nat}
    (htext : text.toList = (List.replicate z 0 ++ digits.reverse).map symbol)
    (hlt : ∀ d ∈ digits, d < 58) (hlast : digits.getLast? ≠ some 0) :
    decode text = some (List.replicate z 0 ++ bytesFrom [] (Nat.ofDigits 58 digits)) := by
  have hhead : digits.reverse.head? ≠ some 0 := by rwa [List.head?_reverse]
  rw [decode, htext, mapM_digit? fun _ => lt_of_mem_zeros hlt]
  simp only [bind, Option.bind, pure]
  rw [length_takeWhile_zeros hhead z, foldl_value]

/-- **Reading gives back the bytes that were written.** -/
theorem decode_encode (s : Bytes) : decode (encode s) = some s := by
  obtain ⟨z, rest, rfl, hrest⟩ := exists_zeros 0 s
  have hlast : (Nat.digits 58 (Bytes.toNatBE rest)).getLast? ≠ some 0 := by
    intro h
    obtain ⟨hne, hzero⟩ := List.mem_getLast?_eq_getLast h
    exact Nat.getLast_digit_ne_zero 58 (Nat.digits_ne_nil_iff_ne_zero.mp hne) hzero.symm
  rw [decode_digits (encode_zeros hrest z) (fun d hd => Nat.digits_lt_base (by decide) hd) hlast,
    Nat.ofDigits_digits, bytesFrom_toNatBE hrest]

/-! ## Texts read back -/

theorem digit?_eq_some_iff {c : Char} {v : Nat} : digit? c = some v ↔ v < 58 ∧ c = symbol v := by
  constructor
  · intro h
    obtain ⟨hlt, hc, -⟩ := List.findIdx?_eq_some_iff_getElem.mp h
    refine ⟨hlt, ?_⟩
    rw [symbol, List.getD_eq_getElem?_getD, List.getElem?_eq_getElem hlt, Option.getD_some]
    exact (eq_of_beq hc).symm
  · rintro ⟨hv, rfl⟩
    exact digit?_symbol hv

theorem eq_map_of_mapM {chars : List Char} {values : List Nat}
    (h : chars.mapM digit? = some values) :
    chars = values.map symbol ∧ ∀ v ∈ values, v < 58 := by
  induction chars generalizing values with
  | nil =>
    obtain rfl := Option.some.inj h
    exact ⟨rfl, by simp⟩
  | cons c chars ih =>
    rw [List.mapM_cons] at h
    obtain ⟨v, hv, h⟩ := Option.bind_eq_some_iff.mp h
    obtain ⟨rest, hrest, h⟩ := Option.bind_eq_some_iff.mp h
    obtain rfl := Option.some.inj h
    obtain ⟨hlt, rfl⟩ := digit?_eq_some_iff.mp hv
    obtain ⟨rfl, hall⟩ := ih hrest
    exact ⟨rfl, List.forall_mem_cons.mpr ⟨hlt, hall⟩⟩

theorem head?_bytesFrom (n : Nat) : (bytesFrom [] n).head? ≠ some 0 := by
  rw [bytesFrom_eq, List.append_nil, List.head?_reverse, List.getLast?_map]
  intro h
  obtain ⟨d, hd, hzero⟩ := Option.map_eq_some_iff.mp h
  obtain ⟨hne, hlast⟩ := List.mem_getLast?_eq_getLast hd
  have hlt : d < 256 := hlast ▸ Nat.digits_lt_base (by decide) (List.getLast_mem hne)
  have hd0 : d = 0 := by
    have := congrArg UInt8.toNat hzero
    simpa [Nat.mod_eq_of_lt hlt] using this
  exact Nat.getLast_digit_ne_zero 256 (Nat.digits_ne_nil_iff_ne_zero.mp hne) (hlast ▸ hd0)

theorem toNatBE_bytesFrom (n : Nat) : Bytes.toNatBE (bytesFrom [] n) = n := by
  have hmap : ((Nat.digits 256 n).map UInt8.ofNat).map UInt8.toNat = Nat.digits 256 n := by
    rw [List.map_map]
    refine (List.map_congr_left fun d hd => ?_).trans (List.map_id _)
    have hlt : d < 256 := Nat.digits_lt_base (by decide) hd
    simpa using Nat.mod_eq_of_lt hlt
  rw [bytesFrom_eq, List.append_nil, Bytes.toNatBE, List.reverse_reverse,
    Bytes.toNatLE_eq_ofDigits, hmap, Nat.ofDigits_digits]

/-- **A text that can be read is the text of the bytes that are read.** -/
theorem encode_of_decode {text : String} {s : Bytes} (h : decode text = some s) :
    encode s = text := by
  obtain ⟨values, hvalues, -⟩ := Option.bind_eq_some_iff.mp h
  obtain ⟨htext, hlt⟩ := eq_map_of_mapM hvalues
  obtain ⟨z, rest, rfl, hrest⟩ := exists_zeros 0 values
  rw [← List.reverse_reverse rest] at htext
  have hall : ∀ d ∈ rest.reverse, d < 58 := fun d hd =>
    hlt d (List.mem_append_right _ (List.mem_reverse.mp hd))
  have hlast : rest.reverse.getLast? ≠ some 0 := by rwa [List.getLast?_reverse]
  rw [decode_digits htext hall hlast] at h
  obtain rfl := Option.some.inj h
  have hdigits : Nat.digits 58 (Nat.ofDigits 58 rest.reverse) = rest.reverse :=
    Nat.digits_ofDigits 58 (by decide) _ hall fun hne hzero =>
      hlast (List.getLast?_eq_some_getLast hne ▸ congrArg some hzero)
  apply String.toList_inj.mp
  rw [encode_zeros (head?_bytesFrom _), toNatBE_bytesFrom, hdigits, htext]

theorem decode_eq_some_iff {text : String} {s : Bytes} : decode text = some s ↔ text = encode s :=
  ⟨fun h => (encode_of_decode h).symm, fun h => h ▸ decode_encode s⟩

/-! ## Lengths -/

/-- The number of base-58 digits of bytes without zeros in front: at least one for each byte. -/
theorem length_digits_bounds {s : Bytes} (h : s.head? ≠ some 0) :
    s.length ≤ (Nat.digits 58 (Bytes.toNatBE s)).length ∧
      ∀ k, 256 ^ s.length ≤ 58 ^ k → (Nat.digits 58 (Bytes.toNatBE s)).length ≤ k := by
  have hlen : (Nat.digits 256 (Bytes.toNatBE s)).length = s.length := by
    rw [digits_toNatBE h, List.length_map, List.length_reverse]
  constructor
  · have hlt := Nat.lt_base_pow_length_digits (b := 58) (m := Bytes.toNatBE s) (by decide)
    rw [← hlen, Nat.digits_length_le_iff (by decide)]
    exact Nat.lt_of_lt_of_le hlt (Nat.pow_le_pow_left (by decide) _)
  · intro k hk
    rw [Nat.digits_length_le_iff (by decide)]
    have hlt := Nat.lt_base_pow_length_digits (b := 256) (m := Bytes.toNatBE s) (by decide)
    rw [hlen] at hlt
    exact Nat.lt_of_lt_of_le hlt hk

theorem exists_first_digit {n k : Nat} (hmin : 58 ^ k ≤ n) (hmax : n < 58 ^ (k + 1)) :
    ∃ low, Nat.digits 58 n = low ++ [n / 58 ^ k] ∧ low.length = k := by
  have hlen : (Nat.digits 58 n).length = k + 1 := by
    apply Nat.le_antisymm
    · exact (Nat.digits_length_le_iff (by decide) n).mpr hmax
    · exact (Nat.lt_digits_length_iff (by decide) n).mpr hmin
  have hfirst : n / 58 ^ k % 58 = n / 58 ^ k := by
    apply Nat.mod_eq_of_lt
    rw [Nat.div_lt_iff_lt_mul (by positivity), Nat.mul_comm, ← Nat.pow_succ]
    exact hmax
  refine ⟨(Nat.digits 58 n).take k, ?_, by simp [hlen]⟩
  rw [← hfirst, ← Nat.getD_digits n k (by decide), List.getD_eq_getElem?_getD,
    List.getElem?_eq_getElem (by omega), Option.getD_some, List.take_append_getElem, ← hlen,
    List.take_length]

section Front

variable {s : Bytes} (h : s.head? ≠ some 0) {k : Nat}
include h

theorem toList_encode :
    (encode s).toList = (Nat.digits 58 (Bytes.toNatBE s)).reverse.map symbol := by
  simpa only [List.replicate_zero, List.nil_append] using encode_zeros h 0

/-- The length of a text without a `1` in front says how large the number is. -/
theorem length_encode_eq_iff : (encode s).length = k + 1 ↔
    58 ^ k ≤ Bytes.toNatBE s ∧ Bytes.toNatBE s < 58 ^ (k + 1) := by
  rw [← Nat.lt_digits_length_iff (by decide), ← Nat.digits_length_le_iff (by decide),
    ← String.length_toList, toList_encode h, List.length_map, List.length_reverse]
  omega

theorem exists_first_symbol (hlen : (encode s).length = k + 1) : ∃ rest,
    (encode s).toList = symbol (Bytes.toNatBE s / 58 ^ k) :: rest ∧ rest.length = k := by
  obtain ⟨hmin, hmax⟩ := (length_encode_eq_iff h).mp hlen
  obtain ⟨low, hdigits, hlow⟩ := exists_first_digit hmin hmax
  refine ⟨low.reverse.map symbol, ?_, by simp [hlow]⟩
  rw [toList_encode h, hdigits, List.reverse_concat, List.map_cons]

end Front

/-! ## Checksums -/

theorem length_checksum (s : Bytes) : (checksum s).length = 4 := by
  simp [checksum]

/-- **Reading gives back the bytes that were written with their checksum.** -/
theorem decodeCheck_encodeCheck (s : Bytes) : decodeCheck (encodeCheck s) = some s := by
  have hlen : (s ++ checksum s).length - 4 = s.length := by
    rw [List.length_append, length_checksum, Nat.add_sub_cancel]
  rw [decodeCheck, encodeCheck, decode_encode]
  simp only [bind, Option.bind, pure]
  rw [hlen, List.take_left, List.drop_left, if_pos rfl]

theorem encodeCheck_injective : Function.Injective encodeCheck := by
  intro s t h
  rw [← Option.some_inj, ← decodeCheck_encodeCheck, h, decodeCheck_encodeCheck]

/-- **What is read with its checksum has one text.** -/
theorem decodeCheck_eq_some_iff {text : String} {s : Bytes} :
    decodeCheck text = some s ↔ text = encodeCheck s := by
  constructor
  · intro h
    obtain ⟨t, ht, h⟩ := Option.bind_eq_some_iff.mp h
    dsimp only at h
    split_ifs at h with hsum
    obtain rfl := Option.some.inj h
    rw [encodeCheck, ← hsum, List.take_append_drop]
    exact decode_eq_some_iff.mp ht
  · rintro rfl
    exact decodeCheck_encodeCheck s

end Base58

end OpReturn
