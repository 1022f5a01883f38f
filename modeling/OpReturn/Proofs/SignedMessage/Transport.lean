import OpReturn.Proofs.SignedMessage.Signed
import OpReturn.Proofs.Text.Respelled

/-!
# How a signature travels

A signature travels as its 65 bytes or as their base64 text, and its length tells which of the two
it is: the text has 88 bytes, and 65 bytes are taken for themselves even if they happen to be
base64 digits.

**Theorem (`transports_agree`).** Both are read as the same 65 bytes, so they recover the same keys
and verify for the same addresses. Nothing is ever read as another number of bytes, and only 65
bytes are read as themselves.

**Theorem (`normalize?_set_iff`).** When one byte of the text is changed, the same bytes are read
from it in one case only: the byte is the digit before the padding, and its leading bits stay. In
any other case the text is no longer read, or as bytes that differ in the half of the text in which
the change was made (`halves_of_normalize?_set`).
-/

namespace OpReturn

namespace SignedMessage

/-- **The raw and the base64 form of a signature are interchangeable.** -/
theorem transports_agree (signature : Bytes) :
    (signature.length = 65 →
      normalize? signature = some signature ∧
      normalize? (Base64.encode signature) = some signature ∧
      ∀ message, recover? (Base64.encode signature) message = recover? signature message ∧
        ∀ address, verify address (Base64.encode signature) message =
          verify address signature message) ∧
    (∀ raw, normalize? signature = some raw → raw.length = 65) ∧
    (normalize? signature = some signature ↔ signature.length = 65) := by
  have hself : normalize? signature = some signature ↔ signature.length = 65 := by
    rw [normalize?_eq_some_iff]
    exact ⟨And.left, fun h => ⟨h, Or.inl rfl⟩⟩
  refine ⟨fun h => ⟨hself.mpr h, normalize?_encode h, fun message => ⟨?_, fun address => ?_⟩⟩,
    fun raw h => (normalize?_eq_some_iff.mp h).1, hself⟩
  · exact recover?_encode h message
  · exact verify_encode h address message

/-- Sixty-five bytes that are digits themselves. -/
theorem transports_agree_digits : ∃ signature : Bytes, signature.length = 65 ∧
    (∀ b ∈ signature, (Base64.digit? b).isSome = true) ∧
    normalize? signature = some signature ∧
    normalize? (Base64.encode signature) = some signature := by
  obtain ⟨hboth, -, -⟩ := transports_agree (List.replicate 65 0x41)
  obtain ⟨hraw, htext, -⟩ := hboth (List.length_replicate)
  refine ⟨_, List.length_replicate, fun b hb => ?_, hraw, htext⟩
  rw [List.eq_of_mem_replicate hb]
  rfl

/-! ## Changed texts -/

section Changed

variable {raw raw' : Bytes} {i : Nat} {b old : UInt8}

/-- The two halves of the bytes of a signature: the first 44 digits of its text are those of the
header and the first number, the others those of the second number. -/
theorem exists_halves (h : raw.length = 65) : ∃ front middle x y,
    raw = front ++ (middle ++ [x, y]) ∧ front.length = 33 ∧ middle.length = 30 := by
  have hlast : ((raw.drop 33).drop 30).length = 2 := by
    simp [h]
  obtain ⟨x, y, hlast⟩ := List.length_eq_two.mp hlast
  refine ⟨raw.take 33, (raw.drop 33).take 30, x, y, ?_, by simp [h], by simp [h]⟩
  rw [← hlast, List.take_append_drop, List.take_append_drop]

theorem normalize?_text_iff {text front middle : Bytes} {x y : UInt8} (htext : text.length = 88)
    (hfront : front.length = 33) (hmiddle : middle.length = 30) :
    normalize? text = some (front ++ (middle ++ [x, y])) ↔ ∃ c,
      Base64.leadingBits? c = some (y.toNat % 16) ∧
        text = (Base64.encode front ++ Base64.encode (middle ++ [x, y])).set 86 c := by
  have hne : text ≠ front ++ (middle ++ [x, y]) := by
    rintro rfl
    simp [hfront, hmiddle] at htext
  rw [normalize?_eq_some_iff]
  simp only [hne, htext, false_or]
  rw [← List.append_assoc, Base64.decode_eq_ok_iff (k := 21) htext (by simp [hfront, hmiddle])]
  rw [← Base64.encode_append (by simp [hfront])]
  simp [hfront, hmiddle]

theorem length_text (h : raw.length = 65) : (Base64.encode raw).length = 88 := by
  rw [Base64.length_encode, h]

/-- **A changed byte goes unnoticed only as the last digit with the same leading bits.** -/
theorem normalize?_set_iff (hraw : raw.length = 65) (hold : (Base64.encode raw)[i]? = some old)
    (hb : b ≠ old) : normalize? ((Base64.encode raw).set i b) = some raw ↔
      i = 86 ∧ Base64.leadingBits? b = Base64.leadingBits? old := by
  obtain ⟨front, middle, x, y, rfl, hfront, hmiddle⟩ := exists_halves hraw
  have hencode : Base64.encode (front ++ (middle ++ [x, y])) =
      Base64.encode front ++ Base64.encode (middle ++ [x, y]) :=
    Base64.encode_append (by simp [hfront]) _
  have htext := length_text hraw
  have hi : i < 88 := htext ▸ (List.getElem?_eq_some_iff.mp hold).1
  rw [normalize?_text_iff (by rw [List.length_set, htext]) hfront hmiddle, ← hencode]
  -- The last digit of the text.
  have hlast : (Base64.encode (front ++ (middle ++ [x, y])))[86]? =
      some (Base64.digit (y.toNat % 16 * 4)) := by
    rw [← List.append_assoc]
    exact Base64.getElem?_encode_last (k := 21) (by simp [hfront, hmiddle]) x y
  have hlead : Base64.leadingBits? (Base64.digit (y.toNat % 16 * 4)) = some (y.toNat % 16) := by
    rw [Base64.leadingBits?_digit (by omega), Nat.mul_div_cancel _ (by decide)]
  constructor
  · rintro ⟨c, hc, hset⟩
    have hget := congrArg (·[i]?) hset
    rw [List.getElem?_set_self (htext.symm ▸ hi)] at hget
    by_cases h86 : i = 86
    · subst h86
      rw [List.getElem?_set_self (htext.symm ▸ hi)] at hget
      obtain rfl := Option.some.inj hget
      obtain rfl := Option.some.inj (hold.symm.trans hlast)
      exact ⟨rfl, hc.trans hlead.symm⟩
    · rw [List.getElem?_set_ne (Ne.symm h86), hold] at hget
      exact absurd (Option.some.inj hget) hb
  · rintro ⟨rfl, hbits⟩
    obtain rfl := Option.some.inj (hold.symm.trans hlast)
    exact ⟨b, hbits.trans hlead, rfl⟩

/-- What is read from a changed text, if it can be read, is as it was in the other half. -/
theorem halves_of_normalize?_set (hraw : raw.length = 65)
    (h : normalize? ((Base64.encode raw).set i b) = some raw') :
    (i < 44 → raw'.drop 33 = raw.drop 33) ∧ (44 ≤ i → raw'.take 33 = raw.take 33) := by
  have hraw' := (normalize?_eq_some_iff.mp h).1
  obtain ⟨front, middle, x, y, rfl, hfront, hmiddle⟩ := exists_halves hraw
  obtain ⟨front', middle', x', y', rfl, hfront', hmiddle'⟩ := exists_halves hraw'
  have hlen : (Base64.encode front).length = 44 := by rw [Base64.length_encode, hfront]
  have hlen' : (Base64.encode front').length = 44 := by rw [Base64.length_encode, hfront']
  obtain ⟨c, hc, hset⟩ := (normalize?_text_iff (by rw [List.length_set, length_text hraw])
    hfront' hmiddle').mp h
  rw [Base64.encode_append (by simp [hfront]), List.set_append_right 86 c (by omega), hlen'] at hset
  rw [List.drop_left' hfront, List.drop_left' hfront', List.take_left' hfront,
    List.take_left' hfront']
  constructor
  · intro hi
    rw [List.set_append_left _ _ (by omega)] at hset
    obtain ⟨-, hback⟩ := List.append_inj hset (by rw [List.length_set, hlen, hlen'])
    have hread := (Base64.decode_eq_ok_iff (k := 10) (by rw [Base64.length_encode]; simp [hmiddle])
      hmiddle' x' y').mpr ⟨c, hc, hback⟩
    exact Except.ok.inj (hread.symm.trans (Base64.decode_encode _))
  · intro hi
    rw [List.set_append_right _ _ (by omega)] at hset
    obtain ⟨hsame, -⟩ := List.append_inj hset (by rw [hlen, hlen'])
    exact (Base64.encode_injective hsame).symm

end Changed

end SignedMessage

end OpReturn
