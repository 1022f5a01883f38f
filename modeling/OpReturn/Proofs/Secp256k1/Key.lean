import OpReturn.Proofs.Secp256k1.Field

/-!
# Public keys read back

A point of the curve is written in three forms: compressed, plain and hybrid. Each is read as the
point, and nothing else is read (`Affine.ofBytes?_eq_some_iff`), so the bytes of a key determine the
point and the form.
-/

namespace OpReturn.Secp256k1

/-! ## Coordinates -/

theorem Coord.length_bytes (a : Coord) : a.bytes.length = 32 := Bytes.length_ofNatBE 32 a.val

theorem coord?_eq_some_iff {s : Bytes} (hs : s.length = 32) {a : Coord} :
    coord? s = some a ↔ s = a.bytes := by
  have hroom : p < Bytes.room 32 := by decide
  have hval : Bytes.toNatBE a.bytes = a.val := Bytes.toNatBE_ofNatBE (a.isLt.trans hroom)
  unfold coord?
  constructor
  · intro h
    split_ifs at h with hlt
    rw [← Option.some.inj h, Coord.bytes, ← hs, Bytes.ofNatBE_toNatBE]
  · rintro rfl
    rw [dif_pos (hval ▸ a.isLt)]
    exact congrArg some (Fin.ext hval)

/-! ## Points -/

namespace Affine

/-- The forms in which a point is written, the first of them compressed. -/
inductive WrittenAs (a : Affine) : (compressed : Bool) → Bytes → Prop
  | compressed : WrittenAs a true (a.bytes true)
  | plain : WrittenAs a false (a.bytes false)
  | hybrid : WrittenAs a false ((if a.y.odd then 7 else 6) :: (a.x.bytes ++ a.y.bytes))

theorem WrittenAs.bytes (a : Affine) (compressed : Bool) :
    a.WrittenAs compressed (a.bytes compressed) := by
  cases compressed with
  | false => exact .plain
  | true => exact .compressed

variable {a : Affine} {s : Bytes}

theorem WrittenAs.length {compressed : Bool} (h : a.WrittenAs compressed s) :
    s.length = if compressed then 33 else 65 := by
  cases h <;> simp [Affine.bytes, Coord.length_bytes]

theorem ofBytes?_compressed_iff {form : UInt8} {rest : Bytes} (hform : form = 2 ∨ form = 3)
    (hlen : rest.length = 32) : ofBytes? (form :: rest) = some a ↔
      a.onCurve = true ∧ rest = a.x.bytes ∧ a.y.odd = decide (form = 3) := by
  have hif : (form :: rest).length = 33 ∧ (form = 2 ∨ form = 3) := ⟨by simp [hlen], hform⟩
  rw [ofBytes?, if_pos hif]
  simp only [bind, Option.bind_eq_some_iff, coord?_eq_some_iff hlen, ofX?_eq_some_iff]
  constructor
  · rintro ⟨x, hrest, hcurve, rfl, hodd⟩
    exact ⟨hcurve, hrest, hodd⟩
  · rintro ⟨hcurve, hrest, hodd⟩
    exact ⟨a.x, hrest, hcurve, rfl, hodd⟩

theorem ofBytes?_plain_iff {form : UInt8} {rest : Bytes} (hform : form = 4 ∨ form = 6 ∨ form = 7)
    (hlen : rest.length = 64) : ofBytes? (form :: rest) = some a ↔
      a.onCurve = true ∧ rest = a.x.bytes ++ a.y.bytes ∧
        (form = 4 ∨ a.y.odd = decide (form = 7)) := by
  have hlong : ¬((form :: rest).length = 33 ∧ (form = 2 ∨ form = 3)) := by simp [hlen]
  have hif : (form :: rest).length = 65 ∧ (form = 4 ∨ form = 6 ∨ form = 7) :=
    ⟨by simp [hlen], hform⟩
  have hfront : (rest.take 32).length = 32 := by simp [hlen]
  have hback : (rest.drop 32).length = 32 := by simp [hlen]
  have hparity (y : Coord) : ((y.odd = true) = (form = 7)) = (y.odd = decide (form = 7)) := by
    cases y.odd <;> simp
  rw [ofBytes?, if_neg hlong, if_pos hif]
  simp only [bind, Option.bind_eq_some_iff, coord?_eq_some_iff hfront, coord?_eq_some_iff hback,
    Option.ite_none_right_eq_some, Option.some_inj, hparity]
  constructor
  · rintro ⟨x, hx, y, hy, ⟨hcurve, hodd⟩, rfl⟩
    exact ⟨hcurve, by rw [← hx, ← hy, List.take_append_drop], hodd⟩
  · rintro ⟨hcurve, rfl, hodd⟩
    exact ⟨a.x, List.take_left' a.x.length_bytes, a.y, List.drop_left' a.x.length_bytes,
      ⟨hcurve, hodd⟩, rfl⟩

theorem form_of_ofBytes? {form : UInt8} {rest : Bytes} (h : ofBytes? (form :: rest) = some a) :
    ((form = 2 ∨ form = 3) ∧ rest.length = 32) ∨
      ((form = 4 ∨ form = 6 ∨ form = 7) ∧ rest.length = 64) := by
  rw [ofBytes?] at h
  by_cases hcompressed : (form :: rest).length = 33 ∧ (form = 2 ∨ form = 3)
  · exact Or.inl ⟨hcompressed.2, Nat.succ.inj hcompressed.1⟩
  rw [if_neg hcompressed] at h
  by_cases hplain : (form :: rest).length = 65 ∧ (form = 4 ∨ form = 6 ∨ form = 7)
  · exact Or.inr ⟨hplain.2, Nat.succ.inj hplain.1⟩
  · rw [if_neg hplain] at h
    cases h

/-- **A key is read as a point if it is one of the forms of the point.** -/
theorem ofBytes?_eq_some_iff : ofBytes? s = some a ↔
    a.onCurve = true ∧ ∃ compressed, a.WrittenAs compressed s := by
  constructor
  · intro h
    match s with
    | [] => exact nomatch h
    | form :: rest =>
      rcases form_of_ofBytes? h with ⟨hform, hlen⟩ | ⟨hform, hlen⟩
      · obtain ⟨hcurve, rfl, hodd⟩ := (ofBytes?_compressed_iff hform hlen).mp h
        have hbytes : form :: a.x.bytes = a.bytes true := by
          rw [bytes, if_pos rfl, hodd]
          rcases hform with rfl | rfl <;> rfl
        exact ⟨hcurve, true, hbytes ▸ .compressed⟩
      · obtain ⟨hcurve, rfl, hodd⟩ := (ofBytes?_plain_iff hform hlen).mp h
        refine ⟨hcurve, false, ?_⟩
        by_cases h4 : form = 4
        · subst h4
          exact .plain
        · have hhybrid : form = if a.y.odd then 7 else 6 := by
            rw [hodd.resolve_left h4]
            rcases hform.resolve_left h4 with rfl | rfl <;> rfl
          rw [hhybrid]
          exact .hybrid
  · rintro ⟨hcurve, compressed, h⟩
    cases h with
    | compressed =>
      rw [bytes, if_pos rfl, ofBytes?_compressed_iff (by split_ifs <;> decide) a.x.length_bytes]
      exact ⟨hcurve, rfl, by cases a.y.odd <;> decide⟩
    | plain =>
      rw [bytes, if_neg Bool.false_ne_true, ofBytes?_plain_iff (by decide)
        (by simp [Coord.length_bytes])]
      exact ⟨hcurve, rfl, Or.inl rfl⟩
    | hybrid =>
      rw [ofBytes?_plain_iff (by split_ifs <;> decide) (by simp [Coord.length_bytes])]
      exact ⟨hcurve, rfl, Or.inr (by cases a.y.odd <;> decide)⟩

theorem bytes_inj {b : Affine} (ha : a.onCurve = true) (hb : b.onCurve = true) {c d : Bool}
    (h : a.bytes c = b.bytes d) : a = b ∧ c = d := by
  have hread := ofBytes?_eq_some_iff.mpr ⟨ha, c, WrittenAs.bytes a c⟩
  rw [h, ofBytes?_eq_some_iff.mpr ⟨hb, d, WrittenAs.bytes b d⟩] at hread
  refine ⟨(Option.some.inj hread).symm, ?_⟩
  have hlen := congrArg List.length h
  rw [(WrittenAs.bytes a c).length, (WrittenAs.bytes b d).length] at hlen
  cases c <;> cases d <;> simp_all

end Affine

end OpReturn.Secp256k1
