import Mathlib.Tactic.IntervalCases
import OpReturn.Text.Utf8

/-!
# Text read back from UTF-8

Reading takes the bytes of one character as a whole: the machine goes through its lead and its
continuation bytes and is at a boundary again, with that character as the newest piece
(`foldl_step_char`). One lemma for each length of a lead gives the bounds it sets. So reading gives
back the text that the bytes were written from (`decode_encode`). The longer forms start with a
lead, so a byte below `0x80` at the front is the first character (`head?_of_encode`).

Whatever the bytes are, a character below `0x80` is read from its one byte and from nothing else
(`exists_of_decode_eq_cons`): the bounds that a lead sets, and every later byte narrows (`Bounded`),
leave room for longer characters only.
-/

namespace OpReturn.Utf8

theorem length_encode_le (text : String) : (encode text).length ≤ 4 * text.toList.length := by
  rw [encode]
  induction text.toList with
  | nil => exact Nat.le_refl _
  | cons c cs ih =>
    have hsize : (String.utf8EncodeChar c).length ≤ 4 := by
      rw [String.length_utf8EncodeChar]
      exact c.utf8Size_le_four
    rw [List.flatMap_cons, List.length_append, List.length_cons]
    omega

/-! ## Lead bytes -/

theorem lead?_two {n : Nat} (h : 0xC2 ≤ n) (h' : n ≤ 0xDF) :
    lead? (UInt8.ofNat n) = some ⟨1, 0x80, 0xBF, n - 0xC0⟩ := by
  interval_cases n <;> rfl

/-- After `0xE0` no shorter form may follow, and after `0xED` no surrogate. -/
theorem lead?_three {n : Nat} (h : 0xE0 ≤ n) (h' : n ≤ 0xEF) :
    lead? (UInt8.ofNat n) = some ⟨2, if n = 0xE0 then 0xA0 else 0x80,
      if n = 0xED then 0x9F else 0xBF, n - 0xE0⟩ := by
  interval_cases n <;> rfl

/-- After `0xF0` no shorter form may follow, and after `0xF4` nothing past the last code point. -/
theorem lead?_four {n : Nat} (h : 0xF0 ≤ n) (h' : n ≤ 0xF4) :
    lead? (UInt8.ofNat n) = some ⟨3, if n = 0xF0 then 0x90 else 0x80,
      if n = 0xF4 then 0x8F else 0xBF, n - 0xF0⟩ := by
  interval_cases n <;> rfl

/-- **The leads**, by how many bytes they ask for. -/
theorem lead?_cases {b : UInt8} {lead : Lead} (h : lead? b = some lead) : ∃ n, b = UInt8.ofNat n ∧
    ((0xC2 ≤ n ∧ n ≤ 0xDF) ∧ lead = ⟨1, 0x80, 0xBF, n - 0xC0⟩ ∨
      (0xE0 ≤ n ∧ n ≤ 0xEF) ∧ lead = ⟨2, if n = 0xE0 then 0xA0 else 0x80,
        if n = 0xED then 0x9F else 0xBF, n - 0xE0⟩ ∨
      (0xF0 ≤ n ∧ n ≤ 0xF4) ∧ lead = ⟨3, if n = 0xF0 then 0x90 else 0x80,
        if n = 0xF4 then 0x8F else 0xBF, n - 0xF0⟩) := by
  obtain ⟨n, hn, rfl⟩ : ∃ n < 256, b = UInt8.ofNat n := ⟨b.toNat, b.toNat_lt, by simp⟩
  have hnone : ∀ n < 256, n < 0xC2 ∨ 0xF4 < n → lead? (UInt8.ofNat n) = none := by decide +kernel
  refine ⟨n, rfl, ?_⟩
  by_cases htwo : 0xC2 ≤ n ∧ n ≤ 0xDF
  · exact Or.inl ⟨htwo, Option.some.inj (h.symm.trans (lead?_two htwo.1 htwo.2))⟩
  by_cases hthree : 0xE0 ≤ n ∧ n ≤ 0xEF
  · exact Or.inr (Or.inl ⟨hthree, Option.some.inj (h.symm.trans (lead?_three hthree.1 hthree.2))⟩)
  by_cases hfour : 0xF0 ≤ n ∧ n ≤ 0xF4
  · exact Or.inr (Or.inr ⟨hfour, Option.some.inj (h.symm.trans (lead?_four hfour.1 hfour.2))⟩)
  · cases (hnone n hn (by omega)).symm.trans h

theorem start_lead {n more bits : Nat} {low high : UInt8} (hn : 0x80 ≤ n) (hn' : n < 256)
    (h : lead? (UInt8.ofNat n) = some ⟨more + 1, low, high, bits⟩) (done : List Piece) :
    Reading.step ⟨.boundary, done⟩ (UInt8.ofNat n) =
      ⟨.inside [UInt8.ofNat n] more low high bits, done⟩ := by
  have hlarge : ¬ UInt8.ofNat n < 0x80 := by
    rw [UInt8.lt_iff_toNat_lt, UInt8.toNat_ofNat_of_lt' hn']
    exact Nat.not_lt.mpr hn
  show start (UInt8.ofNat n) done = _
  rw [start, if_neg hlarge, h]

/-! ## Continuation bytes -/

theorem toNat_tail {k : Nat} (hk : k < 64) : (UInt8.ofNat (k + 128)).toNat = k + 128 :=
  UInt8.toNat_ofNat_of_lt' (by show k + 128 < 256; omega)

theorem tail_bounds {k : Nat} {low high : UInt8} (hk : k < 64) (hlow : low.toNat ≤ k + 128)
    (hhigh : k + 128 ≤ high.toNat) :
    low ≤ UInt8.ofNat (k + 128) ∧ UInt8.ofNat (k + 128) ≤ high := by
  rw [UInt8.le_iff_toNat_le, UInt8.le_iff_toNat_le, toNat_tail hk]
  exact ⟨hlow, hhigh⟩

variable {k value : Nat} {low high : UInt8} {seen : Bytes} {done : List Piece}

theorem step_last (hk : k < 64) (hlow : low.toNat ≤ k + 128) (hhigh : k + 128 ≤ high.toNat) :
    Reading.step ⟨.inside seen 0 low high value, done⟩ (UInt8.ofNat (k + 128)) =
      ⟨.boundary, .char (Char.ofNat (64 * value + k)) :: done⟩ := by
  rw [Reading.step]
  dsimp only
  rw [if_pos (tail_bounds hk hlow hhigh), toNat_tail hk, Nat.add_sub_cancel]

theorem step_more {more : Nat} (hk : k < 64) (hlow : low.toNat ≤ k + 128)
    (hhigh : k + 128 ≤ high.toNat) :
    Reading.step ⟨.inside seen (more + 1) low high value, done⟩ (UInt8.ofNat (k + 128)) =
      ⟨.inside (UInt8.ofNat (k + 128) :: seen) more 0x80 0xBF (64 * value + k), done⟩ := by
  rw [Reading.step]
  dsimp only
  rw [if_pos (tail_bounds hk hlow hhigh), toNat_tail hk, Nat.add_sub_cancel]

theorem tail_range (hk : k < 64) :
    (0x80 : UInt8).toNat ≤ k + 128 ∧ k + 128 ≤ (0xBF : UInt8).toNat := by
  show 0x80 ≤ k + 128 ∧ k + 128 ≤ 0xBF
  omega

/-! ## Characters -/

theorem step_one {v : Nat} (h : v < 0x80) (done : List Piece) :
    Reading.step ⟨.boundary, done⟩ (UInt8.ofNat v) = ⟨.boundary, .char (Char.ofNat v) :: done⟩ := by
  have hv : (UInt8.ofNat v).toNat = v := UInt8.toNat_ofNat_of_lt' (by show v < 256; omega)
  have hsmall : UInt8.ofNat v < 0x80 := by
    rw [UInt8.lt_iff_toNat_lt, hv]
    exact h
  show start (UInt8.ofNat v) done = _
  rw [start, if_pos hsmall, hv]

theorem foldl_two {v : Nat} (h : 0x80 ≤ v) (h' : v < 0x800) (done : List Piece) :
    [UInt8.ofNat (v / 64 % 32 + 192), UInt8.ofNat (v % 64 + 128)].foldl Reading.step
        ⟨.boundary, done⟩ = ⟨.boundary, .char (Char.ofNat v) :: done⟩ := by
  have hlead : 0xC2 ≤ v / 64 % 32 + 192 ∧ v / 64 % 32 + 192 ≤ 0xDF := by omega
  have hlast : v % 64 < 64 := by omega
  have hvalue : 64 * (v / 64 % 32 + 192 - 0xC0) + v % 64 = v := by omega
  rw [List.foldl_cons, start_lead (by omega) (by omega) (lead?_two hlead.1 hlead.2),
    List.foldl_cons, step_last hlast (tail_range hlast).1 (tail_range hlast).2, hvalue]
  rfl

theorem foldl_three {v : Nat} (h : 0x800 ≤ v) (h' : v < 0x10000)
    (hvalid : v < 0xD800 ∨ 0xDFFF < v) (done : List Piece) :
    [UInt8.ofNat (v / 4096 % 16 + 224), UInt8.ofNat (v / 64 % 64 + 128),
        UInt8.ofNat (v % 64 + 128)].foldl Reading.step ⟨.boundary, done⟩ =
      ⟨.boundary, .char (Char.ofNat v) :: done⟩ := by
  have hlead : 0xE0 ≤ v / 4096 % 16 + 224 ∧ v / 4096 % 16 + 224 ≤ 0xEF := by omega
  have hmid : v / 64 % 64 < 64 := by omega
  have hlast : v % 64 < 64 := by omega
  have hvalue : 64 * (64 * (v / 4096 % 16 + 224 - 0xE0) + v / 64 % 64) + v % 64 = v := by omega
  rw [List.foldl_cons, start_lead (by omega) (by omega) (lead?_three hlead.1 hlead.2),
    List.foldl_cons, step_more hmid ?_ ?_,
    List.foldl_cons, step_last hlast (tail_range hlast).1 (tail_range hlast).2, hvalue]
  · rfl
  · split_ifs
    · show 0xA0 ≤ v / 64 % 64 + 128
      omega
    · exact (tail_range hmid).1
  · split_ifs
    · show v / 64 % 64 + 128 ≤ 0x9F
      omega
    · exact (tail_range hmid).2

theorem foldl_four {v : Nat} (h : 0x10000 ≤ v) (h' : v < 0x110000) (done : List Piece) :
    [UInt8.ofNat (v / 262144 % 8 + 240), UInt8.ofNat (v / 4096 % 64 + 128),
        UInt8.ofNat (v / 64 % 64 + 128), UInt8.ofNat (v % 64 + 128)].foldl Reading.step
        ⟨.boundary, done⟩ = ⟨.boundary, .char (Char.ofNat v) :: done⟩ := by
  have hlead : 0xF0 ≤ v / 262144 % 8 + 240 ∧ v / 262144 % 8 + 240 ≤ 0xF4 := by omega
  have hsecond : v / 4096 % 64 < 64 := by omega
  have hthird : v / 64 % 64 < 64 := by omega
  have hlast : v % 64 < 64 := by omega
  have hvalue : 64 * (64 * (64 * (v / 262144 % 8 + 240 - 0xF0) + v / 4096 % 64) + v / 64 % 64)
      + v % 64 = v := by
    omega
  rw [List.foldl_cons, start_lead (by omega) (by omega) (lead?_four hlead.1 hlead.2),
    List.foldl_cons, step_more hsecond ?_ ?_,
    List.foldl_cons, step_more hthird (tail_range hthird).1 (tail_range hthird).2,
    List.foldl_cons, step_last hlast (tail_range hlast).1 (tail_range hlast).2, hvalue]
  · rfl
  · split_ifs
    · show 0x90 ≤ v / 4096 % 64 + 128
      omega
    · exact (tail_range hsecond).1
  · split_ifs
    · show v / 4096 % 64 + 128 ≤ 0x8F
      omega
    · exact (tail_range hsecond).2

/-- **The bytes of a character read as the character.** -/
theorem foldl_step_char (c : Char) (done : List Piece) :
    (String.utf8EncodeChar c).foldl Reading.step ⟨.boundary, done⟩ =
      ⟨.boundary, .char c :: done⟩ := by
  have hvalid : c.val.toNat < 0xD800 ∨ 0xDFFF < c.val.toNat ∧ c.val.toNat < 0x110000 := c.valid
  have hc : Char.ofNat c.val.toNat = c := Char.ofNat_toNat c
  unfold String.utf8EncodeChar
  dsimp only
  generalize c.val.toNat = v at hvalid hc ⊢
  obtain rfl := hc
  split_ifs with h1 h2 h3
  · exact step_one (by omega) done
  · exact foldl_two (by omega) (by omega) done
  · exact foldl_three (by omega) (by omega) (by omega) done
  · exact foldl_four (by omega) (by omega) done

theorem foldl_step_text (cs : List Char) (done : List Piece) :
    (cs.flatMap String.utf8EncodeChar).foldl Reading.step ⟨.boundary, done⟩ =
      ⟨.boundary, (cs.map Piece.char).reverse ++ done⟩ := by
  induction cs generalizing done with
  | nil => rfl
  | cons c cs ih =>
    rw [List.flatMap_cons, List.foldl_append, foldl_step_char, ih, List.map_cons,
      List.reverse_cons, List.append_assoc, List.singleton_append]

theorem pieces_encode (text : String) : pieces (encode text) = text.toList.map Piece.char := by
  rw [pieces, encode, foldl_step_text, List.append_nil]
  exact List.reverse_reverse _

/-- **Reading gives back the text that was written.** -/
theorem decode_encode (text : String) : decode (encode text) = text := by
  have hshown : (fun c => (Piece.char c).shown) = id := rfl
  rw [decode, pieces_encode, List.map_map]
  show String.ofList (text.toList.map fun c => (Piece.char c).shown) = text
  rw [hshown, List.map_id, String.ofList_toList]

theorem encode_inj {a b : String} (h : encode a = encode b) : a = b := by
  rw [← decode_encode a, h, decode_encode]

theorem head?_of_encode {text : String} {b : UInt8} {s : Bytes} (h : encode text = b :: s)
    (hb : b < 0x80) : text.toList.head? = some (Char.ofNat b.toNat) := by
  rw [encode] at h
  cases hchars : text.toList with
  | nil => simp [hchars] at h
  | cons c cs =>
    have hvalid : c.val.toNat < 0xD800 ∨ 0xDFFF < c.val.toNat ∧ c.val.toNat < 0x110000 := c.valid
    have hc : Char.ofNat c.val.toNat = c := Char.ofNat_toNat c
    have hlead : ∀ n, n < 256 → b = UInt8.ofNat n → n < 0x80 := by
      rintro n hn rfl
      rwa [UInt8.lt_iff_toNat_lt, UInt8.toNat_ofNat_of_lt' hn] at hb
    rw [hchars, List.flatMap_cons] at h
    unfold String.utf8EncodeChar at h
    dsimp only at h
    generalize c.val.toNat = v at h hvalid hc
    split_ifs at h with h1 h2 h3
    · obtain rfl : UInt8.ofNat v = b := List.head_eq_of_cons_eq h
      rw [UInt8.toNat_ofNat_of_lt' (by show v < 256; omega), hc]
      rfl
    · exact absurd (hlead _ (by omega) (List.head_eq_of_cons_eq h).symm) (by omega)
    · exact absurd (hlead _ (by omega) (List.head_eq_of_cons_eq h).symm) (by omega)
    · exact absurd (hlead _ (by omega) (List.head_eq_of_cons_eq h).symm) (by omega)

/-! ## What a sequence can come to -/

/-- How many numbers the continuation bytes to come can make. -/
def span : (more : Nat) → Nat
  | 0 => 1
  | more + 1 => 64 * span more

/-- The numbers that a sequence can still come to, from that with the lowest bytes to that with the
highest, are characters, and none of them is a single byte. -/
structure Bounded (more : Nat) (low high : UInt8) (value : Nat) : Prop where
  low_ge : 0x80 ≤ low.toNat
  long : 0x80 ≤ (64 * value + (low.toNat - 0x80)) * span more
  valid : (64 * value + (high.toNat - 0x80) + 1) * span more ≤ 0xD800 ∨
    0xE000 ≤ (64 * value + (low.toNat - 0x80)) * span more ∧
      (64 * value + (high.toNat - 0x80) + 1) * span more ≤ 0x110000

/-- A lead rules out single bytes, surrogates and numbers past the last code point. -/
theorem bounded_of_lead {b low high : UInt8} {more bits : Nat}
    (h : lead? b = some ⟨more + 1, low, high, bits⟩) : Bounded more low high bits := by
  obtain ⟨n, -, ⟨⟨hmin, hmax⟩, hlead⟩ | ⟨⟨hmin, hmax⟩, hlead⟩ | ⟨⟨hmin, hmax⟩, hlead⟩⟩ :=
    lead?_cases h
  · cases hlead
    exact ⟨by decide, by simp [span]; omega, by simp [span]; omega⟩
  · cases hlead
    by_cases hfirst : n = 0xE0
    · subst hfirst
      exact ⟨by decide, by decide, by decide⟩
    · by_cases hsurrogate : n = 0xED
      · subst hsurrogate
        exact ⟨by decide, by decide, by decide⟩
      · simp only [hfirst, hsurrogate, if_false]
        exact ⟨by decide, by simp [span]; omega, by simp [span]; omega⟩
  · cases hlead
    by_cases hfirst : n = 0xF0
    · subst hfirst
      exact ⟨by decide, by decide, by decide⟩
    · by_cases hlast : n = 0xF4
      · subst hlast
        exact ⟨by decide, by decide, by decide⟩
      · simp only [hfirst, hlast, if_false]
        exact ⟨by decide, by simp [span]; omega, by simp [span]; omega⟩

theorem toNat_ofNat {n : Nat} (h : n.isValidChar) : (Char.ofNat n).toNat = n := by
  rw [Char.ofNat, dif_pos h]
  rfl

section Inside

variable {more value : Nat} {low high b : UInt8}

theorem Bounded.next (h : Bounded (more + 1) low high value) (hlow : low ≤ b) (hhigh : b ≤ high) :
    Bounded more 0x80 0xBF (64 * value + (b.toNat - 0x80)) := by
  obtain ⟨hmin, hlong, hvalid⟩ := h
  rw [UInt8.le_iff_toNat_le] at hlow hhigh
  have hleast : (64 * value + (low.toNat - 0x80)) * span (more + 1) ≤
      (64 * (64 * value + (b.toNat - 0x80)) + 0) * span more := by
    rw [span, ← Nat.mul_assoc, Nat.mul_comm _ 64]
    exact Nat.mul_le_mul_right _ (by omega)
  have hmost : (64 * (64 * value + (b.toNat - 0x80)) + 63 + 1) * span more ≤
      (64 * value + (high.toNat - 0x80) + 1) * span (more + 1) := by
    rw [span, ← Nat.mul_assoc, Nat.mul_comm _ 64]
    exact Nat.mul_le_mul_right _ (by omega)
  have hzero : (0x80 : UInt8).toNat - 0x80 = 0 := by decide
  have htop : (0xBF : UInt8).toNat - 0x80 = 63 := by decide
  refine ⟨by decide, ?_, ?_⟩
  · rw [hzero]
    omega
  · rw [hzero, htop]
    omega

theorem Bounded.le_toNat (h : Bounded 0 low high value) (hlow : low ≤ b) (hhigh : b ≤ high) :
    0x80 ≤ (Char.ofNat (64 * value + (b.toNat - 0x80))).toNat := by
  obtain ⟨hmin, hlong, hvalid⟩ := h
  rw [UInt8.le_iff_toNat_le] at hlow hhigh
  rw [span, Nat.mul_one] at hlong hvalid
  rw [Nat.mul_one] at hvalid
  have hchar : (64 * value + (b.toNat - 0x80)).isValidChar := by
    rcases hvalid with hvalid | ⟨hvalid, hmax⟩
    · exact Or.inl (by omega)
    · exact Or.inr ⟨by omega, by omega⟩
  rw [toNat_ofNat hchar]
  omega

end Inside

/-! ## Pieces that are done -/

theorem start_done (b : UInt8) (done : List Piece) :
    start b done = ⟨(start b []).state, (start b []).pieces ++ done⟩ := by
  unfold start
  split_ifs
  · rfl
  · split <;> rfl

theorem step_done (state : State) (done : List Piece) (b : UInt8) :
    Reading.step ⟨state, done⟩ b =
      ⟨(Reading.step ⟨state, []⟩ b).state, (Reading.step ⟨state, []⟩ b).pieces ++ done⟩ := by
  cases state with
  | boundary => exact start_done b done
  | inside seen more low high value =>
    unfold Reading.step
    dsimp only
    split_ifs
    · cases more <;> rfl
    · rw [start_done, start_done b [_]]
      simp

theorem finish_done (state : State) (done : List Piece) (s : Bytes) :
    (s.foldl Reading.step ⟨state, done⟩).finish =
      done.reverse ++ (s.foldl Reading.step ⟨state, []⟩).finish := by
  induction s generalizing state done with
  | nil => cases state <;> simp [Reading.finish]
  | cons b s ih =>
    rw [List.foldl_cons, List.foldl_cons, step_done, ih, ih _ (Reading.step ⟨state, []⟩ b).pieces]
    simp

/-! ## Characters of one byte -/

/-- Inside a sequence no character of one byte comes next. -/
theorem exists_finish_inside {more value : Nat} {low high : UInt8}
    (h : Bounded more low high value) (seen s : Bytes) :
    ∃ piece rest, (s.foldl Reading.step ⟨.inside seen more low high value, []⟩).finish =
      piece :: rest ∧ 0x80 ≤ piece.shown.toNat := by
  induction s generalizing seen more low high value with
  | nil => exact ⟨_, [], rfl, (by decide : 0x80 ≤ '\uFFFD'.toNat)⟩
  | cons b s ih =>
    rw [List.foldl_cons]
    by_cases hin : low ≤ b ∧ b ≤ high
    · cases more with
      | zero =>
        have hstep : Reading.step ⟨.inside seen 0 low high value, []⟩ b =
            ⟨.boundary, [.char (Char.ofNat (64 * value + (b.toNat - 0x80)))]⟩ := by
          simp [Reading.step, hin]
        rw [hstep, finish_done]
        exact ⟨_, _, rfl, h.le_toNat hin.1 hin.2⟩
      | succ more =>
        have hstep : Reading.step ⟨.inside seen (more + 1) low high value, []⟩ b =
            ⟨.inside (b :: seen) more 0x80 0xBF (64 * value + (b.toNat - 0x80)), []⟩ := by
          simp [Reading.step, hin]
        rw [hstep]
        exact ih (h.next hin.1 hin.2) _
    · have hstep : Reading.step ⟨.inside seen more low high value, []⟩ b =
          Reading.step ⟨.boundary, [.broken .badContinuation seen.reverse]⟩ b := by
        simp [Reading.step, hin]
      rw [hstep, ← List.foldl_cons, finish_done]
      exact ⟨_, _, rfl, (by decide : 0x80 ≤ '\uFFFD'.toNat)⟩

theorem pieces_cons_of_lt {b : UInt8} (hb : b < 0x80) (t : Bytes) :
    pieces (b :: t) = .char (Char.ofNat b.toNat) :: pieces t := by
  show (t.foldl Reading.step (start b [])).finish = _
  rw [start, if_pos hb, finish_done]
  rfl

/-- Any other byte at the front is part of something longer, or of nothing. -/
theorem exists_pieces_cons {b : UInt8} (hb : ¬ b < 0x80) (t : Bytes) :
    ∃ piece rest, pieces (b :: t) = piece :: rest ∧ 0x80 ≤ piece.shown.toNat := by
  have hpieces : pieces (b :: t) = (t.foldl Reading.step (start b [])).finish := rfl
  rw [start, if_neg hb] at hpieces
  split at hpieces
  · rename_i more low high bits hlead
    obtain ⟨piece, rest, hfinish, hlong⟩ := exists_finish_inside (bounded_of_lead hlead) [b] t
    exact ⟨piece, rest, hpieces.trans hfinish, hlong⟩
  · rw [finish_done] at hpieces
    exact ⟨_, _, hpieces, (by decide : 0x80 ≤ '\uFFFD'.toNat)⟩

theorem toList_decode_of_lt {s : Bytes} (h : ∀ b ∈ s, b < 0x80) :
    (decode s).toList = s.map fun b => Char.ofNat b.toNat := by
  rw [decode, String.toList_ofList]
  induction s with
  | nil => rfl
  | cons b t ih =>
    obtain ⟨hb, h⟩ := List.forall_mem_cons.mp h
    rw [pieces_cons_of_lt hb, List.map_cons, List.map_cons, ih h]
    rfl

theorem decode_eq_empty_iff {s : Bytes} : decode s = "" ↔ s = [] := by
  constructor
  · intro h
    have hshown : (pieces s).map Piece.shown = [] := String.ofList_injective h
    cases s with
    | nil => rfl
    | cons b t =>
      rw [List.map_eq_nil_iff] at hshown
      by_cases hb : b < 0x80
      · cases hshown.symm.trans (pieces_cons_of_lt hb t)
      · obtain ⟨piece, rest, hpieces, -⟩ := exists_pieces_cons hb t
        cases hshown.symm.trans hpieces
  · rintro rfl
    rfl

/-- **A character of one byte is read from that byte only.** -/
theorem exists_of_decode_eq_cons {s : Bytes} {c : Char} {cs : List Char} (hc : c.toNat < 0x80)
    (h : decode s = String.ofList (c :: cs)) :
    ∃ t, s = UInt8.ofNat c.toNat :: t ∧ decode t = String.ofList cs := by
  have hshown : (pieces s).map Piece.shown = c :: cs := String.ofList_injective h
  cases s with
  | nil => cases hshown
  | cons b t =>
    by_cases hb : b < 0x80
    · rw [pieces_cons_of_lt hb, List.map_cons] at hshown
      obtain ⟨rfl, hrest⟩ := List.cons.inj hshown
      have hn : b.toNat < 0x80 := hb
      refine ⟨t, ?_, by rw [decode, hrest]⟩
      show b :: t = UInt8.ofNat (Char.ofNat b.toNat).toNat :: t
      rw [toNat_ofNat (Or.inl (by omega)), UInt8.ofNat_toNat]
    · obtain ⟨piece, rest, hpieces, hlong⟩ := exists_pieces_cons hb t
      rw [hpieces, List.map_cons] at hshown
      rw [← (List.cons.inj hshown).1] at hc
      exact absurd hc (Nat.not_lt.mpr hlong)

end OpReturn.Utf8
