import OpReturn.Proofs.Success
import OpReturn.Proofs.Text.Utf8

/-!
# Strict reading of UTF-8

**Theorem (`decodeStrict_eq_ok_iff`).** Strict reading accepts the bytes of a text and no others,
and it gives that text.

Reading loses no byte: the bytes of the pieces, one after the other, are the bytes that were read
(`flatMap_pieces`). So bytes that come apart into characters are the bytes of these characters. The
invariant of the machine says that a sequence under way, however it is completed, is the encoding of
the character that it comes to (`Completes`); a lead sets its bounds for this to hold.
-/

namespace OpReturn.Utf8

/-- The bytes that a piece was read from. -/
def Piece.bytes : Piece → Bytes
  | .char c => String.utf8EncodeChar c
  | .broken _ bytes => bytes

/-! ## Encodings by their length -/

section Encodings

variable {v : Nat}

theorem val_ofNat (h : v.isValidChar) : (Char.ofNat v).val.toNat = v :=
  toNat_ofNat h

theorem utf8EncodeChar_one (h : v < 0x80) :
    String.utf8EncodeChar (Char.ofNat v) = [UInt8.ofNat v] := by
  unfold String.utf8EncodeChar
  dsimp only
  rw [val_ofNat (Or.inl (by omega)), if_pos (by omega)]

theorem utf8EncodeChar_two (h : 0x80 ≤ v) (h' : v < 0x800) :
    String.utf8EncodeChar (Char.ofNat v) =
      [UInt8.ofNat (v / 64 % 32 + 192), UInt8.ofNat (v % 64 + 128)] := by
  unfold String.utf8EncodeChar
  dsimp only
  rw [val_ofNat (Or.inl (by omega)), if_neg (by omega), if_pos (by omega)]

theorem utf8EncodeChar_three (h : 0x800 ≤ v) (h' : v < 0x10000)
    (hvalid : v < 0xD800 ∨ 0xDFFF < v) :
    String.utf8EncodeChar (Char.ofNat v) =
      [UInt8.ofNat (v / 4096 % 16 + 224), UInt8.ofNat (v / 64 % 64 + 128),
        UInt8.ofNat (v % 64 + 128)] := by
  have hchar : v.isValidChar := hvalid.imp id fun h => ⟨h, by omega⟩
  unfold String.utf8EncodeChar
  dsimp only
  rw [val_ofNat hchar, if_neg (by omega), if_neg (by omega), if_pos (by omega)]

theorem utf8EncodeChar_four (h : 0x10000 ≤ v) (h' : v < 0x110000) :
    String.utf8EncodeChar (Char.ofNat v) =
      [UInt8.ofNat (v / 262144 % 8 + 240), UInt8.ofNat (v / 4096 % 64 + 128),
        UInt8.ofNat (v / 64 % 64 + 128), UInt8.ofNat (v % 64 + 128)] := by
  unfold String.utf8EncodeChar
  dsimp only
  rw [val_ofNat (Or.inr ⟨by omega, h'⟩), if_neg (by omega), if_neg (by omega), if_neg (by omega)]

end Encodings

/-! ## Sequences under way -/

/-- However the sequence is completed within its bounds, it is the encoding of the character that it
comes to. -/
def Completes (seen : Bytes) (more : Nat) (low high : UInt8) (value : Nat) : Prop :=
  ∀ b, low ≤ b → b ≤ high →
    match more with
    | 0 => String.utf8EncodeChar (Char.ofNat (64 * value + (b.toNat - 0x80))) = seen.reverse ++ [b]
    | more + 1 => Completes (b :: seen) more 0x80 0xBF (64 * value + (b.toNat - 0x80))

section Completes

variable {seen : Bytes} {more value n : Nat} {low high : UInt8}

theorem exists_tail {b : UInt8} (hmin : 0x80 ≤ low.toNat) (hmax : high.toNat ≤ 0xBF)
    (hlow : low ≤ b) (hhigh : b ≤ high) : ∃ k < 64, b = UInt8.ofNat (k + 128) ∧
      b.toNat - 0x80 = k ∧ low.toNat ≤ k + 128 ∧ k + 128 ≤ high.toNat := by
  rw [UInt8.le_iff_toNat_le] at hlow hhigh
  refine ⟨b.toNat - 0x80, by omega, ?_, rfl, by omega, by omega⟩
  rw [Nat.sub_add_cancel (by omega), UInt8.ofNat_toNat]

theorem completes_last (hmin : 0x80 ≤ low.toNat) (hmax : high.toNat ≤ 0xBF)
    (h : ∀ k < 64, low.toNat ≤ k + 128 → k + 128 ≤ high.toNat →
      String.utf8EncodeChar (Char.ofNat (64 * value + k)) =
        seen.reverse ++ [UInt8.ofNat (k + 128)]) : Completes seen 0 low high value := by
  intro b hlow hhigh
  obtain ⟨k, hk, rfl, hbits, hlow, hhigh⟩ := exists_tail hmin hmax hlow hhigh
  dsimp only
  rw [hbits]
  exact h k hk hlow hhigh

theorem completes_more (hmin : 0x80 ≤ low.toNat) (hmax : high.toNat ≤ 0xBF)
    (h : ∀ k < 64, low.toNat ≤ k + 128 → k + 128 ≤ high.toNat →
      Completes (UInt8.ofNat (k + 128) :: seen) more 0x80 0xBF (64 * value + k)) :
    Completes seen (more + 1) low high value := by
  intro b hlow hhigh
  obtain ⟨k, hk, rfl, hbits, hlow, hhigh⟩ := exists_tail hmin hmax hlow hhigh
  dsimp only
  rw [hbits]
  exact h k hk hlow hhigh

theorem completes_two (h : 0xC2 ≤ n) (h' : n ≤ 0xDF) :
    Completes [UInt8.ofNat n] 0 0x80 0xBF (n - 0xC0) := by
  refine completes_last (by decide) (by decide) fun k hk _ _ => ?_
  have hfirst : (64 * (n - 0xC0) + k) / 64 % 32 + 192 = n := by omega
  have hlast : (64 * (n - 0xC0) + k) % 64 = k := by omega
  rw [utf8EncodeChar_two (by omega) (by omega), hfirst, hlast]
  rfl

theorem completes_three (h : 0xE0 ≤ n) (h' : n ≤ 0xEF) :
    Completes [UInt8.ofNat n] 1 (if n = 0xE0 then 0xA0 else 0x80)
      (if n = 0xED then 0x9F else 0xBF) (n - 0xE0) := by
  refine completes_more (by split_ifs <;> decide) (by split_ifs <;> decide)
    fun k hk hlow hhigh => ?_
  have hlong : n = 0xE0 → 0xA0 ≤ k + 128 := by
    rintro rfl
    exact hlow
  have hsurrogate : n = 0xED → k + 128 ≤ 0x9F := by
    rintro rfl
    exact hhigh
  refine completes_last (by decide) (by decide) fun l hl _ _ => ?_
  have hfirst : (64 * (64 * (n - 0xE0) + k) + l) / 4096 % 16 + 224 = n := by omega
  have hsecond : (64 * (64 * (n - 0xE0) + k) + l) / 64 % 64 = k := by omega
  have hlast : (64 * (64 * (n - 0xE0) + k) + l) % 64 = l := by omega
  rw [utf8EncodeChar_three (by omega) (by omega) (by omega), hfirst, hsecond, hlast]
  rfl

theorem completes_four (h : 0xF0 ≤ n) (h' : n ≤ 0xF4) :
    Completes [UInt8.ofNat n] 2 (if n = 0xF0 then 0x90 else 0x80)
      (if n = 0xF4 then 0x8F else 0xBF) (n - 0xF0) := by
  refine completes_more (by split_ifs <;> decide) (by split_ifs <;> decide)
    fun k hk hlow hhigh => ?_
  have hlong : n = 0xF0 → 0x90 ≤ k + 128 := by
    rintro rfl
    exact hlow
  have hpast : n = 0xF4 → k + 128 ≤ 0x8F := by
    rintro rfl
    exact hhigh
  refine completes_more (by decide) (by decide) fun l hl _ _ => ?_
  refine completes_last (by decide) (by decide) fun m hm _ _ => ?_
  have hfirst : (64 * (64 * (64 * (n - 0xF0) + k) + l) + m) / 262144 % 8 + 240 = n := by omega
  have hsecond : (64 * (64 * (64 * (n - 0xF0) + k) + l) + m) / 4096 % 64 = k := by omega
  have hthird : (64 * (64 * (64 * (n - 0xF0) + k) + l) + m) / 64 % 64 = l := by omega
  have hlast : (64 * (64 * (64 * (n - 0xF0) + k) + l) + m) % 64 = m := by omega
  rw [utf8EncodeChar_four (by omega) (by omega), hfirst, hsecond, hthird, hlast]
  rfl

/-- A lead sets its bounds so that every completion is the encoding of a character. -/
theorem completes_of_lead {b : UInt8} (h : lead? b = some ⟨more + 1, low, high, value⟩) :
    Completes [b] more low high value := by
  obtain ⟨n, rfl, ⟨⟨hn, hn'⟩, hlead⟩ | ⟨⟨hn, hn'⟩, hlead⟩ | ⟨⟨hn, hn'⟩, hlead⟩⟩ := lead?_cases h
  · cases hlead
    exact completes_two hn hn'
  · cases hlead
    exact completes_three hn hn'
  · cases hlead
    exact completes_four hn hn'

end Completes

/-! ## What has been read -/

/-- The bytes of a sequence under way. -/
def State.seen : State → Bytes
  | .boundary => []
  | .inside seen _ _ _ _ => seen.reverse

/-- The bytes that a reading has taken. -/
def Reading.taken (r : Reading) : Bytes := r.pieces.reverse.flatMap Piece.bytes ++ r.state.seen

/-- A sequence under way is the beginning of a character. -/
def State.Sound : State → Prop
  | .boundary => True
  | .inside seen more low high value => Completes seen more low high value

theorem start_sound (b : UInt8) (done : List Piece) :
    (start b done).state.Sound ∧
      (start b done).taken = done.reverse.flatMap Piece.bytes ++ [b] := by
  unfold start
  split_ifs with hb
  · have hn : b.toNat < 0x80 := hb
    refine ⟨trivial, ?_⟩
    simp [Reading.taken, State.seen, Piece.bytes, utf8EncodeChar_one hn]
  · split
    · rename_i more low high bits hlead
      exact ⟨completes_of_lead hlead, rfl⟩
    · exact ⟨trivial, by simp [Reading.taken, State.seen, Piece.bytes]⟩

/-- **A byte is added to what has been read.** -/
theorem step_sound {r : Reading} (h : r.state.Sound) (b : UInt8) :
    (r.step b).state.Sound ∧ (r.step b).taken = r.taken ++ [b] := by
  obtain ⟨state, done⟩ := r
  cases state with
  | boundary =>
    obtain ⟨hsound, htaken⟩ := start_sound b done
    refine ⟨hsound, ?_⟩
    show (start b done).taken = _
    rw [htaken]
    simp [Reading.taken, State.seen]
  | inside seen more low high value =>
    unfold Reading.step
    dsimp only
    split_ifs with hin
    · cases more with
      | zero =>
        have hchar : String.utf8EncodeChar _ = _ := h b hin.1 hin.2
        exact ⟨trivial, by simp [Reading.taken, State.seen, Piece.bytes, hchar]⟩
      | succ more => exact ⟨h b hin.1 hin.2, by simp [Reading.taken, State.seen]⟩
    · obtain ⟨hsound, htaken⟩ := start_sound b (.broken .badContinuation seen.reverse :: done)
      exact ⟨hsound, by simpa [Reading.taken, State.seen, Piece.bytes] using htaken⟩

/-- **What has been read are the bytes**, in every state of the machine. -/
theorem foldl_sound {r : Reading} (h : r.state.Sound) (s : Bytes) :
    (s.foldl Reading.step r).taken = r.taken ++ s := by
  induction s generalizing r with
  | nil => exact (List.append_nil _).symm
  | cons b s ih =>
    obtain ⟨hsound, htaken⟩ := step_sound h b
    rw [List.foldl_cons, ih hsound, htaken, List.append_assoc, List.singleton_append]

theorem flatMap_finish (r : Reading) : r.finish.flatMap Piece.bytes = r.taken := by
  obtain ⟨state, done⟩ := r
  cases state <;> simp [Reading.finish, Reading.taken, State.seen, Piece.bytes]

/-- **Reading loses no byte.** -/
theorem flatMap_pieces (s : Bytes) : (pieces s).flatMap Piece.bytes = s := by
  rw [pieces, flatMap_finish]
  exact foldl_sound (r := ⟨.boundary, []⟩) trivial s

/-! ## Strict reading -/

theorem charsOf_eq_ok_iff {position : Nat} {acc cs : List Char} {ps : List Piece} :
    charsOf position acc ps = .ok cs ↔
      ∃ rest, ps = rest.map Piece.char ∧ cs = acc.reverse ++ rest := by
  induction ps generalizing position acc with
  | nil => simp [charsOf, eq_comm]
  | cons piece ps ih =>
    cases piece with
    | char c =>
      rw [charsOf, ih]
      constructor
      · rintro ⟨rest, rfl, rfl⟩
        exact ⟨c :: rest, rfl, by simp⟩
      · rintro ⟨_ | ⟨c', rest⟩, hps, rfl⟩
        · cases hps
        · cases hps
          exact ⟨rest, rfl, by simp⟩
    | broken fault bytes =>
      refine iff_of_false nofun ?_
      rintro ⟨_ | ⟨c, rest⟩, hps, -⟩ <;> cases hps

/-- **Strict reading accepts the bytes of a text and no others.** -/
theorem decodeStrict_eq_ok_iff {s : Bytes} {text : String} :
    decodeStrict s = .ok text ↔ s = encode text := by
  unfold decodeStrict
  simp only [map_eq_ok_iff, charsOf_eq_ok_iff]
  constructor
  · rintro ⟨cs, ⟨rest, hpieces, rfl⟩, rfl⟩
    rw [← flatMap_pieces s, hpieces, encode, List.flatMap_map]
    simp [Piece.bytes]
  · rintro rfl
    exact ⟨text.toList, ⟨text.toList, pieces_encode text, rfl⟩, String.ofList_toList⟩

theorem ne_encode_of_decodeStrict {s : Bytes} {e : DecodeError} (h : decodeStrict s = .error e)
    (text : String) : s ≠ encode text := by
  intro hs
  cases h.symm.trans (decodeStrict_eq_ok_iff.mpr hs)

end OpReturn.Utf8
