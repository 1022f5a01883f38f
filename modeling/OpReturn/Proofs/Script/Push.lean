import OpReturn.Proofs.Script.Step
import OpReturn.Script.Push

/-!
# Shortest pushes

`pushBytes data` is the shortest push of some data. Reading gives the data back, whatever follows
the push (`read_pushBytes`), and no step takes fewer bytes than the shortest push of what it read
(`length_pushBytes_le`), not even one that is cut short.
-/

namespace OpReturn

/-- The shortest push of some data, if it is not too long for a push. -/
def pushBytes (data : Bytes) : Bytes := pushHeader data.length ++ data

theorem encodePush_eq {data : Bytes} (h : data.length ≤ maxPush) :
    encodePush data = .ok (pushBytes data) := by
  rw [encodePush, if_pos h, pushBytes]

/-! ## Reading back -/

theorem exists_pushHeader {n : Nat} (h : n ≤ maxPush) :
    ∃ op field, pushHeader n = op :: field ∧ Opcode.lengthWidth? op = some field.length ∧
      announced op field = n := by
  unfold pushHeader
  split_ifs with h0 h1 h2
  · have hn : (UInt8.ofNat n).toNat = n := by
      have : Opcode.maxDirect.toNat = 75 := rfl
      rw [UInt8.toNat_ofNat']
      omega
    refine ⟨UInt8.ofNat n, [], rfl, ?_, hn⟩
    have hle : UInt8.ofNat n ≤ Opcode.maxDirect := by rwa [UInt8.le_iff_toNat_le, hn]
    simp [Opcode.lengthWidth?, hle]
  · refine ⟨Opcode.pushData1, _, rfl, by simp; rfl, ?_⟩
    exact Bytes.toNatLE_ofNatLE (Nat.lt_succ_of_le h1)
  · refine ⟨Opcode.pushData2, _, rfl, by simp; rfl, ?_⟩
    exact Bytes.toNatLE_ofNatLE (Nat.lt_succ_of_le h2)
  · refine ⟨Opcode.pushData4, _, rfl, by simp; rfl, ?_⟩
    exact Bytes.toNatLE_ofNatLE (Nat.lt_succ_of_le h)

theorem read_pushBytes {data : Bytes} (h : data.length ≤ maxPush) :
    ∃ op body, pushBytes data = op :: body ∧
      ∀ t, Step.read op (body ++ t) = ⟨⟨op, data⟩, (pushBytes data).length, t, none⟩ := by
  obtain ⟨op, field, hheader, hwidth, hsize⟩ := exists_pushHeader h
  refine ⟨op, field ++ data, by rw [pushBytes, hheader, List.cons_append], fun t => ?_⟩
  rw [List.append_assoc, Step.read_whole hwidth hsize.symm, pushBytes, hheader]
  simp only [List.cons_append, List.length_cons, List.length_append]
  congr 1
  omega

/-! ## The shortest form -/

theorem length_pushHeader (n : Nat) :
    (pushHeader n).length =
      if n ≤ 0x4B then 1 else if n ≤ 0xFF then 2 else if n ≤ 0xFFFF then 3 else 5 := by
  have hdirect : Opcode.maxDirect.toNat = 0x4B := rfl
  unfold pushHeader
  rw [hdirect]
  split_ifs <;> simp

/-- The most that a push can announce whose length takes `width` bytes. -/
def widest : (width : Nat) → Nat
  | 0 => 0x4B
  | width + 1 => Bytes.room (width + 1) - 1

theorem announced_le_widest {op : UInt8} {field : Bytes}
    (h : Opcode.lengthWidth? op = some field.length) :
    announced op field ≤ widest field.length := by
  cases field with
  | nil =>
    show op.toNat ≤ 0x4B
    by_cases hle : op ≤ Opcode.maxDirect
    · exact UInt8.le_iff_toNat_le.mp hle
    · simp only [Opcode.lengthWidth?, if_neg hle, List.length_nil] at h
      split_ifs at h <;> exact nomatch h
  | cons b field => exact Nat.le_sub_one_of_lt (Bytes.toNatLE_lt (b :: field))

theorem width_cases {op : UInt8} {width : Nat} (h : Opcode.lengthWidth? op = some width) :
    width = 0 ∨ width = 1 ∨ width = 2 ∨ width = 4 := by
  simp only [Opcode.lengthWidth?] at h
  split_ifs at h <;> simp_all

theorem length_pushHeader_le {op : UInt8} {field : Bytes} {n : Nat}
    (h : Opcode.lengthWidth? op = some field.length) (hn : n ≤ announced op field) :
    (pushHeader n).length ≤ 1 + field.length := by
  have hle : n ≤ widest field.length := Nat.le_trans hn (announced_le_widest h)
  rw [length_pushHeader]
  rcases width_cases h with hw | hw | hw | hw <;> rw [hw] at hle ⊢
  · have : n ≤ 0x4B := hle
    split_ifs
    omega
  · have : n ≤ 0xFF := hle
    split_ifs <;> omega
  · have : n ≤ 0xFFFF := hle
    split_ifs <;> omega
  · split_ifs <;> omega

theorem announced_le_maxPush {op : UInt8} {field : Bytes}
    (h : Opcode.lengthWidth? op = some field.length) : announced op field ≤ maxPush := by
  refine Nat.le_trans (announced_le_widest h) ?_
  rcases width_cases h with hw | hw | hw | hw <;> rw [hw] <;> decide

namespace Step

theorem length_data_read (op : UInt8) (s : Bytes) : (read op s).chunk.data.length ≤ maxPush := by
  have h := reads_read op s
  generalize read op s = step at h
  cases h with
  | bare hw => exact Nat.zero_le _
  | whole hw hd => exact hd ▸ announced_le_maxPush hw
  | cutLength hw hs => exact Nat.zero_le _
  | cutData hw hd => exact Nat.le_trans (Nat.le_of_lt hd) (announced_le_maxPush hw)

/-- No step takes fewer bytes than the shortest push of the data it reads. -/
theorem length_pushBytes_le (op : UInt8) (s : Bytes) :
    (pushBytes (read op s).chunk.data).length ≤ (read op s).size := by
  have h := reads_read op s
  generalize read op s = step at h
  rw [pushBytes, List.length_append]
  cases h with
  | bare hw => exact Nat.le_refl 1
  | whole hw hd => exact Nat.add_le_add_right (length_pushHeader_le hw (Nat.le_of_eq hd)) _
  | cutLength hw hs => exact Nat.le_add_right 1 _
  | cutData hw hd => exact Nat.add_le_add_right (length_pushHeader_le hw (Nat.le_of_lt hd)) _

end Step
end OpReturn
