import OpReturn.Proofs.Script.Pushes

/-!
# What chunks tell about their bytes

A push that is read whole can be written again. Its opcode says how wide the length field is, and
the length of its data what stands in that field, so the chunk alone gives back the bytes
(`Chunk.bytes`). A script that parses strictly is therefore the bytes of its chunks in a row.

* `parseAll_row`: what stands behind a script that parses is parsed as if it stood alone, and no
  other script has the same chunks.
* `encodePush_shortest`: the push written for some data is read back, whatever follows it, and of
  all pushes of this data it is the one shortest.
-/

namespace OpReturn

/-! ## Opcodes and length fields -/

namespace Opcode

theorem exists_lengthWidth_iff {op : UInt8} :
    (∃ width, lengthWidth? op = some width) ↔ op ≤ pushData4 := by
  simp only [lengthWidth?, UInt8.le_iff_toNat_le, ← UInt8.toNat_inj, maxDirect, pushData1,
    pushData2, pushData4, UInt8.reduceToNat]
  split_ifs <;> simp <;> omega

theorem eq_of_lengthWidth {op op' : UInt8} {width : Nat} (h : lengthWidth? op = some (width + 1))
    (h' : lengthWidth? op' = some (width + 1)) : op = op' := by
  simp only [lengthWidth?] at h h'
  split_ifs at h h' <;> simp_all

end Opcode

theorem ofNatLE_announced (op : UInt8) (field : Bytes) :
    Bytes.ofNatLE field.length (announced op field) = field := by
  cases field with
  | nil => rfl
  | cons b field => exact Bytes.ofNatLE_toNatLE (b :: field)

/-- Opcode and length field follow from the size that they announce and the width of the field. -/
theorem header_eq {op op' : UInt8} {field field' : Bytes}
    (h : Opcode.lengthWidth? op = some field.length)
    (h' : Opcode.lengthWidth? op' = some field'.length) (hlen : field.length = field'.length)
    (hsize : announced op field = announced op' field') : op :: field = op' :: field' := by
  have hfield : field = field' := by
    rw [← ofNatLE_announced op field, ← ofNatLE_announced op' field', hlen, hsize]
  subst hfield
  cases field with
  | nil =>
    have hop : op = op' := UInt8.toNat_inj.mp hsize
    rw [hop]
  | cons b field =>
    have hop : op = op' := Opcode.eq_of_lengthWidth h h'
    rw [hop]

/-! ## Chunks written again -/

/-- The bytes of a chunk: its opcode, the length of its data in as many bytes as the opcode asks
for, and the data. -/
def Chunk.bytes (chunk : Chunk) : Bytes :=
  chunk.op ::
    (Bytes.ofNatLE ((Opcode.lengthWidth? chunk.op).getD 0) chunk.data.length ++ chunk.data)

theorem Chunk.bytes_push {op : UInt8} {field data : Bytes}
    (h : Opcode.lengthWidth? op = some field.length) (hsize : data.length = announced op field) :
    Chunk.bytes ⟨op, data⟩ = op :: (field ++ data) := by
  simp only [Chunk.bytes, h, Option.getD_some]
  rw [hsize, ofNatLE_announced]

theorem Chunk.bytes_bare {op : UInt8} (h : Opcode.lengthWidth? op = none) :
    Chunk.bytes ⟨op, []⟩ = [op] := by
  simp [Chunk.bytes, h, Bytes.ofNatLE]

theorem Step.bytes_read {op : UInt8} {s : Bytes} (h : (read op s).cut = none) :
    op :: s = (read op s).chunk.bytes ++ (read op s).rest ∧
      (read op s).chunk.bytes.length = (read op s).size := by
  have hread := reads_read op s
  generalize read op s = step at h hread
  cases hread with
  | bare hw => simp [Chunk.bytes_bare hw]
  | whole hw hd =>
    simp only [Chunk.bytes_push hw hd, List.cons_append, List.append_assoc, List.length_cons,
      List.length_append, true_and]
    omega
  | cutLength hw hs => simp at h
  | cutData hw hd => simp at h

theorem eq_flatMap_of_parseAll {s : Bytes} {chunks : List Chunk}
    (h : Chunk.parseAll s = .ok chunks) : s = chunks.flatMap Chunk.bytes := by
  induction s using stepInduction generalizing chunks with
  | nil =>
    obtain ⟨-, rfl⟩ := parseAll_eq_ok_iff.mp h
    simp
  | cons op s ih =>
    obtain ⟨hcut, rest, hrest, rfl⟩ := parseAll_cons_iff.mp h
    rw [List.flatMap_cons, ← ih hrest]
    exact (Step.bytes_read hcut).1

/-! ## Scripts in a row -/

/-- **Parsing is compositional and loses nothing.** What stands behind a script that parses is
parsed as if it stood alone, with the same error if it does not parse, and the bytes can be told
from the chunks. -/
theorem parseAll_row {a : Bytes} {as : List Chunk} (h : Chunk.parseAll a = .ok as) (b : Bytes) :
    (Whole (a ++ b) ↔ Whole b) ∧
    Chunk.parseAll (a ++ b) = (Chunk.parseAll b).map (as ++ ·) ∧
    (Chunk.parseAll b = .ok as → b = a) := by
  have happend := parseAll_append h b
  refine ⟨?_, happend, ?_⟩
  · unfold Whole
    rw [happend]
    cases Chunk.parseAll b <;> simp [Except.map]
  · intro hb
    rw [eq_flatMap_of_parseAll h, eq_flatMap_of_parseAll hb]

/-- A delimiter behind a push of `|` that has a length field, and a push behind it that is cut
short; the two pushes have the same data, but not the same chunk. -/
theorem parseAll_row_longPipe :
    Chunk.parseAll [0x4C, 0x01, 0x7C] = .ok [⟨0x4C, [0x7C]⟩] ∧
    Chunk.parseAll ([0x4C, 0x01, 0x7C] ++ Chunk.delimiter) =
      .ok [⟨0x4C, [0x7C]⟩, ⟨0x01, [0x7C]⟩] ∧
    ¬ Whole ([0x4C, 0x01, 0x7C] ++ [0x02, 0x7C]) ∧
    Chunk.parseAll Chunk.delimiter ≠ .ok [⟨0x4C, [0x7C]⟩] := by
  have hparse : Chunk.parseAll [0x4C, 0x01, 0x7C] = .ok [⟨0x4C, [0x7C]⟩] := by decide +kernel
  obtain ⟨-, happend, hsame⟩ := parseAll_row hparse Chunk.delimiter
  obtain ⟨hwhole, -, -⟩ := parseAll_row hparse [0x02, 0x7C]
  refine ⟨hparse, ?_, ?_, ?_⟩
  · rw [happend]
    decide +kernel
  · rw [hwhole, whole_cons_iff]
    intro h
    exact absurd h.1 (by decide)
  · intro h
    exact absurd (hsame h) (by decide)

/-! ## The shortest push -/

namespace Step

/-- A whole push that is no longer than the push written for its data is that push. -/
theorem bytes_eq_pushBytes {op : UInt8} {s : Bytes} (hop : op ≤ Opcode.pushData4)
    (hcut : (read op s).cut = none)
    (hsize : (read op s).size = (pushBytes (read op s).chunk.data).length) :
    (read op s).chunk.bytes = pushBytes (read op s).chunk.data := by
  have hread := reads_read op s
  generalize read op s = step at hread hcut hsize
  cases hread with
  | bare hw =>
    obtain ⟨width, hwidth⟩ := Opcode.exists_lengthWidth_iff.mpr hop
    rw [hw] at hwidth
    cases hwidth
  | @whole field data s hw hd =>
    have hmax : data.length ≤ maxPush := hd ▸ announced_le_maxPush hw
    obtain ⟨op', field', hheader, hw', hd'⟩ := exists_pushHeader hmax
    rw [Chunk.bytes_push hw hd]
    simp only [pushBytes, hheader, List.cons_append, List.length_cons,
      List.length_append] at hsize ⊢
    have hlen : field.length = field'.length := by omega
    have hsame := header_eq hw hw' hlen (hd ▸ hd'.symm)
    simpa using congrArg (· ++ data) hsame
  | cutLength hw hs => simp at hcut
  | cutData hw hd => simp at hcut

end Step

theorem exists_natCast_of_readOp {script : Bytes} {offset : Int} {mode : Mode} {step : Step}
    (h : readOp script offset mode = .ok step) : ∃ n : Nat, offset = n := by
  by_cases hneg : offset < 0
  · rw [readOp, if_pos hneg] at h
    cases h
  · exact ⟨offset.toNat, by omega⟩

theorem le_of_pushBytes_eq {data body : Bytes} {op : UInt8} (h : data.length ≤ maxPush)
    (hpush : pushBytes data = op :: body) : op ≤ Opcode.pushData4 := by
  obtain ⟨op', field, hheader, hwidth, -⟩ := exists_pushHeader h
  rw [pushBytes, hheader, List.cons_append] at hpush
  obtain ⟨rfl, -⟩ := List.cons.inj hpush
  exact Opcode.exists_lengthWidth_iff.mp ⟨_, hwidth⟩

theorem readOp_pushBytes {data : Bytes} (h : data.length ≤ maxPush) (rest : Bytes) (mode : Mode) :
    ∃ op ≤ Opcode.pushData4, readOp (pushBytes data ++ rest) 0 mode =
      .ok ⟨⟨op, data⟩, (pushBytes data).length, rest, none⟩ := by
  obtain ⟨op, body, hpush, hread⟩ := read_pushBytes h
  refine ⟨op, le_of_pushBytes_eq h hpush, ?_⟩
  have hsame : pushBytes data ++ rest = op :: (body ++ rest) := by rw [hpush, List.cons_append]
  rw [readOp, if_neg (by decide), hsame]
  simp only [Int.toNat_zero, List.drop_zero, hread]
  cases mode <;> rfl

/-- **The push written for some data is read back, and it is the one shortest.** In either mode it
is read as the data, whatever follows; and a push of the same data that is read whole, anywhere in a
script, takes at least as many bytes, and as many only if it is the very same bytes. -/
theorem encodePush_shortest :
    (∀ (data rest : Bytes) (mode : Mode), data.length ≤ 0xFFFFFFFF →
      ∃ push step, encodePush data = .ok push ∧ readOp (push ++ rest) 0 mode = .ok step ∧
        step.chunk.data = data ∧ step.chunk.op ≤ Opcode.pushData4 ∧
        step.size = push.length ∧ step.rest = rest) ∧
    (∀ (script : Bytes) (offset : Int) (step : Step), readOp script offset .strict = .ok step →
      step.chunk.op ≤ Opcode.pushData4 →
        ∃ push, encodePush step.chunk.data = .ok push ∧ push.length ≤ step.size ∧
          (step.size = push.length → (script.drop offset.toNat).take step.size = push)) := by
  constructor
  · intro data rest mode h
    obtain ⟨op, hop, hread⟩ := readOp_pushBytes h rest mode
    exact ⟨_, _, encodePush_eq h, hread, rfl, hop, rfl, rfl⟩
  · intro script offset step h hop
    obtain ⟨n, rfl⟩ := exists_natCast_of_readOp h
    obtain ⟨op, s, hdrop, rfl, hcut⟩ := Step.readOp_strict_iff.mp h
    rw [Step.op_read] at hop
    refine ⟨_, encodePush_eq (Step.length_data_read op s), Step.length_pushBytes_le op s, ?_⟩
    intro hsize
    obtain ⟨htaken, hlen⟩ := Step.bytes_read hcut
    rw [Int.toNat_natCast, hdrop, htaken, ← hlen, List.take_left]
    exact Step.bytes_eq_pushBytes hop hcut hsize

/-- The shortest push of the least data that needs a length field. -/
def fieldPush : Bytes := 0x4C :: 0x4C :: List.replicate 76 0x61

/-- It is read back, and read in the middle of a script it is what is written for its data. -/
theorem encodePush_shortest_field :
    (∃ push step, encodePush (List.replicate 76 0x61) = .ok push ∧
      readOp (push ++ [0x6A]) 0 .lenient = .ok step ∧ step.chunk.data = List.replicate 76 0x61 ∧
      step.chunk.op ≤ Opcode.pushData4 ∧ step.size = push.length ∧ step.rest = [0x6A]) ∧
    readOp (0x51 :: fieldPush) 1 .strict =
      .ok ⟨⟨0x4C, List.replicate 76 0x61⟩, 78, [], none⟩ ∧
    ∃ push, encodePush (List.replicate 76 0x61) = .ok push ∧ push.length ≤ 78 ∧
      (78 = push.length → fieldPush.take 78 = push) := by
  have hread : readOp (0x51 :: fieldPush) 1 .strict =
      .ok ⟨⟨0x4C, List.replicate 76 0x61⟩, 78, [], none⟩ := rfl
  obtain ⟨hback, hshortest⟩ := encodePush_shortest
  exact ⟨hback _ _ _ (by decide), hread, hshortest _ _ _ hread (by decide)⟩

end OpReturn
