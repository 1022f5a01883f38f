import OpReturn.Script.Reader
import Mathlib.Tactic.Common

/-!
# What one step takes off a script

`Reads op s step` lists the four ways in which a chunk is taken off `op :: s`: an opcode that
pushes nothing, a whole push, a push whose length is cut short, and one whose data is. `Step.read`
computes exactly this relation (`reads_iff`), so a fact about all steps is a case analysis on it.

* `split_read`: a step splits the script into the bytes it takes and the rest.
* `rest_of_cut`: nothing follows a push that is cut short.
* `read_frame`: a whole step depends only on the bytes it takes.
-/

namespace OpReturn

/-! ## The shape of a step -/

/-- How many bytes a push announces: its own opcode says so, or else its length field. -/
def announced (op : UInt8) (field : Bytes) : Nat :=
  if field = [] then op.toNat else Bytes.toNatLE field

/-- How a step comes off the front of `op :: s`. -/
inductive Reads (op : UInt8) : Bytes → Step → Prop
  | bare {s : Bytes} (width : Opcode.lengthWidth? op = none) :
      Reads op s ⟨⟨op, []⟩, 1, s, none⟩
  | whole {field data s : Bytes} (width : Opcode.lengthWidth? op = some field.length)
      (size : data.length = announced op field) :
      Reads op (field ++ (data ++ s)) ⟨⟨op, data⟩, 1 + field.length + data.length, s, none⟩
  | cutLength {s : Bytes} {n : Nat} (width : Opcode.lengthWidth? op = some n)
      (short : s.length < n) :
      Reads op s ⟨⟨op, []⟩, 1 + s.length, [], some (.length op)⟩
  | cutData {field data : Bytes} (width : Opcode.lengthWidth? op = some field.length)
      (short : data.length < announced op field) :
      Reads op (field ++ data) ⟨⟨op, data⟩, 1 + field.length + data.length, [],
        some (.data (announced op field) data.length)⟩

namespace Step

theorem read_bare {op : UInt8} (h : Opcode.lengthWidth? op = none) (s : Bytes) :
    read op s = ⟨⟨op, []⟩, 1, s, none⟩ := by
  simp only [read, h]

theorem read_short {op : UInt8} {n : Nat} {s : Bytes} (h : Opcode.lengthWidth? op = some n)
    (hs : s.length < n) : read op s = ⟨⟨op, []⟩, 1 + s.length, [], some (.length op)⟩ := by
  cases n with
  | zero => exact absurd hs (Nat.not_lt_zero _)
  | succ n =>
    have htake : s.take (n + 1) = s := List.take_of_length_le (Nat.le_of_lt hs)
    simp only [read, h, htake, if_pos hs]

theorem read_field {op : UInt8} {field : Bytes} (h : Opcode.lengthWidth? op = some field.length)
    (s : Bytes) : read op (field ++ s) = push op (1 + field.length) (announced op field) s := by
  cases field with
  | nil =>
    have hw : Opcode.lengthWidth? op = some 0 := h
    simp [read, hw, announced]
  | cons b field =>
    have hw : Opcode.lengthWidth? op = some (field.length + 1) := h
    have htake : (b :: field ++ s).take (field.length + 1) = b :: field := by simp
    have hdrop : (b :: field ++ s).drop (field.length + 1) = s := by simp
    simp only [read, hw, htake, hdrop]
    rw [if_neg (by simp)]
    simp [announced]

theorem read_whole {op : UInt8} {field data : Bytes}
    (h : Opcode.lengthWidth? op = some field.length) (hd : data.length = announced op field)
    (s : Bytes) :
    read op (field ++ (data ++ s)) = ⟨⟨op, data⟩, 1 + field.length + data.length, s, none⟩ := by
  rw [read_field h]
  simp [push, ← hd]

theorem read_cutData {op : UInt8} {field data : Bytes}
    (h : Opcode.lengthWidth? op = some field.length) (hd : data.length < announced op field) :
    read op (field ++ data) = ⟨⟨op, data⟩, 1 + field.length + data.length, [],
      some (.data (announced op field) data.length)⟩ := by
  have htake : data.take (announced op field) = data := List.take_of_length_le (Nat.le_of_lt hd)
  rw [read_field h]
  simp only [push, htake, if_pos hd, List.drop_of_length_le (Nat.le_of_lt hd)]

end Step

theorem reads_read (op : UInt8) (s : Bytes) : Reads op s (Step.read op s) := by
  cases hw : Opcode.lengthWidth? op with
  | none =>
    rw [Step.read_bare hw]
    exact .bare hw
  | some n =>
    by_cases hs : s.length < n
    · rw [Step.read_short hw hs]
      exact .cutLength hw hs
    · obtain ⟨field, body, rfl, hn⟩ : ∃ field body, s = field ++ body ∧ field.length = n :=
        ⟨s.take n, s.drop n, (List.take_append_drop n s).symm, by
          rw [List.length_take]; omega⟩
      rw [← hn] at hw
      by_cases hd : body.length < announced op field
      · rw [Step.read_cutData hw hd]
        exact .cutData hw hd
      · have hlen : (body.take (announced op field)).length = announced op field := by
          rw [List.length_take]; omega
        rw [← List.take_append_drop (announced op field) body, Step.read_whole hw hlen]
        exact .whole hw hlen

theorem reads_iff {op : UInt8} {s : Bytes} {step : Step} :
    Reads op s step ↔ Step.read op s = step := by
  constructor
  · intro h
    cases h with
    | bare hw => exact Step.read_bare hw s
    | whole hw hd => exact Step.read_whole hw hd _
    | cutLength hw hs => exact Step.read_short hw hs
    | cutData hw hd => exact Step.read_cutData hw hd
  · rintro rfl
    exact reads_read op s

namespace Reads

/-! ## The bytes it takes -/

theorem op_chunk {op : UInt8} {s : Bytes} {step : Step} (h : Reads op s step) :
    step.chunk.op = op := by
  cases h <;> rfl

theorem size_pos {op : UInt8} {s : Bytes} {step : Step} (h : Reads op s step) :
    0 < step.size := by
  cases h <;> dsimp only <;> omega

theorem split {op : UInt8} {s : Bytes} {step : Step} (h : Reads op s step) :
    ∃ taken, op :: s = taken ++ step.rest ∧ taken.length = step.size := by
  cases h with
  | bare hw => exact ⟨[op], rfl, rfl⟩
  | @whole field data s hw hd =>
    refine ⟨op :: (field ++ data), by simp, ?_⟩
    simp only [List.length_cons, List.length_append]
    omega
  | cutLength hw hs => exact ⟨op :: s, by simp, by simp [Nat.add_comm]⟩
  | @cutData field data hw hd =>
    refine ⟨op :: (field ++ data), by simp, ?_⟩
    simp only [List.length_cons, List.length_append]
    omega

theorem rest_of_cut {op : UInt8} {s : Bytes} {step : Step} (h : Reads op s step)
    (hcut : step.cut ≠ none) : step.rest = [] := by
  cases h with
  | bare hw => exact absurd rfl hcut
  | whole hw hd => exact absurd rfl hcut
  | cutLength hw hs => rfl
  | cutData hw hd => rfl

/-- A whole step reads only its own bytes: whatever follows them is what it leaves. -/
theorem frame {op : UInt8} {s : Bytes} {step : Step} (h : Reads op s step)
    (hcut : step.cut = none) :
    ∃ body, s = body ++ step.rest ∧ step.size = (op :: body).length ∧
      ∀ t, Reads op (body ++ t) { step with rest := t } := by
  cases h with
  | bare hw => exact ⟨[], rfl, rfl, fun t => .bare hw⟩
  | @whole field data s hw hd =>
    refine ⟨field ++ data, by simp, ?_, fun t => ?_⟩
    · simp only [List.length_cons, List.length_append]
      omega
    · rw [List.append_assoc]
      exact .whole hw hd
  | cutLength hw hs => exact absurd hcut (by simp)
  | cutData hw hd => exact absurd hcut (by simp)

end Reads

namespace Step

@[simp] theorem op_read (op : UInt8) (s : Bytes) : (read op s).chunk.op = op :=
  (reads_read op s).op_chunk

theorem size_read_pos (op : UInt8) (s : Bytes) : 0 < (read op s).size := (reads_read op s).size_pos

theorem rest_read (op : UInt8) (s : Bytes) :
    (read op s).rest = (op :: s).drop (read op s).size := by
  obtain ⟨taken, hsplit, hlen⟩ := (reads_read op s).split
  rw [hsplit, ← hlen, List.drop_left]

theorem split_read (op : UInt8) (s : Bytes) :
    op :: s = (op :: s).take (read op s).size ++ (read op s).rest := by
  rw [rest_read, List.take_append_drop]

theorem size_add_rest (op : UInt8) (s : Bytes) :
    (read op s).size + (read op s).rest.length = s.length + 1 := by
  obtain ⟨taken, hsplit, hlen⟩ := (reads_read op s).split
  rw [← hlen, ← List.length_append, ← hsplit, List.length_cons]

theorem rest_of_cut {op : UInt8} {s : Bytes} (h : (read op s).cut ≠ none) :
    (read op s).rest = [] := (reads_read op s).rest_of_cut h

theorem read_frame {op : UInt8} {s : Bytes} (h : (read op s).cut = none) :
    ∃ body, s = body ++ (read op s).rest ∧ (read op s).size = (op :: body).length ∧
      ∀ t, read op (body ++ t) = { read op s with rest := t } := by
  obtain ⟨body, hs, hsize, hread⟩ := (reads_read op s).frame h
  exact ⟨body, hs, hsize, fun t => reads_iff.mp (hread t)⟩

theorem read_append {op : UInt8} {s : Bytes} (h : (read op s).cut = none) (t : Bytes) :
    read op (s ++ t) = { read op s with rest := (read op s).rest ++ t } := by
  obtain ⟨body, hs, -, hread⟩ := read_frame h
  rw [← hread, ← List.append_assoc, ← hs]

/-! ## Reading at an offset -/

theorem readOp_of_drop {script s : Bytes} {offset : Nat} {op : UInt8}
    (h : script.drop offset = op :: s) (mode : Mode) :
    readOp script offset mode = (read op s).check mode := by
  rw [readOp, if_neg (by omega), Int.toNat_natCast, h]

theorem readOp_eq_ok_iff {script : Bytes} {offset : Nat} {mode : Mode} {step : Step} :
    readOp script offset mode = .ok step ↔
      ∃ op s, script.drop offset = op :: s ∧ (read op s).check mode = .ok step := by
  cases hdrop : script.drop offset with
  | nil =>
    rw [readOp, if_neg (by omega), Int.toNat_natCast, hdrop]
    simp
  | cons op s =>
    rw [readOp_of_drop hdrop]
    simp

theorem readOp_lenient_iff {script : Bytes} {offset : Nat} {step : Step} :
    readOp script offset .lenient = .ok step ↔
      ∃ op s, script.drop offset = op :: s ∧ read op s = step := by
  simp [readOp_eq_ok_iff, check]

theorem check_strict_iff {step step' : Step} :
    step.check .strict = .ok step' ↔ step = step' ∧ step.cut = none := by
  cases hcut : step.cut <;> simp [Step.check, hcut]

theorem readOp_strict_iff {script : Bytes} {offset : Nat} {step : Step} :
    readOp script offset .strict = .ok step ↔
      ∃ op s, script.drop offset = op :: s ∧ read op s = step ∧ step.cut = none := by
  rw [readOp_eq_ok_iff]
  constructor
  · rintro ⟨op, s, hdrop, hcheck⟩
    obtain ⟨rfl, hcut⟩ := check_strict_iff.mp hcheck
    exact ⟨op, s, hdrop, rfl, hcut⟩
  · rintro ⟨op, s, hdrop, rfl, hcut⟩
    exact ⟨op, s, hdrop, check_strict_iff.mpr ⟨rfl, hcut⟩⟩

/-! ## Markers and delimiters -/

@[simp] theorem read_opReturn (s : Bytes) :
    read Opcode.opReturn s = ⟨⟨Opcode.opReturn, []⟩, 1, s, none⟩ :=
  read_bare (by decide) s

@[simp] theorem read_delimiter (s : Bytes) :
    read 0x01 (0x7C :: s) = ⟨⟨0x01, Chunk.separator⟩, 2, s, none⟩ := by
  have hwidth : Opcode.lengthWidth? 0x01 = some ([] : Bytes).length := by decide
  have hsize : Chunk.separator.length = announced 0x01 [] := by decide
  exact read_whole hwidth hsize s

theorem isDelimiter_read_iff {op : UInt8} {s : Bytes} :
    (read op s).chunk.isDelimiter = true ↔ ∃ t, op :: s = Chunk.delimiter ++ t := by
  constructor
  · intro h
    obtain ⟨hop, hdata⟩ : op = 1 ∧ (read op s).chunk.data = Chunk.separator := by
      simpa [Chunk.isDelimiter] using h
    subst hop
    have hread := reads_read 1 s
    generalize read 1 s = step at hread hdata
    cases hread with
    | bare hw => exact absurd hw (by decide)
    | @whole field data s hw hd =>
      obtain rfl : data = Chunk.separator := hdata
      obtain rfl : field = [] := List.length_eq_zero_iff.mp (Option.some.inj hw).symm
      exact ⟨s, rfl⟩
    | cutLength hw hs => exact absurd hdata (List.cons_ne_nil _ _).symm
    | @cutData field data hw hd =>
      -- One byte is all that the opcode announces, so the data is not short.
      obtain rfl : data = Chunk.separator := hdata
      obtain rfl : field = [] := List.length_eq_zero_iff.mp (Option.some.inj hw).symm
      exact absurd hd (by decide)
  · rintro ⟨t, ht⟩
    obtain ⟨rfl, rfl⟩ : op = 0x01 ∧ s = 0x7C :: t := List.cons.inj ht
    rw [read_delimiter]
    rfl

end Step
end OpReturn
