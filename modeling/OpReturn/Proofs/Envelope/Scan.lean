import OpReturn.Envelope
import OpReturn.Proofs.Script.Walk

/-!
# Scanning entry by entry

Scanning reads a tag, seeks the next delimiter in what the tag leaves, and starts again behind it.
Its facts are proved by induction along these rounds (`scanInduction`).

**The relation (`Splits`).** Scanning from an offset stops at the end of the script, takes a last
entry whose payload meets no delimiter, or takes an entry up to a delimiter and goes on behind it.

* `splits_scanFrom`: scanning computes the relation, so a fact about the entries of any script is
  an induction over its three cases.
* `Envelope.scan_append`: scanning finds a marker behind a clear lead.
* `Envelope.split_of_scan_eq_some`: whatever is found stands behind such a marker.
-/

namespace OpReturn

/-! ## Markers and delimiters -/

/-- Is the chunk the marker that an envelope follows? -/
def Chunk.isMarker (c : Chunk) : Bool := c.op = Opcode.opReturn

theorem findMarker_eq_none_iff {script : Bytes} :
    findMarker script = none ↔ Unmet Chunk.isMarker script := seekFrom_eq_none_iff

theorem findDelimiter_eq_none_iff {s : Bytes} :
    findDelimiter s = none ↔ Unmet Chunk.isDelimiter s := seekFrom_eq_none_iff

theorem findMarker_append {lead : Bytes} (h : Clear Chunk.isMarker lead) (s : Bytes) :
    findMarker (lead ++ Opcode.opReturn :: s) = some lead.length := by
  show seekFrom Chunk.isMarker 0 _ = _
  rw [seekFrom_append h, seekFrom, Step.read_opReturn, Nat.zero_add]
  rfl

theorem findDelimiter_append {payload : Bytes} (h : Clear Chunk.isDelimiter payload) (s : Bytes) :
    findDelimiter (payload ++ (Chunk.delimiter ++ s)) = some payload.length := by
  show seekFrom Chunk.isDelimiter 0 (payload ++ 0x01 :: 0x7C :: s) = _
  rw [seekFrom_append h, seekFrom, Step.read_delimiter, Nat.zero_add]
  rfl

theorem exists_of_findMarker_eq_some {script : Bytes} {p : Nat} (h : findMarker script = some p) :
    ∃ lead t, script = lead ++ Opcode.opReturn :: t ∧ p = lead.length ∧
      Clear Chunk.isMarker lead := by
  obtain ⟨lead, op, t, hs, hp, hclear, htest⟩ := exists_of_seekFrom_eq_some h
  obtain rfl : op = Opcode.opReturn := by simpa using htest
  exact ⟨lead, t, hs, by rw [hp, Nat.zero_add], hclear⟩

theorem exists_of_findDelimiter_eq_some {s : Bytes} {p : Nat} (h : findDelimiter s = some p) :
    ∃ payload t, s = payload ++ (Chunk.delimiter ++ t) ∧ p = payload.length ∧
      Clear Chunk.isDelimiter payload := by
  obtain ⟨payload, op, t, hs, hp, hclear, htest⟩ := exists_of_seekFrom_eq_some h
  obtain ⟨t', ht⟩ := Step.isDelimiter_read_iff.mp htest
  exact ⟨payload, t', by rw [hs, ht], by rw [hp, Nat.zero_add], hclear⟩

theorem unmet_or_exists_delimiter (s : Bytes) :
    Unmet Chunk.isDelimiter s ∨
      ∃ payload t, s = payload ++ (Chunk.delimiter ++ t) ∧ Clear Chunk.isDelimiter payload := by
  cases h : findDelimiter s with
  | none => exact Or.inl (findDelimiter_eq_none_iff.mp h)
  | some p =>
    obtain ⟨payload, t, hs, -, hclear⟩ := exists_of_findDelimiter_eq_some h
    exact Or.inr ⟨payload, t, hs, hclear⟩

/-! ## Scanning entry by entry -/

/-- A property passes to all scripts if it holds of those with no delimiter behind their tag, and
passes from what follows the first such delimiter to the whole. -/
theorem scanInduction {motive : Bytes → Prop} (nil : motive [])
    (last : ∀ op s, Unmet Chunk.isDelimiter (Step.read op s).rest → motive (op :: s))
    (more : ∀ op s payload t, (Step.read op s).rest = payload ++ (Chunk.delimiter ++ t) →
      Clear Chunk.isDelimiter payload → motive t → motive (op :: s)) (script : Bytes) :
    motive script := by
  induction hn : script.length using Nat.strongRecOn generalizing script with
  | ind n ih =>
    cases script with
    | nil => exact nil
    | cons op s =>
      rcases unmet_or_exists_delimiter (Step.read op s).rest with
        hunmet | ⟨payload, t, hrest, hclear⟩
      · exact last op s hunmet
      · have hlt : t.length < n := by
          have := Step.size_add_rest op s
          simp only [hrest, List.length_append, List.length_cons] at this hn
          have := Step.size_read_pos op s
          omega
        exact more op s payload t hrest hclear (ih _ hlt _ rfl)

namespace Entry

@[simp] theorem scanFrom_nil (offset : Nat) (acc : List Entry) :
    scanFrom offset acc [] = acc.reverse := by
  rw [scanFrom]

theorem scanFrom_last {op : UInt8} {s : Bytes} (offset : Nat) (acc : List Entry)
    (h : Unmet Chunk.isDelimiter (Step.read op s).rest) :
    scanFrom offset acc (op :: s) =
      acc.reverse ++ [⟨(Step.read op s).chunk.data, (Step.read op s).rest, offset⟩] := by
  rw [scanFrom, findDelimiter_eq_none_iff.mpr h, List.reverse_cons]

theorem scanFrom_more {op : UInt8} {s payload t : Bytes} (offset : Nat) (acc : List Entry)
    (h : (Step.read op s).rest = payload ++ (Chunk.delimiter ++ t))
    (hclear : Clear Chunk.isDelimiter payload) :
    scanFrom offset acc (op :: s) =
      scanFrom (offset + (Step.read op s).size + payload.length + Chunk.delimiter.length)
        (⟨(Step.read op s).chunk.data, payload, offset⟩ :: acc) t := by
  rw [scanFrom, h, findDelimiter_append hclear]
  dsimp only
  rw [List.take_left, ← List.drop_drop, List.drop_left, List.drop_left]

theorem scanFrom_acc (offset : Nat) (acc : List Entry) (s : Bytes) :
    scanFrom offset acc s = acc.reverse ++ scanFrom offset [] s := by
  induction s using scanInduction generalizing offset acc with
  | nil => simp
  | last op s hunmet =>
    rw [scanFrom_last _ _ hunmet, scanFrom_last _ _ hunmet]
    rfl
  | more op s payload t hrest hclear ih =>
    rw [scanFrom_more _ _ hrest hclear, scanFrom_more _ _ hrest hclear, ih, ih _ [_]]
    simp

end Entry

/-- How scanning splits a script from an offset on. -/
inductive Splits (script : Bytes) : Nat → List Entry → Prop
  | done {offset : Nat} (bytes : script.drop offset = []) : Splits script offset []
  | last {offset : Nat} {op : UInt8} {s : Bytes} (bytes : script.drop offset = op :: s)
      (unmet : Unmet Chunk.isDelimiter (Step.read op s).rest) :
      Splits script offset [⟨(Step.read op s).chunk.data, (Step.read op s).rest, offset⟩]
  | more {offset : Nat} {op : UInt8} {s payload t : Bytes} {entries : List Entry}
      (bytes : script.drop offset = op :: s)
      (rest : (Step.read op s).rest = payload ++ (Chunk.delimiter ++ t))
      (clear : Clear Chunk.isDelimiter payload)
      (next : Splits script
        (offset + (Step.read op s).size + payload.length + Chunk.delimiter.length) entries) :
      Splits script offset (⟨(Step.read op s).chunk.data, payload, offset⟩ :: entries)

theorem drop_behind_delimiter {script s payload t : Bytes} {offset : Nat} {op : UInt8}
    (hbytes : script.drop offset = op :: s)
    (hrest : (Step.read op s).rest = payload ++ (Chunk.delimiter ++ t)) :
    script.drop (offset + (Step.read op s).size + payload.length + Chunk.delimiter.length) = t := by
  rw [← List.drop_drop, ← List.drop_drop, ← List.drop_drop, hbytes, ← Step.rest_read, hrest,
    List.drop_left, List.drop_left]

theorem splits_scanFrom (script : Bytes) (offset : Nat) :
    Splits script offset (Entry.scanFrom offset [] (script.drop offset)) := by
  generalize hbytes : script.drop offset = bytes
  induction bytes using scanInduction generalizing offset with
  | nil =>
    rw [Entry.scanFrom_nil]
    exact .done hbytes
  | last op s hunmet =>
    rw [Entry.scanFrom_last _ _ hunmet]
    exact .last hbytes hunmet
  | more op s payload t hrest hclear ih =>
    rw [Entry.scanFrom_more _ _ hrest hclear, Entry.scanFrom_acc]
    exact .more hbytes hrest hclear (ih _ (drop_behind_delimiter hbytes hrest))

/-! ## Envelopes -/

namespace Envelope

theorem scan_eq_none_iff {script : Bytes} :
    scan script = none ↔ Unmet Chunk.isMarker script := by
  rw [scan, Option.map_eq_none_iff, findMarker_eq_none_iff]

theorem drop_behind_marker (lead s : Bytes) :
    (lead ++ Opcode.opReturn :: s).drop (lead.length + 1) = s := by
  rw [List.drop_length_add_append]
  rfl

theorem scan_append {lead : Bytes} (h : Clear Chunk.isMarker lead) (s : Bytes) :
    scan (lead ++ Opcode.opReturn :: s) =
      some ⟨lead, Entry.scanFrom (lead.length + 1) [] s⟩ := by
  rw [scan, findMarker_append h, Option.map_some, List.take_left, drop_behind_marker]

/-- An envelope has a clear lead, and scanning splits the script behind the marker. -/
theorem split_of_scan_eq_some {script : Bytes} {envelope : Envelope}
    (h : scan script = some envelope) :
    Clear Chunk.isMarker envelope.lead ∧
      script = envelope.lead ++ Opcode.opReturn :: script.drop (envelope.lead.length + 1) ∧
      Splits script (envelope.lead.length + 1) envelope.entries := by
  obtain ⟨p, hmarker, -⟩ := Option.map_eq_some_iff.mp h
  obtain ⟨lead, s, rfl, -, hclear⟩ := exists_of_findMarker_eq_some hmarker
  rw [scan_append hclear] at h
  obtain rfl := Option.some.inj h
  have hsplit := splits_scanFrom (lead ++ Opcode.opReturn :: s) (lead.length + 1)
  rw [drop_behind_marker] at hsplit ⊢
  exact ⟨hclear, rfl, hsplit⟩

end Envelope
end OpReturn
