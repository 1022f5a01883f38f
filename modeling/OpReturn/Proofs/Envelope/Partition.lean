import OpReturn.Proofs.Envelope.Scan

/-!
# Scanning partitions a script

The envelope of a script accounts for every byte of it: what stands before the marker, the marker,
and then the bytes of each tag and payload with a delimiter between any two entries. Only one
delimiter after the last entry may be left over.

* `Splits.joined_bytes`, `Splits.offsets`: what holds of the entries wherever scanning starts.
* `partitions_of_scan_eq_some`: an envelope partitions the script it was scanned from.
* `scan_partition`: a script has no envelope, or its envelope partitions it.
-/

namespace OpReturn

/-! ## Parts with delimiters between them -/

/-- Several parts with a delimiter between any two. -/
def joined (parts : List Bytes) : Bytes := (parts.intersperse Chunk.delimiter).flatten

/-- Where each of several parts starts that are joined from an offset on. -/
def starts (offset : Nat) : List Bytes → List Nat
  | [] => []
  | part :: parts => offset :: starts (offset + part.length + Chunk.delimiter.length) parts

@[simp] theorem joined_nil : joined [] = [] := rfl

@[simp] theorem joined_singleton (part : Bytes) : joined [part] = part := by
  simp [joined]

theorem joined_cons {parts : List Bytes} (part : Bytes) (h : parts ≠ []) :
    joined (part :: parts) = part ++ (Chunk.delimiter ++ joined parts) := by
  cases parts with
  | nil => exact absurd rfl h
  | cons p parts => simp [joined, List.intersperse_cons_cons]

theorem joined_append {as bs : List Bytes} (ha : as ≠ []) (hb : bs ≠ []) :
    joined (as ++ bs) = joined as ++ (Chunk.delimiter ++ joined bs) := by
  induction as with
  | nil => exact absurd rfl ha
  | cons a as ih =>
    rw [List.cons_append, joined_cons a (by simp [hb])]
    by_cases hnil : as = []
    · subst hnil
      simp
    · rw [ih hnil, joined_cons a hnil, List.append_assoc, List.append_assoc]

theorem le_of_mem_starts {offset p : Nat} {parts : List Bytes} (h : p ∈ starts offset parts) :
    offset ≤ p := by
  induction parts generalizing offset with
  | nil => simp [starts] at h
  | cons part parts ih =>
    rcases List.mem_cons.mp h with rfl | h
    · exact Nat.le_refl _
    · have := ih h
      omega

theorem starts_increasing (offset : Nat) (parts : List Bytes) :
    (starts offset parts).Pairwise (· < ·) := by
  induction parts generalizing offset with
  | nil => exact .nil
  | cons part parts ih =>
    refine .cons (fun p hp => ?_) (ih _)
    have := le_of_mem_starts hp
    have : Chunk.delimiter.length = 2 := rfl
    omega

/-! ## The bytes of an entry -/

/-- The bytes that reading takes up at the offset of an entry. -/
def Entry.tagPush (script : Bytes) (entry : Entry) : Bytes :=
  match readOp script entry.offset .lenient with
  | .ok step => (script.drop entry.offset).take step.size
  | .error _ => []

/-- The bytes of an entry in the script it was scanned from. -/
def Entry.bytes (script : Bytes) (entry : Entry) : Bytes := entry.tagPush script ++ entry.payload

theorem tagPush_eq {script s : Bytes} {op : UInt8} (entry : Entry)
    (h : script.drop entry.offset = op :: s) :
    entry.tagPush script = (op :: s).take (Step.read op s).size := by
  rw [Entry.tagPush, Step.readOp_lenient_iff.mpr ⟨op, s, h, rfl⟩, h]

theorem tagPush_append_rest {script s : Bytes} {op : UInt8} (entry : Entry)
    (h : script.drop entry.offset = op :: s) :
    entry.tagPush script ++ (Step.read op s).rest = op :: s := by
  rw [tagPush_eq entry h, ← Step.split_read]

theorem length_tagPush {script s : Bytes} {op : UInt8} (entry : Entry)
    (h : script.drop entry.offset = op :: s) :
    (entry.tagPush script).length = (Step.read op s).size := by
  have := Step.size_add_rest op s
  rw [tagPush_eq entry h, List.length_take, List.length_cons]
  omega

namespace Splits

variable {script : Bytes} {offset : Nat} {entries : List Entry}

/-! ## What holds of every split -/

theorem eq_nil_iff (h : Splits script offset entries) :
    entries = [] ↔ script.drop offset = [] := by
  cases h with
  | done hbytes => simp [hbytes]
  | last hbytes hunmet => simp [hbytes]
  | more hbytes hrest hclear next => simp [hbytes]

theorem exists_read (h : Splits script offset entries) {entry : Entry} (he : entry ∈ entries) :
    ∃ op s, script.drop entry.offset = op :: s ∧ (Step.read op s).chunk.data = entry.tag := by
  induction h with
  | done hbytes => simp at he
  | last hbytes hunmet =>
    obtain rfl := List.mem_singleton.mp he
    exact ⟨_, _, hbytes, rfl⟩
  | more hbytes hrest hclear next ih =>
    rcases List.mem_cons.mp he with rfl | he
    · exact ⟨_, _, hbytes, rfl⟩
    · exact ih he

theorem tag (h : Splits script offset entries) {entry : Entry} (he : entry ∈ entries) :
    ∃ step, readOp script entry.offset .lenient = .ok step ∧ step.chunk.data = entry.tag ∧
      entry.tagPush script = (script.drop entry.offset).take step.size := by
  obtain ⟨op, s, hdrop, htag⟩ := h.exists_read he
  refine ⟨_, Step.readOp_lenient_iff.mpr ⟨op, s, hdrop, rfl⟩, htag, ?_⟩
  rw [tagPush_eq _ hdrop, hdrop]

theorem joined_bytes (h : Splits script offset entries) :
    script.drop offset = joined (entries.map (·.bytes script)) ∨
      entries ≠ [] ∧ script.drop offset =
        joined (entries.map (·.bytes script)) ++ Chunk.delimiter := by
  induction h with
  | done hbytes => exact Or.inl hbytes
  | @last offset op s hbytes hunmet =>
    refine Or.inl ?_
    rw [hbytes, List.map_singleton, joined_singleton, Entry.bytes, tagPush_append_rest _ hbytes]
  | @more offset op s payload t entries hbytes hrest hclear next ih =>
    let entry : Entry := ⟨(Step.read op s).chunk.data, payload, offset⟩
    have htail := drop_behind_delimiter hbytes hrest
    have hhead : script.drop offset = entry.bytes script ++ (Chunk.delimiter ++ t) := by
      rw [hbytes, Entry.bytes, List.append_assoc, ← hrest]
      exact (tagPush_append_rest entry hbytes).symm
    rw [htail] at ih
    by_cases hnil : entries = []
    · subst hnil
      obtain rfl : t = [] := htail ▸ next.eq_nil_iff.mp rfl
      exact Or.inr ⟨by simp, by rw [hhead]; simp [entry]⟩
    · have hne : entries.map (·.bytes script) ≠ [] := by simpa using hnil
      rw [List.map_cons, joined_cons _ hne, hhead]
      rcases ih with ih | ⟨-, ih⟩
      · exact Or.inl (by rw [← ih])
      · exact Or.inr ⟨by simp, by rw [ih]; simp [entry]⟩

theorem offsets (h : Splits script offset entries) :
    entries.map (·.offset) = starts offset (entries.map (·.bytes script)) := by
  induction h with
  | done hbytes => rfl
  | last hbytes hunmet => rfl
  | @more offset op s payload t entries hbytes hrest hclear next ih =>
    let entry : Entry := ⟨(Step.read op s).chunk.data, payload, offset⟩
    have hlen : (entry.bytes script).length = (Step.read op s).size + payload.length := by
      rw [Entry.bytes, List.length_append, length_tagPush entry hbytes]
    rw [List.map_cons, List.map_cons, starts, hlen, ih, Nat.add_assoc offset]

theorem clear_dropLast (h : Splits script offset entries) {entry : Entry}
    (he : entry ∈ entries.dropLast) : Clear Chunk.isDelimiter entry.payload := by
  induction h with
  | done hbytes => simp at he
  | last hbytes hunmet => simp at he
  | @more offset op s payload t entries hbytes hrest hclear next ih =>
    cases entries with
    | nil => simp at he
    | cons e entries =>
      rw [List.dropLast_cons_cons] at he
      rcases List.mem_cons.mp he with rfl | he
      · exact hclear
      · exact ih he

theorem unmet (h : Splits script offset entries) {entry : Entry} (he : entry ∈ entries) :
    Unmet Chunk.isDelimiter entry.payload := by
  induction h with
  | done hbytes => simp at he
  | last hbytes hunmet =>
    obtain rfl := List.mem_singleton.mp he
    exact hunmet
  | more hbytes hrest hclear next ih =>
    rcases List.mem_cons.mp he with rfl | he
    · exact hclear.unmet
    · exact ih he

end Splits

/-! ## The partition -/

namespace Envelope

/-- The bytes that an envelope accounts for in the script it was scanned from. -/
def body (script : Bytes) (envelope : Envelope) : Bytes :=
  envelope.lead ++ Opcode.opReturn :: joined (envelope.entries.map (·.bytes script))

/-- The envelope partitions the script. -/
structure Partitions (script : Bytes) (envelope : Envelope) : Prop where
  /-- The bytes before the marker parse strictly and hold no marker. -/
  lead : Clear Chunk.isMarker envelope.lead
  /-- No byte is lost; one delimiter may follow the last entry. -/
  bytes : script = envelope.body script ∨
    envelope.entries ≠ [] ∧ script = envelope.body script ++ Chunk.delimiter
  /-- There are no entries exactly if nothing follows the marker. -/
  empty : envelope.entries = [] ↔ script = envelope.lead ++ [Opcode.opReturn]
  /-- The tag of an entry is what reading gives at its offset. -/
  tag : ∀ entry ∈ envelope.entries, ∃ step, readOp script entry.offset .lenient = .ok step ∧
    step.chunk.data = entry.tag ∧
    entry.tagPush script = (script.drop entry.offset).take step.size
  /-- The offset of an entry is where its bytes start. -/
  offsets : envelope.entries.map (·.offset) =
    starts (envelope.lead.length + 1) (envelope.entries.map (·.bytes script))
  increasing : (envelope.entries.map (·.offset)).Pairwise (· < ·)
  behind : ∀ entry ∈ envelope.entries, envelope.lead.length < entry.offset
  whole : ∀ entry ∈ envelope.entries.dropLast, Whole entry.payload
  unmet : ∀ entry ∈ envelope.entries, Unmet Chunk.isDelimiter entry.payload

theorem partitions_of_scan_eq_some {script : Bytes} {envelope : Envelope}
    (h : scan script = some envelope) : envelope.Partitions script := by
  obtain ⟨hclear, hscript, hsplit⟩ := split_of_scan_eq_some h
  refine ⟨hclear, ?_, ?_, fun entry => hsplit.tag, hsplit.offsets, ?_, ?_, ?_,
    fun entry => hsplit.unmet⟩
  · rcases hsplit.joined_bytes with hjoin | ⟨hne, hjoin⟩
    · left
      rw [body, ← hjoin, ← hscript]
    · right
      refine ⟨hne, ?_⟩
      rw [body, List.append_assoc, List.cons_append, ← hjoin, ← hscript]
  · rw [hsplit.eq_nil_iff]
    constructor
    · intro hnil
      rw [hnil] at hscript
      exact hscript
    · intro hnil
      rw [hnil, ← List.drop_drop, List.drop_left]
      rfl
  · rw [hsplit.offsets]
    exact starts_increasing _ _
  · intro entry he
    have hmem := List.mem_map_of_mem (f := (·.offset)) he
    rw [hsplit.offsets] at hmem
    exact le_of_mem_starts hmem
  · exact fun entry he => (hsplit.clear_dropLast he).whole

/-- **A script has no marker on its lenient walk and no envelope, or its envelope partitions
it.** -/
theorem scan_partition (script : Bytes) :
    (scan script = none ∧ ∀ located ∈ walk script, located.2.chunk.op ≠ Opcode.opReturn) ∨
      ∃ envelope, scan script = some envelope ∧
        (∃ located ∈ walk script, located.2.chunk.op = Opcode.opReturn) ∧
        envelope.Partitions script := by
  cases h : scan script with
  | none =>
    refine Or.inl ⟨rfl, fun located hmem hop => ?_⟩
    have := scan_eq_none_iff.mp h located hmem
    simp [Chunk.isMarker, hop] at this
  | some envelope =>
    refine Or.inr ⟨envelope, rfl, ?_, partitions_of_scan_eq_some h⟩
    by_contra hnone
    have hunmet : Unmet Chunk.isMarker script := by
      intro located hmem
      rw [Chunk.isMarker, decide_eq_false_iff_not]
      exact fun hop => hnone ⟨located, hmem, hop⟩
    rw [scan_eq_none_iff.mpr hunmet] at h
    exact nomatch h

end Envelope
end OpReturn
