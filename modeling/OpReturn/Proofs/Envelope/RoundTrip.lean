import OpReturn.Proofs.Envelope.Partition
import OpReturn.Proofs.Script.Push

/-!
# Building and scanning

Payloads are written as they are, so scanning gives back what was built only if no payload runs
into what follows it or holds a delimiter of its own, and the lead holds no marker. This is the
exact condition (`Separable`): the last payload alone may be cut short, as nothing follows it.

**Theorem (`scan_build_iff`).** Scanning a built script gives the lead, the tags and the payloads
that it was built from if and only if they are separable; the script then goes on from the offset
of each entry with that entry and those after it.

**Theorem (`toScript_scan`).** Building the envelope of a script gives the script back if and only
if there are entries, their tags stand in it in shortest form and no delimiter is left over.
Otherwise what is built is a normal form: it scans to the same contents and builds to itself.
-/

namespace OpReturn

/-! ## The bytes that building writes -/

/-- What an entry holds, apart from where it stands. -/
def Entry.content (entry : Entry) : Bytes × Bytes := (entry.tag, entry.payload)

/-- The push of the tag of an entry and its payload. -/
def Entry.encoded (entry : Entry) : Bytes := pushBytes entry.tag ++ entry.payload

theorem Entry.encode_eq {entry : Entry} (h : entry.tag.length ≤ maxPush) :
    entry.encode = .ok entry.encoded := by
  rw [Entry.encode, encodePush_eq h]
  rfl

theorem mapM_encode {entries : List Entry} (h : ∀ entry ∈ entries, entry.tag.length ≤ maxPush) :
    entries.mapM Entry.encode = .ok (entries.map Entry.encoded) := by
  induction entries with
  | nil => rfl
  | cons entry entries ih =>
    obtain ⟨hhead, htail⟩ := List.forall_mem_cons.mp h
    rw [List.mapM_cons, Entry.encode_eq hhead, ih htail]
    rfl

namespace Envelope

theorem build_nil (lead : Bytes) : build lead [] = .ok lead := rfl

theorem build_eq {entries : List Entry} (lead : Bytes) (hne : entries ≠ [])
    (h : ∀ entry ∈ entries, entry.tag.length ≤ maxPush) :
    build lead entries = .ok (lead ++ Opcode.opReturn :: joined (entries.map Entry.encoded)) := by
  have hempty : ¬ entries.isEmpty = true := by rwa [List.isEmpty_iff]
  rw [build, if_neg hempty, mapM_encode h]
  rfl

theorem build_congr {a b : List Entry} (lead : Bytes)
    (h : a.map Entry.content = b.map Entry.content) : build lead a = build lead b := by
  have hempty : a.isEmpty = b.isEmpty := by
    rw [← List.isEmpty_map (f := Entry.content), h, List.isEmpty_map]
  have hparts (entries : List Entry) : entries.mapM Entry.encode =
      (entries.map Entry.content).mapM fun c => (encodePush c.1).map (· ++ c.2) := by
    rw [List.mapM_map]
    rfl
  rw [build, build, hempty, hparts, h, ← hparts]

end Envelope

/-! ## Scanning what was built -/

/-- Scanning can tell the lead and the payloads apart in a script built from them. -/
structure Separable (lead : Bytes) (payloads : List Bytes) : Prop where
  /-- The lead parses strictly and holds no marker. -/
  lead : Clear Chunk.isMarker lead
  /-- Every payload but the last parses strictly and holds no delimiter. -/
  init : ∀ payload ∈ payloads.dropLast, Clear Chunk.isDelimiter payload
  /-- The walk of the last payload meets no delimiter. -/
  last : ∀ payload ∈ payloads.getLast?, Unmet Chunk.isDelimiter payload

/-- The entries, each at its offset. -/
def placed (offset : Nat) (entries : List Entry) : List Entry :=
  List.zipWith (fun entry offset => { entry with offset }) entries
    (starts offset (entries.map Entry.encoded))

theorem placed_cons (offset : Nat) (entry : Entry) (entries : List Entry) :
    placed offset (entry :: entries) = { entry with offset } ::
      placed (offset + entry.encoded.length + Chunk.delimiter.length) entries := rfl

theorem content_placed (offset : Nat) (entries : List Entry) :
    (placed offset entries).map Entry.content = entries.map Entry.content := by
  induction entries generalizing offset with
  | nil => rfl
  | cons entry entries ih =>
    rw [placed_cons, List.map_cons, List.map_cons, ih]
    rfl

theorem map_offset_placed (offset : Nat) (entries : List Entry) :
    (placed offset entries).map (·.offset) = starts offset (entries.map Entry.encoded) := by
  induction entries generalizing offset with
  | nil => rfl
  | cons entry entries ih =>
    rw [placed_cons, List.map_cons, ih]
    rfl

theorem scanFrom_joined {entries : List Entry}
    (htags : ∀ entry ∈ entries, entry.tag.length ≤ maxPush)
    (hinit : ∀ payload ∈ (entries.map (·.payload)).dropLast, Clear Chunk.isDelimiter payload)
    (hlast : ∀ payload ∈ (entries.map (·.payload)).getLast?, Unmet Chunk.isDelimiter payload)
    (offset : Nat) :
    Entry.scanFrom offset [] (joined (entries.map Entry.encoded)) = placed offset entries := by
  induction entries generalizing offset with
  | nil => simp [placed]
  | cons entry entries ih =>
    obtain ⟨htag, htags⟩ := List.forall_mem_cons.mp htags
    obtain ⟨op, body, hpush, hread⟩ := read_pushBytes htag
    cases entries with
    | nil =>
      have hunmet : Unmet Chunk.isDelimiter entry.payload := hlast _ rfl
      rw [List.map_singleton, joined_singleton, Entry.encoded, hpush, List.cons_append,
        Entry.scanFrom_last _ _ (by rwa [hread]), hread]
      rfl
    | cons next entries =>
      rw [List.map_cons, List.map_cons, List.dropLast_cons_cons, List.forall_mem_cons] at hinit
      rw [List.map_cons, List.map_cons, List.getLast?_cons_cons] at hlast
      obtain ⟨hclear, hinit⟩ := hinit
      have hsize : offset + (pushBytes entry.tag).length + entry.payload.length =
          offset + entry.encoded.length := by
        rw [Entry.encoded, List.length_append, Nat.add_assoc]
      rw [List.map_cons, joined_cons _ (by simp), Entry.encoded, hpush, List.cons_append,
        List.cons_append, List.append_assoc, Entry.scanFrom_more _ _ (by rw [hread]) hclear,
        hread, Entry.scanFrom_acc, ih htags hinit hlast, hsize, placed_cons]
      rfl

theorem drop_of_getElem?_starts {parts : List Bytes} {before : Bytes} {i p : Nat}
    (h : (starts before.length parts)[i]? = some p) :
    (before ++ joined parts).drop p = joined (parts.drop i) := by
  induction parts generalizing before i with
  | nil => simp [starts] at h
  | cons part parts ih =>
    cases i with
    | zero =>
      obtain rfl : before.length = p := Option.some.inj h
      exact List.drop_left
    | succ i =>
      have hne : parts ≠ [] := by
        rintro rfl
        simp [starts] at h
      have hbefore : before.length + part.length + Chunk.delimiter.length =
          (before ++ part ++ Chunk.delimiter).length := by
        rw [List.length_append, List.length_append]
      have h' : (starts (before ++ part ++ Chunk.delimiter).length parts)[i]? = some p := by
        rw [← hbefore]
        exact h
      rw [joined_cons _ hne, List.drop_succ_cons, ← ih h']
      simp only [List.append_assoc]

namespace Envelope

theorem scan_joined {lead : Bytes} {entries : List Entry}
    (h : Separable lead (entries.map (·.payload)))
    (htags : ∀ entry ∈ entries, entry.tag.length ≤ maxPush) :
    scan (lead ++ Opcode.opReturn :: joined (entries.map Entry.encoded)) =
      some ⟨lead, placed (lead.length + 1) entries⟩ := by
  rw [scan_append h.lead, scanFrom_joined htags h.init h.last]

theorem Partitions.separable {script : Bytes} {envelope : Envelope}
    (h : envelope.Partitions script) :
    Separable envelope.lead (envelope.entries.map (·.payload)) := by
  refine ⟨h.lead, ?_, ?_⟩
  · rw [← List.map_dropLast, List.forall_mem_map]
    intro entry he
    exact clear_iff.mpr ⟨h.whole entry he, h.unmet entry (List.dropLast_subset _ he)⟩
  · intro payload hp
    obtain ⟨entry, he, rfl⟩ := List.mem_map.mp (List.mem_of_getLast? hp)
    exact h.unmet entry he

theorem map_payload_of_content {a b : List Entry}
    (h : a.map Entry.content = b.map Entry.content) :
    a.map (·.payload) = b.map (·.payload) := by
  have := congrArg (List.map Prod.snd) h
  rwa [List.map_map, List.map_map] at this

/-- **Scanning a built script gives back what it was built from exactly if the lead and the
payloads are separable.** -/
theorem scan_build_iff (lead : Bytes) {entries : List Entry} (hne : entries ≠ [])
    (htags : ∀ entry ∈ entries, entry.tag.length ≤ maxPush) :
    ∃ script, build lead entries = .ok script ∧
      ((∃ envelope, scan script = some envelope ∧ envelope.lead = lead ∧
          envelope.entries.map Entry.content = entries.map Entry.content) ↔
        Separable lead (entries.map (·.payload))) ∧
      (Separable lead (entries.map (·.payload)) → ∀ envelope, scan script = some envelope →
        ∀ i entry, envelope.entries[i]? = some entry →
          script.drop entry.offset = joined ((entries.drop i).map Entry.encoded)) := by
  refine ⟨_, build_eq lead hne htags, ⟨?_, ?_⟩, ?_⟩
  · rintro ⟨envelope, hscan, rfl, hcontent⟩
    rw [← map_payload_of_content hcontent]
    exact (partitions_of_scan_eq_some hscan).separable
  · intro hsep
    exact ⟨_, scan_joined hsep htags, rfl, content_placed _ _⟩
  · intro hsep envelope hscan i entry hi
    rw [scan_joined hsep htags] at hscan
    obtain rfl := Option.some.inj hscan
    have hstart : (starts (lead ++ [Opcode.opReturn]).length
        (entries.map Entry.encoded))[i]? = some entry.offset := by
      rw [List.length_append, List.length_singleton, ← map_offset_placed, List.getElem?_map, hi]
      rfl
    have hdrop := drop_of_getElem?_starts hstart
    rwa [List.append_assoc, List.singleton_append, ← List.map_drop] at hdrop

/-- A separator as a tag, an empty tag and a last payload that is cut short all come back. -/
theorem scan_build_separator_tag :
    ∃ script, build [0x00] [⟨Chunk.separator, [0x01, 0x41], 0⟩, ⟨[], [0x02, 0x41], 0⟩] =
        .ok script ∧
      ∃ envelope, scan script = some envelope ∧ envelope.lead = [0x00] ∧
        envelope.entries.map Entry.content =
          [(Chunk.separator, [0x01, 0x41]), ([], [0x02, 0x41])] := by
  have hsep : Separable [0x00] [[0x01, 0x41], [0x02, 0x41]] :=
    ⟨⟨[⟨0x00, []⟩], by decide +kernel, by decide⟩,
      by simpa using ⟨[⟨0x01, [0x41]⟩], by decide +kernel, by decide⟩,
      by simpa using findDelimiter_eq_none_iff.mp (by decide +kernel)⟩
  have hne : ([⟨Chunk.separator, [0x01, 0x41], 0⟩, ⟨[], [0x02, 0x41], 0⟩] : List Entry) ≠ [] :=
    List.cons_ne_nil _ _
  obtain ⟨script, hbuild, hiff, -⟩ := scan_build_iff [0x00] hne (by decide)
  exact ⟨script, hbuild, hiff.mpr hsep⟩

end Envelope

/-! ## Shortest tags -/

section Parts

variable {α : Type} {f g : α → Bytes} {items : List α}

theorem length_joined_le (h : ∀ x ∈ items, (f x).length ≤ (g x).length) :
    (joined (items.map f)).length ≤ (joined (items.map g)).length := by
  induction items with
  | nil => exact Nat.le_refl _
  | cons x items ih =>
    obtain ⟨hx, h⟩ := List.forall_mem_cons.mp h
    by_cases hnil : items = []
    · subst hnil
      simpa using hx
    · have hf : items.map f ≠ [] := by simpa using hnil
      have hg : items.map g ≠ [] := by simpa using hnil
      rw [List.map_cons, List.map_cons, joined_cons _ hf, joined_cons _ hg]
      simp only [List.length_append]
      have := ih h
      omega

/-- If no part is longer than its counterpart and the joined bytes are the same, then so are the
parts: a difference in one part cannot be made up for by another. -/
theorem eq_of_joined_eq (h : ∀ x ∈ items, (f x).length ≤ (g x).length)
    (heq : joined (items.map f) = joined (items.map g)) : ∀ x ∈ items, f x = g x := by
  induction items with
  | nil => simp
  | cons x items ih =>
    obtain ⟨hx, h⟩ := List.forall_mem_cons.mp h
    rw [List.forall_mem_cons]
    by_cases hnil : items = []
    · subst hnil
      simpa using heq
    · have hf : items.map f ≠ [] := by simpa using hnil
      have hg : items.map g ≠ [] := by simpa using hnil
      rw [List.map_cons, List.map_cons, joined_cons _ hf, joined_cons _ hg] at heq
      have hlen := congrArg List.length heq
      have hrest := length_joined_le h
      simp only [List.length_append] at hlen
      obtain ⟨hhead, htail⟩ := List.append_inj heq (by omega)
      exact ⟨hhead, ih h (List.append_cancel_left htail)⟩

end Parts

namespace Envelope.Partitions

variable {script : Bytes} {envelope : Envelope}

theorem length_tag_le (h : envelope.Partitions script) {entry : Entry}
    (he : entry ∈ envelope.entries) : entry.tag.length ≤ maxPush := by
  obtain ⟨step, hread, htag, -⟩ := h.tag entry he
  obtain ⟨op, s, -, rfl⟩ := Step.readOp_lenient_iff.mp hread
  rw [← htag]
  exact Step.length_data_read op s

theorem length_encoded_le (h : envelope.Partitions script) {entry : Entry}
    (he : entry ∈ envelope.entries) : entry.encoded.length ≤ (entry.bytes script).length := by
  obtain ⟨step, hread, htag, -⟩ := h.tag entry he
  obtain ⟨op, s, hdrop, rfl⟩ := Step.readOp_lenient_iff.mp hread
  rw [Entry.encoded, Entry.bytes, List.length_append, List.length_append, length_tagPush _ hdrop,
    ← htag]
  exact Nat.add_le_add_right (Step.length_pushBytes_le op s) _

theorem toScript_eq (h : envelope.Partitions script) (hne : envelope.entries ≠ []) :
    envelope.toScript = .ok (envelope.lead ++ Opcode.opReturn ::
      joined (envelope.entries.map Entry.encoded)) :=
  build_eq _ hne fun _ => h.length_tag_le

theorem shortest_iff (h : envelope.Partitions script) {entry : Entry}
    (he : entry ∈ envelope.entries) :
    encodePush entry.tag = .ok (entry.tagPush script) ↔ entry.encoded = entry.bytes script := by
  rw [encodePush_eq (h.length_tag_le he), Entry.encoded, Entry.bytes, List.append_cancel_right_eq,
    Except.ok.injEq]

theorem joined_encoded_eq_iff (h : envelope.Partitions script) :
    envelope.lead ++ Opcode.opReturn :: joined (envelope.entries.map Entry.encoded) = script ↔
      (∀ entry ∈ envelope.entries, encodePush entry.tag = .ok (entry.tagPush script)) ∧
        script ≠ envelope.body script ++ Chunk.delimiter := by
  have hlen : ∀ entry ∈ envelope.entries, entry.encoded.length ≤ (entry.bytes script).length :=
    fun entry => h.length_encoded_le
  rcases h.bytes with hbody | ⟨-, hbody⟩
  · have hne : script ≠ envelope.body script ++ Chunk.delimiter := by
      rw [← hbody]
      simp [Chunk.delimiter]
    rw [and_iff_left hne]
    constructor
    · intro heq
      rw [hbody, body] at heq
      have hjoin := List.tail_eq_of_cons_eq (List.append_cancel_left heq)
      intro entry he
      exact (h.shortest_iff he).mpr (eq_of_joined_eq hlen hjoin entry he)
    · intro hshortest
      have hmap : envelope.entries.map Entry.encoded = envelope.entries.map (·.bytes script) :=
        List.map_congr_left fun entry he => (h.shortest_iff he).mp (hshortest entry he)
      rw [hmap]
      exact hbody.symm
  · constructor
    · intro heq
      -- The built script is no longer than the body, and a delimiter is left over.
      have hle : (joined (envelope.entries.map Entry.encoded)).length ≤
          (joined (envelope.entries.map (·.bytes script))).length := length_joined_le hlen
      have hsize := congrArg List.length (heq.trans hbody)
      simp only [body, List.length_append, List.length_cons] at hsize
      have : Chunk.delimiter.length = 2 := rfl
      omega
    · rintro ⟨-, hleft⟩
      exact absurd hbody hleft

theorem lead_ne (h : envelope.Partitions script) : script ≠ envelope.lead := by
  intro heq
  have hlen := congrArg List.length heq
  rcases h.bytes with hbody | ⟨-, hbody⟩ <;> rw [hbody, body] at hlen <;>
    simp only [List.length_append, List.length_cons] at hlen <;> omega

end Envelope.Partitions

namespace Envelope

/-- **Building the envelope of a script gives the script back exactly if it has entries, their
tags are pushed in shortest form and no delimiter is left over; and what is built from any
entries has the same contents and is built again from itself.** -/
theorem toScript_scan {script : Bytes} {envelope : Envelope}
    (h : scan script = some envelope) :
    (envelope.toScript = .ok script ↔
      envelope.entries ≠ [] ∧
      (∀ entry ∈ envelope.entries, encodePush entry.tag = .ok (entry.tagPush script)) ∧
      script ≠ envelope.body script ++ Chunk.delimiter) ∧
    (envelope.entries ≠ [] → ∃ script' envelope', envelope.toScript = .ok script' ∧
      scan script' = some envelope' ∧ envelope'.lead = envelope.lead ∧
      envelope'.entries.map Entry.content = envelope.entries.map Entry.content ∧
      envelope'.toScript = .ok script') := by
  have hpart := partitions_of_scan_eq_some h
  refine ⟨⟨fun hbuild => ?_, ?_⟩, fun hne => ?_⟩
  · have hne : envelope.entries ≠ [] := by
      intro hnil
      rw [toScript, hnil, build_nil] at hbuild
      exact hpart.lead_ne (Except.ok.inj hbuild).symm
    have hscript := Except.ok.inj ((hpart.toScript_eq hne).symm.trans hbuild)
    exact ⟨hne, hpart.joined_encoded_eq_iff.mp hscript⟩
  · rintro ⟨hne, hshortest⟩
    rw [hpart.toScript_eq hne, hpart.joined_encoded_eq_iff.mpr hshortest]
  · have hscan := scan_joined hpart.separable fun _ => hpart.length_tag_le
    have hcontent := content_placed (envelope.lead.length + 1) envelope.entries
    refine ⟨_, _, hpart.toScript_eq hne, hscan, rfl, hcontent, ?_⟩
    rw [toScript, build_congr _ hcontent]
    exact hpart.toScript_eq hne

/-- A tag in a longer push and a delimiter left over are not restored. -/
theorem toScript_scan_leftover :
    ∃ envelope, scan [0x6A, 0x4C, 0x01, 0x41, 0x51, 0x01, 0x7C] = some envelope ∧
      envelope.toScript ≠ .ok [0x6A, 0x4C, 0x01, 0x41, 0x51, 0x01, 0x7C] ∧
      ∃ script envelope', envelope.toScript = .ok script ∧ scan script = some envelope' ∧
        envelope'.entries.map Entry.content = envelope.entries.map Entry.content ∧
        envelope'.toScript = .ok script := by
  have hscan : scan [0x6A, 0x4C, 0x01, 0x41, 0x51, 0x01, 0x7C] =
      some ⟨[], [⟨[0x41], [0x51], 1⟩]⟩ := by decide +kernel
  obtain ⟨hiff, hnormal⟩ := toScript_scan hscan
  obtain ⟨script, envelope', hbuild, hscan', -, hcontent, hagain⟩ := hnormal (by simp)
  refine ⟨_, hscan, fun hsame => ?_, script, envelope', hbuild, hscan', hcontent, hagain⟩
  obtain ⟨-, -, hleft⟩ := hiff.mp hsame
  exact hleft (by decide +kernel)

end Envelope
end OpReturn
