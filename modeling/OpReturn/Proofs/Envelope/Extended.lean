import OpReturn.Proofs.Envelope.RoundTrip
import OpReturn.Proofs.Script.Pushes

/-!
# Scripts that go on

If the lead holds no marker and no payload holds a delimiter, then what was built scans to what it
was built from. The same entries are found, at the same offsets, when the script goes on behind a
delimiter, whatever the bytes are that follow it: a reader comes to them only after the last of
these entries.

* `Envelope.scan_of_build`: a built script.
* `Envelope.scan_of_build_append`: a built script that goes on.
* `Envelope.exists_scan_cut`: a built script in which an entry holds a delimiter.
* `Envelope.build_split`: a payload that holds a delimiter and a tag is written as two entries are.
-/

namespace OpReturn

theorem separable_of_clear {lead : Bytes} {entries : List Entry} (hlead : Clear Chunk.isMarker lead)
    (hpayloads : ∀ entry ∈ entries, Clear Chunk.isDelimiter entry.payload) :
    Separable lead (entries.map (·.payload)) := by
  rw [← List.forall_mem_map] at hpayloads
  exact ⟨hlead, fun payload hmem => hpayloads payload (List.dropLast_subset _ hmem),
    fun payload hmem => (hpayloads payload (List.mem_of_getLast? hmem)).unmet⟩

theorem scanFrom_joined_append {entries : List Entry} (hne : entries ≠ [])
    (htags : ∀ entry ∈ entries, entry.tag.length ≤ maxPush)
    (hpayloads : ∀ entry ∈ entries, Clear Chunk.isDelimiter entry.payload) (offset : Nat)
    (t : Bytes) :
    Entry.scanFrom offset [] (joined (entries.map Entry.encoded) ++ (Chunk.delimiter ++ t)) =
      placed offset entries ++ Entry.scanFrom
        (offset + (joined (entries.map Entry.encoded)).length + Chunk.delimiter.length) [] t := by
  induction entries generalizing offset with
  | nil => exact absurd rfl hne
  | cons entry entries ih =>
    obtain ⟨htag, htags⟩ := List.forall_mem_cons.mp htags
    obtain ⟨hclear, hpayloads⟩ := List.forall_mem_cons.mp hpayloads
    obtain ⟨op, body, hpush, hread⟩ := read_pushBytes htag
    have hsize : (pushBytes entry.tag).length + entry.payload.length = entry.encoded.length := by
      rw [Entry.encoded, List.length_append]
    -- The first entry ends at its delimiter, whatever stands behind that.
    have hfirst (rest : Bytes) : Entry.scanFrom offset []
        (entry.encoded ++ (Chunk.delimiter ++ rest)) = { entry with offset } ::
          Entry.scanFrom (offset + entry.encoded.length + Chunk.delimiter.length) [] rest := by
      rw [Entry.encoded, hpush, List.cons_append, List.cons_append, List.append_assoc,
        Entry.scanFrom_more _ _ (by rw [hread]) hclear, hread, Entry.scanFrom_acc,
        Nat.add_assoc offset, hsize, ← List.cons_append, ← hpush, ← Entry.encoded]
      rfl
    rw [List.map_cons, placed_cons, List.cons_append]
    by_cases hnil : entries = []
    · subst hnil
      rw [List.map_nil, joined_singleton, hfirst]
      rfl
    · rw [joined_cons _ (by simpa using hnil), List.append_assoc, List.append_assoc, hfirst,
        ih hnil htags hpayloads]
      simp only [List.length_append, Nat.add_assoc]

namespace Envelope

theorem build_eq_ok_iff {lead script : Bytes} {entries : List Entry} (hne : entries ≠ []) :
    build lead entries = .ok script ↔ (∀ entry ∈ entries, entry.tag.length ≤ maxPush) ∧
      script = lead ++ Opcode.opReturn :: joined (entries.map Entry.encoded) := by
  have hempty : ¬ entries.isEmpty = true := by rwa [List.isEmpty_iff]
  constructor
  · intro h
    have htags : ∀ entry ∈ entries, entry.tag.length ≤ maxPush := by
      rw [build, if_neg hempty] at h
      obtain ⟨parts, hparts, -⟩ := map_eq_ok_iff.mp h
      intro entry hmem
      obtain ⟨part, -, hencode⟩ := exists_of_forall₂ (mapM_eq_ok_iff.mp hparts) hmem
      obtain ⟨push, hpush, -⟩ := map_eq_ok_iff.mp hencode
      exact (encodePush_eq_ok_iff.mp hpush).1
    exact ⟨htags, (Except.ok.inj ((build_eq lead hne htags).symm.trans h)).symm⟩
  · rintro ⟨htags, rfl⟩
    exact build_eq lead hne htags

section Clear

variable {lead script : Bytes} {entries : List Entry}

theorem scan_of_build (hlead : Clear Chunk.isMarker lead) (hne : entries ≠ [])
    (hpayloads : ∀ entry ∈ entries, Clear Chunk.isDelimiter entry.payload)
    (hbuild : build lead entries = .ok script) :
    scan script = some ⟨lead, placed (lead.length + 1) entries⟩ := by
  obtain ⟨htags, rfl⟩ := (build_eq_ok_iff hne).mp hbuild
  exact scan_joined (separable_of_clear hlead hpayloads) htags

theorem exists_scan_of_build (hlead : Clear Chunk.isMarker lead) (hne : entries ≠ [])
    (hpayloads : ∀ entry ∈ entries, Clear Chunk.isDelimiter entry.payload)
    (hbuild : build lead entries = .ok script) :
    ∃ envelope, scan script = some envelope ∧ envelope.lead = lead ∧
      envelope.entries.map Entry.content = entries.map Entry.content :=
  ⟨_, scan_of_build hlead hne hpayloads hbuild, rfl, content_placed _ _⟩

/-- **A built script scans to the same entries when it goes on behind a delimiter.** -/
theorem scan_of_build_append (hlead : Clear Chunk.isMarker lead) (hne : entries ≠ [])
    (hpayloads : ∀ entry ∈ entries, Clear Chunk.isDelimiter entry.payload)
    (hbuild : build lead entries = .ok script) (t : Bytes) :
    scan (script ++ (Chunk.delimiter ++ t)) =
      some ⟨lead, placed (lead.length + 1) entries ++
        Entry.scanFrom (script.length + Chunk.delimiter.length) [] t⟩ := by
  obtain ⟨htags, rfl⟩ := (build_eq_ok_iff hne).mp hbuild
  rw [List.append_assoc, List.cons_append, scan_append hlead,
    scanFrom_joined_append hne htags hpayloads]
  have hlen : lead.length + 1 + (joined (entries.map Entry.encoded)).length =
      (lead ++ Opcode.opReturn :: joined (entries.map Entry.encoded)).length := by
    rw [List.length_append, List.length_cons]
    omega
  rw [hlen]

theorem exists_build_cut {after : List Entry} {entry cut : Entry} {rest : Bytes}
    (hcut : entry.payload = cut.payload ++ (Chunk.delimiter ++ rest)) (htag : cut.tag = entry.tag)
    (hbuild : build lead (entries ++ entry :: after) = .ok script) :
    ∃ front t, build lead (entries ++ [cut]) = .ok front ∧
      script = front ++ (Chunk.delimiter ++ t) := by
  obtain ⟨htags, rfl⟩ := (build_eq_ok_iff (by simp)).mp hbuild
  have htags' : ∀ e ∈ entries ++ [cut], e.tag.length ≤ maxPush := by
    rw [List.forall_mem_append, List.forall_mem_cons] at htags
    rw [List.forall_mem_append, List.forall_mem_singleton, htag]
    exact ⟨htags.1, htags.2.1⟩
  obtain ⟨t, ht⟩ : ∃ t, joined ((entries ++ entry :: after).map Entry.encoded) =
      joined ((entries ++ [cut]).map Entry.encoded) ++ (Chunk.delimiter ++ t) := by
    have hencoded : entry.encoded = cut.encoded ++ (Chunk.delimiter ++ rest) := by
      rw [Entry.encoded, Entry.encoded, htag, hcut, List.append_assoc]
    clear htags htags' hbuild
    induction entries with
    | nil =>
      by_cases hnil : after = []
      · exact ⟨rest, by simpa [hnil] using hencoded⟩
      · refine ⟨rest ++ (Chunk.delimiter ++ joined (after.map Entry.encoded)), ?_⟩
        rw [List.nil_append, List.map_cons, joined_cons _ (by simpa using hnil), hencoded]
        simp
    | cons e entries ih =>
      obtain ⟨t, ht⟩ := ih
      refine ⟨t, ?_⟩
      rw [List.cons_append, List.map_cons, joined_cons _ (by simp), ht, List.cons_append,
        List.map_cons, joined_cons _ (by simp)]
      simp only [List.append_assoc]
  refine ⟨_, t, build_eq lead (by simp) htags', ?_⟩
  rw [ht, List.append_assoc, List.cons_append]

/-- **An entry that holds a delimiter is cut there.** What stands behind is found as later
entries. -/
theorem exists_scan_cut {after : List Entry} {entry cut : Entry} {rest : Bytes}
    (hlead : Clear Chunk.isMarker lead)
    (hpayloads : ∀ e ∈ entries ++ [cut], Clear Chunk.isDelimiter e.payload)
    (hcut : entry.payload = cut.payload ++ (Chunk.delimiter ++ rest)) (htag : cut.tag = entry.tag)
    (hbuild : build lead (entries ++ entry :: after) = .ok script) :
    ∃ envelope later, scan script = some envelope ∧
      envelope.entries.map Entry.content = (entries ++ cut :: later).map Entry.content := by
  obtain ⟨front, t, hfront, rfl⟩ := exists_build_cut hcut htag hbuild
  refine ⟨_, Entry.scanFrom (front.length + Chunk.delimiter.length) [] t,
    scan_of_build_append hlead (by simp) hpayloads hfront t, ?_⟩
  rw [List.map_append, content_placed, ← List.map_append, ← List.append_cons]

theorem build_split {tag tag' a b : Bytes} (htag' : tag'.length ≤ maxPush)
    (hbuild : build lead
      (entries ++ [⟨tag, a ++ (Chunk.delimiter ++ (pushBytes tag' ++ b)), 0⟩]) = .ok script) :
    build lead (entries ++ [⟨tag, a, 0⟩, ⟨tag', b, 0⟩]) = .ok script := by
  obtain ⟨htags, rfl⟩ := (build_eq_ok_iff (by simp)).mp hbuild
  obtain ⟨htags, htag⟩ := List.forall_mem_append.mp htags
  rw [List.forall_mem_singleton] at htag
  refine (build_eq_ok_iff (by simp)).mpr ⟨List.forall_mem_append.mpr ⟨htags, ?_⟩, ?_⟩
  · simpa using ⟨htag, htag'⟩
  · have hlast : joined [(⟨tag, a, 0⟩ : Entry).encoded, (⟨tag', b, 0⟩ : Entry).encoded] =
        (⟨tag, a ++ (Chunk.delimiter ++ (pushBytes tag' ++ b)), 0⟩ : Entry).encoded := by
      rw [joined_cons _ (by simp), joined_singleton]
      simp only [Entry.encoded, List.append_assoc]
    by_cases hnil : entries = []
    · subst hnil
      simpa using hlast.symm
    · have hmap : entries.map Entry.encoded ≠ [] := by simpa using hnil
      simp only [List.map_append, List.map_cons, List.map_nil]
      rw [joined_append hmap (by simp), joined_append hmap (by simp), hlast, joined_singleton]

end Clear

end Envelope

end OpReturn
