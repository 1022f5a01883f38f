import OpReturn.Proofs.Envelope.Extended
import OpReturn.Proofs.Record.Covered

/-!
# Built scripts and what signatures cover in them

If the lead and the payloads hold no marker and no delimiter (`Plain`), then the only tags that the
search for the covered part meets are those of the entries. It passes all of a built script
(`Plain.tally`), and in a longer one it stops where that ended (`covered_append`). So a digest does
not change when the script of an output goes on (`messageHash_withScript`).
-/

namespace OpReturn

/-! ## Plain parts -/

/-- The lead and the payloads parse strictly and hold no marker and no delimiter. Tags may be any
bytes, also those of a separator. -/
structure Plain (lead : Bytes) (entries : List Entry) : Prop where
  lead : Clear Chunk.isBoundary lead
  payloads : ∀ entry ∈ entries, Clear Chunk.isBoundary entry.payload

theorem Plain.concat {lead : Bytes} {entries : List Entry} (h : Plain lead entries) {entry : Entry}
    (hpayload : Clear Chunk.isBoundary entry.payload) : Plain lead (entries ++ [entry]) where
  lead := h.lead
  payloads := List.forall_mem_append.mpr ⟨h.payloads, by simpa using hpayload⟩

theorem Clear.isDelimiter {s : Bytes} (h : Clear Chunk.isBoundary s) : Clear Chunk.isDelimiter s :=
  h.mono fun chunk htest => by simp [Chunk.isBoundary, htest]

theorem Clear.isMarker {s : Bytes} (h : Clear Chunk.isBoundary s) : Clear Chunk.isMarker s :=
  h.mono fun chunk htest => by
    simpa [Chunk.isBoundary, Chunk.isMarker] using Or.inl (of_decide_eq_true htest)

theorem Plain.isDelimiter {lead : Bytes} {entries : List Entry} (h : Plain lead entries) :
    ∀ entry ∈ entries, Clear Chunk.isDelimiter entry.payload :=
  fun entry hmem => (h.payloads entry hmem).isDelimiter

theorem clear_encodePushes {items : List Bytes} {s : Bytes} (h : encodePushes items = .ok s)
    (hitems : ∀ item ∈ items, item ≠ Chunk.separator) : Clear Chunk.isBoundary s := by
  obtain ⟨chunks, hparse, rfl, hops⟩ := parseAll_encodePushes h
  refine ⟨chunks, hparse, fun chunk hmem => ?_⟩
  have hdata : chunk.data ≠ Chunk.separator := hitems _ (List.mem_map_of_mem hmem)
  simp [Chunk.isBoundary, Chunk.isDelimiter, hops chunk hmem, hdata]

/-! ## Built scripts -/

/-- Joined entries have no tags to be counted but their own. -/
theorem tally_joined {entries : List Entry} (hne : entries ≠ [])
    (htags : ∀ entry ∈ entries, entry.tag.length ≤ maxPush)
    (hpayloads : ∀ entry ∈ entries, Clear Chunk.isBoundary entry.payload) (i : Nat) :
    Tally (markBefore i ++ joined (entries.map Entry.encoded))
      (entries.countP (·.tag = DetachedSignature.tag)) := by
  induction entries generalizing i with
  | nil => exact absurd rfl hne
  | cons entry entries ih =>
    obtain ⟨htag, htags⟩ := List.forall_mem_cons.mp htags
    obtain ⟨hpayload, hpayloads⟩ := List.forall_mem_cons.mp hpayloads
    have hhead : Tally (markBefore i ++ entry.encoded) (tagCount entry.tag) := by
      obtain ⟨chunk, hchunk, hdata, -⟩ := parseAll_pushBytes htag
      have := (tally_tag i hchunk).append (tally_of_clear hpayload)
      rwa [hdata, Nat.add_zero, List.append_assoc] at this
    have hcount : (entry :: entries).countP (·.tag = DetachedSignature.tag) =
        tagCount entry.tag + entries.countP (·.tag = DetachedSignature.tag) := by
      simp [List.countP_cons, tagCount, Nat.add_comm]
    rw [hcount, List.map_cons]
    by_cases hnil : entries = []
    · subst hnil
      simpa using hhead
    · have hjoined := hhead.append (ih hnil htags hpayloads 1)
      rw [joined_cons _ (by simpa using hnil)]
      simpa [markBefore] using hjoined

section Built

variable {lead script : Bytes} {entries : List Entry}

/-- **The tags that the search meets in a built script are those of its entries.** -/
theorem Plain.tally (h : Plain lead entries) (hne : entries ≠ [])
    (hbuild : Envelope.build lead entries = .ok script) :
    Tally script (entries.countP (·.tag = DetachedSignature.tag)) := by
  obtain ⟨htags, rfl⟩ := (Envelope.build_eq_ok_iff hne).mp hbuild
  have := (tally_of_clear h.lead).append (tally_joined hne htags h.payloads 0)
  rwa [Nat.zero_add] at this

theorem exists_build_append (lead : Bytes) {before after : List Entry} (hne : after ≠ [])
    (htags : ∀ entry ∈ before ++ after, entry.tag.length ≤ maxPush) :
    ∃ front, Envelope.build lead before = .ok front ∧ Envelope.build lead (before ++ after) =
      .ok (front ++ (markBefore before.length ++ joined (after.map Entry.encoded))) := by
  have hbuild := Envelope.build_eq lead (by simp [hne]) htags
  by_cases hnil : before = []
  · subst hnil
    exact ⟨lead, rfl, hbuild⟩
  · have hmark : markBefore before.length = Chunk.delimiter := by simp [markBefore, hnil]
    refine ⟨_, Envelope.build_eq lead hnil (List.forall_mem_append.mp htags).1, ?_⟩
    rw [hbuild, hmark, List.map_append, joined_append (by simpa using hnil) (by simpa using hne),
      List.append_assoc, List.cons_append]

theorem build_concat (hne : entries ≠ []) (hbuild : Envelope.build lead entries = .ok script)
    {entry : Entry} (htag : entry.tag.length ≤ maxPush) :
    Envelope.build lead (entries ++ [entry]) =
      .ok (script ++ (Chunk.delimiter ++ entry.encoded)) := by
  obtain ⟨htags, -⟩ := (Envelope.build_eq_ok_iff hne).mp hbuild
  have hall : ∀ e ∈ entries ++ [entry], e.tag.length ≤ maxPush :=
    List.forall_mem_append.mpr ⟨htags, by simpa using htag⟩
  obtain ⟨front, hfront, hlonger⟩ := exists_build_append lead (by simp) hall
  obtain rfl := Except.ok.inj (hfront.symm.trans hbuild)
  simpa [markBefore, hne] using hlonger

/-- What is built from plain parts can be read in pairs, with the tags of its entries, also if there
are none. -/
theorem Plain.tally_of_build (h : Plain lead entries)
    (hbuild : Envelope.build lead entries = .ok script) :
    Tally script (entries.countP (·.tag = DetachedSignature.tag)) := by
  by_cases hnil : entries = []
  · subst hnil
    obtain rfl := Except.ok.inj hbuild
    exact tally_of_clear h.lead
  · exact h.tally hnil hbuild

theorem find_of_content {envelope : Envelope} {entry : Entry}
    (h : envelope.entries.map Entry.content = (entries ++ [entry]).map Entry.content) :
    ∃ found, (envelope.find entry.tag)[entries.countP (·.tag = entry.tag)]? = some found ∧
      found.payload = entry.payload := by
  have hfilter (es : List Entry) : (es.filter (·.tag = entry.tag)).map Entry.content =
      (es.map Entry.content).filter (·.1 = entry.tag) := by
    rw [List.filter_map]
    rfl
  have hlen : (entries.filter (·.tag = entry.tag)).length =
      entries.countP (·.tag = entry.tag) := (List.countP_eq_length_filter ..).symm
  have hget : ((envelope.find entry.tag).map Entry.content)[
      entries.countP (·.tag = entry.tag)]? = some entry.content := by
    rw [Envelope.find, hfilter, h, ← hfilter, List.filter_append, List.map_append, ← hlen]
    simp
  rw [List.getElem?_map, Option.map_eq_some_iff] at hget
  obtain ⟨found, hfound, hcontent⟩ := hget
  exact ⟨found, hfound, congrArg Prod.snd hcontent⟩

theorem Plain.exists_find_concat (h : Plain lead entries) (hne : entries ≠ [])
    (hbuild : Envelope.build lead entries = .ok script) {entry : Entry}
    (htag : entry.tag.length ≤ maxPush) (hpayload : Clear Chunk.isBoundary entry.payload) :
    ∃ envelope found, Envelope.scan (script ++ (Chunk.delimiter ++ entry.encoded)) = some envelope ∧
      (envelope.find entry.tag)[entries.countP (·.tag = entry.tag)]? = some found ∧
      found.payload = entry.payload := by
  have hlonger := build_concat hne hbuild htag
  obtain ⟨envelope, hscan, -, hcontent⟩ := Envelope.exists_scan_of_build h.lead.isMarker
    (by simp) (h.concat hpayload).isDelimiter hlonger
  obtain ⟨found, hfound, hsame⟩ := find_of_content hcontent
  exact ⟨envelope, found, hscan, hfound, hsame⟩

end Built

/-! ## Covered parts -/

/-- A signature with the next free number covers the whole script. -/
theorem covered_whole {script : Bytes} {k : Nat} (h : Tally script k) :
    covered script k = script := by
  have hpasses : Passes script 0 (0 + script.length) k :=
    passes_tally h (List.append_nil script).symm
  rw [covered_eq_searchFrom, hpasses.go k 0 (by omega)]
  exact searchFrom_end (by simp) k _

theorem covered_append {script : Bytes} {k : Nat} (h : Tally script k) (payload : Bytes) :
    covered (script ++ (Chunk.delimiter ++ (pushBytes DetachedSignature.tag ++ payload))) k =
      script := by
  have htag : DetachedSignature.tag.length ≤ maxPush := by decide
  obtain ⟨op, body, hpush, hread⟩ := read_pushBytes htag
  rw [hpush, List.cons_append]
  exact (covered_eq_iff (i := 1) rfl h.whole (by rw [hread]) (by rw [hread]) k).mpr h

/-! ## Digests -/

/-- The transaction with another script in one of its outputs. -/
def Transaction.withScript (tx : Transaction) (o : Nat) (script : Bytes) : Transaction :=
  { tx with outputs := tx.outputs.modify o fun output => { output with script } }

theorem messageHash_of_output {tx : Transaction} {o : Nat} {output : TxOutput}
    (ho : tx.outputs[o]? = some output) (instanceIndex inputIndex : Int) :
    messageHash tx o instanceIndex inputIndex = (inputHash tx inputIndex o).map fun hash =>
      hash.map fun hash => sha256d (hash ++ sha256 (covered output.script instanceIndex)) := by
  have hat : atIndex? tx.outputs (o : Nat) = some output := by
    rw [atIndex?, if_neg (by omega), Int.toNat_natCast, ho]
  rw [messageHash, hat]
  rfl

/-- The digest depends on the inputs only by the one that is bound. -/
theorem messageHash_of_boundInput {tx tx' : Transaction} {outputIndex inputIndex inputIndex' : Int}
    (houtputs : tx.outputs = tx'.outputs)
    (hbound : boundInput? tx inputIndex outputIndex = boundInput? tx' inputIndex' outputIndex)
    (instanceIndex : Int) :
    messageHash tx outputIndex instanceIndex inputIndex =
      messageHash tx' outputIndex instanceIndex inputIndex' := by
  rw [messageHash, inputHash, houtputs, hbound]
  rfl

theorem messageHash_withScript {tx : Transaction} {o : Nat} {output : TxOutput}
    (ho : tx.outputs[o]? = some output) {script : Bytes} {instanceIndex : Int}
    (hcovered : covered script instanceIndex = covered output.script instanceIndex)
    (inputIndex : Int) :
    messageHash (tx.withScript o script) o instanceIndex inputIndex =
      messageHash tx o instanceIndex inputIndex := by
  have ho' : (tx.withScript o script).outputs[o]? = some { output with script } := by
    simp [Transaction.withScript, ho]
  rw [messageHash_of_output ho, messageHash_of_output ho', hcovered]
  rfl

end OpReturn
