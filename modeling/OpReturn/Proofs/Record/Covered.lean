import Mathlib.Algebra.GroupWithZero.Nat
import Mathlib.Data.List.Forall2
import OpReturn.Proofs.Envelope.Partition
import OpReturn.Proofs.Record.Verdict
import OpReturn.Proofs.Script.Push

/-!
# Where the part ends that a signature covers

The digest of a signature is found by a search of its own: it goes through a whole script, takes
every marker and every delimiter together with the chunk after it, and counts the tags among those
chunks. The search knows nothing of envelopes, so it also counts in the lead and inside payloads.

**The judgement (`Passes`).** From one place of a script to a later one, the search passes a number
of tags; it stops in between exactly if it looks for one of these. Judgements compose
(`Passes.trans`), and a part that can be read in pairs (`Tally`) is passed as a whole
(`passes_tally`).

* `covered_eq_iff`: what stands before a tag is covered under a number if and only if it can be read
  in pairs and has so many tags.
* `Splits.exists_before`: what stands before an entry holds the entries before it.

**Theorem (`dataHash_instance`).** What stands before the marker or delimiter of an entry is covered
by a signature under exactly one number, or under none. If the lead and the payloads before can be
read in pairs, it is the number of the entry among those of its tag plus the tags in these parts.
-/

namespace OpReturn

/-- Is the chunk one that an entry starts behind, a marker or a delimiter? -/
def Chunk.isBoundary (c : Chunk) : Bool := c.op = Opcode.opReturn || c.isDelimiter

/-- The number of tags of detached signatures in one chunk: one or none. -/
def tagCount (data : Bytes) : Nat := if data = DetachedSignature.tag then 1 else 0

/-! ## The judgement -/

theorem le_of_mem_walkFrom {p : Nat} {s : Bytes} {l : Nat × Step} (h : l ∈ walkFrom p [] s) :
    p ≤ l.1 := by
  induction s using stepInduction generalizing p with
  | nil =>
    rw [walkFrom_nil] at h
    exact nomatch h
  | cons op s ih =>
    rw [walkFrom_cons] at h
    rcases List.mem_cons.mp h with rfl | h
    · exact Nat.le_refl _
    · exact Nat.le_trans (Nat.le_add_right _ _) (ih h)

/-- The search goes on at `p` after the given number of tags. -/
def searchFrom (script : Bytes) (n seen p : Nat) : Bytes :=
  coveredFrom script n seen (walkFrom p [] (script.drop p))

/-- From `p` to `q` the search passes `m` tags. -/
structure Passes (script : Bytes) (p q m : Nat) : Prop where
  le : p ≤ q
  /-- It goes on at `q` if it looks for a later tag. -/
  go : ∀ n seen, seen + m ≤ n → searchFrom script n seen p = searchFrom script n (seen + m) q
  /-- It stops before `q` if it looks for one of these. -/
  stop : ∀ n seen, seen ≤ n → n < seen + m → ∃ r < q, searchFrom script n seen p = script.take r

theorem Passes.refl (script : Bytes) (p : Nat) : Passes script p p 0 where
  le := Nat.le_refl p
  go _ _ _ := rfl
  stop _ _ hle hlt := by omega

theorem Passes.trans {script : Bytes} {p q r m k : Nat} (h : Passes script p q m)
    (h' : Passes script q r k) : Passes script p r (m + k) where
  le := Nat.le_trans h.le h'.le
  go n seen hle := by
    rw [h.go n seen (by omega), h'.go n (seen + m) (by omega), Nat.add_assoc]
  stop n seen hle hlt := by
    by_cases hm : n < seen + m
    · obtain ⟨x, hx, hstop⟩ := h.stop n seen hle hm
      exact ⟨x, Nat.lt_of_lt_of_le hx h'.le, hstop⟩
    · rw [h.go n seen (by omega)]
      exact h'.stop n (seen + m) (by omega) (by omega)

/-! ## Steps of the search -/

variable {script s : Bytes} {p : Nat} {op : UInt8}

theorem searchFrom_eq (h : script.drop p = op :: s) (n seen : Nat) :
    searchFrom script n seen p = coveredFrom script n seen
      ((p, Step.read op s) :: walkFrom (p + (Step.read op s).size) []
        (script.drop (p + (Step.read op s).size))) := by
  rw [searchFrom, h, walkFrom_cons, Step.rest_read, ← h, List.drop_drop]

theorem searchFrom_end (h : script.drop p = []) (n seen : Nat) :
    searchFrom script n seen p = script := by
  rw [searchFrom, h, walkFrom_nil]
  rfl

theorem passes_other (h : script.drop p = op :: s) (hcut : (Step.read op s).cut = none)
    (hother : (Step.read op s).chunk.isBoundary = false) :
    Passes script p (p + (Step.read op s).size) 0 where
  le := Nat.le_add_right _ _
  go n seen _ := by
    have hnot : ¬ ((Step.read op s).chunk.op = Opcode.opReturn ∨
        (Step.read op s).chunk.isDelimiter = true) := by
      simpa [Chunk.isBoundary] using hother
    rw [searchFrom_eq h, coveredFrom.eq_def]
    dsimp only
    rw [hcut, if_neg (by simp), if_neg hnot]
    rfl
  stop _ _ hle hlt := by omega

/-- At a marker or a delimiter the search takes the chunk after it too. -/
theorem searchFrom_boundary {op' : UInt8} {s' : Bytes} (h : script.drop p = op :: s)
    (hcut : (Step.read op s).cut = none) (hboundary : (Step.read op s).chunk.isBoundary = true)
    (h' : script.drop (p + (Step.read op s).size) = op' :: s')
    (hcut' : (Step.read op' s').cut = none) (n seen : Nat) :
    searchFrom script n seen p =
      if (Step.read op' s').chunk.data = DetachedSignature.tag then
        if seen = n then script.take p
        else searchFrom script n (seen + 1) (p + (Step.read op s).size + (Step.read op' s').size)
      else searchFrom script n seen (p + (Step.read op s).size + (Step.read op' s').size) := by
  have hmark : (Step.read op s).chunk.op = Opcode.opReturn ∨
      (Step.read op s).chunk.isDelimiter = true := by
    simpa [Chunk.isBoundary] using hboundary
  have hrest : (Step.read op' s').rest =
      script.drop (p + (Step.read op s).size + (Step.read op' s').size) := by
    rw [Step.rest_read, ← h', List.drop_drop]
  rw [searchFrom_eq h, coveredFrom.eq_def]
  dsimp only
  rw [hcut, if_neg (by simp), if_pos hmark, h', walkFrom_cons]
  dsimp only
  rw [hcut', if_neg (by simp), hrest]
  simp only [Int.natCast_inj]
  rfl

theorem passes_boundary {op' : UInt8} {s' : Bytes} (h : script.drop p = op :: s)
    (hcut : (Step.read op s).cut = none) (hboundary : (Step.read op s).chunk.isBoundary = true)
    (h' : script.drop (p + (Step.read op s).size) = op' :: s')
    (hcut' : (Step.read op' s').cut = none) :
    Passes script p (p + (Step.read op s).size + (Step.read op' s').size)
      (tagCount (Step.read op' s').chunk.data) := by
  have hstep := searchFrom_boundary h hcut hboundary h' hcut'
  have hpos := Step.size_read_pos op s
  unfold tagCount
  refine ⟨by omega, fun n seen hle => ?_, fun n seen hle hlt => ?_⟩
  · rw [hstep]
    split_ifs at hle ⊢ with htag hseen
    · omega
    · rfl
    · rfl
  · split_ifs at hlt with htag
    · refine ⟨p, by omega, ?_⟩
      rw [hstep, if_pos htag, if_pos (by omega)]
    · omega

theorem exists_coveredFrom_eq_take {located : List (Nat × Step)} (h : ∀ l ∈ located, p ≤ l.1)
    (n : Int) (seen : Nat) :
    ∃ r, p ≤ r ∧ coveredFrom script n seen located = script.take r := by
  have hall : ∃ r, p ≤ r ∧ script = script.take r :=
    ⟨max p script.length, Nat.le_max_left _ _, (List.take_of_length_le (Nat.le_max_right _ _)).symm⟩
  fun_induction coveredFrom script n seen located with
  | case1 | case2 | case3 | case4 => exact hall
  | case5 => exact ⟨_, h _ List.mem_cons_self, rfl⟩
  | case6 | case7 | case8 =>
    rename_i ih
    exact ih fun l hl => h l (by simp [hl])

theorem exists_searchFrom_eq_take (script : Bytes) (n seen p : Nat) :
    ∃ r, p ≤ r ∧ searchFrom script n seen p = script.take r :=
  exists_coveredFrom_eq_take (fun _ hl => le_of_mem_walkFrom hl) n seen

/-! ## Paired parts -/

/-- Every marker and delimiter among the chunks is taken together with the chunk after it; `m` of
the chunks after them carry the tag of detached signatures. -/
inductive Paired : List Chunk → Nat → Prop
  | nil : Paired [] 0
  | other {c : Chunk} {cs : List Chunk} {m : Nat} (single : c.isBoundary = false)
      (next : Paired cs m) : Paired (c :: cs) m
  | pair {c d : Chunk} {cs : List Chunk} {m : Nat} (boundary : c.isBoundary = true)
      (next : Paired cs m) : Paired (c :: d :: cs) (tagCount d.data + m)

/-- The part of a script can be read in pairs: it parses strictly into paired chunks, with `m`
tags. -/
def Tally (part : Bytes) (m : Nat) : Prop :=
  ∃ chunks, Chunk.parseAll part = .ok chunks ∧ Paired chunks m

theorem paired_zero {chunks : List Chunk} (h : ∀ c ∈ chunks, c.isBoundary = false) :
    Paired chunks 0 := by
  induction chunks with
  | nil => exact .nil
  | cons c cs ih =>
    obtain ⟨hc, hcs⟩ := List.forall_mem_cons.mp h
    exact .other hc (ih hcs)

theorem Paired.append {as bs : List Chunk} {m k : Nat} (ha : Paired as m) (hb : Paired bs k) :
    Paired (as ++ bs) (m + k) := by
  induction ha with
  | nil => rwa [Nat.zero_add, List.nil_append]
  | other single _ ih => exact .other single ih
  | pair boundary _ ih =>
    rw [Nat.add_assoc]
    exact .pair boundary ih

theorem Tally.append {a b : Bytes} {m k : Nat} (ha : Tally a m) (hb : Tally b k) :
    Tally (a ++ b) (m + k) := by
  obtain ⟨as, has, hapaired⟩ := ha
  obtain ⟨bs, hbs, hbpaired⟩ := hb
  exact ⟨as ++ bs, (parseAll_append_iff has).mpr ⟨bs, hbs, rfl⟩, hapaired.append hbpaired⟩

theorem Paired.unique {chunks : List Chunk} {m k : Nat} (h : Paired chunks m)
    (h' : Paired chunks k) : m = k := by
  induction h generalizing k with
  | nil =>
    cases h'
    rfl
  | other single _ ih =>
    cases h' with
    | other _ next => exact ih next
    | pair boundary _ => exact absurd boundary (by rw [single]; exact Bool.false_ne_true)
  | pair boundary _ ih =>
    cases h' with
    | other single _ => exact absurd boundary (by rw [single]; exact Bool.false_ne_true)
    | pair _ next => rw [ih next]

theorem Tally.unique {a : Bytes} {m k : Nat} (h : Tally a m) (h' : Tally a k) : m = k := by
  obtain ⟨chunks, hparse, hpaired⟩ := h
  obtain ⟨chunks', hparse', hpaired'⟩ := h'
  obtain rfl := Except.ok.inj (hparse.symm.trans hparse')
  exact hpaired.unique hpaired'

theorem Tally.whole {a : Bytes} {m : Nat} (h : Tally a m) : Whole a := h.imp fun _ h => h.1

theorem tally_of_clear {a : Bytes} (h : Clear Chunk.isBoundary a) : Tally a 0 := by
  obtain ⟨chunks, hparse, hclear⟩ := h
  exact ⟨chunks, hparse, paired_zero hclear⟩

/-- Chunks are paired, or a marker or delimiter at the end has no chunk after it. -/
theorem paired_or_dangling : (chunks : List Chunk) → (∃ m, Paired chunks m) ∨
    ∃ cs c m, chunks = cs ++ [c] ∧ Paired cs m ∧ c.isBoundary = true
  | [] => Or.inl ⟨0, .nil⟩
  | [c] => by
    cases hc : c.isBoundary with
    | false => exact Or.inl ⟨0, .other hc .nil⟩
    | true => exact Or.inr ⟨[], c, 0, rfl, .nil, hc⟩
  | c :: d :: chunks => by
    cases hc : c.isBoundary with
    | false =>
      rcases paired_or_dangling (d :: chunks) with ⟨m, h⟩ | ⟨cs, e, m, hsplit, h, he⟩
      · exact Or.inl ⟨m, .other hc h⟩
      · exact Or.inr ⟨c :: cs, e, m, by rw [hsplit, List.cons_append], .other hc h, he⟩
    | true =>
      rcases paired_or_dangling chunks with ⟨m, h⟩ | ⟨cs, e, m, hsplit, h, he⟩
      · exact Or.inl ⟨_, .pair hc h⟩
      · exact Or.inr ⟨c :: d :: cs, e, _, by rw [hsplit]; rfl, .pair hc h, he⟩

theorem exists_of_parseAll_concat {a : Bytes} {cs : List Chunk} {c : Chunk}
    (h : Chunk.parseAll a = .ok (cs ++ [c])) :
    ∃ b op s, a = b ++ op :: s ∧ Chunk.parseAll b = .ok cs ∧ (Step.read op s).cut = none ∧
      (Step.read op s).chunk = c ∧ (Step.read op s).rest = [] := by
  obtain ⟨hcuts, hchunks⟩ := parseAll_eq_ok_iff.mp h
  rw [steps, List.map_map] at hchunks
  obtain ⟨before, last, hwalk, hbefore, hlast⟩ := List.map_eq_append_iff.mp hchunks.symm
  obtain ⟨⟨p, step⟩, rfl, rfl⟩ := List.map_eq_singleton_iff.mp hlast
  obtain ⟨b, op, s, hsplit, -, rfl, hparse, hafter⟩ := exists_of_walkFrom_eq hwalk
  refine ⟨b, op, s, hsplit, hbefore ▸ hparse, ?_, rfl, ?_⟩
  · refine hcuts _ (List.mem_map_of_mem (a := (p, Step.read op s)) ?_)
    show (p, Step.read op s) ∈ walk a
    rw [hwalk]
    exact List.mem_append_right _ List.mem_cons_self
  · cases hrest : (Step.read op s).rest with
    | nil => rfl
    | cons op' s' =>
      rw [hrest, walkFrom_cons] at hafter
      exact absurd hafter.symm (List.cons_ne_nil _ _)

theorem parseAll_eq_cons {a : Bytes} {c : Chunk} {cs : List Chunk}
    (h : Chunk.parseAll a = .ok (c :: cs)) :
    ∃ op s, a = op :: s ∧ (Step.read op s).cut = none ∧ (Step.read op s).chunk = c ∧
      Chunk.parseAll (Step.read op s).rest = .ok cs := by
  cases a with
  | nil =>
    rw [parseAll_eq_ok_iff, steps_nil] at h
    exact nomatch h.2
  | cons op s =>
    obtain ⟨hcut, rest, hrest, heq⟩ := parseAll_cons_iff.mp h
    obtain ⟨rfl, rfl⟩ := List.cons.inj heq
    exact ⟨op, s, rfl, hcut, rfl, hrest⟩

theorem drop_behind_step {b : Bytes} (h : script.drop p = op :: (s ++ b))
    (hcut : (Step.read op s).cut = none) :
    script.drop (p + (Step.read op s).size) = (Step.read op s).rest ++ b := by
  have hrest := Step.rest_read op (s ++ b)
  rw [Step.read_append hcut] at hrest
  rw [← List.drop_drop, h]
  exact hrest.symm

theorem passes_tally {a b : Bytes} {m : Nat} (htally : Tally a m)
    (h : script.drop p = a ++ b) : Passes script p (p + a.length) m := by
  obtain ⟨chunks, hparse, hpaired⟩ := htally
  induction hpaired generalizing a p with
  | nil =>
    cases a with
    | nil => exact Passes.refl script p
    | cons op s =>
      obtain ⟨-, rest, -, heq⟩ := parseAll_cons_iff.mp hparse
      exact nomatch heq
  | other hsingle hnext ih =>
    obtain ⟨op, s, rfl, hcut, rfl, hrest⟩ := parseAll_eq_cons hparse
    rw [List.cons_append] at h
    have hread := Step.read_append hcut b
    have hstep := passes_other h (by rw [hread, hcut]) (by rwa [hread])
    rw [hread] at hstep
    have hend : p + (op :: s).length =
        p + (Step.read op s).size + (Step.read op s).rest.length := by
      rw [List.length_cons, ← Step.size_add_rest op s, Nat.add_assoc]
    have hnext := ih (drop_behind_step h hcut) hrest
    rw [hend]
    simpa using hstep.trans hnext
  | pair hboundary hnext ih =>
    obtain ⟨op, s, rfl, hcut, rfl, hrest⟩ := parseAll_eq_cons hparse
    obtain ⟨op', s', hs', hcut', rfl, hrest'⟩ := parseAll_eq_cons hrest
    rw [List.cons_append] at h
    have hread := Step.read_append hcut b
    have hread' := Step.read_append hcut' b
    have h' := drop_behind_step h hcut
    rw [hs', List.cons_append] at h'
    have hcut'' : (Step.read op' (s' ++ b)).cut = none := by rw [hread', hcut']
    have hstep := passes_boundary h (by rw [hread, hcut]) (by rwa [hread])
      (by rw [hread]; exact h') hcut''
    rw [hread, hread'] at hstep
    have hend : p + (op :: s).length = p + (Step.read op s).size + (Step.read op' s').size +
        (Step.read op' s').rest.length := by
      have hlen := congrArg List.length hs'
      have := Step.size_add_rest op s
      have := Step.size_add_rest op' s'
      simp only [List.length_cons] at hlen ⊢
      omega
    have hnext := ih (drop_behind_step h' hcut') hrest'
    rw [hend]
    exact hstep.trans hnext

/-! ## Tags -/

/-- The marker stands before the first entry and a delimiter before any other. -/
def markBefore (i : Nat) : Bytes := if i = 0 then [Opcode.opReturn] else Chunk.delimiter

/-- The marker and a delimiter are each read as one boundary, which is no tag. -/
theorem exists_read_markBefore (i : Nat) (t : Bytes) :
    ∃ op s, markBefore i ++ t = op :: s ∧ (Step.read op s).cut = none ∧
      (Step.read op s).chunk.isBoundary = true ∧ tagCount (Step.read op s).chunk.data = 0 ∧
        (Step.read op s).size = (markBefore i).length := by
  unfold markBefore
  split_ifs with hi
  · refine ⟨Opcode.opReturn, t, rfl, ?_⟩
    rw [Step.read_opReturn]
    exact ⟨rfl, rfl, rfl, rfl⟩
  · refine ⟨0x01, 0x7C :: t, rfl, ?_⟩
    rw [Step.read_delimiter]
    exact ⟨rfl, rfl, rfl, rfl⟩

theorem exists_mark_at {i : Nat} (h : script.drop p = markBefore i ++ op :: s) :
    ∃ op₀ s₀, script.drop p = op₀ :: s₀ ∧ (Step.read op₀ s₀).cut = none ∧
      (Step.read op₀ s₀).chunk.isBoundary = true ∧
      (Step.read op₀ s₀).size = (markBefore i).length ∧
      script.drop (p + (Step.read op₀ s₀).size) = op :: s := by
  obtain ⟨op₀, s₀, hmark, hcut, hboundary, -, hsize⟩ := exists_read_markBefore i (op :: s)
  refine ⟨op₀, s₀, h.trans hmark, hcut, hboundary, hsize, ?_⟩
  rw [hsize, ← List.drop_drop, h, List.drop_left]

theorem passes_tag {i : Nat} (h : script.drop p = markBefore i ++ op :: s)
    (hcut : (Step.read op s).cut = none) :
    Passes script p (p + (markBefore i).length + (Step.read op s).size)
      (tagCount (Step.read op s).chunk.data) := by
  obtain ⟨op₀, s₀, hmark, hcut₀, hboundary, hsize, hafter⟩ := exists_mark_at h
  rw [← hsize]
  exact passes_boundary hmark hcut₀ hboundary hafter hcut

/-- The search stops before the tag that it looks for. -/
theorem searchFrom_tag {i : Nat} (h : script.drop p = markBefore i ++ op :: s)
    (hcut : (Step.read op s).cut = none)
    (htag : (Step.read op s).chunk.data = DetachedSignature.tag) (n : Nat) :
    searchFrom script n n p = script.take p := by
  obtain ⟨op₀, s₀, hmark, hcut₀, hboundary, -, hafter⟩ := exists_mark_at h
  rw [searchFrom_boundary hmark hcut₀ hboundary hafter hcut, if_pos htag, if_pos rfl]

/-! ## What stands before a tag -/

theorem covered_eq_searchFrom (script : Bytes) (n : Nat) :
    covered script n = searchFrom script n 0 0 := rfl

section Before

variable {before : Bytes} {i : Nat}

theorem eq_of_take_eq {r : Nat} (hlt : before.length < script.length)
    (h : script.take r = before) : r = before.length := by
  have := congrArg List.length h
  rw [List.length_take] at this
  omega

/-- The search covers something else if it stops before some place that is not behind `before`, or
goes on from one that is. -/
theorem covered_ne {x y k l m : Nat} (hfront : Passes script 0 x k) (hback : Passes script x y l)
    (hx : x ≤ before.length) (hy : before.length < y) (hlt : before.length < script.length)
    (hm : m < k ∨ k + l ≤ m) : covered script m ≠ before := by
  intro h
  rw [covered_eq_searchFrom] at h
  rcases hm with hm | hm
  · obtain ⟨r, hr, hstop⟩ := hfront.stop m 0 (Nat.zero_le m) (by omega)
    have := eq_of_take_eq hlt (hstop.symm.trans h)
    omega
  · rw [(hfront.trans hback).go m 0 (by omega)] at h
    obtain ⟨r, hr, htake⟩ := exists_searchFrom_eq_take script m (0 + (k + l)) y
    have := eq_of_take_eq hlt (htake.symm.trans h)
    omega

/-- If a marker or delimiter is the last chunk of `before`, the search takes the mark behind it as
the chunk after it, so it never stops there. -/
theorem covered_ne_of_dangling {t : Bytes} (hscript : script = before ++ (markBefore i ++ t))
    {cs : List Chunk} {c : Chunk} {k : Nat} (hparse : Chunk.parseAll before = .ok (cs ++ [c]))
    (hpaired : Paired cs k) (hboundary : c.isBoundary = true) (m : Nat) :
    covered script m ≠ before := by
  obtain ⟨a, op, s, rfl, ha, hcut, rfl, hrest⟩ := exists_of_parseAll_concat hparse
  obtain ⟨op₀, s₀, hmark, hcut₀, -, hnone, -⟩ := exists_read_markBefore i t
  rw [hmark, List.append_assoc, List.cons_append] at hscript
  have hfront : Passes script 0 a.length k := by
    simpa using passes_tally (p := 0) ⟨cs, ha, hpaired⟩ hscript
  have hlast : script.drop a.length = op :: (s ++ op₀ :: s₀) := by
    rw [hscript, List.drop_left]
  have hnext := drop_behind_step hlast hcut
  rw [hrest, List.nil_append] at hnext
  have hread := Step.read_append hcut (op₀ :: s₀)
  have hback : Passes script a.length
      (a.length + (Step.read op s).size + (Step.read op₀ s₀).size) 0 := by
    have := passes_boundary hlast (by rw [hread, hcut]) (by rwa [hread])
      (by rw [hread]; exact hnext) hcut₀
    rwa [hread, hnone] at this
  have hlen : (a ++ op :: s).length = a.length + (Step.read op s).size := by
    have := Step.size_add_rest op s
    rw [hrest, List.length_nil] at this
    rw [List.length_append, List.length_cons, ← this, Nat.add_zero]
  have hlt : (a ++ op :: s).length < script.length := by
    rw [hscript]
    simp only [List.length_append, List.length_cons]
    omega
  have hpos := Step.size_read_pos op₀ s₀
  exact covered_ne hfront hback (by omega) (by omega) hlt (by omega)

/-- **What stands before a tag is covered under a number exactly if it can be read in pairs and has
so many tags.** -/
theorem covered_eq_iff (hscript : script = before ++ (markBefore i ++ op :: s))
    (hwhole : Whole before) (hcut : (Step.read op s).cut = none)
    (htag : (Step.read op s).chunk.data = DetachedSignature.tag) (m : Nat) :
    covered script m = before ↔ Tally before m := by
  have hend : script.drop before.length = markBefore i ++ op :: s := by
    rw [hscript, List.drop_left]
  have hfront {k : Nat} (h : Tally before k) : Passes script 0 before.length k := by
    simpa using passes_tally (p := 0) h hscript
  constructor
  · intro h
    obtain ⟨chunks, hparse⟩ := hwhole
    rcases paired_or_dangling chunks with ⟨k, hpaired⟩ | ⟨cs, c, k, rfl, hpaired, hboundary⟩
    · have htally : Tally before k := ⟨chunks, hparse, hpaired⟩
      -- Under another number the search stops before the end, or goes on behind the tag.
      by_contra hnot
      have hne : k ≠ m := by
        rintro rfl
        exact hnot htally
      have hone : tagCount (Step.read op s).chunk.data = 1 := by rw [tagCount, if_pos htag]
      have hpos := Step.size_read_pos op s
      have hlt : before.length < script.length := by
        rw [hscript, List.length_append, List.length_append, List.length_cons]
        omega
      exact covered_ne (hfront htally) (hone ▸ passes_tag hend hcut) (Nat.le_refl _) (by omega) hlt
        (by omega) h
    · exact absurd h (covered_ne_of_dangling hscript hparse hpaired hboundary m)
  · intro h
    rw [covered_eq_searchFrom, (hfront h).go m 0 (by omega), Nat.zero_add,
      searchFrom_tag hend hcut htag, hscript, List.take_left]

end Before

/-! ## Entries -/

theorem exists_taken (hcut : (Step.read op s).cut = none) :
    ∃ taken, op :: s = taken ++ (Step.read op s).rest ∧
      Chunk.parseAll taken = .ok [(Step.read op s).chunk] := by
  obtain ⟨body, hs, -, hread⟩ := Step.read_frame hcut
  have hself := hread []
  rw [List.append_nil] at hself
  refine ⟨op :: body, by rw [List.cons_append, ← hs], ?_⟩
  rw [parseAll_cons_iff, hself]
  exact ⟨hcut, [], parseAll_eq_ok_iff.mpr (by simp), rfl⟩

theorem tally_tag (i : Nat) {push : Bytes} {chunk : Chunk} (h : Chunk.parseAll push = .ok [chunk]) :
    Tally (markBefore i ++ push) (tagCount chunk.data) := by
  obtain ⟨mark, hmark, hboundary⟩ : ∃ mark, Chunk.parseAll (markBefore i) = .ok [mark] ∧
      mark.isBoundary = true := by
    obtain ⟨op, s, hmark, hcut, hboundary, -, hsize⟩ := exists_read_markBefore i []
    rw [List.append_nil] at hmark
    have hrest : (Step.read op s).rest = [] := by
      rw [Step.rest_read, hsize, hmark, List.drop_length]
    refine ⟨(Step.read op s).chunk, ?_, hboundary⟩
    rw [hmark, parseAll_cons_iff, hrest]
    exact ⟨hcut, [], parseAll_eq_ok_iff.mpr (by simp), rfl⟩
  exact ⟨[mark, chunk], (parseAll_append_iff hmark).mpr ⟨[chunk], h, rfl⟩, .pair hboundary .nil⟩

/-- A part is whole and holds the bytes of some entries: if their payloads can be read in pairs, it
has the tags in these and those of the entries. -/
structure HoldsEntries (entries : List Entry) (part : Bytes) : Prop where
  whole : Whole part
  tally : ∀ tallies, List.Forall₂ (fun e m => Tally e.payload m) entries tallies →
    Tally part (entries.countP (·.tag = DetachedSignature.tag) + tallies.sum)

theorem holdsEntries_nil : HoldsEntries [] [] := by
  have hnone : Tally [] 0 := ⟨[], parseAll_eq_ok_iff.mpr (by simp), .nil⟩
  refine ⟨hnone.whole, ?_⟩
  rintro _ ⟨⟩
  exact hnone

theorem HoldsEntries.cons {entry : Entry} {entries : List Entry} {part push : Bytes} {chunk : Chunk}
    (h : HoldsEntries entries part) (j : Nat) (hpush : Chunk.parseAll push = .ok [chunk])
    (htag : chunk.data = entry.tag) (hpayload : Whole entry.payload) :
    HoldsEntries (entry :: entries) (markBefore j ++ push ++ (entry.payload ++ part)) := by
  have hhead := tally_tag j hpush
  refine ⟨hhead.whole.append (hpayload.append h.whole), fun tallies hall => ?_⟩
  cases hall with
  | @cons _ m _ tallies hpayload hall =>
  have hcount : tagCount chunk.data +
      (m + (entries.countP (·.tag = DetachedSignature.tag) + tallies.sum)) =
      (entry :: entries).countP (·.tag = DetachedSignature.tag) + (m :: tallies).sum := by
    simp only [List.countP_cons, List.sum_cons, tagCount, htag, decide_eq_true_eq]
    omega
  exact hcount ▸ hhead.append (hpayload.append (h.tally tallies hall))

/-- **What stands between the marker or delimiter before some entries and the one before the `i`-th
of them** holds the entries before that one. -/
theorem Splits.exists_before {offset : Nat} {entries : List Entry}
    (h : Splits script offset entries) {i : Nat} {entry : Entry} (hi : entries[i]? = some entry)
    (j : Nat) :
    ∃ part, markBefore j ++ script.drop offset =
        part ++ (markBefore (i + j) ++ script.drop entry.offset) ∧
      HoldsEntries (entries.take i) part := by
  induction h generalizing i j with
  | done hbytes => exact nomatch hi
  | last hbytes hunmet =>
    cases i with
    | zero =>
      obtain rfl := Option.some.inj hi
      exact ⟨[], by rw [Nat.zero_add]; rfl, holdsEntries_nil⟩
    | succ i => exact nomatch hi
  | @more offset op s payload t entries hbytes hrest hclear next ih =>
    cases i with
    | zero =>
      obtain rfl := Option.some.inj hi
      exact ⟨[], by rw [Nat.zero_add]; rfl, holdsEntries_nil⟩
    | succ i =>
      -- Something follows the tag, so it is whole.
      have hcut : (Step.read op s).cut = none := by
        by_contra hcut
        rw [Step.rest_of_cut hcut] at hrest
        simp [Chunk.delimiter] at hrest
      obtain ⟨push, hpush, hparse⟩ := exists_taken hcut
      obtain ⟨part, hpart, hholds⟩ := ih hi 1
      have hmark : markBefore (i + 1 + j) = markBefore (i + 1) := by
        rw [markBefore, markBefore, if_neg (by omega), if_neg (by omega)]
      refine ⟨markBefore j ++ push ++ (payload ++ part), ?_, hholds.cons j hparse rfl hclear.whole⟩
      rw [drop_behind_delimiter hbytes hrest] at hpart
      rw [hbytes, hpush, hrest, hmark]
      simp only [List.append_assoc]
      rw [← hpart]
      rfl

/-! ## Envelopes -/

theorem getElem?_filter_countP {α : Type} {test : α → Bool} {xs : List α} {i : Nat} {x : α}
    (hi : xs[i]? = some x) (hx : test x = true) :
    (xs.filter test)[(xs.take i).countP test]? = some x := by
  induction xs generalizing i with
  | nil => exact nomatch hi
  | cons y ys ih =>
    cases i with
    | zero =>
      obtain rfl := Option.some.inj hi
      rw [List.filter_cons_of_pos hx]
      rfl
    | succ i =>
      rw [List.take_succ_cons]
      by_cases hy : test y = true
      · rw [List.filter_cons_of_pos hy, List.countP_cons_of_pos hy, List.getElem?_cons_succ]
        exact ih hi
      · rw [List.filter_cons_of_neg hy, List.countP_cons_of_neg hy]
        exact ih hi

/-- **What the signature of an entry covers.** The entry is the `n`-th of those with its tag. What
stands before its marker or delimiter is covered under a number exactly if it can be read in pairs
and has so many tags. These are `n` and those in the lead and in the payloads before, if these parts
can be read in pairs. -/
theorem dataHash_instance {envelope : Envelope} (hscan : Envelope.scan script = some envelope)
    {i : Nat} {entry : Entry} (hi : envelope.entries[i]? = some entry)
    (htag : entry.tag = DetachedSignature.tag) {step : Step}
    (hwhole : readOp script entry.offset .strict = .ok step) :
    let n := Record.instancesBefore envelope.entries i
    (envelope.find DetachedSignature.tag)[n]? = some entry ∧
      ∃ before, script = before ++ (markBefore i ++ script.drop entry.offset) ∧ Whole before ∧
        (∀ m : Nat, covered script m = before ↔ Tally before m) ∧
        (∀ m : Nat, Tally before m → dataHash script m = sha256 before) ∧
        ∀ inLead inPayloads, Tally envelope.lead inLead →
          List.Forall₂ (fun e m => Tally e.payload m) (envelope.entries.take i) inPayloads →
            Tally before (n + (inLead + inPayloads.sum)) := by
  intro n
  obtain ⟨hlead, hscript, hsplit⟩ := Envelope.split_of_scan_eq_some hscan
  obtain ⟨part, hpart, hpartWhole, htally⟩ := hsplit.exists_before hi 0
  obtain ⟨op, s, hdrop, rfl, hcut⟩ := Step.readOp_strict_iff.mp hwhole
  obtain ⟨op', s', hdrop', hdata⟩ := hsplit.exists_read (List.mem_of_getElem? hi)
  obtain ⟨rfl, rfl⟩ := List.cons.inj (hdrop.symm.trans hdrop')
  rw [htag] at hdata
  have hbefore : script = envelope.lead ++ part ++ (markBefore i ++ script.drop entry.offset) := by
    have hmark : markBefore (i + 0) = markBefore i := rfl
    rw [List.append_assoc, ← hmark, ← hpart]
    exact hscript
  have hiff := covered_eq_iff (hdrop ▸ hbefore) (hlead.whole.append hpartWhole) hcut hdata
  refine ⟨?_, envelope.lead ++ part, hbefore, hlead.whole.append hpartWhole, hiff, fun m h => ?_,
    fun inLead inPayloads hinLead hinPayloads => ?_⟩
  · show (envelope.entries.filter _)[(envelope.entries.take i).countP _]? = some entry
    exact getElem?_filter_countP hi (by simpa using htag)
  · rw [dataHash, (hiff m).mpr h]
  · have hsum : inLead + (n + inPayloads.sum) = n + (inLead + inPayloads.sum) := by omega
    exact hsum ▸ hinLead.append (htally inPayloads hinPayloads)

/-- An entry whose payload has a marker with the tag behind it, and an entry that has the tag. -/
def strayTag : Bytes := [0x6A, 0x01, 0x61, 0x6A] ++ pushBytes DetachedSignature.tag ++
  Chunk.delimiter ++ pushBytes DetachedSignature.tag

/-- The signature covers the first ten bytes under the number one, though it is the first. -/
theorem dataHash_strayTag :
    ∃ envelope entry before, Envelope.scan strayTag = some envelope ∧
      (envelope.find DetachedSignature.tag)[0]? = some entry ∧
      strayTag = before ++ (Chunk.delimiter ++ strayTag.drop entry.offset) ∧
      dataHash strayTag 1 = sha256 before ∧ covered strayTag 0 ≠ before := by
  have hscan : Envelope.scan strayTag = some
      ⟨[], [⟨[0x61], 0x6A :: pushBytes DetachedSignature.tag, 1⟩,
        ⟨DetachedSignature.tag, [], 12⟩]⟩ := by decide +kernel
  have hread : readOp strayTag (12 : Nat) .strict =
      .ok ⟨⟨0x05, DetachedSignature.tag⟩, 6, [], none⟩ := by decide +kernel
  have hlead : Tally [] 0 := ⟨[], by decide +kernel, .nil⟩
  have hpayload : Tally (0x6A :: pushBytes DetachedSignature.tag) 1 :=
    ⟨[⟨0x6A, []⟩, ⟨0x05, DetachedSignature.tag⟩], by decide +kernel, .pair (by decide) .nil⟩
  obtain ⟨hfind, before, hbefore, -, hcovered, hhash, hcount⟩ :=
    dataHash_instance (i := 1) hscan rfl rfl hread
  have htally : Tally before 1 := hcount 0 [1] hlead (.cons hpayload .nil)
  refine ⟨_, _, before, hscan, hfind, hbefore, hhash 1 htally, fun hsame => ?_⟩
  exact absurd (htally.unique ((hcovered 0).mp hsame)) (by decide)

/-- The parts that signatures cover are not always numbered as the entries with their tag are. -/
theorem dataHash_instance_strayTag :
    ¬ ∀ (script : Bytes) (envelope : Envelope) (i : Nat) (entry : Entry) (step : Step)
      (before : Bytes), Envelope.scan script = some envelope →
        envelope.entries[i]? = some entry → entry.tag = DetachedSignature.tag →
        readOp script entry.offset .strict = .ok step →
        script = before ++ (markBefore i ++ script.drop entry.offset) →
        dataHash script (Record.instancesBefore envelope.entries i) = sha256 before := by
  intro h
  have hhash := h strayTag ⟨[], [⟨[0x61], 0x6A :: pushBytes DetachedSignature.tag, 1⟩,
    ⟨DetachedSignature.tag, [], 12⟩]⟩ 1 ⟨DetachedSignature.tag, [], 12⟩
    ⟨⟨0x05, DetachedSignature.tag⟩, 6, [], none⟩ (strayTag.take 10) (by decide +kernel) rfl rfl
    (by decide +kernel) (by decide)
  exact absurd hhash (by decide +kernel)

end OpReturn
