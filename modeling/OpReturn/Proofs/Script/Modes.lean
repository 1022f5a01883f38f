import OpReturn.Proofs.Script.Walk

/-!
# Lenient and strict reading

A script is read from an offset one chunk after another, in either mode (`iterate_eq`). At each
offset the two modes can do one of two things only (`readOp_cases`): read the same chunk, or, where
the script ends inside the push (`Truncated`), take what is left and stop.

**Theorem (`modes_agree`).** The lenient reading goes through to the end of the script in
consecutive non-empty steps, and only the last of them can be truncated. The strict reading gives
the same steps if none is, and else all but the last and an error.

The proof is an induction along the lenient reading (`ReadThrough`). A truncated step takes all
that is left, so it is the last one; every other step is the same in both modes.
-/

namespace OpReturn

variable {script : Bytes} {start : Nat} {steps : List (Nat × Step)}

/-! ## One step in either mode -/

/-- The script ends inside the push at an offset: in the length field, or in the data that the push
announces. -/
def Truncated (script : Bytes) (offset : Nat) : Prop :=
  ∃ op s width, script.drop offset = op :: s ∧ Opcode.lengthWidth? op = some width ∧
    (s.length < width ∨ s.length < width + announced op (s.take width))

theorem truncated_iff {op : UInt8} {s : Bytes} (h : script.drop start = op :: s) :
    Truncated script start ↔ (Step.read op s).cut ≠ none := by
  have hread := reads_read op s
  generalize Step.read op s = step at hread
  constructor
  · rintro ⟨op', s', width, hdrop, hw, hshort⟩
    obtain ⟨rfl, rfl⟩ := List.cons.inj (h.symm.trans hdrop)
    cases hread with
    | bare hw' => simp [hw'] at hw
    | @whole field data s hw' hd =>
      obtain rfl : field.length = width := Option.some.inj (hw'.symm.trans hw)
      simp only [List.length_append, List.take_left] at hshort
      omega
    | cutLength hw' hs => simp
    | cutData hw' hd => simp
  · intro hcut
    cases hread with
    | bare hw => simp at hcut
    | whole hw hd => simp at hcut
    | @cutLength s n hw hs => exact ⟨op, s, n, h, hw, Or.inl hs⟩
    | @cutData field data hw hd =>
      refine ⟨op, _, _, h, hw, Or.inr ?_⟩
      simpa using hd

/-- Inside a script the lenient mode always reads a chunk. The strict mode reads the same one, or it
refuses a truncated one, which is all that is left of the script. -/
theorem readOp_cases (h : start < script.length) :
    ∃ step, readOp script start .lenient = .ok step ∧ 0 < step.size ∧
      start + step.size ≤ script.length ∧
      (¬ Truncated script start ∧ readOp script start .strict = .ok step ∨
        Truncated script start ∧ start + step.size = script.length ∧
          ∃ cut, readOp script start .strict = .error (.cut cut)) := by
  obtain ⟨op, s, hdrop⟩ : ∃ op s, script.drop start = op :: s :=
    ⟨_, _, List.drop_eq_getElem_cons h⟩
  have hsize := Step.size_add_rest op s
  have hlen : script.length = start + (s.length + 1) := by
    have := congrArg List.length hdrop
    rw [List.length_drop, List.length_cons] at this
    omega
  refine ⟨Step.read op s, Step.readOp_lenient_iff.mpr ⟨op, s, hdrop, rfl⟩,
    Step.size_read_pos op s, by omega, ?_⟩
  rw [truncated_iff hdrop]
  cases hcut : (Step.read op s).cut with
  | none =>
    left
    exact ⟨by simp, Step.readOp_strict_iff.mpr ⟨op, s, hdrop, rfl, hcut⟩⟩
  | some cut =>
    right
    have hrest : (Step.read op s).rest = [] := Step.rest_of_cut (by simp [hcut])
    refine ⟨by simp, ?_, cut, ?_⟩
    · rw [hrest, List.length_nil] at hsize
      omega
    · rw [Step.readOp_of_drop hdrop]
      simp [Step.check, hcut]

/-! ## Reading on -/

theorem Step.eq_of_check {step step' : Step} {mode : Mode} (h : step.check mode = .ok step') :
    step' = step := by
  unfold Step.check at h
  split at h
  · cases h
  · exact (Except.ok.inj h).symm

theorem checkAll_acc (mode : Mode) (acc located : List (Nat × Step)) :
    checkAll mode acc located =
      (acc.reverse ++ (checkAll mode [] located).1, (checkAll mode [] located).2) := by
  induction located generalizing acc with
  | nil => simp [checkAll]
  | cons l located ih =>
    obtain ⟨offset, step⟩ := l
    simp only [checkAll]
    cases step.check mode with
    | error e => simp
    | ok step =>
      dsimp only
      rw [ih, ih [(offset, step)]]
      simp

/-- **Reading on is one read after another**, until the script ends or a read fails. -/
theorem iterate_eq (script : Bytes) (start : Nat) (mode : Mode) :
    iterate script start mode =
      if start < script.length then
        match readOp script start mode with
        | .error e => ([], some e)
        | .ok step =>
          let more := iterate script ↑(start + step.size) mode
          ((start, step) :: more.1, more.2)
      else ([], none) := by
  have hiterate : ∀ n : Nat, iterate script n mode =
      checkAll mode [] (walkFrom n [] (script.drop n)) := by
    intro n
    rw [iterate, if_neg (by omega), Int.toNat_natCast]
  rw [hiterate]
  by_cases h : start < script.length
  · obtain ⟨op, s, hdrop⟩ : ∃ op s, script.drop start = op :: s :=
      ⟨_, _, List.drop_eq_getElem_cons h⟩
    rw [if_pos h, hdrop, walkFrom_cons, Step.readOp_of_drop hdrop, checkAll]
    cases hcheck : (Step.read op s).check mode with
    | error e => rfl
    | ok step =>
      obtain rfl := Step.eq_of_check hcheck
      have hrest : script.drop (start + (Step.read op s).size) = (Step.read op s).rest := by
        rw [← List.drop_drop, hdrop, Step.rest_read]
      dsimp only
      rw [checkAll_acc, hiterate, hrest]
      rfl
  · rw [if_neg h, List.drop_of_length_le (by omega), walkFrom_nil]
    rfl

theorem lt_of_readOp {step : Step} {mode : Mode} (h : readOp script start mode = .ok step) :
    start < script.length := by
  obtain ⟨op, s, hdrop, -⟩ := Step.readOp_eq_ok_iff.mp h
  by_contra hlt
  rw [List.drop_of_length_le (by omega)] at hdrop
  cases hdrop

theorem iterate_end (script : Bytes) (mode : Mode) :
    iterate script script.length mode = ([], none) := by
  rw [iterate_eq, if_neg (Nat.lt_irrefl _)]

theorem iterate_error {mode : Mode} {e : ScriptError} (h : start < script.length)
    (hread : readOp script start mode = .error e) :
    iterate script start mode = ([], some e) := by
  rw [iterate_eq, if_pos h, hread]

theorem iterate_cons {mode : Mode} {step : Step} {e : Option ScriptError}
    (hread : readOp script start mode = .ok step)
    (hmore : iterate script ↑(start + step.size) mode = (steps, e)) :
    iterate script start mode = ((start, step) :: steps, e) := by
  rw [iterate_eq, if_pos (lt_of_readOp hread), hread]
  simp only [hmore]

/-! ## Reading through -/

/-- The steps are read one behind the other, each of at least one byte, from an offset to the end of
the script. -/
inductive ReadThrough (script : Bytes) : Nat → List (Nat × Step) → Prop
  | done : ReadThrough script script.length []
  | more {start : Nat} {step : Step} {steps : List (Nat × Step)}
      (read : readOp script start .lenient = .ok step) (pos : 0 < step.size)
      (rest : ReadThrough script (start + step.size) steps) :
      ReadThrough script start ((start, step) :: steps)

theorem exists_readThrough (h : start ≤ script.length) :
    ∃ steps, ReadThrough script start steps := by
  induction hn : script.length - start using Nat.strongRecOn generalizing start with
  | ind n ih =>
    by_cases hlt : start < script.length
    · obtain ⟨step, hread, hpos, hle, -⟩ := readOp_cases hlt
      obtain ⟨steps, hsteps⟩ := ih (script.length - (start + step.size)) (by omega) hle rfl
      exact ⟨_, .more hread hpos hsteps⟩
    · obtain rfl : start = script.length := by omega
      exact ⟨[], .done⟩

namespace ReadThrough

theorem eq_nil (h : ReadThrough script script.length steps) : steps = [] := by
  cases h with
  | done => rfl
  | more hread _ _ => exact absurd (lt_of_readOp hread) (by omega)

theorem lenient (h : ReadThrough script start steps) :
    iterate script start .lenient = (steps, none) := by
  induction h with
  | done => exact iterate_end script .lenient
  | more hread _ _ ih => exact iterate_cons hread ih

/-- A step of the reading is read alike in both modes, or it is truncated and the last one. -/
theorem more_cases {step : Step} (h : ReadThrough script start ((start, step) :: steps)) :
    ¬ Truncated script start ∧ readOp script start .strict = .ok step ∨
      Truncated script start ∧ steps = [] ∧
        ∃ cut, readOp script start .strict = .error (.cut cut) := by
  cases h with
  | more hread _ hrest =>
    obtain ⟨step', hread', -, -, hcases⟩ := readOp_cases (lt_of_readOp hread)
    obtain rfl : step' = step := Except.ok.inj (hread'.symm.trans hread)
    rcases hcases with hwhole | ⟨htrunc, hend, hstrict⟩
    · exact Or.inl hwhole
    · rw [hend] at hrest
      exact Or.inr ⟨htrunc, hrest.eq_nil, hstrict⟩

theorem not_truncated_of_mem_dropLast (h : ReadThrough script start steps) :
    ∀ l ∈ steps.dropLast, ¬ Truncated script l.1 := by
  induction h with
  | done => simp
  | @more start step steps hread hpos hrest ih =>
    intro l hl
    rcases (more hread hpos hrest).more_cases with ⟨hwhole, -⟩ | ⟨-, rfl, -⟩
    · cases steps with
      | nil => simp at hl
      | cons next steps =>
        rw [List.dropLast_cons_of_ne_nil (by simp), List.mem_cons] at hl
        rcases hl with rfl | hl
        · exact hwhole
        · exact ih l hl
    · simp at hl

theorem strict_of_whole (h : ReadThrough script start steps)
    (hwhole : ∀ l ∈ steps, ¬ Truncated script l.1) :
    iterate script start .strict = (steps, none) := by
  induction h with
  | done => exact iterate_end script .strict
  | more hread hpos hrest ih =>
    obtain ⟨hfirst, hwhole⟩ := List.forall_mem_cons.mp hwhole
    rcases (more hread hpos hrest).more_cases with ⟨-, hstrict⟩ | ⟨htrunc, -⟩
    · exact iterate_cons hstrict (ih hwhole)
    · exact absurd htrunc hfirst

theorem strict_of_truncated (h : ReadThrough script start steps) {l : Nat × Step} (hl : l ∈ steps)
    (htrunc : Truncated script l.1) :
    steps.getLast? = some l ∧ ∃ cut, readOp script l.1 .strict = .error (.cut cut) ∧
      iterate script start .strict = (steps.dropLast, some (.cut cut)) := by
  induction h with
  | done => simp at hl
  | @more start step steps hread hpos hrest ih =>
    rcases (more hread hpos hrest).more_cases with ⟨hwhole, hstrict⟩ | ⟨-, rfl, cut, hstrict⟩
    · rcases List.mem_cons.mp hl with rfl | hl
      · exact absurd htrunc hwhole
      · obtain ⟨hlast, cut, herror, hmore⟩ := ih hl
        have hne : steps ≠ [] := List.ne_nil_of_mem hl
        rw [List.getLast?_cons_of_ne_nil hne, List.dropLast_cons_of_ne_nil hne]
        exact ⟨hlast, cut, herror, iterate_cons hstrict hmore⟩
    · obtain rfl := List.mem_singleton.mp hl
      exact ⟨rfl, cut, hstrict, iterate_error (lt_of_readOp hread) hstrict⟩

end ReadThrough

/-! ## Strict parsing -/

theorem ofSteps_eq_checkAll (located : List (Nat × Step)) :
    Chunk.ofSteps [] located = match checkAll .strict [] located with
      | (steps, none) => .ok (steps.map (·.2.chunk))
      | (_, some e) => .error e := by
  induction located with
  | nil => rfl
  | cons l located ih =>
    obtain ⟨offset, step⟩ := l
    cases hcut : step.cut with
    | some cut => simp [Chunk.ofSteps, checkAll, Step.check, hcut]
    | none =>
      simp only [Chunk.ofSteps, checkAll, Step.check, hcut]
      rw [ofSteps_acc, checkAll_acc, ih]
      generalize checkAll .strict [] located = result
      obtain ⟨steps, error⟩ := result
      cases error <;> simp [Except.map]

theorem parseAll_eq (script : Bytes) :
    Chunk.parseAll script = match iterate script 0 .strict with
      | (steps, none) => .ok (steps.map (·.2.chunk))
      | (_, some e) => .error e :=
  ofSteps_eq_checkAll (walk script)

/-- **The lenient and the strict reading of a script agree.** The lenient one goes through from any
offset to the end of the script, in consecutive steps of which only the last can be truncated. The
strict one gives the same steps if none is, and otherwise all but the last and the error that
reading this one ends in. Parsing the script fails exactly if the last step is truncated. -/
theorem modes_agree (script : Bytes) :
    (∀ start : Nat, start ≤ script.length →
      ∃ steps, iterate script start .lenient = (steps, none) ∧
        ReadThrough script start steps ∧
        (∀ l ∈ steps.dropLast, ¬ Truncated script l.1) ∧
        ((∀ l ∈ steps, ¬ Truncated script l.1) → iterate script start .strict = (steps, none)) ∧
        (∀ l ∈ steps, Truncated script l.1 →
          ∃ cut, readOp script l.1 .strict = .error (.cut cut) ∧
            iterate script start .strict = (steps.dropLast, some (.cut cut)))) ∧
    ((∃ e, Chunk.parseAll script = .error e) ↔
      ∃ last, (iterate script 0 .lenient).1.getLast? = some last ∧ Truncated script last.1) := by
  constructor
  · intro start h
    obtain ⟨steps, hsteps⟩ := exists_readThrough h
    exact ⟨steps, hsteps.lenient, hsteps, hsteps.not_truncated_of_mem_dropLast,
      hsteps.strict_of_whole, fun l hl htrunc => (hsteps.strict_of_truncated hl htrunc).2⟩
  · obtain ⟨steps, hsteps⟩ := exists_readThrough (Nat.zero_le script.length)
    have hlenient : iterate script 0 .lenient = (steps, none) := hsteps.lenient
    rw [hlenient, parseAll_eq]
    constructor
    · intro hfails
      by_contra hnone
      have hwhole : ∀ l ∈ steps, ¬ Truncated script l.1 := by
        intro l hl htrunc
        exact hnone ⟨l, (hsteps.strict_of_truncated hl htrunc).1, htrunc⟩
      have hstrict : iterate script 0 .strict = (steps, none) := hsteps.strict_of_whole hwhole
      simp [hstrict] at hfails
    · rintro ⟨last, hlast, htrunc⟩
      obtain ⟨-, cut, -, hstrict⟩ :=
        hsteps.strict_of_truncated (List.mem_of_getLast? hlast) htrunc
      have hstrict : iterate script 0 .strict = (steps.dropLast, some (.cut cut)) := hstrict
      rw [hstrict]
      exact ⟨_, rfl⟩

/-- An opcode that pushes nothing, a delimiter and a push whose length is cut short. -/
def cutScript : Bytes := [0x51, 0x01, 0x7C, 0x4D, 0x05]

/-- Its steps from the delimiter on. -/
def cutSteps : List (Nat × Step) :=
  [(1, ⟨⟨0x01, [0x7C]⟩, 2, [0x4D, 0x05], none⟩), (3, ⟨⟨0x4D, []⟩, 2, [], some (.length 0x4D)⟩)]

/-- From the delimiter on, the strict reading gives the delimiter alone. -/
theorem modes_agree_cutScript :
    1 ≤ cutScript.length ∧ iterate cutScript 1 .lenient = (cutSteps, none) ∧
    Truncated cutScript 3 ∧
    (∃ cut, iterate cutScript 1 .strict = (cutSteps.dropLast, some (.cut cut))) ∧
    ∃ e, Chunk.parseAll cutScript = .error e := by
  have hthrough : ReadThrough cutScript 1 cutSteps :=
    .more rfl (by decide) (.more rfl (by decide) .done)
  have hfront : iterate cutScript 0 .lenient = ((0, _) :: cutSteps, none) :=
    iterate_cons rfl hthrough.lenient
  have htrunc : Truncated cutScript 3 := ⟨0x4D, [0x05], 2, rfl, by decide, Or.inl (by decide)⟩
  obtain ⟨hmodes, hparse⟩ := modes_agree cutScript
  obtain ⟨steps, hlenient, -, -, -, hstrict⟩ := hmodes 1 (by decide)
  obtain rfl : steps = cutSteps := (Prod.mk.inj (hlenient.symm.trans hthrough.lenient)).1
  obtain ⟨cut, -, hcut⟩ := hstrict _ (List.mem_cons_of_mem _ List.mem_cons_self) htrunc
  refine ⟨by decide, hlenient, htrunc, ⟨cut, hcut⟩, hparse.mpr ?_⟩
  rw [hfront]
  exact ⟨_, rfl, htrunc⟩

end OpReturn
