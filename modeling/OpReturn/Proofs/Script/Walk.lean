import OpReturn.Proofs.Script.Step

/-!
# Walks through a script

The lenient walk of a script starts again after every step, so its facts are proved by induction
along the steps (`stepInduction`). A script is `Whole` if it parses strictly, that is, if no push
in it is cut short, and `Clear` of a kind of chunk if moreover it has no chunk of that kind.

* `parseAll_eq_ok_iff`: a script parses strictly if no step of its lenient walk is cut short.
* `walkFrom_append`, `parseAll_append`: a whole script followed by another is walked, and
  parsed, as the two in a row.
* `exists_of_walkFrom_eq`: what stands before a step of a walk is whole.
* `seekFrom_append`, `exists_of_seekFrom_eq_some`: a search passes over a clear script and stops
  at the first chunk that is looked for.
-/

namespace OpReturn

/-! ## Induction along the steps -/

/-- A property passes to all scripts if it passes from what a step leaves to the whole. -/
theorem stepInduction {motive : Bytes → Prop} (nil : motive [])
    (cons : ∀ op s, motive (Step.read op s).rest → motive (op :: s)) (script : Bytes) :
    motive script := by
  induction h : script.length using Nat.strongRecOn generalizing script with
  | ind n ih =>
    cases script with
    | nil => exact nil
    | cons op s =>
      have hlt : (Step.read op s).rest.length < n := by
        rw [← h, List.length_cons]
        exact Nat.lt_succ_of_le (Step.rest_length_le op s)
      exact cons op s (ih _ hlt _ rfl)

/-! ## The steps of a walk -/

@[simp] theorem walkFrom_nil (offset : Nat) (acc : List (Nat × Step)) :
    walkFrom offset acc [] = acc.reverse := by
  rw [walkFrom]

theorem walkFrom_acc (offset : Nat) (acc : List (Nat × Step)) (s : Bytes) :
    walkFrom offset acc s = acc.reverse ++ walkFrom offset [] s := by
  induction s using stepInduction generalizing offset acc with
  | nil => simp
  | cons op s ih =>
    rw [walkFrom, walkFrom, ih, ih _ [_]]
    simp

theorem walkFrom_cons (offset : Nat) (op : UInt8) (s : Bytes) :
    walkFrom offset [] (op :: s) = (offset, Step.read op s) ::
      walkFrom (offset + (Step.read op s).size) [] (Step.read op s).rest := by
  rw [walkFrom, walkFrom_acc]
  rfl

/-- The steps of a script, without their offsets. -/
def steps (script : Bytes) : List Step := (walk script).map Prod.snd

theorem map_snd_walkFrom (offset : Nat) (s : Bytes) :
    (walkFrom offset [] s).map Prod.snd = steps s := by
  suffices h : ∀ a b, (walkFrom a [] s).map Prod.snd = (walkFrom b [] s).map Prod.snd from
    h offset 0
  induction s using stepInduction with
  | nil => simp
  | cons op s ih =>
    intro a b
    rw [walkFrom_cons, walkFrom_cons, List.map_cons, List.map_cons, ih]

@[simp] theorem steps_nil : steps [] = [] := by
  simp [steps, walk]

theorem steps_cons (op : UInt8) (s : Bytes) :
    steps (op :: s) = Step.read op s :: steps (Step.read op s).rest := by
  rw [steps, walk, walkFrom_cons, List.map_cons, map_snd_walkFrom]

/-! ## Strict parsing -/

theorem ofSteps_acc (acc : List Chunk) (located : List (Nat × Step)) :
    Chunk.ofSteps acc located = (Chunk.ofSteps [] located).map (acc.reverse ++ ·) := by
  induction located generalizing acc with
  | nil => simp [Chunk.ofSteps, Except.map]
  | cons l located ih =>
    obtain ⟨offset, step⟩ := l
    simp only [Chunk.ofSteps]
    cases step.cut with
    | some cut => rfl
    | none =>
      dsimp only
      rw [ih, ih [step.chunk]]
      cases Chunk.ofSteps [] located <;> simp [Except.map]

theorem ofSteps_eq_ok_iff {located : List (Nat × Step)} {chunks : List Chunk} :
    Chunk.ofSteps [] located = .ok chunks ↔
      (∀ l ∈ located, l.2.cut = none) ∧ chunks = located.map (·.2.chunk) := by
  induction located generalizing chunks with
  | nil => simp [Chunk.ofSteps, eq_comm]
  | cons l located ih =>
    obtain ⟨offset, step⟩ := l
    simp only [Chunk.ofSteps]
    cases hcut : step.cut with
    | some cut => simp [hcut]
    | none =>
      dsimp only
      rw [ofSteps_acc]
      cases hrest : Chunk.ofSteps [] located with
      | error e =>
        constructor
        · intro h
          exact nomatch h
        · rintro ⟨hall, -⟩
          have hok := ih.mpr ⟨fun l hl => hall l (List.mem_cons_of_mem _ hl), rfl⟩
          exact nomatch hrest.symm.trans hok
      | ok rest =>
        obtain ⟨hall, rfl⟩ := ih.mp hrest
        simpa [Except.map, hcut, eq_comm] using fun _ => hall

theorem ofSteps_walkFrom (offset : Nat) (s : Bytes) :
    Chunk.ofSteps [] (walkFrom offset [] s) = Chunk.parseAll s := by
  suffices h : ∀ a b, Chunk.ofSteps [] (walkFrom a [] s) = Chunk.ofSteps [] (walkFrom b [] s) from
    h offset 0
  induction s using stepInduction with
  | nil => simp
  | cons op s ih =>
    intro a b
    simp only [walkFrom_cons, Chunk.ofSteps]
    cases (Step.read op s).cut with
    | some cut => rfl
    | none =>
      dsimp only
      rw [ofSteps_acc, ih _ (b + (Step.read op s).size), ← ofSteps_acc]

@[simp] theorem parseAll_nil : Chunk.parseAll [] = .ok [] := by
  simp [Chunk.parseAll, walk, Chunk.ofSteps]

theorem parseAll_cons {op : UInt8} {s : Bytes} (h : (Step.read op s).cut = none) :
    Chunk.parseAll (op :: s) =
      (Chunk.parseAll (Step.read op s).rest).map ((Step.read op s).chunk :: ·) := by
  rw [Chunk.parseAll, walk, walkFrom_cons]
  simp only [Chunk.ofSteps, h]
  rw [ofSteps_acc, ofSteps_walkFrom]
  rfl

/-- A script parses strictly if none of its steps is cut short, into their chunks. -/
theorem parseAll_eq_ok_iff {s : Bytes} {chunks : List Chunk} :
    Chunk.parseAll s = .ok chunks ↔
      (∀ step ∈ steps s, step.cut = none) ∧ chunks = (steps s).map (·.chunk) := by
  rw [Chunk.parseAll, ofSteps_eq_ok_iff, steps, List.map_map]
  simp only [List.forall_mem_map]
  rfl

theorem parseAll_cons_iff {op : UInt8} {s : Bytes} {chunks : List Chunk} :
    Chunk.parseAll (op :: s) = .ok chunks ↔ (Step.read op s).cut = none ∧
      ∃ rest, Chunk.parseAll (Step.read op s).rest = .ok rest ∧
        chunks = (Step.read op s).chunk :: rest := by
  simp only [parseAll_eq_ok_iff, steps_cons, List.forall_mem_cons, List.map_cons, and_assoc,
    exists_and_left, exists_eq_left]

theorem parseAll_eq_nil_iff {s : Bytes} : Chunk.parseAll s = .ok [] ↔ s = [] := by
  constructor
  · intro h
    cases s with
    | nil => rfl
    | cons op s =>
      obtain ⟨-, rest, -, hcons⟩ := parseAll_cons_iff.mp h
      cases hcons
  · rintro rfl
    exact parseAll_eq_ok_iff.mpr (by simp)

/-- The script parses strictly. -/
def Whole (script : Bytes) : Prop := ∃ chunks, Chunk.parseAll script = .ok chunks

theorem whole_iff {s : Bytes} : Whole s ↔ ∀ step ∈ steps s, step.cut = none := by
  simp [Whole, parseAll_eq_ok_iff]

theorem whole_cons_iff {op : UInt8} {s : Bytes} :
    Whole (op :: s) ↔ (Step.read op s).cut = none ∧ Whole (Step.read op s).rest := by
  simp [whole_iff, steps_cons]

/-! ## Scripts in a row -/

/-- The step, in a script that goes on with `t`. -/
def Step.extend (step : Step) (t : Bytes) : Step := { step with rest := step.rest ++ t }

/-- The walk goes through a whole script as if nothing followed, and then through what follows. -/
theorem walkFrom_append {a : Bytes} (h : Whole a) (offset : Nat) (b : Bytes) :
    walkFrom offset [] (a ++ b) =
      (walkFrom offset [] a).map (fun l => (l.1, l.2.extend b)) ++
        walkFrom (offset + a.length) [] b := by
  induction a using stepInduction generalizing offset with
  | nil => simp
  | cons op s ih =>
    obtain ⟨hcut, hrest⟩ := whole_cons_iff.mp h
    have hend : offset + (Step.read op s).size + (Step.read op s).rest.length =
        offset + (op :: s).length := by
      rw [List.length_cons, ← Step.size_add_rest op s, Nat.add_assoc]
    rw [List.cons_append, walkFrom_cons, walkFrom_cons, Step.read_append hcut]
    dsimp only
    rw [ih hrest, hend]
    rfl

theorem parseAll_append {a : Bytes} {as : List Chunk} (h : Chunk.parseAll a = .ok as)
    (b : Bytes) : Chunk.parseAll (a ++ b) = (Chunk.parseAll b).map (as ++ ·) := by
  induction a using stepInduction generalizing as with
  | nil =>
    obtain rfl : [] = as := Except.ok.inj (parseAll_nil.symm.trans h)
    rw [List.nil_append]
    cases Chunk.parseAll b <;> rfl
  | cons op s ih =>
    obtain ⟨hcut, rest, hrest, rfl⟩ := parseAll_cons_iff.mp h
    have happend := Step.read_append hcut b
    have hcut' : (Step.read op (s ++ b)).cut = none := by rw [happend, hcut]
    rw [List.cons_append, parseAll_cons hcut', happend, ih hrest]
    cases Chunk.parseAll b <;> rfl

theorem parseAll_append_iff {a b : Bytes} {as chunks : List Chunk}
    (h : Chunk.parseAll a = .ok as) :
    Chunk.parseAll (a ++ b) = .ok chunks ↔
      ∃ bs, Chunk.parseAll b = .ok bs ∧ chunks = as ++ bs := by
  rw [parseAll_append h]
  cases Chunk.parseAll b <;> simp [Except.map, eq_comm]

theorem Whole.append {a b : Bytes} (ha : Whole a) (hb : Whole b) : Whole (a ++ b) := by
  obtain ⟨as, ha⟩ := ha
  obtain ⟨bs, hb⟩ := hb
  exact ⟨as ++ bs, (parseAll_append_iff ha).mpr ⟨bs, hb, rfl⟩⟩

theorem exists_of_walkFrom_eq {offset p : Nat} {s : Bytes} {step : Step}
    {before after : List (Nat × Step)}
    (h : walkFrom offset [] s = before ++ (p, step) :: after) :
    ∃ a op t, s = a ++ op :: t ∧ p = offset + a.length ∧ step = Step.read op t ∧
      Chunk.parseAll a = .ok (before.map (·.2.chunk)) ∧
      after = walkFrom (p + step.size) [] step.rest := by
  induction before generalizing offset s with
  | nil =>
    cases s with
    | nil => simp at h
    | cons op t =>
      rw [walkFrom_cons, List.nil_append, List.cons.injEq, Prod.mk.injEq] at h
      obtain ⟨⟨rfl, rfl⟩, rfl⟩ := h
      exact ⟨[], op, t, rfl, rfl, rfl, parseAll_eq_ok_iff.mpr (by simp), rfl⟩
  | cons l before ih =>
    cases s with
    | nil => simp at h
    | cons op₀ s =>
      rw [walkFrom_cons, List.cons_append, List.cons.injEq] at h
      obtain ⟨rfl, h⟩ := h
      obtain ⟨a, op, t, hrest, rfl, hstep, hparse, hafter⟩ := ih h
      -- A step follows, so the first one is not cut short.
      have hcut : (Step.read op₀ s).cut = none := by
        by_contra hne
        have hnil := Step.rest_of_cut hne
        rw [hrest] at hnil
        simp at hnil
      obtain ⟨body, hs, hsize, hread⟩ := Step.read_frame hcut
      refine ⟨op₀ :: (body ++ a), op, t, ?_, ?_, hstep, ?_, hafter⟩
      · rw [List.cons_append, List.append_assoc, ← hrest, ← hs]
      · rw [hsize, ← List.cons_append, List.length_append, Nat.add_assoc]
      · rw [parseAll_cons_iff, hread]
        exact ⟨hcut, _, hparse, rfl⟩

/-! ## Clear scripts -/

/-- No chunk of the lenient walk passes the test. -/
def Unmet (test : Chunk → Bool) (script : Bytes) : Prop :=
  ∀ located ∈ walk script, test located.2.chunk = false

/-- The script parses strictly, and no chunk of it passes the test. -/
def Clear (test : Chunk → Bool) (script : Bytes) : Prop :=
  ∃ chunks, Chunk.parseAll script = .ok chunks ∧ ∀ chunk ∈ chunks, test chunk = false

variable {test : Chunk → Bool}

theorem unmet_iff {s : Bytes} : Unmet test s ↔ ∀ step ∈ steps s, test step.chunk = false := by
  simp only [Unmet, steps, List.forall_mem_map]

theorem clear_iff {s : Bytes} : Clear test s ↔ Whole s ∧ Unmet test s := by
  constructor
  · rintro ⟨chunks, hparse, hnone⟩
    obtain ⟨-, rfl⟩ := parseAll_eq_ok_iff.mp hparse
    exact ⟨⟨_, hparse⟩, unmet_iff.mpr (List.forall_mem_map.mp hnone)⟩
  · rintro ⟨⟨chunks, hparse⟩, hnone⟩
    obtain ⟨-, rfl⟩ := parseAll_eq_ok_iff.mp hparse
    exact ⟨_, hparse, List.forall_mem_map.mpr (unmet_iff.mp hnone)⟩

theorem Clear.whole {s : Bytes} (h : Clear test s) : Whole s := (clear_iff.mp h).1

theorem Clear.unmet {s : Bytes} (h : Clear test s) : Unmet test s := (clear_iff.mp h).2

theorem Clear.nil : Clear test [] := ⟨[], parseAll_eq_ok_iff.mpr (by simp), by simp⟩

theorem Clear.cons {op : UInt8} {s : Bytes} (hcut : (Step.read op s).cut = none)
    (htest : test (Step.read op s).chunk = false) (h : Clear test (Step.read op s).rest) :
    Clear test (op :: s) := by
  obtain ⟨chunks, hparse, hchunks⟩ := h
  exact ⟨_, parseAll_cons_iff.mpr ⟨hcut, chunks, hparse, rfl⟩,
    List.forall_mem_cons.mpr ⟨htest, hchunks⟩⟩

theorem Clear.mono {test' : Chunk → Bool} {s : Bytes} (h : Clear test s)
    (himp : ∀ chunk, test' chunk = true → test chunk = true) : Clear test' s := by
  obtain ⟨chunks, hparse, hnone⟩ := h
  refine ⟨chunks, hparse, fun chunk hmem => ?_⟩
  by_contra htest
  have := himp chunk (Bool.not_eq_false _ ▸ htest)
  rw [hnone chunk hmem] at this
  exact nomatch this

/-! ## Searching -/

theorem seekFrom_eq (offset : Nat) (s : Bytes) :
    seekFrom test offset s =
      ((walkFrom offset [] s).find? fun located => test located.2.chunk).map Prod.fst := by
  induction s using stepInduction generalizing offset with
  | nil => simp [seekFrom]
  | cons op s ih =>
    rw [seekFrom, walkFrom_cons]
    by_cases htest : test (Step.read op s).chunk = true
    · simp [htest]
    · simp [htest, ih]

theorem seekFrom_eq_none_iff {offset : Nat} {s : Bytes} :
    seekFrom test offset s = none ↔ Unmet test s := by
  rw [unmet_iff, ← map_snd_walkFrom offset s, List.forall_mem_map, seekFrom_eq,
    Option.map_eq_none_iff, List.find?_eq_none]
  simp only [Bool.not_eq_true]

theorem seekFrom_append {a : Bytes} (h : Clear test a) (offset : Nat) (b : Bytes) :
    seekFrom test offset (a ++ b) = seekFrom test (offset + a.length) b := by
  have hnone : (walkFrom offset [] a).find? (fun l => test (l.2.extend b).chunk) = none := by
    have : seekFrom test offset a = none := seekFrom_eq_none_iff.mpr h.unmet
    rwa [seekFrom_eq, Option.map_eq_none_iff] at this
  rw [seekFrom_eq, seekFrom_eq, walkFrom_append h.whole, List.find?_append, List.find?_map]
  simp only [Function.comp_def, hnone]
  rfl

/-- A search stops at a chunk that passes, with a clear script before it. -/
theorem exists_of_seekFrom_eq_some {offset p : Nat} {s : Bytes}
    (h : seekFrom test offset s = some p) :
    ∃ a op t, s = a ++ op :: t ∧ p = offset + a.length ∧ Clear test a ∧
      test (Step.read op t).chunk = true := by
  rw [seekFrom_eq, Option.map_eq_some_iff] at h
  obtain ⟨⟨q, step⟩, hfind, rfl⟩ := h
  obtain ⟨htest, before, after, hwalk, hbefore⟩ := List.find?_eq_some_iff_append.mp hfind
  obtain ⟨a, op, t, hs, hp, rfl, hparse, -⟩ := exists_of_walkFrom_eq hwalk
  refine ⟨a, op, t, hs, hp, ⟨_, hparse, ?_⟩, htest⟩
  rw [List.forall_mem_map]
  exact fun l hl => by simpa using hbefore l hl

end OpReturn
